/-!
# `Coded` — enumerations with codes and names

The values of most enumerations here travel as integers and are shown by a name. A code that names
no value either is refused (`ofCode?`) or stands for a value of its own, which each such
enumeration chooses (`Status.ofCode` and its like).

## Contents
- `Coded`: the values of an enumeration, their codes and their names.
- `ofCode?`, with `code_of_ofCode?` and `ofCode?_code`.
- `compareCodes`: the order of two values.
-/

namespace BluetoothHost

/-- An enumeration whose values have an integer code and a name. -/
class Coded (α : Type) where
  /-- Every value, in the order of its declaration. -/
  values : List α
  code : α → Int
  name : α → String

namespace Coded

variable {α : Type} [Coded α]

/-- The value of a code, if there is one. -/
def ofCode? (n : Int) : Option α := values.find? fun a => code a == n

theorem code_of_ofCode? {n : Int} {a : α} (h : ofCode? n = some a) : code a = n := by
  simpa using List.find?_some h

/-- If no two values share a code, every listed value is found by its own. -/
theorem ofCode?_code (distinct : ∀ a ∈ (values : List α), ∀ b ∈ (values : List α),
    code a = code b → a = b) {a : α} (h : a ∈ values) : ofCode? (code a) = some a := by
  cases e : (ofCode? (code a) : Option α) with
  | none =>
    have := List.find?_eq_none.1 e a h
    simp at this
  | some b =>
    exact congrArg some (distinct b (List.mem_of_find?_eq_some e) a h (code_of_ofCode? e))

/-- Values come in the order of their codes. -/
def compareCodes (a b : α) : Ordering := compare (code a) (code b)

end Coded

end BluetoothHost
