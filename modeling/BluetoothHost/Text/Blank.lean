/-!
# `Text.Blank` — white space and trimming

White space is the Unicode property `White_Space`: twenty-five characters, ten of them ASCII or
Latin-1. Trimming removes it at both ends of a text and nowhere else.

## Contents
- `isBlank`: the twenty-five characters.
- `trim`, with `trim_of_ends`: a text with no blank at either end is left alone.
-/

namespace BluetoothHost.Text

/-- Membership in the Unicode property `White_Space`. -/
def isBlank (c : Char) : Bool :=
  let n := c.toNat
  (0x9 ≤ n && n ≤ 0xd) || n == 0x20 || n == 0x85 || n == 0xa0 || n == 0x1680 ||
    (0x2000 ≤ n && n ≤ 0x200a) || n == 0x2028 || n == 0x2029 || n == 0x202f || n == 0x205f ||
    n == 0x3000

/-- The text without the blanks it begins with. -/
def trimStart (cs : List Char) : List Char := cs.dropWhile isBlank

/-- The text without the blanks it ends with. -/
def trimEnd (cs : List Char) : List Char := (cs.reverse.dropWhile isBlank).reverse

/-- The text without the blanks at either end. -/
def trim (cs : List Char) : List Char := trimEnd (trimStart cs)

/-! ## Trimming keeps what is not blank -/

/-- A text that begins with no blank keeps its beginning. -/
theorem trimStart_of_head {cs : List Char} (h : ∀ c ∈ cs.head?, isBlank c = false) :
    trimStart cs = cs := by
  cases cs with
  | nil => rfl
  | cons c rest => simp [trimStart, h c (by simp)]

/-- A text that ends with no blank keeps its end. -/
theorem trimEnd_of_last {cs : List Char} (h : ∀ c ∈ cs.getLast?, isBlank c = false) :
    trimEnd cs = cs := by
  have : trimStart cs.reverse = cs.reverse :=
    trimStart_of_head (by simpa [List.head?_reverse] using h)
  simpa [trimStart, trimEnd] using congrArg List.reverse this

/-- A text with no blank at either end is left alone. -/
theorem trim_of_ends {cs : List Char} (first : ∀ c ∈ cs.head?, isBlank c = false)
    (last : ∀ c ∈ cs.getLast?, isBlank c = false) : trim cs = cs := by
  rw [trim, trimStart_of_head first, trimEnd_of_last last]

end BluetoothHost.Text
