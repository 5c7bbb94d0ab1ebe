/-!
# `Text.Fields` — texts made of fields between separators

A text with `n` separators has `n + 1` fields, any of which may be empty.

## Contents
- `fields` cuts a text at every separator; `join` puts a separator between fields.
- `join_fields`: cutting loses nothing; `fields_join`: fields without a separator come back.
-/

namespace BluetoothHost.Text

/-- The parts of a text between separators. -/
def fields (separator : Char) : List Char → List (List Char)
  | [] => [[]]
  | c :: rest =>
    if c = separator then [] :: fields separator rest
    else match fields separator rest with
      | [] => [[c]]
      | field :: others => (c :: field) :: others

/-- The text with these fields. -/
def join (separator : Char) : List (List Char) → List Char
  | [] => []
  | [field] => field
  | field :: others => field ++ separator :: join separator others

theorem fields_ne_nil (separator : Char) (cs : List Char) : fields separator cs ≠ [] := by
  cases cs with
  | nil => simp [fields]
  | cons c rest =>
    unfold fields
    split
    · simp
    · split <;> simp

theorem join_cons_cons (separator : Char) (c : Char) (field : List Char)
    (others : List (List Char)) :
    join separator ((c :: field) :: others) = c :: join separator (field :: others) := by
  cases others <;> rfl

theorem join_nil_cons {separator : Char} {others : List (List Char)} (h : others ≠ []) :
    join separator ([] :: others) = separator :: join separator others := by
  cases others with
  | nil => exact absurd rfl h
  | cons => rfl

/-- Cutting a text at its separators loses nothing else. -/
theorem join_fields (separator : Char) (cs : List Char) :
    join separator (fields separator cs) = cs := by
  induction cs with
  | nil => rfl
  | cons c rest ih =>
    by_cases h : c = separator
    · rw [fields, if_pos h, join_nil_cons (fields_ne_nil _ _), ih, h]
    · rw [fields, if_neg h]
      cases e : fields separator rest with
      | nil => exact absurd e (fields_ne_nil _ _)
      | cons field others =>
        rw [e] at ih
        simp only [join_cons_cons, ih]

/-- What is in joined fields is the separator, or in one of the fields. -/
theorem mem_join {separator c : Char} {parts : List (List Char)}
    (hc : c ∈ join separator parts) : c = separator ∨ ∃ part ∈ parts, c ∈ part := by
  induction parts with
  | nil => exact absurd hc List.not_mem_nil
  | cons part others ih =>
    cases others with
    | nil => exact .inr ⟨part, List.mem_cons_self, hc⟩
    | cons next rest =>
      rcases List.mem_append.mp hc with hpart | hrest
      · exact .inr ⟨part, List.mem_cons_self, hpart⟩
      · rcases List.mem_cons.mp hrest with hseparator | hlater
        · exact .inl hseparator
        · obtain hseparator | ⟨other, hother, hmem⟩ := ih hlater
          · exact .inl hseparator
          · exact .inr ⟨other, List.mem_cons_of_mem part hother, hmem⟩

/-- A text without a separator is its own only field. -/
theorem fields_of_notMem {separator : Char} {cs : List Char} (h : separator ∉ cs) :
    fields separator cs = [cs] := by
  induction cs with
  | nil => rfl
  | cons c rest ih =>
    simp only [List.mem_cons, not_or] at h
    rw [fields, if_neg (Ne.symm h.1), ih h.2]

theorem fields_append_cons {separator : Char} {field : List Char} (h : separator ∉ field)
    (rest : List Char) :
    fields separator (field ++ separator :: rest) = field :: fields separator rest := by
  induction field with
  | nil => simp [fields]
  | cons c field ih =>
    simp only [List.mem_cons, not_or] at h
    rw [List.cons_append, fields, if_neg (Ne.symm h.1), ih h.2]

/-- Fields without a separator are found again between the separators. -/
theorem fields_join {separator : Char} {parts : List (List Char)} (ne : parts ≠ [])
    (h : ∀ part ∈ parts, separator ∉ part) : fields separator (join separator parts) = parts := by
  induction parts with
  | nil => exact absurd rfl ne
  | cons part others ih =>
    cases others with
    | nil => exact fields_of_notMem (h part (by simp))
    | cons next others =>
      rw [join, fields_append_cons (h part (by simp)),
        ih (by simp) fun p hp => h p (List.mem_cons_of_mem _ hp)]
      simp

end BluetoothHost.Text
