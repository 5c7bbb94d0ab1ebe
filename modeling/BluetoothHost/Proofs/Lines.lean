import BluetoothHost.Settings.Grammar

/-!
# `Proofs.Lines` — what the lines of a settings file say

A line is read by trimming it, cutting its comment off, trimming what is left, and looking for brackets and
delimiters in that. What comes of these steps together is set out without them: what counts of a line
(`Counts`), the forms that this may have (`Form`), and the forms that are malformed (`Misform`). It has one of
the two (`form_or_misform`), and the reader tells which (`read_eq_ok_iff`).

The entries of some lines are said in the same way (`Lists`): each stands in the section that the last header
in front of it opens. Lines are read as the entries that they list (`readLines_of_lists`), and they list some
unless one of them is malformed (`exists_lists_iff`).

## Contents
- `Text.span_iff`: where a text is cut; `Text.Blank`, `Text.Trimmed`, `Text.Padded`, with `trim_eq_iff`.
- `Counts`, with `significant_eq_iff`.
- `Form`, `Misform`, with `form_or_misform`; `Says` and `Malformed`, with `read_eq_ok_iff`.
- `Lists`, with `readLines_of_lists`, `readLines_of_malformed` and `exists_lists_iff`.
-/

namespace BluetoothHost

/-! ## Trimming -/

namespace Text

/-- A text is cut in front of its first character that fails a test. -/
theorem span_iff {p : Char → Bool} {cs front rest : List Char} :
    cs.takeWhile p = front ∧ cs.dropWhile p = rest ↔
      cs = front ++ rest ∧ (∀ c ∈ front, p c = true) ∧ ∀ c ∈ rest.head?, p c = false := by
  constructor
  · rintro ⟨rfl, rfl⟩
    refine ⟨List.takeWhile_append_dropWhile.symm, List.all_eq_true.1 List.all_takeWhile, ?_⟩
    intro c hc
    have hhead := List.head?_dropWhile_not p cs
    rwa [Option.mem_def.1 hc] at hhead
  · rintro ⟨rfl, hfront, hrest⟩
    have hcut : rest.takeWhile p = [] ∧ rest.dropWhile p = rest := by
      cases rest with
      | nil => exact ⟨rfl, rfl⟩
      | cons c rest =>
        have hc : ¬ p c = true := Bool.eq_false_iff.1 (hrest c rfl)
        exact ⟨List.takeWhile_cons_of_neg hc, List.dropWhile_cons_of_neg hc⟩
    rw [List.takeWhile_append_of_pos hfront, List.dropWhile_append_of_pos hfront, hcut.1, hcut.2]
    exact ⟨List.append_nil front, rfl⟩

theorem forall_bne_iff {x : Char} {cs : List Char} : (∀ c ∈ cs, (c != x) = true) ↔ x ∉ cs := by
  simp only [bne_iff_ne, ne_eq, List.forall_mem_ne']

/-- White space and nothing else. -/
def Blank (cs : List Char) : Prop := ∀ c ∈ cs, isBlank c = true

/-- No white space at either end. -/
structure Trimmed (cs : List Char) : Prop where
  first : ∀ c ∈ cs.head?, isBlank c = false
  last : ∀ c ∈ cs.getLast?, isBlank c = false

instance Blank.decidable (cs : List Char) : Decidable (Blank cs) := List.decidableBAll _ _

-- the ends are looked at and no others: a search for an instance may end in one that tries every character
instance Trimmed.decidable (cs : List Char) : Decidable (Trimmed cs) :=
  have : Decidable (∀ c ∈ cs.head?, isBlank c = false) := Option.decidableForallMem _
  have : Decidable (∀ c ∈ cs.getLast?, isBlank c = false) := Option.decidableForallMem _
  decidable_of_iff ((∀ c ∈ cs.head?, isBlank c = false) ∧ ∀ c ∈ cs.getLast?, isBlank c = false)
    ⟨fun ⟨hfirst, hlast⟩ => ⟨hfirst, hlast⟩, fun ⟨hfirst, hlast⟩ => ⟨hfirst, hlast⟩⟩

/-- A text with white space around it. -/
def Padded (cs body : List Char) : Prop :=
  Trimmed body ∧ ∃ before after, Blank before ∧ Blank after ∧ cs = before ++ body ++ after

theorem Blank.append {before after : List Char} (hbefore : Blank before) (hafter : Blank after) :
    Blank (before ++ after) := by
  intro c hc
  exact (List.mem_append.1 hc).elim (hbefore c) (hafter c)

/-- A character that is no white space is in no blank text. -/
theorem Blank.notMem {cs : List Char} {c : Char} (h : Blank cs) (hc : isBlank c = false) : c ∉ cs := by
  intro hmem
  rw [h c hmem] at hc
  exact absurd hc nofun

theorem blank_nil : Blank [] := nofun

theorem trimmed_nil : Trimmed [] := ⟨nofun, nofun⟩

theorem padded_of_trimmed {cs : List Char} (h : Trimmed cs) : Padded cs cs :=
  ⟨h, [], [], blank_nil, blank_nil, (List.append_nil cs).symm⟩

theorem padded_nil_iff {cs : List Char} : Padded cs [] ↔ Blank cs := by
  constructor
  · rintro ⟨-, before, after, hbefore, hafter, rfl⟩
    rw [List.append_nil]
    exact hbefore.append hafter
  · exact fun h => ⟨trimmed_nil, cs, [], h, blank_nil, by rw [List.append_nil, List.append_nil]⟩

theorem trimStart_append {before : List Char} (h : Blank before) (cs : List Char) :
    trimStart (before ++ cs) = trimStart cs :=
  List.dropWhile_append_of_pos h

theorem trimEnd_append (cs : List Char) {after : List Char} (h : Blank after) :
    trimEnd (cs ++ after) = trimEnd cs := by
  unfold trimEnd
  rw [List.reverse_append, List.dropWhile_append_of_pos fun c hc => h c (List.mem_reverse.1 hc)]

/-- Trimming takes no account of white space around a text. -/
theorem trim_append {before after : List Char} (hbefore : Blank before) (cs : List Char)
    (hafter : Blank after) : trim (before ++ cs ++ after) = trim cs := by
  have hdrop : after.dropWhile isBlank = [] :=
    (span_iff.2 ⟨(List.append_nil after).symm, hafter, nofun⟩).2
  rw [trim, List.append_assoc, trimStart_append hbefore, trimStart, List.dropWhile_append]
  split
  · -- all of the text is blank, so nothing is left of it either way
    rename_i hempty
    rw [trim, trimStart, List.isEmpty_iff.1 hempty, hdrop]
  · rw [trimEnd_append _ hafter]
    rfl

/-- What is trimmed off is white space. -/
theorem padded_trim (cs : List Char) : Padded cs (trim cs) := by
  have hstart : cs.takeWhile isBlank = cs.takeWhile isBlank ∧ cs.dropWhile isBlank = trimStart cs := ⟨rfl, rfl⟩
  obtain ⟨hcs, hbefore, hfirst⟩ := span_iff.1 hstart
  obtain ⟨hend, hafter, hlast⟩ :=
    span_iff.1 (⟨rfl, rfl⟩ : (trimStart cs).reverse.takeWhile isBlank = _ ∧ _ = _)
  have hsplit : trimStart cs = trim cs ++ ((trimStart cs).reverse.takeWhile isBlank).reverse := by
    rw [trim, trimEnd, ← List.reverse_append, ← hend, List.reverse_reverse]
  refine ⟨⟨fun c hc => ?_, fun c hc => ?_⟩, _, _, hbefore, fun c hc => hafter c (List.mem_reverse.1 hc), ?_⟩
  · refine hfirst c ?_
    rw [hsplit, List.head?_append, Option.mem_def.1 hc]
    rfl
  · refine hlast c ?_
    rwa [trim, trimEnd, List.getLast?_reverse] at hc
  · rw [List.append_assoc, ← hsplit]
    exact hcs

/-- **What is left of a text is what the white space around it surrounds.** -/
theorem trim_eq_iff {cs body : List Char} : trim cs = body ↔ Padded cs body := by
  constructor
  · rintro rfl
    exact padded_trim cs
  · rintro ⟨htrimmed, before, after, hbefore, hafter, rfl⟩
    rw [trim_append hbefore body hafter, trim_of_ends htrimmed.first htrimmed.last]

theorem Trimmed.trim_eq {cs : List Char} (h : Trimmed cs) : trim cs = cs := trim_eq_iff.2 (padded_of_trimmed h)

end Text

namespace Settings

/-! ## What counts of a line -/

/-- What counts of a line: the text up to its first number sign, without the white space around it. -/
def Counts (line body : List Char) : Prop :=
  ∃ text, '#' ∉ text ∧ (line = text ∨ ∃ comment, line = text ++ '#' :: comment) ∧ Text.Padded text body

theorem takeWhile_ne_hash_eq_iff {line text : List Char} :
    line.takeWhile (· != '#') = text ↔
      '#' ∉ text ∧ (line = text ∨ ∃ comment, line = text ++ '#' :: comment) := by
  constructor
  · intro htext
    obtain ⟨hline, hfront, hrest⟩ := Text.span_iff.1 ⟨htext, rfl⟩
    refine ⟨Text.forall_bne_iff.1 hfront, ?_⟩
    generalize line.dropWhile (· != '#') = rest at hline hrest
    cases rest with
    | nil => exact .inl (hline.trans (List.append_nil text))
    | cons c comment =>
      obtain rfl : c = '#' := by simpa using hrest c rfl
      exact .inr ⟨comment, hline⟩
  · rintro ⟨htext, rfl | ⟨comment, rfl⟩⟩
    · exact (Text.span_iff.2 ⟨(List.append_nil line).symm, Text.forall_bne_iff.2 htext, nofun⟩).1
    · refine (Text.span_iff.2 ⟨rfl, Text.forall_bne_iff.2 htext, ?_⟩).1
      rintro c ⟨⟩
      decide

/-- That a line is trimmed before its comment is cut off makes no difference. -/
theorem significant_eq (line : List Char) : significant line = Text.trim (line.takeWhile (· != '#')) := by
  obtain ⟨-, before, after, hbefore, hafter, hline⟩ := Text.padded_trim line
  have hpass : ∀ pad : List Char, Text.Blank pad → ∀ c ∈ pad, (c != '#') = true := by
    intro pad hpad
    exact Text.forall_bne_iff.2 (hpad.notMem (by decide))
  have hall : after.takeWhile (· != '#') = after :=
    (Text.span_iff.2 ⟨(List.append_nil after).symm, hpass after hafter, nofun⟩).1
  rw [significant]
  generalize Text.trim line = core at hline
  rw [hline, List.append_assoc, List.takeWhile_append_of_pos (hpass before hbefore), List.takeWhile_append, hall]
  split
  · -- there is no comment in what is trimmed, nor in the white space behind it
    rename_i hlength
    rw [(List.takeWhile_prefix _).eq_of_length hlength, ← List.append_assoc, Text.trim_append hbefore core hafter]
  · have := Text.trim_append hbefore (core.takeWhile (· != '#')) Text.blank_nil
    rw [List.append_nil] at this
    exact this.symm

/-- **What counts of a line** is what the reader goes by. -/
theorem significant_eq_iff {line body : List Char} : significant line = body ↔ Counts line body := by
  rw [significant_eq, Text.trim_eq_iff]
  constructor
  · intro h
    obtain ⟨hnone, hline⟩ := takeWhile_ne_hash_eq_iff.1 (rfl : line.takeWhile (· != '#') = _)
    exact ⟨_, hnone, hline, h⟩
  · rintro ⟨text, hnone, hline, h⟩
    rwa [takeWhile_ne_hash_eq_iff.2 ⟨hnone, hline⟩]

/-! ## The forms of a line -/

/-- Neither of the characters that stand between a key and its value. -/
def Undelimited (cs : List Char) : Prop := '=' ∉ cs ∧ ':' ∉ cs

instance Undelimited.decidable (cs : List Char) : Decidable (Undelimited cs) := inferInstanceAs (Decidable (_ ∧ _))

/-- What counts of a line has a form, and then says this. The name in a header ends at the last closing bracket,
    and a key at the first delimiter. -/
inductive Form : List Char → Line → Prop
  | blank : Form [] .blank
  | header {inside rest name : List Char} (hname : Text.Padded inside name) (hlast : ']' ∉ rest) :
      Form ('[' :: (inside ++ ']' :: rest)) (.header name)
  | bare {key : List Char} (hne : key ≠ []) (hopen : key.head? ≠ some '[') (hkey : Undelimited key) :
      Form key (.entry key none)
  | pair {left right key value : List Char} {d : Char} (hopen : left.head? ≠ some '[') (hleft : Undelimited left)
      (hd : d = '=' ∨ d = ':') (hne : key ≠ []) (hkey : Text.Padded left key)
      (hvalue : Text.Padded right value) :
      Form (left ++ d :: right) (.entry key (some value))

/-- What counts of a line is malformed: a header is not closed, or there is no key in front of a delimiter. -/
inductive Misform : List Char → (Nat → Defect) → Prop
  | unclosed {rest : List Char} (h : ']' ∉ rest) : Misform ('[' :: rest) .unclosedHeader
  | keyless {left right : List Char} {d : Char} (hleft : Text.Blank left) (hd : d = '=' ∨ d = ':') :
      Misform (left ++ d :: right) .emptyKey

theorem isDelimiter_eq_true_iff {c : Char} : isDelimiter c = true ↔ c = '=' ∨ c = ':' := by
  rw [isDelimiter, Bool.or_eq_true, beq_iff_eq, beq_iff_eq]

/-- A delimiter does not open a header, so what stands in front of it tells whether there is one. -/
theorem head?_append_ne_opening {left right : List Char} {d : Char} (hleft : left.head? ≠ some '[')
    (hd : d = '=' ∨ d = ':') : (left ++ d :: right).head? ≠ some '[' := by
  cases left with
  | nil => rcases hd with rfl | rfl <;> exact nofun
  | cons c left => exact hleft

theorem undelimited_iff {cs : List Char} : Undelimited cs ↔ ∀ c ∈ cs, (!isDelimiter c) = true := by
  simp only [Bool.not_eq_true', Bool.eq_false_iff, ne_eq, isDelimiter_eq_true_iff, not_or]
  constructor
  · rintro ⟨hequals, hcolon⟩ c hc
    exact ⟨fun h => hequals (h ▸ hc), fun h => hcolon (h ▸ hc)⟩
  · exact fun h => ⟨fun hmem => (h _ hmem).1 rfl, fun hmem => (h _ hmem).2 rfl⟩

/-- A text without a delimiter is left as it is, and one with a delimiter is cut at the first. -/
theorem undelimited_or_exists_delimiter (cs : List Char) :
    Undelimited cs ∨ ∃ left d right, cs = left ++ d :: right ∧ Undelimited left ∧ (d = '=' ∨ d = ':') := by
  obtain ⟨hsplit, hleft, hrest⟩ :=
    Text.span_iff.1 (⟨rfl, rfl⟩ : cs.takeWhile (!isDelimiter ·) = _ ∧ _ = _)
  generalize cs.dropWhile (!isDelimiter ·) = rest at hsplit hrest
  cases rest with
  | nil =>
    rw [List.append_nil] at hsplit
    rw [← hsplit] at hleft
    exact .inl (undelimited_iff.2 hleft)
  | cons d right =>
    have hd : isDelimiter d = true := by simpa using hrest d rfl
    exact .inr ⟨_, d, right, hsplit, undelimited_iff.2 hleft, isDelimiter_eq_true_iff.1 hd⟩

/-- **What counts of a line has a form or is malformed.** -/
theorem form_or_misform (body : List Char) : (∃ said, Form body said) ∨ ∃ defect, Misform body defect := by
  match body with
  | [] => exact .inl ⟨_, .blank⟩
  | c :: rest =>
    by_cases hc : c = '['
    · subst hc
      by_cases hclosed : ']' ∈ rest
      · -- the last closing bracket is the first one from behind
        obtain ⟨after, inside, hsplit, hlast⟩ := List.eq_append_cons_of_mem (List.mem_reverse.2 hclosed)
        have hrest : rest = inside.reverse ++ ']' :: after.reverse := by
          rw [← List.reverse_reverse rest, hsplit, List.reverse_append, List.reverse_cons, List.append_assoc]
          rfl
        rw [hrest]
        exact .inl ⟨_, .header (Text.padded_trim _) fun h => hlast (List.mem_reverse.1 h)⟩
      · exact .inr ⟨_, .unclosed hclosed⟩
    · -- no header: an entry, unless there is a delimiter and nothing but white space in front of it
      have hopen : (c :: rest).head? ≠ some '[' := fun h => hc (Option.some.inj h)
      rcases undelimited_or_exists_delimiter (c :: rest) with hkey | ⟨left, d, right, hsplit, hleft, hd⟩
      · exact .inl ⟨_, .bare (List.cons_ne_nil c rest) hopen hkey⟩
      · rw [hsplit]
        by_cases hkey : Text.trim left = []
        · exact .inr ⟨_, .keyless (Text.padded_nil_iff.1 (Text.trim_eq_iff.1 hkey)) hd⟩
        · refine .inl ⟨_, .pair ?_ hleft hd hkey (Text.padded_trim left) (Text.padded_trim right)⟩
          rw [hsplit] at hopen
          intro hhead
          rw [List.head?_append, hhead] at hopen
          exact hopen rfl

/-! ## Reading a line -/

theorem headerName?_of_closed {inside rest : List Char} (h : ']' ∉ rest) :
    headerName? ('[' :: (inside ++ ']' :: rest)) = some (Text.trim inside) := by
  have hreverse : ('[' :: (inside ++ ']' :: rest)).reverse = rest.reverse ++ ']' :: (inside.reverse ++ ['[']) := by
    simp
  have hdrop : (rest.reverse ++ ']' :: (inside.reverse ++ ['['])).dropWhile (· != ']') =
      ']' :: (inside.reverse ++ ['[']) := by
    have hback : ∀ c ∈ rest.reverse, (c != ']') = true :=
      Text.forall_bne_iff.2 fun hmem => h (List.mem_reverse.1 hmem)
    refine (Text.span_iff.2 ⟨rfl, hback, ?_⟩).2
    rintro c ⟨⟩
    decide
  rw [headerName?, hreverse, hdrop]
  simp

theorem headerName?_of_notMem {cs : List Char} (h : ']' ∉ cs) : headerName? cs = none := by
  have hdrop : cs.reverse.dropWhile (· != ']') = [] := by
    have hback : ∀ c ∈ cs.reverse, (c != ']') = true :=
      Text.forall_bne_iff.2 fun hmem => h (List.mem_reverse.1 hmem)
    exact (Text.span_iff.2 ⟨(List.append_nil _).symm, hback, nofun⟩).2
  rw [headerName?, hdrop]

theorem readSignificant_of_closed (number : Nat) {inside rest : List Char} (h : ']' ∉ rest) :
    Line.readSignificant number ('[' :: (inside ++ ']' :: rest)) = .ok (.header (Text.trim inside)) := by
  rw [Line.readSignificant, headerName?_of_closed h]

theorem readSignificant_of_unclosed (number : Nat) {rest : List Char} (h : ']' ∉ rest) :
    Line.readSignificant number ('[' :: rest) = .error (.unclosedHeader number) := by
  have hnone : ']' ∉ '[' :: rest := by simpa using h
  rw [Line.readSignificant, headerName?_of_notMem hnone]

/-- What is no header and not blank is cut at its first delimiter. -/
theorem readSignificant_of_not_header (number : Nat) {body : List Char} (hne : body ≠ [])
    (hopen : body.head? ≠ some '[') :
    Line.readSignificant number body =
      match body.dropWhile (!isDelimiter ·) with
      | [] => .ok (.entry (Text.trim (body.takeWhile (!isDelimiter ·))) none)
      | _ :: value =>
        if (Text.trim (body.takeWhile (!isDelimiter ·))).isEmpty then .error (.emptyKey number)
        else .ok (.entry (Text.trim (body.takeWhile (!isDelimiter ·))) (some (Text.trim value))) := by
  unfold Line.readSignificant
  split
  · exact absurd rfl hne
  · exact absurd rfl hopen
  · rfl

theorem readSignificant_of_undelimited (number : Nat) {body : List Char} (hne : body ≠ [])
    (hopen : body.head? ≠ some '[') (h : Undelimited body) :
    Line.readSignificant number body = .ok (.entry (Text.trim body) none) := by
  obtain ⟨hkey, hrest⟩ := Text.span_iff.2 ⟨(List.append_nil body).symm, undelimited_iff.1 h, nofun⟩
  rw [readSignificant_of_not_header number hne hopen, hkey, hrest]

theorem readSignificant_of_delimited (number : Nat) {left right : List Char} {d : Char}
    (hopen : left.head? ≠ some '[') (hleft : Undelimited left) (hd : d = '=' ∨ d = ':') :
    Line.readSignificant number (left ++ d :: right) =
      if (Text.trim left).isEmpty then .error (.emptyKey number)
      else .ok (.entry (Text.trim left) (some (Text.trim right))) := by
  have hstop : ∀ c ∈ (d :: right).head?, (!isDelimiter c) = false := by
    rintro c ⟨⟩
    rw [isDelimiter_eq_true_iff.2 hd]
    rfl
  obtain ⟨hkey, hrest⟩ := Text.span_iff.2 ⟨rfl, undelimited_iff.1 hleft, hstop⟩
  rw [readSignificant_of_not_header number (by simp) (head?_append_ne_opening hopen hd), hkey, hrest]

theorem readSignificant_of_form (number : Nat) {body : List Char} {said : Line} (htrimmed : Text.Trimmed body)
    (h : Form body said) : Line.readSignificant number body = .ok said := by
  cases h with
  | blank => rfl
  | header hname hlast => rw [readSignificant_of_closed number hlast, Text.trim_eq_iff.2 hname]
  | bare hne hopen hkey => rw [readSignificant_of_undelimited number hne hopen hkey, htrimmed.trim_eq]
  | @pair left right key value d hopen hleft hd hne hkey hvalue =>
    rw [readSignificant_of_delimited number hopen hleft hd, Text.trim_eq_iff.2 hkey, Text.trim_eq_iff.2 hvalue,
      if_neg (by rwa [List.isEmpty_iff])]

theorem readSignificant_of_misform (number : Nat) {body : List Char} {defect : Nat → Defect}
    (h : Misform body defect) : Line.readSignificant number body = .error (defect number) := by
  cases h with
  | unclosed h => exact readSignificant_of_unclosed number h
  | @keyless left right d hleft hd =>
    have hopen : left.head? ≠ some '[' := fun h => hleft.notMem (by decide) (List.mem_of_mem_head? h)
    have hnone : Undelimited left := ⟨hleft.notMem (by decide), hleft.notMem (by decide)⟩
    rw [readSignificant_of_delimited number hopen hnone hd, Text.trim_eq_iff.2 (Text.padded_nil_iff.2 hleft)]
    rfl

/-- What a line says. -/
def Says (line : List Char) (said : Line) : Prop := ∃ body, Counts line body ∧ Form body said

/-- A line is malformed, and its defect is this once it has a number. -/
def Malformed (line : List Char) (defect : Nat → Defect) : Prop :=
  ∃ body, Counts line body ∧ Misform body defect

theorem Says.read_eq {line : List Char} {said : Line} (h : Says line said) (number : Nat) :
    Line.read number line = .ok said := by
  obtain ⟨body, hcounts, hform⟩ := h
  have htrimmed : Text.Trimmed body := by
    obtain ⟨text, -, -, hpadded⟩ := hcounts
    exact hpadded.1
  rw [Line.read, significant_eq_iff.2 hcounts, readSignificant_of_form number htrimmed hform]

theorem Malformed.read_eq {line : List Char} {defect : Nat → Defect} (h : Malformed line defect) (number : Nat) :
    Line.read number line = .error (defect number) := by
  obtain ⟨body, hcounts, hmisform⟩ := h
  rw [Line.read, significant_eq_iff.2 hcounts, readSignificant_of_misform number hmisform]

/-- **A line says something or is malformed.** -/
theorem says_or_malformed (line : List Char) : (∃ said, Says line said) ∨ ∃ defect, Malformed line defect := by
  have hcounts : Counts line (significant line) := significant_eq_iff.1 rfl
  rcases form_or_misform (significant line) with ⟨said, hform⟩ | ⟨defect, hmisform⟩
  · exact .inl ⟨said, _, hcounts, hform⟩
  · exact .inr ⟨defect, _, hcounts, hmisform⟩

/-- **A line is read as what it says.** -/
theorem read_eq_ok_iff {number : Nat} {line : List Char} {said : Line} :
    Line.read number line = .ok said ↔ Says line said := by
  constructor
  · intro hread
    -- the reader is followed in one direction only: a line that says nothing else has a defect
    rcases says_or_malformed line with ⟨other, hother⟩ | ⟨defect, hdefect⟩
    · rw [hother.read_eq number] at hread
      exact Except.ok.inj hread ▸ hother
    · rw [hdefect.read_eq number] at hread
      exact absurd hread nofun
  · exact fun h => h.read_eq number

/-- A line says one thing only. -/
theorem Says.unique {line : List Char} {said other : Line} (h : Says line said) (hother : Says line other) :
    said = other :=
  Except.ok.inj ((h.read_eq 0).symm.trans (hother.read_eq 0))

theorem Says.not_malformed {line : List Char} {said : Line} {defect : Nat → Defect} (h : Says line said) :
    ¬ Malformed line defect := by
  intro hdefect
  have hread := (h.read_eq 0).symm.trans (hdefect.read_eq 0)
  exact absurd hread nofun

/-! ## Reading all lines -/

/-- Lines list some entries, if this is the section that the first of them stands in. -/
inductive Lists : List Char → List (List Char) → List Entry → Prop
  | nil {current : List Char} : Lists current [] []
  | blank {current line : List Char} {lines : List (List Char)} {entries : List Entry} (h : Says line .blank)
      (rest : Lists current lines entries) : Lists current (line :: lines) entries
  | header {current line name : List Char} {lines : List (List Char)} {entries : List Entry}
      (h : Says line (.header name)) (rest : Lists name lines entries) : Lists current (line :: lines) entries
  | entry {current line key : List Char} {value? : Option (List Char)} {lines : List (List Char)}
      {entries : List Entry} (h : Says line (.entry key value?)) (rest : Lists current lines entries) :
      Lists current (line :: lines) (⟨current, key, value?⟩ :: entries)

theorem readLines_of_lists {current : List Char} {lines : List (List Char)} {entries : List Entry}
    (h : Lists current lines entries) (number : Nat) : readLines number current lines = .ok entries := by
  induction h generalizing number with
  | nil => rfl
  | blank h _ ih => simp only [readLines, h.read_eq, ih]
  | header h _ ih => simp only [readLines, h.read_eq, ih]
  | entry h _ ih => simp only [readLines, h.read_eq, ih]

/-- The first malformed line spoils all lines, whatever the ones before it say. -/
theorem readLines_of_malformed {line : List Char} {defect : Nat → Defect} (h : Malformed line defect)
    {before : List (List Char)} (hbefore : ∀ earlier ∈ before, ∃ said, Says earlier said)
    (after : List (List Char)) (number : Nat) (current : List Char) :
    readLines number current (before ++ line :: after) = .error (defect (number + before.length)) := by
  -- each line in front counts one on, and a header among them opens another section
  induction before generalizing number current with
  | nil => simp only [List.nil_append, readLines, h.read_eq, List.length_nil, Nat.add_zero]
  | cons first before ih =>
    obtain ⟨said, hsaid⟩ := hbefore first List.mem_cons_self
    have hearlier := fun earlier hmem => hbefore earlier (List.mem_cons_of_mem first hmem)
    have hrest := fun name => ih hearlier (number + 1) name
    have hplace : number + 1 + before.length = number + (first :: before).length := by
      rw [List.length_cons]
      omega
    rw [← hplace]
    cases said with
    | blank => simp only [List.cons_append, readLines, hsaid.read_eq, hrest]
    | header name => simp only [List.cons_append, readLines, hsaid.read_eq, hrest]
    | entry key value? => simp only [List.cons_append, readLines, hsaid.read_eq, hrest]

/-- **Lines list entries unless one of them is malformed.** -/
theorem exists_lists_iff {current : List Char} {lines : List (List Char)} :
    (∃ entries, Lists current lines entries) ↔ ∀ line ∈ lines, ∀ defect, ¬ Malformed line defect := by
  constructor
  · rintro ⟨entries, h⟩
    induction h with
    | nil => exact nofun
    | blank h _ ih => exact List.forall_mem_cons.2 ⟨fun defect => h.not_malformed, ih⟩
    | header h _ ih => exact List.forall_mem_cons.2 ⟨fun defect => h.not_malformed, ih⟩
    | entry h _ ih => exact List.forall_mem_cons.2 ⟨fun defect => h.not_malformed, ih⟩
  · intro h
    induction lines generalizing current with
    | nil => exact ⟨[], .nil⟩
    | cons line lines ih =>
      obtain ⟨hline, hlines⟩ := List.forall_mem_cons.1 h
      obtain ⟨said, hsaid⟩ :=
        (says_or_malformed line).resolve_right fun ⟨defect, hdefect⟩ => hline defect hdefect
      cases said with
      | blank => exact (ih hlines).imp fun entries hrest => .blank hsaid hrest
      | header name => exact (ih hlines).imp fun entries hrest => .header hsaid hrest
      | entry key value? =>
        obtain ⟨entries, hrest⟩ : ∃ entries, Lists current lines entries := ih hlines
        exact ⟨_, .entry hsaid hrest⟩

end Settings

end BluetoothHost
