import BluetoothHost.Proofs.Lines
import BluetoothHost.Settings
import Mathlib.Data.List.Basic

/-!
# `Proofs.Pairs` — settings that are written are read back

A key and a value are written on a line of their own, with a delimiter between them. White space may stand
around either, a comment behind them, lines that say nothing in between, and a line may end in one of two ways.
All of these leave what is read as it is (`lists_of_written`): the pairs, in the order in which they are
written. So a key has the value that is written for it last (`written_settings_are_read`).

## Contents
- `IsKey`, `IsValue` and `Pair`: what can be written.
- `WrittenLine` and `Written`: the lines and the texts in which pairs are written.
- `exists_form_of_pair` and `lists_cons_of_writtenLine`: what is written on a line is what it says.
- `lists_of_written`, `ofText_of_written` and `entry?_map`.
- `values` and `written_settings_are_read`.
-/

namespace BluetoothHost.Settings

/-! ## What is written -/

/-- A text that can be the key of a pair. Any white space may stand in the midst of it, but no line feed. -/
structure IsKey (cs : List Char) : Prop where
  nonempty : cs ≠ []
  trimmed : Text.Trimmed cs
  notOpening : cs.head? ≠ some '['
  undelimited : Undelimited cs
  uncommented : '#' ∉ cs
  oneLine : '\n' ∉ cs

/-- A text that can be the value of a pair: unlike a key it may be empty and hold delimiters. -/
structure IsValue (cs : List Char) : Prop where
  trimmed : Text.Trimmed cs
  uncommented : '#' ∉ cs
  oneLine : '\n' ∉ cs

instance IsKey.decidable (cs : List Char) : Decidable (IsKey cs) :=
  decidable_of_iff
    (cs ≠ [] ∧ Text.Trimmed cs ∧ cs.head? ≠ some '[' ∧ Undelimited cs ∧ '#' ∉ cs ∧ '\n' ∉ cs)
    ⟨fun ⟨h₁, h₂, h₃, h₄, h₅, h₆⟩ => ⟨h₁, h₂, h₃, h₄, h₅, h₆⟩,
      fun ⟨h₁, h₂, h₃, h₄, h₅, h₆⟩ => ⟨h₁, h₂, h₃, h₄, h₅, h₆⟩⟩

instance IsValue.decidable (cs : List Char) : Decidable (IsValue cs) :=
  decidable_of_iff (Text.Trimmed cs ∧ '#' ∉ cs ∧ '\n' ∉ cs)
    ⟨fun ⟨h₁, h₂, h₃⟩ => ⟨h₁, h₂, h₃⟩, fun ⟨h₁, h₂, h₃⟩ => ⟨h₁, h₂, h₃⟩⟩

/-- A key and a value that can be written on a line. -/
structure Pair where
  key : String
  value : String
  isKey : IsKey key.toList := by decide
  isValue : IsValue value.toList := by decide

/-- White space within a line. -/
def Spaces (cs : List Char) : Prop := Text.Blank cs ∧ '\n' ∉ cs

instance Spaces.decidable (cs : List Char) : Decidable (Spaces cs) := inferInstanceAs (Decidable (_ ∧ _))

/-- A comment at the end of a line, if there is one. -/
def Comment (cs : List Char) : Prop := cs = [] ∨ ∃ text, cs = '#' :: text ∧ '\n' ∉ text

/-- A line in which a pair is written, or none. -/
inductive WrittenLine : List Char → List Pair → Prop
  | pair (p : Pair) {indent gap lead trail comment : List Char} {d : Char} (hindent : Spaces indent)
      (hgap : Spaces gap) (hd : d = '=' ∨ d = ':') (hlead : Spaces lead) (htrail : Spaces trail)
      (hcomment : Comment comment) :
      WrittenLine (indent ++ (p.key.toList ++ gap) ++ d :: (lead ++ p.value.toList ++ trail) ++ comment) [p]
  | empty {indent comment : List Char} (hindent : Spaces indent) (hcomment : Comment comment) :
      WrittenLine (indent ++ comment) []

/-- A text in which some pairs are written, line by line. The last line may lack an end, and is empty if the one
    in front of it has an end. -/
inductive Written : List Char → List Pair → Prop
  | last {line : List Char} {pairs : List Pair} (h : WrittenLine line pairs) : Written line pairs
  | more {line ending text : List Char} {pairs others : List Pair} (h : WrittenLine line pairs)
      (hending : ending = ['\n'] ∨ ending = ['\r', '\n']) (rest : Written text others) :
      Written (line ++ ending ++ text) (pairs ++ others)

/-- The values that are written for a key, in their order. -/
def values (pairs : List Pair) (key : String) : List String :=
  (pairs.filter (·.key == key)).map (·.value)

/-! ## What a written line says -/

theorem counts_append_comment {text body comment : List Char} (hnone : '#' ∉ text)
    (hpadded : Text.Padded text body) (hcomment : Comment comment) : Counts (text ++ comment) body := by
  refine ⟨text, hnone, ?_, hpadded⟩
  rcases hcomment with rfl | ⟨rest, rfl, -⟩
  · exact .inl (List.append_nil text)
  · exact .inr ⟨rest, rfl⟩

/-- White space at the end of a line does not count. -/
theorem Says.append_blank {line pad : List Char} {said : Line} (h : Says line said) (hpad : Text.Blank pad) :
    Says (line ++ pad) said := by
  obtain ⟨body, ⟨text, hnone, hline, htrimmed, before, after, hbefore, hafter, rfl⟩, hform⟩ := h
  refine ⟨body, ?_, hform⟩
  rcases hline with rfl | ⟨comment, rfl⟩
  · refine ⟨before ++ body ++ (after ++ pad), ?_, .inl (List.append_assoc _ _ _), htrimmed, before, _, hbefore,
      hafter.append hpad, rfl⟩
    rw [← List.append_assoc, List.mem_append, not_or]
    exact ⟨hnone, hpad.notMem (by decide)⟩
  · refine ⟨_, hnone, .inr ⟨comment ++ pad, ?_⟩, htrimmed, before, after, hbefore, hafter, rfl⟩
    rw [List.append_assoc, List.cons_append]

/-- Of what stands behind a delimiter, the white space at the end does not count. If there is no value, this is
    all of it. -/
theorem exists_counted_value {lead value trail : List Char} (hlead : Text.Blank lead)
    (hvalue : Text.Trimmed value) (htrail : Text.Blank trail) :
    ∃ right after, lead ++ value ++ trail = right ++ after ∧ Text.Blank after ∧ Text.Padded right value ∧
      ∀ c ∈ right.getLast?, Text.isBlank c = false := by
  cases value with
  | nil =>
    refine ⟨[], lead ++ trail, by rw [List.append_nil, List.nil_append], hlead.append htrail, ?_, nofun⟩
    exact Text.padded_of_trimmed Text.trimmed_nil
  | cons c value =>
    refine ⟨lead ++ c :: value, trail, rfl, htrail, ⟨hvalue, lead, [], hlead, Text.blank_nil, ?_⟩, ?_⟩
    · rw [List.append_nil]
    · intro x hx
      refine hvalue.last x ?_
      rw [List.getLast?_append, List.getLast?_cons, Option.some_or] at hx
      rwa [List.getLast?_cons]

theorem trimmed_delimited (p : Pair) (gap : List Char) {right : List Char} {d : Char} (hd : d = '=' ∨ d = ':')
    (hright : ∀ c ∈ right.getLast?, Text.isBlank c = false) :
    Text.Trimmed (p.key.toList ++ gap ++ d :: right) := by
  constructor
  case first =>
    rw [List.append_assoc, List.head?_append_of_ne_nil _ p.isKey.nonempty]
    exact p.isKey.trimmed.first
  case last =>
    intro c hc
    rw [List.getLast?_append, List.getLast?_cons, Option.some_or] at hc
    obtain rfl := Option.some.inj hc
    cases hend : right.getLast? with
    | none => rcases hd with rfl | rfl <;> decide
    | some x => exact hright x hend

/-- What counts of a line in which a pair is written has the form of an entry. -/
theorem exists_form_of_pair (p : Pair) {indent gap lead trail : List Char} {d : Char} (hindent : Text.Blank indent)
    (hgap : Text.Blank gap) (hd : d = '=' ∨ d = ':') (hlead : Text.Blank lead) (htrail : Text.Blank trail) :
    ∃ body, Text.Padded (indent ++ (p.key.toList ++ gap) ++ d :: (lead ++ p.value.toList ++ trail)) body ∧
      Form body (.entry p.key.toList (some p.value.toList)) := by
  obtain ⟨right, after, hright, hafter, hvalue, hlast⟩ := exists_counted_value hlead p.isValue.trimmed htrail
  refine ⟨p.key.toList ++ gap ++ d :: right,
    ⟨trimmed_delimited p gap hd hlast, indent, after, hindent, hafter, ?_⟩, ?_⟩
  · rw [hright, List.append_assoc, List.append_assoc indent, List.append_assoc (p.key.toList ++ gap),
      List.cons_append]
  · have hopen : (p.key.toList ++ gap).head? ≠ some '[' := by
      rw [List.head?_append_of_ne_nil _ p.isKey.nonempty]
      exact p.isKey.notOpening
    have hsplit : Undelimited (p.key.toList ++ gap) :=
      ⟨fun h => (List.mem_append.1 h).elim p.isKey.undelimited.1 (hgap.notMem (by decide)),
        fun h => (List.mem_append.1 h).elim p.isKey.undelimited.2 (hgap.notMem (by decide))⟩
    have hkey : Text.Padded (p.key.toList ++ gap) p.key.toList :=
      ⟨p.isKey.trimmed, [], gap, Text.blank_nil, hgap, rfl⟩
    exact .pair hopen hsplit hd p.isKey.nonempty hkey hvalue

/-- The entry of a pair in a section. -/
def Pair.entry (heading : List Char) (p : Pair) : Entry := ⟨heading, p.key.toList, some p.value.toList⟩

/-- A line in which pairs are written lists them, whatever white space stands behind it. -/
theorem lists_cons_of_writtenLine {line pad current : List Char} {pairs : List Pair} {lines : List (List Char)}
    {entries : List Entry} (h : WrittenLine line pairs) (hpad : Text.Blank pad)
    (rest : Lists current lines entries) :
    Lists current ((line ++ pad) :: lines) (pairs.map (Pair.entry current) ++ entries) := by
  cases h with
  | @pair p indent gap lead trail comment d hindent hgap hd hlead htrail hcomment =>
    obtain ⟨body, hpadded, hform⟩ := exists_form_of_pair p hindent.1 hgap.1 hd hlead.1 htrail.1
    have hnone : '#' ∉ indent ++ (p.key.toList ++ gap) ++ d :: (lead ++ p.value.toList ++ trail) := by
      have hsign : ∀ cs, Spaces cs → '#' ∉ cs := fun cs hcs => hcs.1.notMem (by decide)
      have hdelimiter : '#' ≠ d := by rcases hd with rfl | rfl <;> decide
      simp only [List.mem_append, List.mem_cons, not_or]
      exact ⟨⟨hsign _ hindent, p.isKey.uncommented, hsign _ hgap⟩, hdelimiter,
        ⟨hsign _ hlead, p.isValue.uncommented⟩, hsign _ htrail⟩
    have hline : Says _ (.entry p.key.toList (some p.value.toList)) :=
      ⟨body, counts_append_comment hnone hpadded hcomment, hform⟩
    exact .entry (hline.append_blank hpad) rest
  | empty hindent hcomment =>
    have hpadded := Text.padded_nil_iff.2 hindent.1
    have hline : Says _ .blank :=
      ⟨[], counts_append_comment (hindent.1.notMem (by decide)) hpadded hcomment, .blank⟩
    exact .blank (hline.append_blank hpad) rest

/-! ## What a written text lists -/

theorem WrittenLine.oneLine {line : List Char} {pairs : List Pair} (h : WrittenLine line pairs) :
    '\n' ∉ line := by
  have hcomment : ∀ comment, Comment comment → '\n' ∉ comment := by
    rintro comment (rfl | ⟨text, rfl, htext⟩)
    · exact List.not_mem_nil
    · rw [List.mem_cons, not_or]
      exact ⟨by decide, htext⟩
  cases h with
  | @pair p indent gap lead trail comment d hindent hgap hd hlead htrail hc =>
    have hdelimiter : '\n' ≠ d := by rcases hd with rfl | rfl <;> decide
    simp only [List.mem_append, List.mem_cons, not_or]
    exact ⟨⟨⟨hindent.2, p.isKey.oneLine, hgap.2⟩, hdelimiter, ⟨hlead.2, p.isValue.oneLine⟩, htrail.2⟩,
      hcomment comment hc⟩
  | empty hindent hc =>
    rw [List.mem_append, not_or]
    exact ⟨hindent.2, hcomment _ hc⟩

/-- **A text lists the pairs that are written in it.** -/
theorem lists_of_written {text : List Char} {pairs : List Pair} (h : Written text pairs) (current : List Char) :
    Lists current (Text.fields '\n' text) (pairs.map (Pair.entry current)) := by
  induction h with
  | @last line pairs h =>
    have hlists := lists_cons_of_writtenLine h Text.blank_nil (Lists.nil : Lists current [] [])
    rwa [List.append_nil, List.append_nil, ← Text.fields_of_notMem h.oneLine] at hlists
  | @more line ending text pairs others h hending _ ih =>
    -- a carriage return in front of the line feed is white space at the end of the line
    obtain ⟨pad, rfl, hpad, hfeed⟩ : ∃ pad, ending = pad ++ ['\n'] ∧ Text.Blank pad ∧ '\n' ∉ pad := by
      rcases hending with rfl | rfl
      · exact ⟨[], rfl, Text.blank_nil, List.not_mem_nil⟩
      · exact ⟨['\r'], rfl, by decide, by decide⟩
    have hline : '\n' ∉ line ++ pad := by
      rw [List.mem_append, not_or]
      exact ⟨h.oneLine, hfeed⟩
    have hsplit : line ++ (pad ++ ['\n']) ++ text = (line ++ pad) ++ '\n' :: text := by simp
    rw [hsplit, Text.fields_append_cons hline, List.map_append]
    exact lists_cons_of_writtenLine h hpad ih

theorem ofText_of_written {text : String} {pairs : List Pair} (h : Written text.toList pairs) :
    ofText text = (⟨pairs.map (Pair.entry defaultSection)⟩, []) := by
  rw [ofText, readEntries, readLines_of_lists (lists_of_written h defaultSection)]

/-- What pairs say of a key is the last value that they give it. -/
theorem entry?_map (pairs : List Pair) (key : String) :
    entry? ⟨pairs.map (Pair.entry defaultSection)⟩ key =
      (values pairs key).getLast?.map fun value => some value.toList := by
  have hkey : (fun e : Entry => e.heading == defaultSection && e.key == key.toList) ∘ Pair.entry defaultSection =
      fun p => p.key == key := by
    funext p
    rw [Bool.eq_iff_iff]
    simp [Pair.entry, String.toList_inj]
  -- the first one from behind is the last one
  rw [ entry?, ← List.map_reverse, List.find?_map, hkey, ← List.head?_filter, List.filter_reverse,
    List.head?_reverse, values, List.getLast?_map, Option.map_map, Option.map_map]
  rfl

theorem get?_of_written {text : String} {pairs : List Pair} (h : Written text.toList pairs) (key : String) :
    (ofText text).1.get? key = (values pairs key).getLast?.filter (· ≠ "") := by
  apply Option.ext
  intro value
  rw [ofText_of_written h, get?_eq_some_iff, entry?_map, Option.filter_eq_some_iff]
  simp [Option.map_eq_some_iff, String.toList_inj]

/-- **Written settings are read.** A text in which pairs are written is not malformed. The value of a key is the
    one that is written for it last, and there is none if that is empty or if none is written; a pair with
    another key makes no difference, even if that differs in the case of a letter only. The address of the
    device is the one that the last value of its key is read as, if it is read as any. -/
theorem written_settings_are_read {text : String} {pairs : List Pair} (h : Written text.toList pairs) :
    (ofText text).2 = [] ∧
    (∀ key, (ofText text).1.get? key = (values pairs key).getLast?.filter (· ≠ "")) ∧
    (∀ before p after other, pairs = before ++ p :: after → Written other.toList (before ++ after) →
      ∀ key, p.key ≠ key → (ofText text).1.get? key = (ofText other).1.get? key) ∧
    ∀ address, (ofText text).1.mobileAddress?.1 = some address ↔
      ∃ value, (values pairs "BT_ADDR_MOBILE").getLast? = some value ∧ Address.ofText? value = some address := by
  refine ⟨by rw [ofText_of_written h], get?_of_written h, ?_, fun address => ?_⟩
  · rintro before p after other rfl hother key hkey
    have hvalues : values (before ++ p :: after) key = values (before ++ after) key := by
      simp [values, hkey]
    rw [get?_of_written h, get?_of_written hother, hvalues]
  · have hempty : Address.ofText? "" = none := by decide
    simp only [mobileAddress?_eq_some_iff, get?_of_written h, Option.filter_eq_some_iff, decide_eq_true_eq]
    constructor
    · rintro ⟨value, ⟨hvalue, -⟩, hread⟩
      exact ⟨value, hvalue, hread⟩
    · rintro ⟨value, hvalue, hread⟩
      refine ⟨value, ⟨hvalue, ?_⟩, hread⟩
      rintro rfl
      rw [hempty] at hread
      exact absurd hread nofun

/-- Settings of which some are written more than once, one in two cases, and one without a value in the end. -/
def mixedSettings : String :=
  "# peer\r\n\nBT_ADDR_MOBILE=none\n bt_addr_mobile\t: a=b:c\r\n" ++
    "\tBT_ADDR_MOBILE : 00:11:22:aa:BB:cc\nK=1\nK:  # unset"

def mixedPairs : List Pair :=
  [{ key := "BT_ADDR_MOBILE", value := "none" }, { key := "bt_addr_mobile", value := "a=b:c" },
    { key := "BT_ADDR_MOBILE", value := "00:11:22:aa:BB:cc" }, { key := "K", value := "1" },
    { key := "K", value := "" }]

theorem written_mixedSettings : Written mixedSettings.toList mixedPairs := by
  have hnone : Comment [] := .inl rfl
  have hcomment : ∀ text : List Char, '\n' ∉ text → Comment ('#' :: text) :=
    fun text h => .inr ⟨text, rfl, h⟩
  have h₁ := @WrittenLine.empty [] _ (by decide) (hcomment " peer".toList (by decide))
  have h₂ := @WrittenLine.empty [] _ (by decide) hnone
  have h₃ := @WrittenLine.pair { key := "BT_ADDR_MOBILE", value := "none" } [] [] [] [] _ '='
    (by decide) (by decide) (.inl rfl) (by decide) (by decide) hnone
  have h₄ := @WrittenLine.pair { key := "bt_addr_mobile", value := "a=b:c" } [' '] ['\t'] [' '] [] _ ':'
    (by decide) (by decide) (.inr rfl) (by decide) (by decide) hnone
  have h₅ := @WrittenLine.pair { key := "BT_ADDR_MOBILE", value := "00:11:22:aa:BB:cc" } ['\t'] [' '] [' ']
    [] _ ':' (by decide) (by decide) (.inr rfl) (by decide) (by decide) hnone
  have h₆ := @WrittenLine.pair { key := "K", value := "1" } [] [] [] [] _ '='
    (by decide) (by decide) (.inl rfl) (by decide) (by decide) hnone
  have h₇ := @WrittenLine.pair { key := "K", value := "" } [] [] [' '] [' '] _ ':'
    (by decide) (by decide) (.inr rfl) (by decide) (by decide) (hcomment " unset".toList (by decide))
  have h := Written.more h₁ (.inr rfl) (.more h₂ (.inl rfl) (.more h₃ (.inl rfl) (.more h₄ (.inr rfl)
    (.more h₅ (.inl rfl) (.more h₆ (.inl rfl) (.last h₇))))))
  have hsame : ∀ text, text = mixedSettings.toList → Written text mixedPairs →
      Written mixedSettings.toList mixedPairs := fun _ htext hwritten => htext ▸ hwritten
  -- the two parts are shorter to read than the whole
  have hparts : mixedSettings.toList = _ := String.toList_append
  exact hsame _ (Eq.trans (by decide) hparts.symm) h

/-- The last value of each key is read, and none where that is empty or the key is written in the other case
    only. -/
theorem written_settings_are_read_mixed :
    Written mixedSettings.toList mixedPairs ∧
    (ofText mixedSettings).1.get? "BT_ADDR_MOBILE" = some "00:11:22:aa:BB:cc" ∧
    (ofText mixedSettings).1.get? "bt_addr_mobile" = some "a=b:c" ∧
    (ofText mixedSettings).1.get? "K" = none ∧ (ofText mixedSettings).1.get? "k" = none ∧
    (ofText mixedSettings).1.mobileAddress?.1 = some ⟨[0x00, 0x11, 0x22, 0xaa, 0xbb, 0xcc], rfl⟩ := by
  obtain ⟨-, hget, -, haddress⟩ := written_settings_are_read written_mixedSettings
  refine ⟨written_mixedSettings, ?_, ?_, ?_, ?_, (haddress _).2 ⟨_, rfl, by decide⟩⟩
  all_goals exact (hget _).trans (by decide)

end BluetoothHost.Settings
