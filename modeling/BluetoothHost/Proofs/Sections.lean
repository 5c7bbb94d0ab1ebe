import BluetoothHost.Proofs.Decoding
import BluetoothHost.Proofs.Lines
import BluetoothHost.Settings

/-!
# `Proofs.Sections` — all of a settings text counts, or nothing

A malformed line spoils the text it stands in, wherever it is and whatever the other lines say
(`ofText_of_malformed`). In any other text a key has the value of the last line that names it, if that line
stands in the default section (`NamedLast`) and gives it a value that is not empty. Where a line stands is a
matter of the headers in front of it (`Opened`): so lines of other sections may be taken away, put in or
exchanged (`get?_congr_of_foreign`).

A file is read as the text that its octets encode, and as no settings if they encode none
(`load_of_encode`, `load_of_no_text`).

## Contents
- `Headless`, `Opened`, `Named` and `NamedLast`, each with the lemma that takes a line off the front.
- `entry?_eq_none_iff`, `entry?_eq_some_iff`: the entry of a key is that of the last line that names it.
- `lines`, `Spoiled` and `Silent`, with `ofText_of_lists`, `ofText_of_malformed` and `spoiled_iff`.
- `Plain`, with `get?_congr_of_foreign`.
- `Text.Utf8.decode?_eq_some_iff`, `load_of_encode`, `load_of_no_text`.
- `settings_are_all_or_nothing`.
-/

namespace BluetoothHost

namespace Settings

/-! ## Sections -/

/-- Lines without a header. -/
def Headless (lines : List (List Char)) : Prop := ∀ line ∈ lines, ∀ name, ¬ Says line (.header name)

/-- Some lines open a section: that of the last header among them, or the one they start in if there is none. -/
def Opened (start : List Char) (lines : List (List Char)) (name : List Char) : Prop :=
  name = start ∧ Headless lines ∨
    ∃ before line after, lines = before ++ line :: after ∧ Says line (.header name) ∧ Headless after

/-- A line in the default section is an entry with a certain key. -/
def Named (start : List Char) (lines : List (List Char)) (key : List Char) : Prop :=
  ∃ before line after, lines = before ++ line :: after ∧ Opened start before defaultSection ∧
    ∃ value?, Says line (.entry key value?)

/-- The last line in the default section that is an entry with a certain key is this one: no line behind it is
    another. -/
def NamedLast (start : List Char) (lines : List (List Char)) (key : List Char)
    (value? : Option (List Char)) : Prop :=
  ∃ before line after, lines = before ++ line :: after ∧ Opened start before defaultSection ∧
    Says line (.entry key value?) ∧ ¬ Named defaultSection after key

/-- The section that is open behind a line. -/
def Leads (current line next : List Char) : Prop :=
  Says line (.header next) ∨ next = current ∧ ∀ name, ¬ Says line (.header name)

theorem Says.leads {line current : List Char} {said : Line} (h : Says line said)
    (hsaid : ∀ name, said ≠ .header name) : Leads current line current :=
  .inr ⟨rfl, fun name hname => hsaid name (h.unique hname)⟩

/-- What stands somewhere in a list stands at its front or in the rest of it. -/
theorem exists_cons_eq_append_iff {α : Type} {P : List α → α → List α → Prop} {x : α} {xs : List α} :
    (∃ before y after, x :: xs = before ++ y :: after ∧ P before y after) ↔
      P [] x xs ∨ ∃ before y after, xs = before ++ y :: after ∧ P (x :: before) y after := by
  constructor
  · rintro ⟨before, y, after, hsplit, h⟩
    cases before with
    | nil =>
      obtain ⟨rfl, rfl⟩ := List.cons.inj hsplit
      exact .inl h
    | cons z before =>
      obtain ⟨rfl, rfl⟩ := List.cons.inj hsplit
      exact .inr ⟨before, y, after, rfl, h⟩
  · rintro (h | ⟨before, y, after, rfl, h⟩)
    · exact ⟨[], x, xs, rfl, h⟩
    · exact ⟨x :: before, y, after, rfl, h⟩

section Front

variable {start line next : List Char} {lines : List (List Char)}

theorem opened_nil_iff {name : List Char} : Opened start [] name ↔ name = start := by
  constructor
  · rintro (⟨rfl, -⟩ | ⟨before, line, after, hnil, -⟩)
    · rfl
    · exact absurd hnil (by simp)
  · exact fun h => .inl ⟨h, nofun⟩

theorem opened_cons_iff (h : Leads start line next) {name : List Char} :
    Opened start (line :: lines) name ↔ Opened next lines name := by
  unfold Opened
  rw [exists_cons_eq_append_iff, ← or_assoc]
  refine or_congr_left ?_
  rcases h with h | ⟨rfl, hnone⟩
  · -- a header sets its own section, whatever was open before
    have hname : Says line (.header name) ↔ name = next := by
      constructor
      · exact fun hother => Line.header.inj (hother.unique h)
      · rintro rfl
        exact h
    have hhead : ¬ Headless (line :: lines) := fun hhead => hhead line List.mem_cons_self next h
    rw [hname]
    exact or_iff_right fun ⟨_, h⟩ => hhead h
  · rw [Headless, List.forall_mem_cons]
    constructor
    · rintro (⟨hname, -, hlines⟩ | ⟨hline, -⟩)
      · exact ⟨hname, hlines⟩
      · exact absurd hline (hnone name)
    · exact fun ⟨hname, hlines⟩ => .inl ⟨hname, hnone, hlines⟩

theorem named_cons_iff (h : Leads start line next) {key : List Char} :
    Named start (line :: lines) key ↔
      (start = defaultSection ∧ ∃ value?, Says line (.entry key value?)) ∨ Named next lines key := by
  unfold Named
  rw [exists_cons_eq_append_iff]
  simp only [opened_cons_iff h, opened_nil_iff, eq_comm]

theorem namedLast_cons_iff (h : Leads start line next) {key : List Char} {value? : Option (List Char)} :
    NamedLast start (line :: lines) key value? ↔
      (start = defaultSection ∧ Says line (.entry key value?) ∧ ¬ Named defaultSection lines key) ∨
        NamedLast next lines key value? := by
  unfold NamedLast
  rw [exists_cons_eq_append_iff]
  simp only [opened_cons_iff h, opened_nil_iff, eq_comm]

end Front

/-! ## The last line that names a key -/

theorem entry?_singleton (e : Entry) (key : String) :
    entry? ⟨[e]⟩ key =
      if e.heading = defaultSection ∧ e.key = key.toList then some e.value? else none := by
  by_cases h : e.heading = defaultSection ∧ e.key = key.toList
  · simp [ entry?, h]
  · rw [if_neg h]
    simpa [ entry?] using h

theorem says_entry_iff {line key other : List Char} {value? other? : Option (List Char)}
    (h : Says line (.entry key value?)) :
    Says line (.entry other other?) ↔ key = other ∧ value? = other? := by
  constructor
  · intro hother
    exact Line.entry.inj (h.unique hother)
  · rintro ⟨rfl, rfl⟩
    exact h

/-- **A key has no entry if no line in the default section names it.** -/
theorem entry?_eq_none_iff {start : List Char} {lines : List (List Char)} {entries : List Entry}
    (h : Lists start lines entries) {key : String} :
    entry? ⟨entries⟩ key = none ↔ ¬ Named start lines key.toList := by
  induction h with
  | nil => exact iff_of_true rfl fun ⟨before, line, after, hnil, _⟩ => absurd hnil (by simp)
  | blank hline _ ih =>
    rw [ih, named_cons_iff (hline.leads nofun)]
    exact not_congr (or_iff_right fun ⟨_, value?, hentry⟩ => nomatch hline.unique hentry).symm
  | header hline _ ih =>
    rw [ih, named_cons_iff (.inl hline)]
    exact not_congr (or_iff_right fun ⟨_, value?, hentry⟩ => nomatch hline.unique hentry).symm
  | @entry current line name value? lines entries hline _ ih =>
    rw [← List.singleton_append, entry?_append, Option.or_eq_none_iff, ih, entry?_singleton,
      named_cons_iff (hline.leads nofun)]
    simp [says_entry_iff hline, and_comm]

/-- **The entry of a key is that of the last line in the default section that names it.** -/
theorem entry?_eq_some_iff {start : List Char} {lines : List (List Char)} {entries : List Entry}
    (h : Lists start lines entries) {key : String} {value? : Option (List Char)} :
    entry? ⟨entries⟩ key = some value? ↔ NamedLast start lines key.toList value? := by
  -- what is taken off the front is the last line that names the key only if none behind it does
  induction h with
  | nil => exact iff_of_false nofun fun ⟨before, line, after, hnil, _⟩ => absurd hnil (by simp)
  | blank hline _ ih =>
    rw [ih, namedLast_cons_iff (hline.leads nofun)]
    exact (or_iff_right fun ⟨_, hentry, _⟩ => nomatch hline.unique hentry).symm
  | header hline _ ih =>
    rw [ih, namedLast_cons_iff (.inl hline)]
    exact (or_iff_right fun ⟨_, hentry, _⟩ => nomatch hline.unique hentry).symm
  | @entry current line name other? lines entries hline hrest ih =>
    rw [← List.singleton_append, entry?_append, Option.or_eq_some_iff, ih, entry?_singleton,
      entry?_eq_none_iff hrest, namedLast_cons_iff (hline.leads nofun), or_comm]
    refine or_congr_left ?_
    rw [says_entry_iff hline, Option.ite_none_right_eq_some, Option.some.injEq]
    constructor
    · rintro ⟨hnone, ⟨rfl, hname⟩, hvalue⟩
      exact ⟨rfl, ⟨hname, hvalue⟩, hnone⟩
    · rintro ⟨rfl, ⟨hname, hvalue⟩, hnone⟩
      exact ⟨hnone, ⟨rfl, hname⟩, hvalue⟩

/-! ## Texts -/

/-- The lines of a text. -/
def lines (text : String) : List (List Char) := Text.fields '\n' text.toList

/-- A line of a text is malformed. -/
def Spoiled (text : String) : Prop := ∃ line ∈ lines text, ∃ defect, Malformed line defect

/-- Settings that answer nothing, whatever they are asked. -/
def Silent (s : Settings) : Prop :=
  (∀ key, s.get? key = none) ∧ s.mobileAddress?.1 = none ∧ s.verbosity?.1 = none

theorem silent_empty : Silent {} := ⟨fun _ => rfl, rfl, rfl⟩

theorem exists_lists_iff_not_spoiled {text : String} :
    (∃ entries, Lists defaultSection (lines text) entries) ↔ ¬ Spoiled text := by
  rw [exists_lists_iff]
  exact ⟨fun h ⟨line, hline, defect, hdefect⟩ => h line hline defect hdefect,
    fun h line hline defect hdefect => h ⟨line, hline, defect, hdefect⟩⟩

theorem ofText_of_lists {text : String} {entries : List Entry}
    (h : Lists defaultSection (lines text) entries) : ofText text = (⟨entries⟩, []) := by
  rw [ofText, readEntries, ← lines, readLines_of_lists h]

theorem exists_first_malformed {lines : List (List Char)}
    (h : ∃ line ∈ lines, ∃ defect, Malformed line defect) :
    ∃ before line after defect, lines = before ++ line :: after ∧
      (∀ earlier ∈ before, ∃ said, Says earlier said) ∧ Malformed line defect := by
  induction lines with
  | nil =>
    obtain ⟨line, hline, -⟩ := h
    exact absurd hline List.not_mem_nil
  | cons first lines ih =>
    rcases says_or_malformed first with ⟨said, hsaid⟩ | ⟨defect, hdefect⟩
    · obtain ⟨line, hline, defect, hdefect⟩ := h
      have hlater : line ∈ lines := by
        rcases List.mem_cons.1 hline with rfl | hlater
        · exact absurd hdefect hsaid.not_malformed
        · exact hlater
      obtain ⟨before, line, after, defect, rfl, hbefore, hdefect⟩ := ih ⟨line, hlater, defect, hdefect⟩
      refine ⟨first :: before, line, after, defect, rfl, ?_, hdefect⟩
      exact List.forall_mem_cons.2 ⟨⟨said, hsaid⟩, hbefore⟩
    · exact ⟨[], first, lines, defect, rfl, nofun, hdefect⟩

/-- **A malformed line spoils its text.** Nothing is read then, and the first such line is reported. -/
theorem ofText_of_malformed {text : String} (h : Spoiled text) :
    ∃ before line after defect, lines text = before ++ line :: after ∧ Malformed line defect ∧
      ofText text = ({}, [.settingsMalformed (defect (1 + before.length))]) := by
  obtain ⟨before, line, after, defect, hsplit, hbefore, hdefect⟩ := exists_first_malformed h
  refine ⟨before, line, after, defect, hsplit, hdefect, ?_⟩
  rw [ofText, readEntries, ← lines, hsplit, readLines_of_malformed hdefect hbefore]

/-- A text is spoiled if it cannot be read. -/
theorem spoiled_iff {text : String} : Spoiled text ↔ (readEntries text).toOption = none := by
  constructor
  · intro h
    obtain ⟨before, line, after, defect, hsplit, hbefore, hdefect⟩ := exists_first_malformed h
    rw [readEntries, ← lines, hsplit, readLines_of_malformed hdefect hbefore]
    rfl
  · intro hnone
    refine Classical.byContradiction fun h => ?_
    obtain ⟨entries, hlists⟩ := exists_lists_iff_not_spoiled.2 h
    rw [readEntries, ← lines, readLines_of_lists hlists] at hnone
    exact absurd hnone nofun

instance Spoiled.decidable (text : String) : Decidable (Spoiled text) := decidable_of_iff _ spoiled_iff.symm

theorem fst_ofText_of_spoiled {text : String} (h : Spoiled text) : (ofText text).1 = {} := by
  obtain ⟨_, _, _, _, _, _, heq⟩ := ofText_of_malformed h
  rw [heq]

/-- **The value of a key is that of the last line that names it**, if no line is malformed. -/
theorem get?_eq_some_iff_namedLast {text : String} (h : ¬ Spoiled text) {key value : String} :
    (ofText text).1.get? key = some value ↔
      NamedLast defaultSection (lines text) key.toList (some value.toList) ∧ value ≠ "" := by
  obtain ⟨entries, hlists⟩ := exists_lists_iff_not_spoiled.2 h
  rw [ofText_of_lists hlists, get?_eq_some_iff, entry?_eq_some_iff hlists]

theorem get?_eq_none_iff_namedLast {text : String} (h : ¬ Spoiled text) {key : String} :
    (ofText text).1.get? key = none ↔
      ¬ Named defaultSection (lines text) key.toList ∨
        NamedLast defaultSection (lines text) key.toList none ∨
          NamedLast defaultSection (lines text) key.toList (some []) := by
  obtain ⟨entries, hlists⟩ := exists_lists_iff_not_spoiled.2 h
  rw [ofText_of_lists hlists, get?_eq_none_iff, entry?_eq_none_iff hlists, entry?_eq_some_iff hlists,
    entry?_eq_some_iff hlists]

/-! ## Lines of other sections -/

/-- Lines that are neither headers nor malformed, so that all of them stand in one section. -/
def Plain (block : List (List Char)) : Prop :=
  ∀ line ∈ block, ∃ said, Says line said ∧ ∀ name, said ≠ .header name

theorem Plain.headless {block : List (List Char)} (h : Plain block) : Headless block := by
  intro line hline name hname
  obtain ⟨said, hsaid, hother⟩ := h line hline
  exact hother name (hsaid.unique hname)

theorem Plain.exists_lists {block : List (List Char)} (h : Plain block) (name : List Char) :
    ∃ entries, Lists name block entries := by
  refine exists_lists_iff.2 fun line hline defect => ?_
  obtain ⟨said, hsaid, -⟩ := h line hline
  exact hsaid.not_malformed

theorem lists_append {start name : List Char} {first second : List (List Char)} {entries others : List Entry}
    (h : Lists start first entries) (hopen : Opened start first name) (hsecond : Lists name second others) :
    Lists start (first ++ second) (entries ++ others) := by
  induction h with
  | nil =>
    rw [opened_nil_iff] at hopen
    exact hopen ▸ hsecond
  | blank hline _ ih => exact .blank hline (ih ((opened_cons_iff (hline.leads nofun)).1 hopen))
  | header hline _ ih => exact .header hline (ih ((opened_cons_iff (.inl hline)).1 hopen))
  | entry hline _ ih => exact .entry hline (ih ((opened_cons_iff (hline.leads nofun)).1 hopen))

/-- What some lines list is what the first of them list, and then what the others list in the section that is
    open behind these. -/
theorem exists_lists_of_append {start name : List Char} {first second : List (List Char)} {entries : List Entry}
    (hopen : Opened start first name) (h : Lists start (first ++ second) entries) :
    ∃ front back, entries = front ++ back ∧ Lists start first front ∧ Lists name second back := by
  induction first generalizing start entries with
  | nil =>
    rw [opened_nil_iff] at hopen
    exact ⟨[], entries, rfl, .nil, hopen ▸ h⟩
  | cons line first ih =>
    cases h with
    | blank hline hrest =>
      obtain ⟨front, back, rfl, hfront, hback⟩ := ih ((opened_cons_iff (hline.leads nofun)).1 hopen) hrest
      exact ⟨front, back, rfl, .blank hline hfront, hback⟩
    | header hline hrest =>
      obtain ⟨front, back, rfl, hfront, hback⟩ := ih ((opened_cons_iff (.inl hline)).1 hopen) hrest
      exact ⟨front, back, rfl, .header hline hfront, hback⟩
    | entry hline hrest =>
      obtain ⟨front, back, rfl, hfront, hback⟩ := ih ((opened_cons_iff (hline.leads nofun)).1 hopen) hrest
      exact ⟨_ :: front, back, rfl, .entry hline hfront, hback⟩

/-- Without a header among them, all lines stand in the section that the first of them stands in. -/
theorem heading_of_mem {start : List Char} {block : List (List Char)} {entries : List Entry}
    (h : Lists start block entries) (hheadless : Headless block) : ∀ e ∈ entries, e.heading = start := by
  induction h with
  | nil => exact nofun
  | blank _ _ ih => exact ih (List.forall_mem_cons.1 hheadless).2
  | header hline _ _ => exact absurd hline ((List.forall_mem_cons.1 hheadless).1 _)
  | entry _ _ ih => exact List.forall_mem_cons.2 ⟨rfl, ih (List.forall_mem_cons.1 hheadless).2⟩

theorem entry?_of_heading_ne {entries : List Entry} (h : ∀ e ∈ entries, e.heading ≠ defaultSection)
    (key : String) : entry? ⟨entries⟩ key = none := by
  rw [ entry?, Option.map_eq_none_iff, List.find?_eq_none]
  intro e he
  simp [h e (List.mem_reverse.1 he)]

/-- Lines of another section can be exchanged for others: as much is listed, but for entries of that section. -/
theorem exists_lists_exchanged {before block other after : List (List Char)} {name : List Char}
    {entries : List Entry} (hopen : Opened defaultSection before name) (hname : name ≠ defaultSection)
    (hblock : Plain block) (hother : Plain other)
    (h : Lists defaultSection (before ++ (block ++ after)) entries) :
    ∃ others, Lists defaultSection (before ++ (other ++ after)) others ∧
      ∀ key, entry? ⟨others⟩ key = entry? ⟨entries⟩ key := by
  obtain ⟨front, rest, rfl, hfront, hrest⟩ := exists_lists_of_append hopen h
  obtain ⟨mid, back, rfl, hmid, hback⟩ := exists_lists_of_append (.inl ⟨rfl, hblock.headless⟩) hrest
  obtain ⟨exchanged, hexchanged⟩ := hother.exists_lists name
  refine ⟨front ++ (exchanged ++ back),
    lists_append hfront hopen (lists_append hexchanged (.inl ⟨rfl, hother.headless⟩) hback), fun key => ?_⟩
  have hnone : ∀ {lines es}, Lists name lines es → Headless lines → entry? ⟨es⟩ key = none :=
    fun hlists hheadless =>
      entry?_of_heading_ne (fun e he => heading_of_mem hlists hheadless e he ▸ hname) key
  simp only [entry?_append, hnone hmid hblock.headless, hnone hexchanged hother.headless]

/-- **Lines of another section make no difference**, neither to a text that counts nor to one that is spoiled. -/
theorem get?_congr_of_foreign {text exchanged : String} {before block other after : List (List Char)}
    {name : List Char} (htext : lines text = before ++ (block ++ after))
    (hexchanged : lines exchanged = before ++ (other ++ after)) (hopen : Opened defaultSection before name)
    (hname : name ≠ defaultSection) (hblock : Plain block) (hother : Plain other) (key : String) :
    (ofText text).1.get? key = (ofText exchanged).1.get? key := by
  by_cases hspoiled : Spoiled text
  · by_cases hspoils : Spoiled exchanged
    · rw [fst_ofText_of_spoiled hspoiled, fst_ofText_of_spoiled hspoils]
    · -- the exchange could be undone, so a text is spoiled if the other is
      obtain ⟨entries, hlists⟩ := exists_lists_iff_not_spoiled.2 hspoils
      rw [hexchanged] at hlists
      obtain ⟨others, hothers, -⟩ := exists_lists_exchanged hopen hname hother hblock hlists
      exact absurd hspoiled (exists_lists_iff_not_spoiled.1 ⟨others, htext ▸ hothers⟩)
  · obtain ⟨entries, hlists⟩ := exists_lists_iff_not_spoiled.2 hspoiled
    obtain ⟨others, hothers, heq⟩ := exists_lists_exchanged hopen hname hblock hother (htext ▸ hlists)
    rw [ofText_of_lists hlists, ofText_of_lists (hexchanged ▸ hothers), get?, get?, heq]

end Settings

/-! ## Files -/

namespace Text.Utf8

theorem decode?_encodeChar_append (c : Char) (rest : List UInt8) :
    decode? (String.utf8EncodeChar c ++ rest) = (decode? rest).map (c :: ·) := by
  obtain ⟨b, bs, h⟩ := exists_encodeChar_eq_cons c
  rw [h, List.cons_append, decode?, step_of_encodeChar h]
  simp only [Char.ofNat_toNat]

theorem decode?_encode (cs : List Char) : decode? (encode cs) = some cs := by
  induction cs with
  | nil => rw [encode, List.flatMap_nil, decode?]
  | cons c cs ih => rw [encode_cons, decode?_encodeChar_append, ih, Option.map_some]

/-- **Octets are a text if they encode one.** -/
theorem decode?_eq_some_iff {bs : List UInt8} {cs : List Char} : decode? bs = some cs ↔ bs = encode cs := by
  constructor
  · intro h
    fun_induction decode? bs generalizing cs with
    | case1 =>
      obtain rfl := Option.some.inj h
      rfl
    | case2 b rest n hn ih =>
      obtain ⟨others, hothers, rfl⟩ := Option.map_eq_some_iff.1 h
      rcases step_cases b rest with ⟨c, hsplit, hc⟩ | ⟨part, -, hnone, -⟩
      · obtain rfl : n = c.toNat := Option.some.inj (hn.symm.trans hc)
        rw [hsplit, ih hothers, Char.ofNat_toNat, encode_cons]
      · exact absurd (hn.symm.trans hnone) nofun
    | case3 => exact absurd h nofun
  · rintro rfl
    exact decode?_encode cs

end Text.Utf8

namespace Settings

theorem load_of_ok (path : String) {octets : List UInt8} {settings : Settings}
    (h : ofOctets octets = .ok settings) : load path (.ok octets) = (settings, []) := by
  have hfile : (Except.ok octets : Except String _).mapError .unreadable >>= ofOctets = .ok settings := h
  rw [load, hfile]

theorem load_of_error (path : String) {octets : List UInt8} {failure : LoadFailure}
    (h : ofOctets octets = .error failure) :
    load path (.ok octets) = ({}, [.settingsUnavailable path (failure.text path)]) := by
  have hfile : (Except.ok octets : Except String _).mapError .unreadable >>= ofOctets = .error failure := h
  rw [load, hfile]

/-- A file that holds the octets of a text is read as the text. -/
theorem load_of_encode (path text : String) :
    (load path (.ok (Text.Utf8.encode text.toList))).1 = (ofText text).1 := by
  have hdecode : Text.Utf8.decode? (Text.Utf8.encode text.toList) = some text.toList :=
    Text.Utf8.decode?_eq_some_iff.2 rfl
  rw [ofText]
  -- a text that is malformed is reported in other words, but gives no settings either way
  cases hread : readEntries text with
  | ok entries =>
    have hoctets : ofOctets (Text.Utf8.encode text.toList) = .ok ⟨entries⟩ := by
      simp only [ofOctets, hdecode, String.ofList_toList, hread]
    rw [load_of_ok path hoctets]
  | error defect =>
    have hoctets : ofOctets (Text.Utf8.encode text.toList) = .error (.malformed defect) := by
      simp only [ofOctets, hdecode, String.ofList_toList, hread]
    rw [load_of_error path hoctets]

/-- A file whose octets are no text gives no settings. -/
theorem load_of_no_text (path : String) {octets : List UInt8}
    (h : ∀ text : String, octets ≠ Text.Utf8.encode text.toList) : (load path (.ok octets)).1 = {} := by
  have hdecode : Text.Utf8.decode? octets = none := by
    refine Option.eq_none_iff_forall_ne_some.2 fun cs hcs => h (String.ofList cs) ?_
    rw [String.toList_ofList]
    exact Text.Utf8.decode?_eq_some_iff.1 hcs
  have hoctets : ofOctets octets = .error (.unreadable "stream did not contain valid UTF-8") := by
    rw [ofOctets, hdecode]
  rw [load_of_error path hoctets]

/-- **Settings are all or nothing.** With a malformed line in it, wherever that stands, it gives no
    settings, which answer nothing. Without one a key has a value that is not empty if the last line in the
    default section that names it gives it this value, and none if that line gives it an empty value or no value,
    or if there is no such line. Lines that stand in another section can be exchanged for any others that have
    neither a header nor a defect. A file gives the settings of the text that its octets encode, and none if they
    encode no text. -/
theorem settings_are_all_or_nothing :
    (∀ text, Spoiled text → (ofText text).1 = {} ∧ Silent (ofText text).1) ∧
    (∀ text, ¬ Spoiled text → ∀ key,
      (∀ value, (ofText text).1.get? key = some value ↔
        NamedLast defaultSection (lines text) key.toList (some value.toList) ∧ value ≠ "") ∧
      ((ofText text).1.get? key = none ↔ ¬ Named defaultSection (lines text) key.toList ∨
        NamedLast defaultSection (lines text) key.toList none ∨
          NamedLast defaultSection (lines text) key.toList (some []))) ∧
    (∀ text exchanged before block other after name, lines text = before ++ (block ++ after) →
      lines exchanged = before ++ (other ++ after) → Opened defaultSection before name →
        name ≠ defaultSection → Plain block → Plain other →
          ∀ key, (ofText text).1.get? key = (ofText exchanged).1.get? key) ∧
    ∀ path octets,
      (∀ text : String, octets = Text.Utf8.encode text.toList →
        (load path (.ok octets)).1 = (ofText text).1) ∧
      ((∀ text : String, octets ≠ Text.Utf8.encode text.toList) →
        (load path (.ok octets)).1 = {} ∧ Silent (load path (.ok octets)).1) := by
  refine ⟨fun text h => ?_, fun text h key => ⟨fun value => ?_, get?_eq_none_iff_namedLast h⟩, ?_,
    fun path octets => ⟨?_, fun h => ?_⟩⟩
  · rw [fst_ofText_of_spoiled h]
    exact ⟨rfl, silent_empty⟩
  · exact get?_eq_some_iff_namedLast h
  · intro text exchanged before block other after name
    exact get?_congr_of_foreign
  · rintro text rfl
    exact load_of_encode path text
  · rw [load_of_no_text path h]
    exact ⟨rfl, silent_empty⟩

/-- A header that is closed in its comment only spoils its text. Otherwise keys have their last values, a bare key
    has none, and what stands below another header makes no difference. -/
theorem settings_are_all_or_nothing_sectioned :
    Silent (ofText "K=1\n[default # ]\nK=2").1 ∧
    NamedLast defaultSection (lines "K=1\n[other]\nK=2\n [ default ] K=4\r\nK:3\nE=1\nE") "K".toList
      (some "3".toList) ∧
    (ofText "K=1\n[other]\nK=2\nE=2\n[default]\nE").1.get? "K" =
      (ofText "K=1\n[other]\n[default]\nE").1.get? "K" ∧
    (load "settings" (.ok [0x4b, 0x3d, 0xc3, 0xa9])).1 = (ofText "K=é").1 ∧
    Silent (load "settings" (.ok [0x4b, 0x3d, 0xc3])).1 := by
  obtain ⟨hspoiled, hread, hexchanged, hload⟩ := settings_are_all_or_nothing
  have hsaid : ∀ line said, Line.read 0 line = .ok said → Says line said := fun _ _ => read_eq_ok_iff.1
  refine ⟨(hspoiled _ (by decide)).2, ?_, ?_, (hload _ _).1 "K=é" (by decide), ((hload _ _).2 ?_).2⟩
  · exact (((hread _ (by decide) "K").1 "3").1 (by decide)).1
  · have hsecond : Plain ["E=2".toList] :=
      List.forall_mem_cons.2 ⟨⟨_, hsaid _ _ rfl, nofun⟩, nofun⟩
    have hblock : Plain ["K=2".toList, "E=2".toList] :=
      List.forall_mem_cons.2 ⟨⟨_, hsaid _ _ rfl, nofun⟩, hsecond⟩
    have hheader : Says "[other]".toList (.header "other".toList) := hsaid _ _ rfl
    exact hexchanged _ _ ["K=1".toList, "[other]".toList] _ [] ["[default]".toList, "E".toList] "other".toList
      (by decide) (by decide) (.inr ⟨["K=1".toList], _, [], rfl, hheader, nofun⟩) (by decide) hblock nofun "K"
  · intro text htext
    have hnone : Text.Utf8.decode? [0x4b, 0x3d, 0xc3] = none := by decide +kernel
    rw [Text.Utf8.decode?_eq_some_iff.2 htext] at hnone
    exact absurd hnone nofun

end Settings

end BluetoothHost
