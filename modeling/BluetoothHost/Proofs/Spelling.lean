import BluetoothHost.Operation
import Mathlib.Data.List.Forall2

/-!
# `Proofs.Spelling` — the texts of an address

An address is read by cutting a text at its colons, checking each group and reading it as a number; a number
may have a sign and any count of digits, and a text any characters at all. What comes of these steps together
is set out as a grammar (`Address.Written`), and the reader accepts exactly that (`reads_what_is_written`).

## Contents
- `Address.SpelledBy`, with `spelledBy_of_ofText?`: a text is read as the address it spells.
- `Text.HexDigit`, with `digitValue?_of_hexDigit` and `hexDigit_of_digitValue?`.
- `Address.Pair` and `Address.Written`: the grammar, with `ofText?_eq_some_iff`.
- `Address.Canonical`, with `canonical_text`.
- `Address.reads_what_is_written`.
-/

namespace BluetoothHost

/-! ## Spelling -/

namespace Address

/-- Two hexadecimal digits, in either case, spell an octet. -/
def Spells (group : List Char) (b : UInt8) : Prop :=
  ∃ high low h l, group = [high, low] ∧ Text.digitValue? high = some h ∧
    Text.digitValue? low = some l ∧ b.toNat = 16 * h + l

/-- An address is spelled by a text that consists of the spellings of its six octets between colons. -/
def SpelledBy (a : Address) (text : String) : Prop :=
  ∃ groups, text.toList = Text.join ':' groups ∧ List.Forall₂ Spells groups a.octets

theorem spells_of_octet? {group : List Char} {b : UInt8} (hb : octet? group = some b) :
    Spells group b :=
  exists_digits_of_octet? hb

theorem spells_of_octets? {groups : List (List Char)} {bs : List UInt8} (hbs : octets? groups = some bs) :
    List.Forall₂ Spells groups bs := by
  induction groups generalizing bs with
  | nil =>
    obtain rfl := Option.some.inj hbs
    exact .nil
  | cons group others ih =>
    unfold octets? at hbs
    split at hbs
    · rename_i hfirst hrest
      obtain rfl := Option.some.inj hbs
      exact .cons (spells_of_octet? hfirst) (ih hrest)
    · exact absurd hbs (by simp)

/-- **A text is read as the address it spells.** -/
theorem spelledBy_of_ofText? {text : String} {a : Address} (ha : ofText? text = some a) :
    a.SpelledBy text := by
  obtain ⟨bs, hbs, hsix⟩ := Option.bind_eq_some_iff.mp ha
  have hoctets : a.octets = bs := by
    unfold ofOctets? at hsix
    split at hsix
    · exact (congrArg octets (Option.some.inj hsix)).symm
    · exact absurd hsix (by simp)
  refine ⟨_, (Text.join_fields ':' text.toList).symm, ?_⟩
  rw [hoctets]
  exact spells_of_octets? hbs

end Address

/-! ## Digits -/

namespace Text

/-- The hexadecimal digits in the order of their values, with letters in lower case. -/
def lowerDigits : List Char :=
  ['0', '1', '2', '3', '4', '5', '6', '7', '8', '9', 'a', 'b', 'c', 'd', 'e', 'f']

/-- The hexadecimal digits in the order of their values, with letters in upper case. -/
def upperDigits : List Char :=
  ['0', '1', '2', '3', '4', '5', '6', '7', '8', '9', 'A', 'B', 'C', 'D', 'E', 'F']

/-- A character is the hexadecimal digit of a value: its place among the sixteen, in either case. -/
def HexDigit (c : Char) (v : Nat) : Prop := lowerDigits[v]? = some c ∨ upperDigits[v]? = some c

instance (c : Char) (v : Nat) : Decidable (HexDigit c v) :=
  inferInstanceAs (Decidable (_ ∨ _))

/-- What holds of both rows of the table holds of every digit and its value. -/
theorem HexDigit.of_rows {P : Char → Nat → Prop}
    (hlower : ∀ n : Fin lowerDigits.length, P lowerDigits[n] n)
    (hupper : ∀ n : Fin upperDigits.length, P upperDigits[n] n) {c : Char} {v : Nat}
    (h : HexDigit c v) : P c v := by
  rcases h with h | h
  · obtain ⟨hv, rfl⟩ := List.getElem?_eq_some_iff.mp h
    exact hlower ⟨v, hv⟩
  · obtain ⟨hv, rfl⟩ := List.getElem?_eq_some_iff.mp h
    exact hupper ⟨v, hv⟩

theorem digitValue?_of_hexDigit {c : Char} {v : Nat} (h : HexDigit c v) : digitValue? c = some v :=
  HexDigit.of_rows (P := fun c v => digitValue? c = some v) (by decide) (by decide) h

theorem hexDigit_of_digitValue? {c : Char} {v : Nat} (h : digitValue? c = some v) : HexDigit c v := by
  have hall : ∀ n : Fin 0x80, ∀ d ∈ digitValue? (Char.ofNat n), HexDigit (Char.ofNat n) d := by decide
  have hc := hall ⟨c.toNat, ascii_of_digitValue? h⟩ v
  rw [Char.ofNat_toNat] at hc
  exact hc h

end Text

/-! ## The grammar -/

namespace Address

/-- Two digits stand for an octet: sixteen times the value of the first and that of the second. -/
def Pair (high low : Char) (b : UInt8) : Prop :=
  ∃ h l, Text.HexDigit high h ∧ Text.HexDigit low l ∧ b.toNat = 16 * h + l

/-- A text in which some octets are written: two digits for each, one colon between each and the next, and
    nothing else. -/
inductive Written : List Char → List UInt8 → Prop
  | last {high low : Char} {b : UInt8} (pair : Pair high low b) : Written [high, low] [b]
  | more {high low : Char} {b : UInt8} {text : List Char} {bs : List UInt8} (pair : Pair high low b)
      (rest : Written text bs) : Written (high :: low :: ':' :: text) (b :: bs)

theorem exists_pair_of_spells {group : List Char} {b : UInt8} (h : Spells group b) :
    ∃ high low, group = [high, low] ∧ Pair high low b := by
  obtain ⟨high, low, h, l, rfl, hhigh, hlow, hb⟩ := h
  exact ⟨high, low, rfl, h, l, Text.hexDigit_of_digitValue? hhigh, Text.hexDigit_of_digitValue? hlow, hb⟩

theorem octet?_of_pair {high low : Char} {b : UInt8} (hpair : Pair high low b) :
    octet? [high, low] = some b := by
  obtain ⟨h, l, hhigh, hlow, hb⟩ := hpair
  rw [octet?_pair (Text.digitValue?_of_hexDigit hhigh) (Text.digitValue?_of_hexDigit hlow), ← hb,
    UInt8.ofNat_toNat]

/-- Digits are no colons. -/
theorem colon_notMem_of_pair {high low : Char} {b : UInt8} (hpair : Pair high low b) :
    ':' ∉ [high, low] := by
  have hnone : Text.digitValue? ':' = none := by decide
  obtain ⟨h, l, hhigh, hlow, -⟩ := hpair
  intro hmem
  rcases List.mem_pair.mp hmem with rfl | rfl
  · rw [Text.digitValue?_of_hexDigit hhigh] at hnone
    exact absurd hnone (by simp)
  · rw [Text.digitValue?_of_hexDigit hlow] at hnone
    exact absurd hnone (by simp)

/-- Groups that spell some octets are a text in which these are written. -/
theorem written_join {groups : List (List Char)} {bs : List UInt8} (h : List.Forall₂ Spells groups bs)
    (hne : bs ≠ []) : Written (Text.join ':' groups) bs := by
  induction h with
  | nil => exact absurd rfl hne
  | @cons group b groups bs hgroup hothers ih =>
    obtain ⟨high, low, rfl, hpair⟩ := exists_pair_of_spells hgroup
    cases hothers with
    | nil => exact .last hpair
    | cons hnext hrest => exact .more hpair (ih (by simp))

/-- The groups of a text in which some octets are written are read as these. -/
theorem octets?_of_written {text : List Char} {bs : List UInt8} (h : Written text bs) :
    octets? (Text.fields ':' text) = some bs := by
  induction h with
  | last hpair =>
    rw [Text.fields_of_notMem (colon_notMem_of_pair hpair)]
    simp [octets?, octet?_of_pair hpair]
  | @more high low b text bs hpair hrest ih =>
    rw [show high :: low :: ':' :: text = [high, low] ++ ':' :: text from rfl,
      Text.fields_append_cons (colon_notMem_of_pair hpair)]
    simp [octets?, octet?_of_pair hpair, ih]

/-- **A text is read as an address if the octets of the address are written in it**, and not otherwise. -/
theorem ofText?_eq_some_iff {text : String} {a : Address} :
    ofText? text = some a ↔ Written text.toList a.octets := by
  constructor
  · intro ha
    obtain ⟨groups, htext, hgroups⟩ := spelledBy_of_ofText? ha
    rw [htext]
    refine written_join hgroups ?_
    rw [← List.length_pos_iff, a.length_octets]
    decide
  · intro hwritten
    rw [ofText?, octets?_of_written hwritten]
    exact ofOctets?_octets a

/-- The canonical text of an address: its octets are written in it, and it is in upper case. -/
structure Canonical (a : Address) (text : String) : Prop where
  written : Written text.toList a.octets
  upper : ∀ c ∈ text.toList, c.isLower = false

theorem canonical_text (a : Address) : a.Canonical a.text := by
  refine ⟨ofText?_eq_some_iff.mp a.ofText?_text, fun c hc => ?_⟩
  rw [text, String.toList_ofList] at hc
  rcases Text.mem_join hc with rfl | ⟨part, hpart, hmem⟩
  · decide
  · obtain ⟨b, -, rfl⟩ := List.mem_map.mp hpart
    have hdigits : octetText b =
        [Text.upperDigit (b.toNat / 16 % 16), Text.upperDigit (b.toNat % 16)] := rfl
    rw [hdigits, List.mem_cons, List.mem_singleton] at hmem
    rcases hmem with rfl | rfl
    · exact Text.isLower_upperDigit (Nat.mod_lt _ (by decide))
    · exact Text.isLower_upperDigit (Nat.mod_lt _ (by decide))

/-- The check of an address argument lets through what can be read. -/
theorem checkAddress_eq_ok_iff {text : String} {a : Address} :
    checkAddress text = .ok a ↔ ofText? text = some a := by
  unfold checkAddress
  cases ofText? text with
  | none => exact ⟨nofun, nofun⟩
  | some b => exact ⟨fun h => congrArg some (Except.ok.inj h), fun h => congrArg _ (Option.some.inj h)⟩

theorem mapError_checkAddress_eq_ok_iff {text : String} {a : Address} :
    (checkAddress text).mapError Refusal.fault = .ok a ↔ ofText? text = some a := by
  unfold checkAddress
  cases ofText? text with
  | none => exact ⟨nofun, nofun⟩
  | some b => exact ⟨fun h => congrArg some (Except.ok.inj h), fun h => congrArg _ (Option.some.inj h)⟩

/-- **Exactly the grammar is read.** A text is read as an address, by the reader and by the check of arguments,
    if the six octets of the address are written in it. Every other text is an invalid parameter. A group that
    passes the check is two digits, and the number they are then read as neither has a sign nor exceeds an
    octet: it is the one that the two digits stand for. -/
theorem reads_what_is_written (text : String) :
    (∀ a, ofText? text = some a ↔ Written text.toList a.octets) ∧
    (∀ a, (checkAddress text).mapError Refusal.fault = .ok a ↔ Written text.toList a.octets) ∧
    ((∀ a : Address, ¬ Written text.toList a.octets) →
      (checkAddress text).mapError Refusal.fault = .error .invalidParameter) ∧
    ∀ group, isPair group = true →
      ∃ high low b, group = [high, low] ∧ Pair high low b ∧ Text.octet? group = some b := by
  refine ⟨fun a => ofText?_eq_some_iff, fun a => ?_, fun hnone => ?_, fun group hgroup => ?_⟩
  · rw [mapError_checkAddress_eq_ok_iff, ofText?_eq_some_iff]
  · have hread : ofText? text = none :=
      Option.eq_none_iff_forall_ne_some.mpr fun a ha => hnone a (ofText?_eq_some_iff.mp ha)
    simp only [checkAddress, hread]
    rfl
  · obtain ⟨high, low, rfl, hhigh, hlow⟩ := isPair_iff.mp hgroup
    obtain ⟨h, hh⟩ := Option.isSome_iff_exists.mp hhigh
    obtain ⟨l, hl⟩ := Option.isSome_iff_exists.mp hlow
    have hhlt := Text.digitValue?_lt hh
    have hllt := Text.digitValue?_lt hl
    refine ⟨high, low, UInt8.ofNat (16 * h + l), rfl, ?_, Text.octet?_pair hh hl⟩
    refine ⟨h, l, Text.hexDigit_of_digitValue? hh, Text.hexDigit_of_digitValue? hl, ?_⟩
    rw [UInt8.toNat_ofNat']
    omega

/-- Letters are read in either case, and a sign is read as part of a number only. -/
theorem reads_what_is_written_signed :
    Written "aA:0f:00:10:99:Ff".toList [0xaa, 0x0f, 0x00, 0x10, 0x99, 0xff] ∧
      (checkAddress "+a:0f:00:10:99:ff").mapError Refusal.fault = .error .invalidParameter ∧
      Text.octet? ['+', 'a'] = some 0x0a ∧ isPair ['+', 'a'] = false ∧
      ∃ b, Pair 'a' 'A' b ∧ Text.octet? ['a', 'A'] = some b := by
  obtain ⟨hreads, -, -, hpairs⟩ := reads_what_is_written "aA:0f:00:10:99:Ff"
  obtain ⟨hsigned, -, hrefused, -⟩ := reads_what_is_written "+a:0f:00:10:99:ff"
  refine ⟨(hreads ⟨_, rfl⟩).mp rfl, hrefused fun a ha => ?_, by decide, by decide, ?_⟩
  · exact absurd ((hsigned a).mpr ha) (by simp [show ofText? "+a:0f:00:10:99:ff" = none from rfl])
  · obtain ⟨high, low, b, hgroup, hpair, hread⟩ := hpairs ['a', 'A'] (by decide)
    obtain ⟨rfl, hrest⟩ := List.cons.inj hgroup
    obtain rfl := (List.cons.inj hrest).1
    exact ⟨b, hpair, hread⟩

end Address

end BluetoothHost
