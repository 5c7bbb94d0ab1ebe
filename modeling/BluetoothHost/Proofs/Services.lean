import BluetoothHost.Proofs.Spelling
import BluetoothHost.ServiceMask
import Mathlib.Data.List.TakeWhile
import Mathlib.Data.Nat.Digits.Defs

/-!
# `Proofs.Services` — the services that UUIDs name

A UUID names a service class by its short form, which is read off the text in front of its first hyphen. That
text counts if it is a hexadecimal number of 32 bits (`hexadecimal_is_short_form`); and since a number may have
a sign, a text with one counts as well, though it is no run of digits (`signed_number_is_short_form`).

A mask has the bits that its UUIDs name and no others (`mask_is_union`), so that it depends neither on their
order nor on their number, and what names no known class leaves no trace in it.

## Contents
- `Text.Numeral`, with `value?_eq_some_iff` and `numberBelow?_eq_some_iff`: what is read as a number.
- `Front`, with `exists_front` and `shortForm?_eq_some_iff`: what is read as a short form.
- `hexadecimal_is_short_form`, `signed_number_is_short_form`.
- `Names`, with `getLsbD_ofUuids_iff`: the bits of a mask; `ofUuids_congr` and `ofUuids_and_eq_zero`.
- `mask_is_union`.
-/

namespace BluetoothHost

/-! ## Hexadecimal numbers -/

namespace Text

/-- A run of hexadecimal digits, at least one, stands for a number: that with these digits to the base of
    sixteen, the most significant one first. -/
def Numeral (cs : List Char) (n : Nat) : Prop :=
  cs ≠ [] ∧ ∃ vs, List.Forall₂ HexDigit cs vs ∧ n = Nat.ofDigits 16 vs.reverse

theorem ofDigits_reverse (vs : List Nat) :
    Nat.ofDigits 16 vs.reverse = vs.foldl (fun n v => 16 * n + v) 0 := by
  simp only [Nat.ofDigits_eq_foldr, List.foldr_reverse, Nat.cast_id, Nat.add_comm]

/-- Digits are read onto what is read already, each in turn. -/
theorem valueFrom?_eq_some_iff {start n : Nat} {cs : List Char} :
    valueFrom? start cs = some n ↔
      ∃ vs, List.Forall₂ HexDigit cs vs ∧ n = vs.foldl (fun n v => 16 * n + v) start := by
  induction cs generalizing start with
  | nil =>
    constructor
    · intro h
      exact ⟨[], .nil, (Option.some.inj h).symm⟩
    · rintro ⟨vs, hvs, rfl⟩
      cases hvs
      rfl
  | cons c cs ih =>
    constructor
    · intro h
      cases hv : digitValue? c with
      | none => simp [valueFrom?, hv] at h
      | some v =>
        simp only [valueFrom?, hv] at h
        obtain ⟨vs, hvs, hn⟩ := ih.1 h
        exact ⟨v :: vs, .cons (hexDigit_of_digitValue? hv) hvs, hn⟩
    · rintro ⟨vs, hvs, rfl⟩
      cases hvs with
      | cons hv hvs =>
        simp only [valueFrom?, digitValue?_of_hexDigit hv]
        exact ih.2 ⟨_, hvs, rfl⟩

/-- A run of digits is read as the number it stands for, and nothing else is read. -/
theorem value?_eq_some_iff {cs : List Char} {n : Nat} : value? cs = some n ↔ Numeral cs n := by
  unfold value? Numeral
  simp only [ofDigits_reverse]
  cases cs with
  | nil => simp
  | cons c cs => simpa using valueFrom?_eq_some_iff

/-- A sign is no digit. -/
theorem not_numeral_plus {cs : List Char} {n : Nat} : ¬ Numeral ('+' :: cs) n := by
  rintro ⟨-, vs, hvs, -⟩
  cases hvs with
  | cons hv _ =>
    have hnone : digitValue? '+' = none := by decide
    rw [digitValue?_of_hexDigit hv] at hnone
    exact absurd hnone nofun

/-- What is left of a text once a plus sign in front of it is taken away. -/
def unsigned (cs : List Char) : List Char := if cs.head? = some '+' then cs.tail else cs

theorem numberBelow?_eq (bound : Nat) (cs : List Char) :
    numberBelow? bound cs = (value? (unsigned cs)).filter fun n => n < bound := by
  match cs with
  | [] => rfl
  | c :: rest =>
    by_cases hc : c = '+'
    · subst hc
      cases hread : value? rest <;> simp [numberBelow?, unsigned, hread, Option.filter]
    · cases hread : value? (c :: rest) <;> simp [numberBelow?, unsigned, hc, hread, Option.filter]

/-- A number is read if it is below the bound, behind a plus sign as well as without one. -/
theorem numberBelow?_eq_some_iff {bound n : Nat} {cs : List Char} :
    numberBelow? bound cs = some n ↔ Numeral (unsigned cs) n ∧ n < bound := by
  rw [numberBelow?_eq, Option.filter_eq_some_iff, value?_eq_some_iff, decide_eq_true_eq]

end Text

/-! ## Short forms -/

namespace ServiceMask

/-- What stands in front of the first hyphen of a UUID: all of it, if there is none. -/
def Front (uuid : String) (front : List Char) : Prop :=
  '-' ∉ front ∧ (uuid.toList = front ∨ ∃ rest, uuid.toList = front ++ '-' :: rest)

theorem Front.takeWhile_eq {uuid : String} {front : List Char} (h : Front uuid front) :
    uuid.toList.takeWhile (· != '-') = front := by
  obtain ⟨hnone, hsplit⟩ := h
  have hall : ∀ c ∈ front, (c != '-') = true := by
    intro c hc
    rw [bne_iff_ne]
    rintro rfl
    exact hnone hc
  rcases hsplit with hsplit | ⟨rest, hsplit⟩
  · rw [hsplit, List.takeWhile_eq_self_iff.2 hall]
  · rw [hsplit, List.takeWhile_append_of_pos hall, List.takeWhile_cons_of_neg (by decide), List.append_nil]

theorem shortForm?_eq_some_iff {uuid : String} {front : List Char} (h : Front uuid front) {v : BitVec 16} :
    shortForm? uuid = some v ↔
      ∃ n, Text.Numeral (Text.unsigned front) n ∧ n < 0x100000000 ∧ v.toNat = n % 0x10000 := by
  rw [shortForm?, h.takeWhile_eq, Text.word?, Option.map_map, Option.map_eq_some_iff]
  constructor
  · rintro ⟨n, hn, rfl⟩
    obtain ⟨hnumeral, hbelow⟩ := Text.numberBelow?_eq_some_iff.1 hn
    refine ⟨n, hnumeral, hbelow, ?_⟩
    rw [Function.comp_apply, BitVec.toNat_setWidth, BitVec.toNat_ofNat]
    omega
  · rintro ⟨n, hnumeral, hbelow, hv⟩
    refine ⟨n, Text.numberBelow?_eq_some_iff.2 ⟨hnumeral, hbelow⟩, ?_⟩
    apply BitVec.eq_of_toNat_eq
    rw [Function.comp_apply, BitVec.toNat_setWidth, BitVec.toNat_ofNat]
    omega

theorem exists_front (uuid : String) : ∃ front, Front uuid front := by
  refine ⟨uuid.toList.takeWhile (· != '-'), ?_, ?_⟩
  · intro h
    exact absurd (List.mem_takeWhile_imp h) (by decide)
  · have hsplit := List.takeWhile_append_dropWhile (p := (· != '-')) (l := uuid.toList)
    cases hrest : uuid.toList.dropWhile (· != '-') with
    | nil =>
      rw [hrest, List.append_nil] at hsplit
      exact .inl hsplit.symm
    | cons c rest =>
      have hc : c = '-' := by
        have := List.head?_dropWhile_not (· != '-') uuid.toList
        rw [hrest] at this
        simpa using this
      rw [hrest, hc] at hsplit
      exact .inr ⟨rest, hsplit.symm⟩

theorem ofUuid_of_shortForm?_eq_none {uuid : String} (h : shortForm? uuid = none) : ofUuid uuid = 0 := by
  rw [ofUuid, h]

theorem ofUuids_insert_of_zero {uuid : String} (h : ofUuid uuid = 0) (before after : List String) :
    ofUuids (before ++ uuid :: after) = ofUuids (before ++ after) := by
  rw [ofUuids_append, ofUuids_append, ofUuids_cons, h, BitVec.ofNat_eq_ofNat, BitVec.zero_or]

/-- **Hexadecimal numbers are short forms.** The text in front of the first hyphen of a UUID is read if it is a
    hexadecimal number below two to the power of 32, and the short form is that number modulo two to the power of
    16. It is the text itself that is such a number, unless it begins with a plus sign; then it is what stands
    behind the sign. A UUID without a short form leaves no trace in a mask. -/
theorem hexadecimal_is_short_form (uuid : String) :
    ∃ front, Front uuid front ∧
      (∀ v : BitVec 16, shortForm? uuid = some v ↔
        ∃ n, Text.Numeral (Text.unsigned front) n ∧ n < 0x100000000 ∧ v.toNat = n % 0x10000) ∧
      (front.head? ≠ some '+' → ∀ v : BitVec 16, shortForm? uuid = some v ↔
        ∃ n, Text.Numeral front n ∧ n < 0x100000000 ∧ v.toNat = n % 0x10000) ∧
      (shortForm? uuid = none → ∀ before after,
        ofUuids (before ++ uuid :: after) = ofUuids (before ++ after)) := by
  obtain ⟨front, hfront⟩ := exists_front uuid
  refine ⟨front, hfront, fun v => shortForm?_eq_some_iff hfront, fun hsign v => ?_, fun hnone => ?_⟩
  · rw [shortForm?_eq_some_iff hfront, Text.unsigned, if_neg hsign]
  · exact ofUuids_insert_of_zero (ofUuid_of_shortForm?_eq_none hnone)

/-- The long form of a UUID has the low half of its first group as its short form, and a hyphen alone has
    none. -/
theorem hexadecimal_is_short_form_ofLong :
    (∃ n, Text.Numeral "ffff110A".toList n ∧ n < 0x100000000 ∧ (0x110a : BitVec 16).toNat = n % 0x10000) ∧
      ofUuids ["1101", "-", "110b"] = ofUuids ["1101", "110b"] := by
  obtain ⟨front, hfront, -, hplain, -⟩ := hexadecimal_is_short_form "ffff110A-0000"
  obtain ⟨-, -, -, -, hnone⟩ := hexadecimal_is_short_form "-"
  obtain rfl : front = "ffff110A".toList := hfront.takeWhile_eq.symm.trans (by decide)
  exact ⟨(hplain (by decide) 0x110a).1 (by decide), hnone (by decide) ["1101"] ["110b"]⟩

/-- A text with a sign is no run of digits, and yet it is read as a short form and counts for a mask. -/
theorem signed_number_is_short_form :
    Front "+1101" "+1101".toList ∧ (¬ ∃ n, Text.Numeral "+1101".toList n) ∧
      shortForm? "+1101" = some 0x1101 ∧ ofUuids ["+1101"] = 0x2 := by
  refine ⟨⟨by decide, .inl rfl⟩, ?_, by decide, by decide⟩
  rintro ⟨n, hn⟩
  exact Text.not_numeral_plus hn

/-! ## Masks -/

/-- A UUID names the service class of a bit: it has a short form, and that stands for the class. -/
def Names (uuid : String) (i : Nat) : Prop :=
  ∃ short, shortForm? uuid = some short ∧ (ofShortForm short).getLsbD i = true

/-- A UUID that names no known service class, or has no short form at all. -/
def NamesNone (uuid : String) : Prop :=
  ∀ short, shortForm? uuid = some short → ofShortForm short = 0

theorem getLsbD_ofUuid_iff {uuid : String} {i : Nat} : (ofUuid uuid).getLsbD i = true ↔ Names uuid i := by
  unfold ofUuid Names
  cases shortForm? uuid with
  | none => simp
  | some short => simp

/-- **A mask is the union of its members.** -/
theorem getLsbD_ofUuids_iff {uuids : List String} {i : Nat} :
    (ofUuids uuids).getLsbD i = true ↔ ∃ uuid ∈ uuids, Names uuid i := by
  induction uuids with
  | nil => simp
  | cons uuid rest ih =>
    rw [ofUuids_cons, BitVec.getLsbD_or, Bool.or_eq_true, getLsbD_ofUuid_iff, ih, List.exists_mem_cons_iff]

theorem not_names_of_namesNone {uuid : String} (h : NamesNone uuid) (i : Nat) : ¬ Names uuid i := by
  rintro ⟨short, hshort, hbit⟩
  rw [h short hshort] at hbit
  exact absurd hbit (by simp)

/-- Masks with the same members are the same. -/
theorem ofUuids_congr {first second : List String}
    (h : ∀ i, (∃ uuid ∈ first, Names uuid i) ↔ ∃ uuid ∈ second, Names uuid i) :
    ofUuids first = ofUuids second := by
  apply BitVec.eq_of_getLsbD_eq
  intro i _
  rw [Bool.eq_iff_iff, getLsbD_ofUuids_iff, getLsbD_ofUuids_iff, h i]

/-- A short form stands for one of the known service classes, which is not the reserved one, or for none. -/
theorem ofShortForm_mem_flags (short : BitVec 16) :
    ofShortForm short = 0 ∨ ∃ flag ∈ flags, flag.1 ≠ "RES" ∧ ofShortForm short = flag.2 := by
  unfold ofShortForm
  split <;> decide

/-- Bits that no short form stands for are in no mask. -/
theorem ofUuids_and_eq_zero {bits : BitVec 32} (h : ∀ short, ofShortForm short &&& bits = 0)
    (uuids : List String) : ofUuids uuids &&& bits = 0 := by
  apply BitVec.eq_of_getLsbD_eq
  intro i _
  rw [BitVec.getLsbD_and, BitVec.ofNat_eq_ofNat, BitVec.getLsbD_zero, Bool.and_eq_false_imp]
  intro hmask
  obtain ⟨uuid, -, short, -, hbit⟩ := getLsbD_ofUuids_iff.1 hmask
  have hand := congrArg (·.getLsbD i) (h short)
  simpa [hbit] using hand

/-- What holds of the service classes that are not reserved holds of those that short forms stand for. -/
theorem ofShortForm_and_eq_zero {bits : BitVec 32}
    (h : ∀ flag ∈ flags, flag.1 ≠ "RES" → flag.2 &&& bits = 0) (short : BitVec 16) :
    ofShortForm short &&& bits = 0 := by
  rcases ofShortForm_mem_flags short with hzero | ⟨flag, hflag, hname, hshort⟩
  · rw [hzero, BitVec.ofNat_eq_ofNat, BitVec.zero_and]
  · rw [hshort]
    exact h flag hflag hname

/-- **The mask of some UUIDs is the union of what they name.** A bit is set if the short form of one of them
    stands for it. So the mask of two lists together is that of both, and it is the same for lists that hold the
    same UUIDs, in whatever order and however often; UUIDs that have no short form or name no known class may be
    put in anywhere, and any others may add bits but take none away. The reserved class is in no mask, nor is a
    bit that is none of the known classes. -/
theorem mask_is_union :
    (∀ uuids i, (ofUuids uuids).getLsbD i = true ↔
      ∃ uuid ∈ uuids, ∃ short, shortForm? uuid = some short ∧ (ofShortForm short).getLsbD i = true) ∧
    (∀ first second, ofUuids (first ++ second) = ofUuids first ||| ofUuids second) ∧
    (∀ first second, (∀ uuid, uuid ∈ first ↔ uuid ∈ second) → ofUuids first = ofUuids second) ∧
    (∀ first second, first ⊆ second → (∀ uuid ∈ second, uuid ∉ first → NamesNone uuid) →
      ofUuids first = ofUuids second) ∧
    (∀ first second, first ⊆ second → ∀ i, (ofUuids first).getLsbD i = true →
      (ofUuids second).getLsbD i = true) ∧
    ∀ uuids, (∀ mask, ("RES", mask) ∈ flags → ofUuids uuids &&& mask = 0) ∧
      ofUuids uuids &&& ~~~known = 0 := by
  have hgrows : ∀ {first second : List String}, first ⊆ second → ∀ i,
      (∃ uuid ∈ first, Names uuid i) → ∃ uuid ∈ second, Names uuid i :=
    fun hsub i ⟨uuid, hmem, hnames⟩ => ⟨uuid, hsub hmem, hnames⟩
  refine ⟨fun uuids i => getLsbD_ofUuids_iff, ofUuids_append, fun first second h => ?_,
    fun first second hsub hnone => ?_, fun first second hsub i hbit => ?_, fun uuids => ⟨?_, ?_⟩⟩
  · exact ofUuids_congr fun i =>
      ⟨hgrows (fun uuid => (h uuid).1) i, hgrows (fun uuid => (h uuid).2) i⟩
  · refine ofUuids_congr fun i => ⟨hgrows hsub i, ?_⟩
    rintro ⟨uuid, hmem, hnames⟩
    by_cases hfirst : uuid ∈ first
    · exact ⟨uuid, hfirst, hnames⟩
    · exact absurd hnames (not_names_of_namesNone (hnone uuid hmem hfirst) i)
  · exact getLsbD_ofUuids_iff.2 (hgrows hsub i (getLsbD_ofUuids_iff.1 hbit))
  · intro mask hmask
    have hres : mask = 0x1 := by simpa [flags] using hmask
    subst hres
    exact ofUuids_and_eq_zero (ofShortForm_and_eq_zero (by decide)) uuids
  · exact ofUuids_and_eq_zero (ofShortForm_and_eq_zero (by decide)) uuids

/-- A list in another order, with a repetition, a text that is no UUID and a class that is not known. -/
theorem mask_is_union_cluttered :
    ofUuids ["1124", "110B-0000"] = ofUuids ["110B-0000", "1124"] ∧
      ofUuids ["1124", "110B-0000"] = ofUuids ["110B-0000", "garbage", "1124", "180f", "1124"] ∧
      (ofUuids ["garbage", "1124", "1101"]).getLsbD 21 = true := by
  obtain ⟨-, -, hsame, hclutter, hgrows, -⟩ := mask_is_union
  have hgarbage : shortForm? "garbage" = none := by decide
  have hunknown : shortForm? "180f" = some 0x180f := by decide
  refine ⟨hsame _ _ fun uuid => by simp [or_comm], hclutter _ _ (by decide) ?_, ?_⟩
  · intro uuid hmem hnew short hshort
    obtain rfl | rfl : uuid = "garbage" ∨ uuid = "180f" := by
      simp only [List.mem_cons, List.not_mem_nil, or_false, not_or] at hmem hnew
      tauto
    · rw [hgarbage] at hshort
      exact absurd hshort nofun
    · obtain rfl := Option.some.inj (hunknown.symm.trans hshort)
      decide
  · exact hgrows ["1124"] _ (by decide) 21 (by decide)

end ServiceMask

end BluetoothHost
