import BluetoothHost.Text.Fields
import BluetoothHost.Text.Hex
import BluetoothHost.Text.Utf8

/-!
# `Address` — device addresses and their text

A device address is six octets, the most significant one first. Its text is the octets in two
hexadecimal digits each, between colons; it is read in either case and written in upper case.

## Contents
- `Address`: six octets; `Address.zero`.
- `Address.ofText?` reads a text, `Address.text` writes one.
- `isPair`: the check that a group of the text has to pass, with `isPair_iff`; `octet?_pair` and
  `exists_digits_of_octet?`: what a group is read as.
- `octet?_octetText` and `ofText?_text`: what is written reads back.
-/

namespace BluetoothHost

/-- The address of a device: six octets, the most significant one first. -/
structure Address where
  octets : List UInt8
  length_octets : octets.length = 6
  deriving DecidableEq

namespace Address

/-- The address whose octets are all zero. -/
def zero : Address := ⟨List.replicate 6 0, by decide⟩

instance : Inhabited Address := ⟨zero⟩

/-- The address with these octets, if they are six. -/
def ofOctets? (octets : List UInt8) : Option Address :=
  if h : octets.length = 6 then some ⟨octets, h⟩ else none

theorem ofOctets?_octets (a : Address) : ofOctets? a.octets = some a := by
  simp [ofOctets?, a.length_octets]

/-! ## Text -/

/-- An octet in two upper-case digits. -/
def octetText (b : UInt8) : List Char := Text.digits Text.upperDigit 2 b.toNat

/-- Whether a group is two octets long, each of them a hexadecimal digit. -/
def isPair (group : List Char) : Bool :=
  (Text.Utf8.encode group).length == 2 && (Text.Utf8.encode group).all Text.isHexOctet

/-- The octet that a group of exactly two digits stands for. The check comes first: a sign may stand
    before a number, but not in an address. -/
def octet? (group : List Char) : Option UInt8 :=
  if isPair group then Text.octet? group else none

/-- The octets of a text's groups, if every group stands for one. -/
def octets? : List (List Char) → Option (List UInt8)
  | [] => some []
  | group :: others =>
    match octet? group, octets? others with
    | some b, some bs => some (b :: bs)
    | _, _ => none

/-- Reads six groups of two digits between colons, in either case. -/
def ofText? (s : String) : Option Address := do
  ofOctets? (← octets? (Text.fields ':' s.toList))

/-- The text of an address: six groups of two upper-case digits between colons. -/
def text (a : Address) : String := String.ofList (Text.join ':' (a.octets.map octetText))

instance : ToString Address := ⟨text⟩

/-! ## Groups -/

/-- The groups that pass the check are those of two hexadecimal digits. -/
theorem isPair_iff {group : List Char} :
    isPair group = true ↔ ∃ high low, group = [high, low] ∧ Text.isHexDigit high = true ∧
      Text.isHexDigit low = true := by
  constructor
  · intro hpair
    obtain ⟨hlength, hall⟩ := Bool.and_eq_true_iff.mp hpair
    have hascii := Text.Utf8.ascii_of_encode fun b hb =>
      Text.ascii_of_isHexOctet (List.all_eq_true.mp hall b hb)
    rw [Text.Utf8.encode_of_ascii hascii] at hlength hall
    rw [beq_iff_eq, List.length_map] at hlength
    -- each octet is a character by itself, so there are two of these as well
    match group, hlength with
    | [high, low], _ =>
      simp only [List.map_cons, List.map_nil, List.all_cons, List.all_nil, Bool.and_true,
        Bool.and_eq_true, Text.isHexOctet_of_ascii (hascii high List.mem_cons_self),
        Text.isHexOctet_of_ascii (hascii low (List.mem_cons_of_mem _ List.mem_cons_self))] at hall
      exact ⟨high, low, rfl, hall.1, hall.2⟩
  · rintro ⟨high, low, rfl, hhigh, hlow⟩
    obtain ⟨h, hh⟩ := Option.isSome_iff_exists.mp hhigh
    obtain ⟨l, hl⟩ := Option.isSome_iff_exists.mp hlow
    have hascii : ∀ c ∈ [high, low], c.toNat < 0x80 := by
      simp only [List.forall_mem_cons, List.not_mem_nil, false_implies, implies_true, and_true]
      exact ⟨Text.ascii_of_digitValue? hh, Text.ascii_of_digitValue? hl⟩
    unfold isPair
    rw [Text.Utf8.encode_of_ascii hascii]
    simp [Text.isHexOctet_of_ascii (hascii high List.mem_cons_self), hhigh,
      Text.isHexOctet_of_ascii (hascii low (List.mem_cons_of_mem _ List.mem_cons_self)), hlow]

/-- A group of two digits is read as sixteen times the first and the second. -/
theorem octet?_pair {high low : Char} {h l : Nat} (hhigh : Text.digitValue? high = some h)
    (hlow : Text.digitValue? low = some l) :
    octet? [high, low] = some (UInt8.ofNat (16 * h + l)) := by
  have hpair : isPair [high, low] = true :=
    isPair_iff.mpr ⟨high, low, rfl, by simp [Text.isHexDigit, hhigh], by simp [Text.isHexDigit, hlow]⟩
  rw [octet?, if_pos hpair, Text.octet?_pair hhigh hlow]

/-- An octet is read from two digits, or not at all. -/
theorem exists_digits_of_octet? {group : List Char} {b : UInt8} (hb : octet? group = some b) :
    ∃ high low h l, group = [high, low] ∧ Text.digitValue? high = some h ∧
      Text.digitValue? low = some l ∧ b.toNat = 16 * h + l := by
  by_cases hpair : isPair group = true
  · obtain ⟨high, low, rfl, hhigh, hlow⟩ := isPair_iff.mp hpair
    obtain ⟨h, hh⟩ := Option.isSome_iff_exists.mp hhigh
    obtain ⟨l, hl⟩ := Option.isSome_iff_exists.mp hlow
    have hhlt := Text.digitValue?_lt hh
    have hllt := Text.digitValue?_lt hl
    rw [octet?_pair hh hl] at hb
    obtain rfl := Option.some.inj hb
    refine ⟨high, low, h, l, rfl, hh, hl, ?_⟩
    rw [UInt8.toNat_ofNat']
    omega
  · rw [octet?, if_neg hpair] at hb
    exact absurd hb (by simp)

/-! ## What is written reads back -/

theorem octet?_octetText (b : UInt8) : octet? (octetText b) = some b := by
  have small := b.toNat_lt
  have digits : octetText b =
      [Text.upperDigit (b.toNat / 16 % 16), Text.upperDigit (b.toNat % 16)] := rfl
  rw [digits, octet?_pair (Text.digitValue?_upperDigit (Nat.mod_lt _ (by decide)))
    (Text.digitValue?_upperDigit (Nat.mod_lt _ (by decide)))]
  have : 16 * (b.toNat / 16 % 16) + b.toNat % 16 = b.toNat := by omega
  simp [this]

theorem octets?_map_octetText (bs : List UInt8) : octets? (bs.map octetText) = some bs := by
  induction bs with
  | nil => rfl
  | cons b bs ih => simp [octets?, octet?_octetText, ih]

/-- A digit is no colon. -/
theorem upperDigit_ne_colon {n : Nat} (h : n < 16) : Text.upperDigit n ≠ ':' := by
  have : ∀ m : Fin 16, Text.upperDigit m ≠ ':' := by decide
  exact this ⟨n, h⟩

theorem colon_notMem_octetText (b : UInt8) : ':' ∉ octetText b := by
  have digits : octetText b =
      [Text.upperDigit (b.toNat / 16 % 16), Text.upperDigit (b.toNat % 16)] := rfl
  simp only [digits, List.mem_cons, List.not_mem_nil, or_false, not_or]
  exact ⟨(upperDigit_ne_colon (Nat.mod_lt _ (by decide))).symm,
    (upperDigit_ne_colon (Nat.mod_lt _ (by decide))).symm⟩

/-- The text of an address reads back as the address. -/
theorem ofText?_text (a : Address) : ofText? a.text = some a := by
  have ne : a.octets.map octetText ≠ [] := by
    intro h
    have := congrArg List.length h
    simp [a.length_octets] at this
  have apart : ∀ group ∈ a.octets.map octetText, ':' ∉ group := by
    intro group h
    obtain ⟨b, -, rfl⟩ := List.mem_map.1 h
    exact colon_notMem_octetText b
  simp [ofText?, text, Text.fields_join ne apart, octets?_map_octetText, ofOctets?_octets]

end Address

end BluetoothHost
