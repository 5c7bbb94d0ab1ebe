/-!
# `Text.Hex` — hexadecimal digits

Digits are read in either case and written in the case the format at hand asks for.

## Contents
- `digitValue?` reads one digit; `value?` reads a run of digits, most significant first.
- `numberBelow?` reads a number that may have a plus sign before it: `word?` one of 32 bits, the way
  short service identifiers are written, and `octet?` one of eight.
- `upperDigit` and `lowerDigit` write one digit; `digits` writes a number in a fixed number of them.
-/

namespace BluetoothHost.Text

/-! ## Reading -/

/-- The value of a hexadecimal digit, in either case. -/
def digitValue? (c : Char) : Option Nat :=
  if '0' ≤ c ∧ c ≤ '9' then some (c.toNat - '0'.toNat)
  else if 'a' ≤ c ∧ c ≤ 'f' then some (c.toNat - 'a'.toNat + 10)
  else if 'A' ≤ c ∧ c ≤ 'F' then some (c.toNat - 'A'.toNat + 10)
  else none

/-- A character that is one of `0`–`9`, `a`–`f`, `A`–`F`. -/
def isHexDigit (c : Char) : Bool := (digitValue? c).isSome

/-- An octet that is one of `0`–`9`, `a`–`f`, `A`–`F` in ASCII. -/
def isHexOctet (b : UInt8) : Bool :=
  (0x30 ≤ b && b ≤ 0x39) || (0x61 ≤ b && b ≤ 0x66) || (0x41 ≤ b && b ≤ 0x46)

/-- Reads digits onto a number already read; none if a character is no digit. -/
def valueFrom? (start : Nat) : List Char → Option Nat
  | [] => some start
  | c :: rest =>
    match digitValue? c with
    | some d => valueFrom? (16 * start + d) rest
    | none => none

/-- The number a non-empty run of digits stands for. -/
def value? (cs : List Char) : Option Nat :=
  if cs.isEmpty then none else valueFrom? 0 cs

/-- Reads a number below a bound. One plus sign may stand before the digits, leading zeros may
    follow it, and nothing else may. -/
def numberBelow? (bound : Nat) (cs : List Char) : Option Nat :=
  let run := match cs with
    | '+' :: rest => rest
    | _ => cs
  match value? run with
  | some n => if n < bound then some n else none
  | none => none

/-- Reads a 32-bit number. -/
def word? (cs : List Char) : Option (BitVec 32) :=
  (numberBelow? 0x100000000 cs).map (BitVec.ofNat 32)

/-- Reads an octet. -/
def octet? (cs : List Char) : Option UInt8 := (numberBelow? 0x100 cs).map UInt8.ofNat

/-! ## Writing -/

/-- The digit of a value below sixteen, in upper case. -/
def upperDigit (n : Nat) : Char :=
  if n < 10 then Char.ofNat ('0'.toNat + n) else Char.ofNat ('A'.toNat + (n - 10))

/-- The digit of a value below sixteen, in lower case. -/
def lowerDigit (n : Nat) : Char :=
  if n < 10 then Char.ofNat ('0'.toNat + n) else Char.ofNat ('a'.toNat + (n - 10))

/-- The lowest `width` digits of a number, most significant first. -/
def digits (digit : Nat → Char) : (width : Nat) → Nat → List Char
  | 0, _ => []
  | width + 1, n => digits digit width (n / 16) ++ [digit (n % 16)]

/-- A 32-bit word in eight lower-case digits. -/
def wordText (w : BitVec 32) : String := String.ofList (digits lowerDigit 8 w.toNat)

/-- A digit is worth less than sixteen. -/
theorem digitValue?_lt {c : Char} {d : Nat} (hd : digitValue? c = some d) : d < 16 := by
  have hzero : '0'.toNat = 48 := rfl
  have ha : 'a'.toNat = 97 := rfl
  have hA : 'A'.toNat = 65 := rfl
  unfold digitValue? at hd
  split at hd
  · rename_i hdigit
    have hle : c.toNat ≤ 57 := hdigit.2
    obtain rfl := Option.some.inj hd
    omega
  · split at hd
    · rename_i hlower
      have hle : c.toNat ≤ 102 := hlower.2
      obtain rfl := Option.some.inj hd
      omega
    · split at hd
      · rename_i hupper
        have hle : c.toNat ≤ 70 := hupper.2
        obtain rfl := Option.some.inj hd
        omega
      · exact absurd hd (by simp)

/-- A digit is an ASCII character. -/
theorem ascii_of_digitValue? {c : Char} {d : Nat} (hd : digitValue? c = some d) :
    c.toNat < 0x80 := by
  unfold digitValue? at hd
  split at hd
  · rename_i hdigit
    exact Nat.lt_of_le_of_lt hdigit.2 (by decide)
  · split at hd
    · rename_i hlower
      exact Nat.lt_of_le_of_lt hlower.2 (by decide)
    · split at hd
      · rename_i hupper
        exact Nat.lt_of_le_of_lt hupper.2 (by decide)
      · exact absurd hd (by simp)

/-- The octet of an ASCII character is a digit if the character is one. -/
theorem isHexOctet_of_ascii {c : Char} (h : c.toNat < 0x80) :
    isHexOctet (UInt8.ofNat c.toNat) = isHexDigit c := by
  have hall : ∀ m : Fin 0x80, isHexOctet (UInt8.ofNat m) = isHexDigit (Char.ofNat m) := by decide
  have hc := hall ⟨c.toNat, h⟩
  rwa [Char.ofNat_toNat] at hc

/-- An octet that is a digit is ASCII. -/
theorem ascii_of_isHexOctet {b : UInt8} (h : isHexOctet b = true) : b.toNat < 0x80 := by
  unfold isHexOctet at h
  simp only [Bool.or_eq_true, Bool.and_eq_true, decide_eq_true_eq, UInt8.le_iff_toNat_le] at h
  have h39 : (0x39 : UInt8).toNat = 0x39 := rfl
  have h66 : (0x66 : UInt8).toNat = 0x66 := rfl
  have h46 : (0x46 : UInt8).toNat = 0x46 := rfl
  omega

/-- Two digits are read as an octet, without a sign and without a carry. -/
theorem octet?_pair {high low : Char} {h l : Nat} (hhigh : digitValue? high = some h)
    (hlow : digitValue? low = some l) : octet? [high, low] = some (UInt8.ofNat (16 * h + l)) := by
  have hsign : high ≠ '+' := by
    rintro rfl
    have hnone : digitValue? '+' = none := by decide
    rw [hnone] at hhigh
    exact absurd hhigh (by simp)
  have hh := digitValue?_lt hhigh
  have hl := digitValue?_lt hlow
  have hvalue : value? [high, low] = some (16 * h + l) := by
    simp [value?, valueFrom?, hhigh, hlow]
  have hsmall : 16 * h + l < 0x100 := by omega
  unfold octet? numberBelow?
  split
  · rename_i rest heq
    exact absurd (List.cons.inj heq).1 hsign
  · simp [hvalue, hsmall]

/-- A digit written in upper case reads back as its value. -/
theorem digitValue?_upperDigit {n : Nat} (h : n < 16) : digitValue? (upperDigit n) = some n := by
  have : ∀ m : Fin 16, digitValue? (upperDigit m) = some m.val := by decide
  exact this ⟨n, h⟩

/-- A digit written in upper case is no lower-case letter. -/
theorem isLower_upperDigit {n : Nat} (hn : n < 16) : (upperDigit n).isLower = false := by
  have hall : ∀ m : Fin 16, (upperDigit m).isLower = false := by decide
  exact hall ⟨n, hn⟩

end BluetoothHost.Text
