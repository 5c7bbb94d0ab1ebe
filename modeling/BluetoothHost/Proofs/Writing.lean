import BluetoothHost.Proofs.Spelling
import Mathlib

/-!
# `Proofs.Writing` — an address is written as it is read, in upper case

An address is written in one of the ways it may be read: that in upper case. Reading and writing are therefore
inverse up to the case of the letters (`Address.reading_undoes_writing`), since writing a digit is putting any
digit of its value in upper case (`Text.upperDigit_of_hexDigit`).

## Contents
- `Text.upperDigit_of_hexDigit`, `Address.text_of_ofText?`: what is read is written in upper case.
- `Address.text_injective`, `Text.map_toUpper_eq_iff`: texts tell addresses apart, but for the case of letters.
- `Address.reading_undoes_writing`.
-/

namespace BluetoothHost

/-! ## What is read is written in upper case -/

/-- A value is written as any of its digits in upper case. -/
theorem Text.upperDigit_of_hexDigit {c : Char} {v : Nat} (h : HexDigit c v) :
    upperDigit v = c.toUpper :=
  HexDigit.of_rows (P := fun c v => upperDigit v = c.toUpper) (by decide) (by decide) h

namespace Address

theorem octetText_of_pair {high low : Char} {b : UInt8} (hpair : Pair high low b) :
    octetText b = [high.toUpper, low.toUpper] := by
  obtain ⟨h, l, hhigh, hlow, hb⟩ := hpair
  have hdigits : octetText b =
      [Text.upperDigit (b.toNat / 16 % 16), Text.upperDigit (b.toNat % 16)] := rfl
  have hhlt := Text.digitValue?_lt (Text.digitValue?_of_hexDigit hhigh)
  have hllt := Text.digitValue?_lt (Text.digitValue?_of_hexDigit hlow)
  rw [hdigits, show b.toNat / 16 % 16 = h by omega, show b.toNat % 16 = l by omega,
    Text.upperDigit_of_hexDigit hhigh, Text.upperDigit_of_hexDigit hlow]

/-- Octets that are written in a text are written as that text in upper case. -/
theorem join_octetText_of_written {text : List Char} {bs : List UInt8} (h : Written text bs) :
    Text.join ':' (bs.map octetText) = text.map Char.toUpper := by
  induction h with
  | last hpair =>
    rw [List.map_singleton, octetText_of_pair hpair]
    rfl
  | @more high low b text bs hpair hrest ih =>
    have hcolon : Char.toUpper ':' = ':' := by decide
    have hjoin : Text.join ':' (octetText b :: bs.map octetText) =
        octetText b ++ ':' :: Text.join ':' (bs.map octetText) := by
      cases hrest <;> rfl
    rw [List.map_cons, hjoin, ih, octetText_of_pair hpair]
    simp [hcolon]

/-- **An address is written as any text it is read from, in upper case.** -/
theorem text_of_ofText? {s : String} {a : Address} (h : ofText? s = some a) :
    a.text = s.map Char.toUpper := by
  apply String.toList_injective
  rw [text, String.toList_ofList, String.toList_map]
  exact join_octetText_of_written (ofText?_eq_some_iff.mp h)

/-- No two addresses have one text. -/
theorem text_injective : Function.Injective text := by
  intro a b h
  have hread := a.ofText?_text
  rw [h, b.ofText?_text] at hread
  exact (Option.some.inj hread).symm

end Address

/-- Two texts that are the same in upper case differ at most in the case of ASCII letters. -/
theorem Text.map_toUpper_eq_iff {s t : String} :
    s.map Char.toUpper = t.map Char.toUpper ↔ sameIgnoringAsciiCase s t = true := by
  rw [sameIgnoringAsciiCase, beq_iff_eq, ← String.toList_inj, String.toList_map, String.toList_map]
  constructor
  · intro h
    have hlower := congrArg (List.map Char.toLower) h
    simpa [Function.comp_def] using hlower
  · intro h
    have hupper := congrArg (List.map Char.toUpper) h
    simpa [Function.comp_def] using hupper

namespace Address

/-- **Reading and writing an address are inverse up to the case of letters.** What is written reads back as the
    address, and what is read is written as the same text in upper case. So no two addresses have one text, and
    two texts that are read are read as one address if they differ at most in the case of letters. -/
theorem reading_undoes_writing :
    (∀ a : Address, checkAddress a.text = .ok a) ∧
    (∀ s a, checkAddress s = .ok a → a.text = s.map Char.toUpper) ∧
    Function.Injective text ∧
    ∀ s t a b, checkAddress s = .ok a → checkAddress t = .ok b →
      (a = b ↔ Text.sameIgnoringAsciiCase s t = true) := by
  have hwritten : ∀ s a, checkAddress s = .ok a → a.text = s.map Char.toUpper :=
    fun s a hs => text_of_ofText? (checkAddress_eq_ok_iff.mp hs)
  refine ⟨fun a => checkAddress_eq_ok_iff.mpr a.ofText?_text, hwritten, text_injective, ?_⟩
  intro s t a b hs ht
  rw [← text_injective.eq_iff, hwritten s a hs, hwritten t b ht, Text.map_toUpper_eq_iff]

/-- Two spellings of one address, which is written as neither. -/
theorem reading_undoes_writing_mixed :
    ∃ a, checkAddress "0a:1B:2c:3D:4e:5F" = .ok a ∧ checkAddress "0A:1b:2C:3d:4E:5f" = .ok a ∧
      a.text = "0A:1B:2C:3D:4E:5F" := by
  obtain ⟨-, hwritten, -, hsame⟩ := reading_undoes_writing
  obtain ⟨a, ha⟩ : ∃ a, checkAddress "0a:1B:2c:3D:4e:5F" = .ok a := ⟨_, rfl⟩
  obtain ⟨b, hb⟩ : ∃ b, checkAddress "0A:1b:2C:3d:4E:5f" = .ok b := ⟨_, rfl⟩
  obtain rfl := (hsame _ _ a b ha hb).mpr (by decide)
  refine ⟨a, ha, hb, ?_⟩
  rw [hwritten _ a ha, ← String.toList_inj, String.toList_map]
  decide

end Address

end BluetoothHost
