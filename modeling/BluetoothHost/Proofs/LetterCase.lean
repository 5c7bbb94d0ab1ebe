import BluetoothHost.Proofs.Conversion
import BluetoothHost.Proofs.Operations
import BluetoothHost.Proofs.Services
import Mathlib

/-!
# `Proofs.LetterCase` — the case of letters makes no difference to services

UUIDs come from the vendor in either case, and payloads carry them in upper case. Whoever asks for the services
of a device, or whether one is offered here, gets the same answer for both: a short form is read alike in either
case (`ServiceMask.shortForm?_congr`), and so is a UUID that the vendor looks up (`Vendor.ask_isServiceUsed_congr`).
The upper case of an ASCII text differs from it in the case of letters only (`Text.same_uppercase`), so that no
service is lost or gained by a conversion (`ServiceMask.conversion_keeps_services`).

Beyond ASCII this fails. The upper case of a ligature is the letters it is made of, and these may be digits.

## Contents
- `Text.toLower_congr`: what does not tell the cases of ASCII letters apart does not tell those of any apart.
- `Text.word?_map_toLower`, `ServiceMask.shortForm?_congr`, `ServiceMask.ofUuids_congr_of_same`.
- `Text.IsAscii`, with `Text.same_uppercase`.
- `Vendor.ask_isServiceUsed_congr`, `Host.perform_isServiceUsed_congr`.
- `ServiceMask.conversion_keeps_services`.
-/

namespace BluetoothHost

/-! ## Numbers in either case -/

namespace Text

/-- Whatever is the same for both cases of every ASCII letter is the same for both cases of every character: no
    other has a lower case. -/
theorem toLower_congr {α : Type} {f : Char → α}
    (h : ∀ n : Fin 0x80, f (Char.ofNat n).toLower = f (Char.ofNat n)) (c : Char) : f c.toLower = f c := by
  by_cases hc : c.toNat < 0x80
  · have hn := h ⟨c.toNat, hc⟩
    rwa [Char.ofNat_toNat] at hn
  · have hupper : ¬ c.isUpper = true := by
      intro hupper
      have hrange : c.val ≥ 'A'.val ∧ c.val ≤ 'Z'.val := by simpa [Char.isUpper] using hupper
      exact hc (Nat.lt_of_le_of_lt hrange.2 (by decide))
    rw [Char.toLower_eq_of_not_isUpper hupper]

theorem digitValue?_toLower (c : Char) : digitValue? c.toLower = digitValue? c :=
  toLower_congr (by decide) c

theorem valueFrom?_map_toLower (start : Nat) (cs : List Char) :
    valueFrom? start (cs.map Char.toLower) = valueFrom? start cs := by
  induction cs generalizing start with
  | nil => rfl
  | cons c rest ih =>
    rw [List.map_cons, valueFrom?, valueFrom?, digitValue?_toLower]
    cases digitValue? c with
    | none => rfl
    | some d => exact ih (16 * start + d)

/-- A sign is a sign in either case. -/
theorem unsigned_map_toLower (cs : List Char) :
    unsigned (cs.map Char.toLower) = (unsigned cs).map Char.toLower := by
  cases cs with
  | nil => rfl
  | cons c rest =>
    have hsign : (c.toLower = '+') = (c = '+') := toLower_congr (f := fun c => c = '+') (by decide) c
    unfold unsigned
    simp only [List.map_cons, List.head?_cons, Option.some.injEq, hsign, List.tail_cons]
    split
    · rfl
    · rfl

/-- **A number is read alike in either case.** -/
theorem word?_map_toLower (cs : List Char) : word? (cs.map Char.toLower) = word? cs := by
  rw [word?, word?, numberBelow?_eq, numberBelow?_eq, unsigned_map_toLower]
  unfold value?
  rw [valueFrom?_map_toLower, List.isEmpty_map]

/-- Texts that differ in the case of ASCII letters only are the same in lower case. -/
theorem same_iff {s t : String} :
    sameIgnoringAsciiCase s t = true ↔ s.toList.map Char.toLower = t.toList.map Char.toLower := by
  rw [sameIgnoringAsciiCase, beq_iff_eq]

/-! ## Upper case -/

/-- A text of ASCII characters. -/
def IsAscii (s : String) : Prop := ∀ c ∈ s.toList, c.toNat < 0x80

instance IsAscii.decidable (s : String) : Decidable (IsAscii s) := List.decidableBAll _ _

/-- The upper case of an ASCII text is that of its letters. -/
theorem toList_uppercase_of_isAscii {s : String} (h : IsAscii s) :
    (uppercase s).toList = s.toList.map Char.toUpper := by
  rw [uppercase, String.toList_ofList, List.map_eq_flatMap]
  exact List.flatMap_congr fun c hc => upper_ascii (h c hc)

/-- **An ASCII text and its upper case differ in the case of letters only.** -/
theorem same_uppercase {s : String} (h : IsAscii s) : sameIgnoringAsciiCase (uppercase s) s = true := by
  rw [same_iff, toList_uppercase_of_isAscii h, List.map_map]
  exact List.map_congr_left fun c _ => Char.toLower_toUpper_eq_toLower c

end Text

/-! ## Short forms and masks in either case -/

namespace ServiceMask

/-- **A short form is read alike in either case.** -/
theorem shortForm?_congr {s t : String} (h : Text.sameIgnoringAsciiCase s t = true) :
    shortForm? s = shortForm? t := by
  have hhyphen : (fun c : Char => c != '-') ∘ Char.toLower = fun c => c != '-' := by
    funext c
    exact Text.toLower_congr (f := fun c => c != '-') (by decide) c
  have hlower : ∀ u : String,
      shortForm? u = (Text.word? ((u.toList.map Char.toLower).takeWhile (· != '-'))).map (·.setWidth 16) := by
    intro u
    rw [List.takeWhile_map, hhyphen, Text.word?_map_toLower]
    rfl
  rw [hlower s, hlower t, Text.same_iff.mp h]

theorem ofUuid_congr {s t : String} (h : Text.sameIgnoringAsciiCase s t = true) : ofUuid s = ofUuid t := by
  rw [ofUuid, ofUuid, shortForm?_congr h]

/-- Lists that differ in the case of letters only name the same services. -/
theorem ofUuids_congr_of_same {first second : List String}
    (h : List.Forall₂ (fun s t => Text.sameIgnoringAsciiCase s t = true) first second) :
    ofUuids first = ofUuids second := by
  induction h with
  | nil => rfl
  | cons hsame _ ih => rw [ofUuids_cons, ofUuids_cons, ofUuid_congr hsame, ih]

/-- ASCII UUIDs in upper case name the services that they named before. -/
theorem ofUuids_map_uppercase {uuids : List String} (hascii : ∀ uuid ∈ uuids, Text.IsAscii uuid) :
    ofUuids (uuids.map Text.uppercase) = ofUuids uuids := by
  apply ofUuids_congr_of_same
  rw [List.forall₂_map_left_iff, List.forall₂_same]
  exact fun uuid huuid => Text.same_uppercase (hascii uuid huuid)

-- a ligature is no digit, but its upper case is two of them
example : ofUuids ["ﬀ1101"] = 0 ∧ ofUuids [Text.uppercase "ﬀ1101"] = 0x2 := by decide

end ServiceMask

/-! ## What the vendor looks up -/

/-- The vendor looks a UUID up in either case. -/
theorem Vendor.ask_isServiceUsed_congr {s t : String} (h : Text.sameIgnoringAsciiCase s t = true) (v : Vendor) :
    v.ask (.isServiceUsed s) = v.ask (.isServiceUsed t) := by
  have hsame : Text.sameIgnoringAsciiCase s = Text.sameIgnoringAsciiCase t := by
    funext u
    rw [Text.sameIgnoringAsciiCase, Text.sameIgnoringAsciiCase, Text.same_iff.mp h]
  have hvalue : v.value (.isServiceUsed s) = v.value (.isServiceUsed t) := by
    rw [value, value, hsame]
  unfold ask
  rw [hvalue]
  rfl

theorem Text.isEmpty_congr {s t : String} (h : sameIgnoringAsciiCase s t = true) : s.isEmpty = t.isEmpty := by
  have hlength := congrArg List.length (same_iff.mp h)
  rw [List.length_map, List.length_map, String.length_toList, String.length_toList] at hlength
  rw [Bool.eq_iff_iff, String.isEmpty_iff, String.isEmpty_iff, ← String.length_eq_zero_iff,
    ← String.length_eq_zero_iff, hlength]

section Lookup

variable {κ : Type}

theorem Operation.task_isServiceUsed (uuid : String) :
    (.isServiceUsed uuid : Operation κ).task =
      if uuid.isEmpty then .error .emptyUuid else .ok (.read (.isServiceUsed uuid)) := by
  show (checkUuid uuid >>= fun u => pure (Task.read (.isServiceUsed u))) = _
  unfold checkUuid
  cases uuid.isEmpty with
  | true => rfl
  | false => rfl

/-- **Whether a service is used is answered alike in either case**, to every host, by every vendor, and nothing
    else comes of asking that would differ. -/
theorem Host.perform_isServiceUsed_congr {s t : String} (h : Text.sameIgnoringAsciiCase s t = true)
    (host : Host κ) (number : Nat) (v : Vendor) :
    host.perform number (.isServiceUsed s) v = host.perform number (.isServiceUsed t) v := by
  have hread : ∀ operation,
      readValue operation (.isServiceUsed s) .flag v = readValue operation (.isServiceUsed t) .flag v := by
    intro operation
    unfold readValue inquire
    rw [Vendor.ask_isServiceUsed_congr h]
  have hcarry : ∀ operation, host.carryOut operation number v (.read (.isServiceUsed s)) =
      host.carryOut operation number v (.read (.isServiceUsed t)) := by
    intro operation
    unfold carryOut Reading.run
    dsimp only
    rw [hread]
  -- the host is asked first, then whether the text is empty, and both know of no case
  unfold perform check
  rw [Operation.task_isServiceUsed, Operation.task_isServiceUsed, Text.isEmpty_congr h]
  cases hcondition : host.checkCondition .started with
  | error refusal => simp only [Operation.condition, hcondition]
  | ok u =>
    simp only [Operation.condition, hcondition]
    cases t.isEmpty with
    | true => rfl
    | false => exact hcarry _

end Lookup

namespace ServiceMask

variable {κ : Type}

/-- **A conversion does not change the services.** The UUIDs that a payload lists name the services that the
    record names, as far as it counts them, if these are ASCII text; whichever of the three payloads it is. More
    generally, two lists name the same services if they differ in the case of letters only. And asking whether a
    service is used comes to the same for an ASCII UUID and for its upper case. -/
theorem conversion_keeps_services :
    (∀ r d, Device.ofRecord r = .ok d → (∀ uuid ∈ r.uuids.take r.serviceCount, Text.IsAscii uuid) →
      ofUuids d.serviceUuids = ofUuids (r.uuids.take r.serviceCount)) ∧
    (∀ r d, Discovery.ofRecord r = .ok d → (∀ uuid ∈ r.uuids.take r.serviceCount, Text.IsAscii uuid) →
      ofUuids d.serviceUuids = ofUuids (r.uuids.take r.serviceCount)) ∧
    (∀ r s, Services.ofRecord r = .ok s → (∀ uuid ∈ r.uuids.take r.serviceCount, Text.IsAscii uuid) →
      ofUuids s.serviceUuids = ofUuids (r.uuids.take r.serviceCount)) ∧
    (∀ first second, List.Forall₂ (fun s t => Text.sameIgnoringAsciiCase s t = true) first second →
      ofUuids first = ofUuids second) ∧
    ∀ (h : Host κ) (number : Nat) (v : Vendor) (uuid : String), Text.IsAscii uuid →
      h.perform number (.isServiceUsed (Text.uppercase uuid)) v = h.perform number (.isServiceUsed uuid) v := by
  refine ⟨fun r d hd hascii => ?_, fun r d hd hascii => ?_, fun r s hs hascii => ?_,
    fun first second => ofUuids_congr_of_same, fun h number v uuid hascii => ?_⟩
  · obtain ⟨-, rfl⟩ := Device.ofRecord_eq_ok_iff.mp hd
    exact ofUuids_map_uppercase hascii
  · obtain ⟨-, rfl⟩ := Discovery.ofRecord_eq_ok_iff.mp hd
    exact ofUuids_map_uppercase hascii
  · obtain ⟨-, rfl⟩ := Services.ofRecord_eq_ok_iff.mp hs
    exact ofUuids_map_uppercase hascii
  · exact h.perform_isServiceUsed_congr (Text.same_uppercase hascii) number v

/-- A record whose UUIDs are in lower case, in upper case and no UUID at all, with a ligature behind its count. -/
def mixedCase : DeviceRecord where
  serviceCount := 3
  uuids := ["0000110b-0000-1000-8000-00805f9b34fb", "111F", "not-a-uuid", "ﬀ1101"]

/-- What is listed of that record is in upper case and names the same two services, which are those of a headset
    and of audio; a service is used by either of its names. -/
theorem conversion_keeps_services_mixedCase :
    (∃ d f s, Device.ofRecord mixedCase = .ok d ∧ Discovery.ofRecord mixedCase = .ok f ∧
      Services.ofRecord mixedCase.services = .ok s ∧
      d.serviceUuids = ["0000110B-0000-1000-8000-00805F9B34FB", "111F", "NOT-A-UUID"] ∧
      ofUuids d.serviceUuids = ofUuids (mixedCase.uuids.take 3) ∧
      ofUuids f.serviceUuids = ofUuids (mixedCase.uuids.take 3) ∧
      ofUuids s.serviceUuids = ofUuids (mixedCase.uuids.take 3) ∧ ofUuids d.serviceUuids = 0x40040) ∧
    ofUuids ["110b", "x"] = ofUuids ["110B", "X"] ∧
    ∀ (h : Host Unit) (number : Nat) (v : Vendor),
      h.perform number (.isServiceUsed (Text.uppercase "110b")) v = h.perform number (.isServiceUsed "110b") v := by
  obtain ⟨hdevice, hdiscovery, hservices, hsame, hused⟩ := conversion_keeps_services (κ := Unit)
  have hascii : ∀ uuid ∈ mixedCase.uuids.take mixedCase.serviceCount, Text.IsAscii uuid := by decide
  have hkept := hdevice mixedCase _ rfl hascii
  refine ⟨⟨_, _, _, rfl, rfl, rfl, by decide, hkept, hdiscovery mixedCase _ rfl hascii,
    hservices mixedCase.services _ rfl hascii, hkept.trans (by decide)⟩, hsame _ _ ?_, fun h number v => ?_⟩
  · exact .cons (by decide) (.cons (by decide) .nil)
  · exact hused h number v "110b" (by decide)

end ServiceMask

end BluetoothHost
