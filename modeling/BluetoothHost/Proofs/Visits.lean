import BluetoothHost.Reading
import Mathlib.Data.List.Forall2

/-!
# `Proofs.Visits` — bonded devices in turn

A visit goes through the records of bonded devices in order and hands the device of each to a callback, until the
callback has seen enough, a record is broken, or no record is left; which of these comes first may hang on all
that the callback has seen. `VisitEnds` sets the three ends out, and every visit comes to the one that its records
and its callback give it (`exists_visitEnds`).

## Contents
- `DeviceRecord.Gives` and `DeviceRecord.Broken`: a record describes a device, or none.
- `GoesOn` and `VisitEnds`; `visitBonded_append` and `exists_visitEnds`: a visit step by step.
- `ReachesBroken`, with `visitResult_eq_error_iff`: a visit fails just if it reaches a broken record.
-/

namespace BluetoothHost

/-! ## Records -/

namespace DeviceRecord

/-- A record gives a device: that is what it converts to. -/
def Gives (r : DeviceRecord) (d : Device) : Prop := Device.ofRecord r = .ok d

/-- A record that counts more services than it carries UUIDs. -/
def Broken (r : DeviceRecord) : Prop := r.uuids.length < r.serviceCount

theorem broken_of_ofRecord_eq_error {r : DeviceRecord} {s : Shortfall} (h : Device.ofRecord r = .error s) :
    r.Broken := by
  apply Nat.lt_of_not_le
  intro hle
  have hok := Device.ofRecord_eq_ok_iff.mpr ⟨hle, rfl⟩
  rw [h] at hok
  exact absurd hok nofun

theorem Broken.exists_error {r : DeviceRecord} (h : r.Broken) : ∃ s, Device.ofRecord r = .error s := by
  cases hr : Device.ofRecord r with
  | error s => exact ⟨s, rfl⟩
  | ok d => exact absurd h (Nat.not_lt.mpr (Device.ofRecord_eq_ok_iff.mp hr).1)

theorem Gives.remoteAddress_eq {r : DeviceRecord} {d : Device} (h : r.Gives d) :
    d.remoteAddress = r.address.text := by
  obtain ⟨-, rfl⟩ := Device.ofRecord_eq_ok_iff.mp h
  rfl

end DeviceRecord

/-! ## Visits -/

section Visits

variable {continues : List Device → Bool} {visited : List Device}

/-- A callback goes on behind each of some devices. It is asked behind one after the other, and answers from all
    that it has seen so far. -/
def GoesOn (continues : List Device → Bool) (visited : List Device) : Prop :=
  ∀ seen, seen ≠ [] → seen <+: visited → continues seen = true

theorem goesOn_nil : GoesOn continues [] := by
  intro seen hne hseen
  exact absurd (List.prefix_nil.mp hseen) hne

/-- It goes on behind the devices before the last one, and behind this. -/
theorem goesOn_concat {d : Device} :
    GoesOn continues (visited ++ [d]) ↔ GoesOn continues visited ∧ continues (visited ++ [d]) = true := by
  constructor
  · intro hon
    refine ⟨fun seen hne hseen => ?_, hon _ (by simp) (List.prefix_refl _)⟩
    exact hon seen hne (hseen.trans (List.prefix_append _ _))
  · rintro ⟨hon, hlast⟩ seen hne hseen
    rcases List.prefix_concat_iff.mp hseen with rfl | hbefore
    · exact hlast
    · exact hon seen hne hbefore

/-- How a visit ends that has come past some devices and has these records left: no record is left, or the
    callback has not gone on behind the last device, or the next record is broken. -/
inductive VisitEnds (continues : List Device → Bool) :
    List Device → List DeviceRecord → Except Fault Value → Prop
  | finished {visited : List Device} (goesOn : GoesOn continues visited) :
      VisitEnds continues visited [] (.ok .unit)
  | stopped {visited : List Device} {last : Device} {left : List DeviceRecord}
      (goesOn : GoesOn continues visited) (stops : continues (visited ++ [last]) = false) :
      VisitEnds continues (visited ++ [last]) left (.ok .unit)
  | failed {visited : List Device} {r : DeviceRecord} {left : List DeviceRecord}
      (goesOn : GoesOn continues visited) (broken : r.Broken) :
      VisitEnds continues visited (r :: left) (.error .operationFailed)

/-- A visit reaches a broken record: the records before one give devices, and the callback goes on behind each
    of these. -/
def ReachesBroken (continues : List Device → Bool) (records : List DeviceRecord) : Prop :=
  ∃ before r after devices, records = before ++ r :: after ∧ r.Broken ∧
    List.Forall₂ DeviceRecord.Gives before devices ∧ GoesOn continues devices

/-- What is replied to a visit that ends so. -/
def visitResult : Except Shortfall Unit → Except Fault Value
  | .ok () => .ok .unit
  | .error s => .error s.fault

theorem visitBonded_cons_of_gives {r : DeviceRecord} {d : Device} (h : r.Gives d) (rest : List DeviceRecord) :
    visitBonded continues visited (r :: rest) =
      if continues (visited ++ [d]) then visitBonded continues (visited ++ [d]) rest
      else (.ok (), visited ++ [d]) := by
  rw [visitBonded, show Device.ofRecord r = .ok d from h]

/-- As long as the callback goes on, a visit comes past the records that give devices. -/
theorem visitBonded_append {before : List DeviceRecord} {devices : List Device}
    (hgives : List.Forall₂ DeviceRecord.Gives before devices) (hon : GoesOn continues (visited ++ devices))
    (after : List DeviceRecord) :
    visitBonded continues visited (before ++ after) = visitBonded continues (visited ++ devices) after := by
  induction hgives generalizing visited with
  | nil => rw [List.nil_append, List.append_nil]
  | @cons r d before devices hr _ ih =>
    rw [List.append_cons] at hon
    have hnext : continues (visited ++ [d]) = true := hon _ (by simp) (List.prefix_append _ _)
    rw [List.cons_append, visitBonded_cons_of_gives hr, if_pos hnext, ih hon, ← List.append_cons]

/-- **A visit comes to one of its ends**, past devices that the first records give in turn. -/
theorem exists_visitEnds (hon : GoesOn continues visited) (records : List DeviceRecord) :
    ∃ seen left devices, records = seen ++ left ∧ List.Forall₂ DeviceRecord.Gives seen devices ∧
      (visitBonded continues visited records).2 = visited ++ devices ∧
      VisitEnds continues (visited ++ devices) left (visitResult (visitBonded continues visited records).1) := by
  induction records generalizing visited with
  | nil =>
    refine ⟨[], [], [], rfl, .nil, (List.append_nil _).symm, ?_⟩
    rw [List.append_nil]
    exact .finished hon
  | cons r rest ih =>
    cases hr : Device.ofRecord r with
    | error s =>
      have hvisit : visitBonded continues visited (r :: rest) = (.error s, visited) := by rw [visitBonded, hr]
      refine ⟨[], r :: rest, [], rfl, .nil, ?_, ?_⟩
      · rw [hvisit, List.append_nil]
      · rw [hvisit, List.append_nil]
        exact .failed hon (DeviceRecord.broken_of_ofRecord_eq_error hr)
    | ok d =>
      rw [visitBonded_cons_of_gives hr]
      by_cases hnext : continues (visited ++ [d]) = true
      · -- the visit goes on behind this device as it would behind any
        obtain ⟨seen, left, devices, rfl, hgives, hvisited, hends⟩ := ih (goesOn_concat.mpr ⟨hon, hnext⟩)
        rw [if_pos hnext]
        rw [← List.append_cons] at hvisited hends
        exact ⟨r :: seen, left, d :: devices, rfl, .cons hr hgives, hvisited, hends⟩
      · rw [if_neg hnext]
        exact ⟨[r], rest, [d], rfl, .cons hr .nil, rfl, .stopped hon (Bool.eq_false_iff.mpr hnext)⟩

/-- A visit succeeds or fails, without a closer reason. -/
theorem visitResult_cases (x : Except Shortfall Unit) :
    visitResult x = .ok .unit ∨ visitResult x = .error .operationFailed := by
  cases x with
  | ok u => exact .inl rfl
  | error s => exact .inr rfl

/-- **A visit fails just if it reaches a broken record.** -/
theorem visitResult_eq_error_iff {records : List DeviceRecord} :
    visitResult (visitBonded continues [] records).1 = .error .operationFailed ↔
      ReachesBroken continues records := by
  constructor
  · intro hfailed
    obtain ⟨seen, left, devices, hsplit, hgives, -, hends⟩ := exists_visitEnds goesOn_nil records
    rw [List.nil_append, hfailed] at hends
    cases hends with
    | failed hon hbroken => exact ⟨seen, _, _, devices, hsplit, hbroken, hgives, hon⟩
  · rintro ⟨before, r, after, devices, rfl, hbroken, hgives, hon⟩
    obtain ⟨s, hr⟩ := hbroken.exists_error
    rw [visitBonded_append hgives hon, visitBonded, hr]
    rfl

/-- A visit ends at the device that the callback does not go on behind, whatever the next record is. -/
theorem visitBonded_of_stops {before after : List DeviceRecord} {r : DeviceRecord} {devices : List Device}
    {d : Device} (hgives : List.Forall₂ DeviceRecord.Gives before devices) (hr : r.Gives d)
    (hon : GoesOn continues devices) (hstops : continues (devices ++ [d]) = false) :
    visitBonded continues [] (before ++ r :: after) = (.ok (), devices ++ [d]) := by
  rw [visitBonded_append hgives hon, List.nil_append, visitBonded_cons_of_gives hr, hstops]
  rfl

end Visits

end BluetoothHost
