import BluetoothHost.Payload
import Mathlib.Data.List.Basic

/-!
# `Proofs.Conversion` — three conversions, one count

A record of the vendor counts its services apart from the UUIDs it carries, and any count may stand there.
Three conversions meet such records: of a bonded device, of a device found, and of the services found on one.
They succeed or fail together, list the same UUIDs, and as many of them as the record counts, and none of them
looks at what lies behind (`conversions_agree`).

## Contents
- `DeviceRecord.services`: the record as a search for services would report it.
- `eq_of_take_eq_of_length_lt`, `validUuids_congr_take`: what lies behind the count does not matter.
- `DeviceRecord.Told`: what the three payloads say, with `DeviceRecord.told_of_le`.
- `DeviceRecord.conversions_agree`.
-/

namespace BluetoothHost

/-! ## What lies behind the count -/

/-- A list that ends before a place is all that comes before the place. -/
theorem eq_of_take_eq_of_length_lt {α : Type} {l m : List α} {n : Nat} (h : m.take n = l.take n)
    (hshort : l.length < n) : m = l := by
  rw [List.take_of_length_le (Nat.le_of_lt hshort)] at h
  have hlength := congrArg List.length h
  rw [List.length_take] at hlength
  rwa [List.take_of_length_le (by omega)] at h

/-- UUIDs that agree up to the count are converted alike. -/
theorem validUuids_congr_take {count : Nat} {uuids others : List String}
    (h : others.take count = uuids.take count) (address : Address) :
    validUuids address count others = validUuids address count uuids := by
  rcases Nat.lt_or_ge uuids.length count with hshort | hle
  · rw [eq_of_take_eq_of_length_lt h hshort]
  · have hlength := congrArg List.length h
    rw [List.length_take, List.length_take] at hlength
    rw [validUuids_of_le hle, validUuids_of_le (by omega), h]

namespace DeviceRecord

/-- The record of a device as a search for its services would report it. -/
def services (r : DeviceRecord) : ServiceRecord where
  address := r.address
  serviceCount := r.serviceCount
  uuids := r.uuids

/-! ## What the payloads say -/

/-- Three payloads tell of one record: of as many services as it counts, in the order of its UUIDs and each by
    its UUID in upper case, and all else alike. What is said of the device is as the record has it. -/
structure Told (r : DeviceRecord) (d : Device) (f : Discovery) (s : Services) : Prop where
  discoveryUuids : f.serviceUuids = d.serviceUuids
  servicesUuids : s.serviceUuids = d.serviceUuids
  length : d.serviceUuids.length = r.serviceCount
  deviceCount : d.serviceCount = r.serviceCount
  discoveryCount : f.serviceCount = r.serviceCount
  servicesCount : s.serviceCount = r.serviceCount
  /-- No service is missing, and none is read from behind the UUIDs. -/
  uuid : ∀ i < r.serviceCount, ∃ u, r.uuids[i]? = some u ∧ d.serviceUuids[i]? = some (Text.uppercase u)
  address : f.remoteAddress = d.remoteAddress
  servicesAddress : s.remoteAddress = d.remoteAddress
  name : f.remoteName = d.remoteName
  deviceClass : f.deviceClass = d.deviceClass
  isBonded : f.isBonded = d.isBonded
  manufacturerData : f.manufacturerData = d.manufacturerData
  bonded : d.isBonded = r.bonded
  connected : d.isConnected = r.connected
  trusted : d.isAuthorized = r.trusted
  data : d.manufacturerData = r.manufacturerData
  /-- The strength of the signal is the same number in a wider word. -/
  strength : f.rssi.toInt = r.rssi.toInt

/-- As many UUIDs as are counted are listed, each in upper case. -/
theorem exists_uuid_of_lt {r : DeviceRecord} (h : r.serviceCount ≤ r.uuids.length) {i : Nat}
    (hi : i < r.serviceCount) : ∃ u, r.uuids[i]? = some u ∧
      ((r.uuids.take r.serviceCount).map Text.uppercase)[i]? = some (Text.uppercase u) := by
  have hcarried : i < r.uuids.length := Nat.lt_of_lt_of_le hi h
  refine ⟨r.uuids[i], List.getElem?_eq_getElem hcarried, ?_⟩
  rw [List.getElem?_map, List.getElem?_take_of_lt hi, List.getElem?_eq_getElem hcarried]
  rfl

/-- A record that carries what it counts is told of by all three. -/
theorem told_of_le {r : DeviceRecord} (h : r.serviceCount ≤ r.uuids.length) :
    ∃ d f s, Device.ofRecord r = .ok d ∧ Discovery.ofRecord r = .ok f ∧
      Services.ofRecord r.services = .ok s ∧ r.Told d f s := by
  have hlength : ((r.uuids.take r.serviceCount).map Text.uppercase).length = r.serviceCount := by
    rw [List.length_map, List.length_take, Nat.min_eq_left h]
  refine ⟨_, _, _, Device.ofRecord_eq_ok_iff.mpr ⟨h, rfl⟩, Discovery.ofRecord_eq_ok_iff.mpr ⟨h, rfl⟩,
    Services.ofRecord_eq_ok_iff.mpr ⟨h, rfl⟩, ?_⟩
  constructor
  case length | deviceCount | discoveryCount | servicesCount => exact hlength
  case uuid => exact fun i hi => exists_uuid_of_lt h hi
  case strength => exact Int16.toInt_toInt32 r.rssi
  all_goals rfl

/-- **Three conversions agree.** If a record carries as many UUIDs as it counts, each of the three succeeds, and
    the payloads tell of the record alike; if not, each of them is a failed operation. What the record carries
    behind its count is looked at by none. -/
theorem conversions_agree (r : DeviceRecord) :
    (r.serviceCount ≤ r.uuids.length →
      ∃ d f s, Device.ofRecord r = .ok d ∧ Discovery.ofRecord r = .ok f ∧
        Services.ofRecord r.services = .ok s ∧ r.Told d f s) ∧
    (r.uuids.length < r.serviceCount →
      (Device.ofRecord r).mapError Shortfall.fault = .error .operationFailed ∧
      (Discovery.ofRecord r).mapError Shortfall.fault = .error .operationFailed ∧
      (Services.ofRecord r.services).mapError Shortfall.fault = .error .operationFailed) ∧
    ∀ others : List String, others.take r.serviceCount = r.uuids.take r.serviceCount →
      Device.ofRecord { r with uuids := others } = Device.ofRecord r ∧
      Discovery.ofRecord { r with uuids := others } = Discovery.ofRecord r ∧
      Services.ofRecord { r with uuids := others }.services = Services.ofRecord r.services := by
  refine ⟨told_of_le, fun hshort => ?_, fun others h => ?_⟩
  · have hnone := validUuids_of_lt hshort r.address
    refine ⟨?_, ?_, ?_⟩
    · rw [Device.ofRecord, hnone]
      rfl
    · rw [Discovery.ofRecord, hnone]
      rfl
    · rw [Services.ofRecord, services, hnone]
      rfl
  · have hsame := validUuids_congr_take h r.address
    refine ⟨?_, ?_, ?_⟩
    · rw [Device.ofRecord, Device.ofRecord, hsame]
      rfl
    · rw [Discovery.ofRecord, Discovery.ofRecord, hsame]
      rfl
    · rw [Services.ofRecord, Services.ofRecord, services, services, hsame]

/-- A record that counts one of its three UUIDs. -/
def modest : DeviceRecord where
  serviceCount := 1
  uuids := ["110b", "ignored", ""]

/-- A record whose count no list of UUIDs meets. -/
def boastful : DeviceRecord where
  serviceCount := 18446744073709551615
  uuids := ["110b"]

/-- The UUIDs behind the count may be left out, and a count that is too large fails everywhere. -/
theorem conversions_agree_modest :
    (∃ d f s, Device.ofRecord modest = .ok d ∧ Discovery.ofRecord modest = .ok f ∧
      Services.ofRecord modest.services = .ok s ∧ d.serviceUuids[0]? = some "110B" ∧
      d.serviceCount = 1 ∧ f.serviceCount = 1 ∧ s.serviceCount = 1) ∧
    Device.ofRecord { modest with uuids := ["110b"] } = Device.ofRecord modest ∧
    (Device.ofRecord boastful).mapError Shortfall.fault = .error .operationFailed := by
  obtain ⟨htold, -, hbehind⟩ := conversions_agree modest
  obtain ⟨-, hfails, -⟩ := conversions_agree boastful
  obtain ⟨d, f, s, hd, hf, hs, h⟩ := htold (by decide)
  obtain ⟨u, hu, hupper⟩ := h.uuid 0 (by decide)
  obtain rfl := Option.some.inj hu
  refine ⟨⟨d, f, s, hd, hf, hs, ?_, h.deviceCount, h.discoveryCount, h.servicesCount⟩,
    (hbehind ["110b"] (by decide)).1, (hfails (by decide)).1⟩
  rw [hupper]
  decide

end DeviceRecord

end BluetoothHost
