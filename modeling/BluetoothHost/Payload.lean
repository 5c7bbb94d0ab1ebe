import BluetoothHost.Fault
import BluetoothHost.Record
import BluetoothHost.Text.Uppercase
import BluetoothHost.Text.Utf8

/-!
# `Payload` — what the public interface says about devices and sockets

Payloads are made from vendor records: addresses become text, names are decoded and UUIDs are put
in upper case. A record that counts more services than it carries UUIDs gives no payload.

## Contents
- `Shortfall`: a record with too few UUIDs; `shortfall?` and `validUuids`, which all conversions
  share.
- `Device`, `Discovery`, `Services`, with `ofRecord`.
- `SocketConnection`, with `ofRecord`.
- `ofRecord_eq_ok_iff`: for each conversion, when it succeeds, and with what.
-/

namespace BluetoothHost

/-! ## Service UUIDs -/

/-- A record counts more services than it carries UUIDs. -/
structure Shortfall where
  address : Address
  counted : Nat
  carried : Nat
  deriving DecidableEq

/-- Operations that meet such a record fail without a closer reason. -/
def Shortfall.fault (_ : Shortfall) : Fault := .operationFailed

/-- What is wrong with a record that counts so many services and carries these UUIDs, if
    anything is. -/
def shortfall? (address : Address) (count : Nat) (uuids : List String) : Option Shortfall :=
  if count ≤ uuids.length then none else some ⟨address, count, uuids.length⟩

/-- The first `count` UUIDs in upper case. -/
def validUuids (address : Address) (count : Nat) (uuids : List String) :
    Except Shortfall (List String) :=
  match shortfall? address count uuids with
  | none => .ok ((uuids.take count).map Text.uppercase)
  | some s => .error s

theorem validUuids_of_le {count : Nat} {uuids : List String} (h : count ≤ uuids.length)
    (address : Address) :
    validUuids address count uuids = .ok ((uuids.take count).map Text.uppercase) := by
  simp [validUuids, shortfall?, h]

theorem validUuids_of_lt {count : Nat} {uuids : List String} (h : uuids.length < count)
    (address : Address) :
    validUuids address count uuids = .error ⟨address, count, uuids.length⟩ := by
  simp [validUuids, shortfall?, Nat.not_le.2 h]

/-- What is made of the UUIDs of a record is made of those counted, if the record carries as many. -/
theorem validUuids_bind_eq_ok_iff {π : Type} (make : List String → π) {address : Address} {count : Nat}
    {uuids : List String} {payload : π} :
    (do return make (← validUuids address count uuids) : Except Shortfall π) = .ok payload ↔
      count ≤ uuids.length ∧ payload = make ((uuids.take count).map Text.uppercase) := by
  rcases Nat.lt_or_ge uuids.length count with h | h
  · simp [validUuids_of_lt h, Nat.not_le.2 h, bind, Except.bind]
  · simp [validUuids_of_le h, h, bind, Except.bind, pure, Except.pure, eq_comm]

/-! ## Devices -/

/-- A bonded device. -/
structure Device where
  remoteAddress : String
  remoteName : Option String
  deviceClass : DeviceClass
  serviceUuids : List String
  isBonded : Bool
  isConnected : Bool
  isAuthorized : Bool
  manufacturerData : List UInt8
  deriving DecidableEq

/-- A device found by discovery. -/
structure Discovery where
  remoteAddress : String
  remoteName : Option String
  deviceClass : DeviceClass
  rssi : Int32
  isBonded : Bool
  serviceUuids : List String
  manufacturerData : List UInt8
  deriving DecidableEq

/-- The services found on a device. -/
structure Services where
  remoteAddress : String
  serviceUuids : List String
  deriving DecidableEq

/-- The name of a device, if its text is not empty. -/
def DeviceRecord.remoteName (r : DeviceRecord) : Option String :=
  let name := Text.Utf8.padded r.name
  if name.isEmpty then none else some name

/-- The bonded device a record describes. -/
def Device.ofRecord (r : DeviceRecord) : Except Shortfall Device := do
  let uuids ← validUuids r.address r.serviceCount r.uuids
  return {
    remoteAddress := r.address.text
    remoteName := r.remoteName
    deviceClass := r.rawClass.deviceClass
    serviceUuids := uuids
    isBonded := r.bonded
    isConnected := r.connected
    isAuthorized := r.trusted
    manufacturerData := r.manufacturerData }

/-- The discovered device a record describes. -/
def Discovery.ofRecord (r : DeviceRecord) : Except Shortfall Discovery := do
  let uuids ← validUuids r.address r.serviceCount r.uuids
  return {
    remoteAddress := r.address.text
    remoteName := r.remoteName
    deviceClass := r.rawClass.deviceClass
    rssi := r.rssi.toInt32
    isBonded := r.bonded
    serviceUuids := uuids
    manufacturerData := r.manufacturerData }

/-- The services a record describes. -/
def Services.ofRecord (r : ServiceRecord) : Except Shortfall Services := do
  let uuids ← validUuids r.address r.serviceCount r.uuids
  return { remoteAddress := r.address.text, serviceUuids := uuids }

/-- How many services a device offers. -/
def Device.serviceCount (d : Device) : Nat := d.serviceUuids.length

/-- How many services a discovered device offers. -/
def Discovery.serviceCount (d : Discovery) : Nat := d.serviceUuids.length

/-- How many services were found. -/
def Services.serviceCount (s : Services) : Nat := s.serviceUuids.length

/-- A record that carries what it counts describes this device, and any other record none. -/
theorem Device.ofRecord_eq_ok_iff {r : DeviceRecord} {d : Device} :
    Device.ofRecord r = .ok d ↔ r.serviceCount ≤ r.uuids.length ∧
      d = {
        remoteAddress := r.address.text
        remoteName := r.remoteName
        deviceClass := r.rawClass.deviceClass
        serviceUuids := (r.uuids.take r.serviceCount).map Text.uppercase
        isBonded := r.bonded
        isConnected := r.connected
        isAuthorized := r.trusted
        manufacturerData := r.manufacturerData } :=
  validUuids_bind_eq_ok_iff _

theorem Discovery.ofRecord_eq_ok_iff {r : DeviceRecord} {d : Discovery} :
    Discovery.ofRecord r = .ok d ↔ r.serviceCount ≤ r.uuids.length ∧
      d = {
        remoteAddress := r.address.text
        remoteName := r.remoteName
        deviceClass := r.rawClass.deviceClass
        rssi := r.rssi.toInt32
        isBonded := r.bonded
        serviceUuids := (r.uuids.take r.serviceCount).map Text.uppercase
        manufacturerData := r.manufacturerData } :=
  validUuids_bind_eq_ok_iff _

theorem Services.ofRecord_eq_ok_iff {r : ServiceRecord} {s : Services} :
    Services.ofRecord r = .ok s ↔ r.serviceCount ≤ r.uuids.length ∧
      s = {
        remoteAddress := r.address.text
        serviceUuids := (r.uuids.take r.serviceCount).map Text.uppercase } :=
  validUuids_bind_eq_ok_iff _

/-! ## Sockets -/

/-- A socket connection that was made or broken. -/
structure SocketConnection where
  descriptor : Int32
  localRole : SocketRole
  remoteAddress : String
  serviceUuid : String
  deriving DecidableEq

/-- The connection a record describes. -/
def SocketConnection.ofRecord (r : ConnectionRecord) : SocketConnection where
  descriptor := r.descriptor
  localRole := r.role
  remoteAddress := r.address.text
  serviceUuid := r.uuid

end BluetoothHost
