import BluetoothHost.Operation
import BluetoothHost.ServiceMask
import BluetoothHost.Vendor.Exchange

/-!
# `Reading` — finding something out

Most readings are one query whose answer is the reply. The visibility takes a second query if it
is limited. Bonded devices are read as records, which give a device or stop the reading.

## Contents
- `Value` and `Reply`: what an operation gives.
- `visitBonded`: the bonded devices in turn.
- `Reading.run`: a reading, with all that is seen of it.
-/

namespace BluetoothHost

/-! ## Replies -/

/-- The value an operation succeeds with. -/
inductive Value where
  | unit
  | flag (flag : Bool)
  | count (count : Nat)
  | descriptor (number : Int32)
  | text (text : String)
  | adapterState (state : AdapterState)
  | visibility (visibility : Visibility) (seconds : Int32)
  | device (device : Device)
  | services (mask : ServiceMask)

/-- What an operation replies: its result, and the bonded devices it visited on the way. -/
structure Reply where
  result : Except Fault Value
  visited : List Device := []

/-! ## Bonded devices -/

/-- Visits the devices of some records in turn, after those visited so far. It stops when
    `continues` does not hold any more, and fails at a record that gives no device. -/
def visitBonded (continues : List Device → Bool) (visited : List Device) :
    List DeviceRecord → Except Shortfall Unit × List Device
  | [] => (.ok (), visited)
  | r :: rest =>
    match Device.ofRecord r with
    | .error s => (.error s, visited)
    | .ok d =>
      let visited := visited ++ [d]
      if continues visited then visitBonded continues visited rest else (.ok (), visited)

/-! ## Readings -/

/-- The reply to a reading, the vendor afterwards, and what was seen. -/
abbrev ReadResult := Reply × Vendor × List Entry

/-- A query whose answer is the reply. -/
def readValue {α : Type} (operation : String) (q : Query α) (toValue : α → Value) (v : Vendor) :
    ReadResult :=
  let (result, after, trace) := inquire operation q v
  (⟨result.map toValue, []⟩, after, trace)

/-- The visibility; how long it lasts is asked only if it is limited. -/
def readVisibility (operation : String) (v : Vendor) : ReadResult :=
  match inquire operation .scanMode v with
  | (.error f, after, trace) => (⟨.error f, []⟩, after, trace)
  | (.ok .timeLimitedDiscoverable, after, trace) =>
    let (reply, final, more) :=
      readValue operation .scanTimeout (.visibility .limitedDiscoverable) after
    (reply, final, trace ++ more)
  | (.ok mode, after, trace) => (⟨.ok (.visibility mode.visibility 0), []⟩, after, trace)

/-- Visits the bonded devices. -/
def readEachBonded (operation : String) (continues : List Device → Bool) (v : Vendor) :
    ReadResult :=
  match inquire operation .bondedDevices v with
  | (.error f, after, trace) => (⟨.error f, []⟩, after, trace)
  | (.ok records, after, trace) =>
    match visitBonded continues [] records with
    | (.ok (), visited) => (⟨.ok .unit, visited⟩, after, trace)
    | (.error s, visited) =>
      (⟨.error s.fault, visited⟩, after, trace ++ [.notice (.shortfall s)])

/-- One bonded device. -/
def readBonded (operation : String) (address : Address) (v : Vendor) : ReadResult :=
  match inquire operation (.bondedDevice address) v with
  | (.error f, after, trace) => (⟨.error f, []⟩, after, trace)
  | (.ok record, after, trace) =>
    match Device.ofRecord record with
    | .ok d => (⟨.ok (.device d), []⟩, after, trace)
    | .error s => (⟨.error s.fault, []⟩, after, trace ++ [.notice (.shortfall s)])

/-- Finds something out by asking the vendor. -/
def Reading.run (operation : String) (v : Vendor) : Reading → ReadResult
  | .power => (⟨.ok (.adapterState v.power.adapterState), []⟩, v, [])
  | .address => readValue operation .localAddress (fun a => .text a.text) v
  | .name => readValue operation .localName .text v
  | .visibility => readVisibility operation v
  | .isDiscovering => readValue operation .isDiscovering .flag v
  | .eachBonded continues => readEachBonded operation continues v
  | .bonded target => readBonded operation target v
  | .isServiceUsed uuid => readValue operation (.isServiceUsed uuid) .flag v
  | .createSocket uuid => readValue operation (.createSocket uuid) .descriptor v
  | .write number octets => readValue operation (.write number octets) .count v

end BluetoothHost
