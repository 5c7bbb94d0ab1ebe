import BluetoothHost.Event
import BluetoothHost.Text.Quoted

/-!
# `Event.Shown` — events as log records show them

A log record names the source of an event, the event, and everything it carries. A value with
named fields is shown as its name and the fields in braces, lists stand in brackets, texts between
quotes.

## Contents
- `labelled`, `listed`, `applied`: the shapes all values are shown in.
- `DeviceRecord.shown` and its like for the other records; `Event.bare` and `Event.shown`.
-/

namespace BluetoothHost

namespace Shown

/-- A name and the values behind it, in parentheses. -/
def applied (name : String) (values : List String) : String :=
  name ++ "(" ++ ", ".intercalate values ++ ")"

/-- A name and the named fields behind it, in braces. -/
def labelled (name : String) (parts : List (String × String)) : String :=
  name ++ " \x7b " ++ ", ".intercalate (parts.map fun (label, value) => label ++ ": " ++ value) ++
    " \x7d"

/-- Values in brackets. -/
def listed (values : List String) : String := "[" ++ ", ".intercalate values ++ "]"

/-- Octets as a list of numbers. -/
def octetList (bs : List UInt8) : String := listed (bs.map fun b => Nat.repr b.toNat)

/-- A word as a number. -/
def word (w : BitVec 32) : String := Nat.repr w.toNat

/-- A socket descriptor as a number. -/
def descriptorNumber (d : Int32) : String := Int.repr d.toInt

/-- A truth value as a word. -/
def flag (b : Bool) : String := if b then "true" else "false"

end Shown

open Shown

/-- The class fields of a device. -/
def RawClass.shown (c : RawClass) : String :=
  labelled "BtDeviceClass" [("major_class", word c.major), ("minor_class", word c.minor),
    ("service_class", word c.service)]

/-- Everything a device record holds. -/
def DeviceRecord.shown (r : DeviceRecord) : String :=
  labelled "BtDeviceInfo" [("addr", r.address.text), ("name", octetList r.name),
    ("class", r.rawClass.shown), ("rssi", Int.repr r.rssi.toInt), ("paired", flag r.bonded),
    ("connected", flag r.connected), ("trust", flag r.trusted),
    ("service_index", Nat.repr r.serviceCount), ("uuids", listed (r.uuids.map Text.quoted)),
    ("manufacturer_data", octetList r.manufacturerData)]

/-- Everything a service record holds. -/
def ServiceRecord.shown (r : ServiceRecord) : String :=
  labelled "BtSdpInfo" [("device_addr", r.address.text),
    ("service_index", Nat.repr r.serviceCount), ("uuids", listed (r.uuids.map Text.quoted))]

/-- Everything a connection record holds. -/
def ConnectionRecord.shown (r : ConnectionRecord) : String :=
  labelled "BtRfcommConnection" [("socket_fd", descriptorNumber r.descriptor),
    ("device_role", Coded.name r.role), ("device_addr", r.address.text),
    ("uuid", Text.quoted r.uuid)]

/-- The socket and the octets that arrived on it. -/
def SocketData.shown (d : SocketData) : String :=
  labelled "BtRfcommReceivedData" [("socket_fd", descriptorNumber d.descriptor),
    ("buffer", octetList d.octets)]

/-- The socket and who asks to connect to it. -/
def ConnectionRequest.shown (r : ConnectionRequest) : String :=
  labelled "BtRfcommConnectionRequest" [("socket_fd", descriptorNumber r.descriptor),
    ("device_addr", r.address.text)]

namespace Event

/-- The name of an event and what it carries besides its status. -/
def parts : Event → String × List String
  | .adapterEnabled _ => ("AdapterEnabled", [])
  | .adapterDisabled _ => ("AdapterDisabled", [])
  | .nameChanged _ name => ("LocalNameChanged", [Text.quoted name])
  | .scanModeChanged _ mode => ("DiscoverableModeChanged", [Coded.name mode])
  | .discoveryStarted _ => ("DiscoveryStarted", [])
  | .discoveryFinished _ => ("DiscoveryFinished", [])
  | .deviceFound _ device => ("RemoteDeviceFound", [device.shown])
  | .bondingFinished _ device => ("BondingFinished", [device.shown])
  | .bondRemoved _ address => ("BondedDeviceRemoved", [address.text])
  | .deviceAuthorized _ address => ("DeviceAuthorized", [address.text])
  | .deviceUnauthorized _ address => ("DeviceUnauthorized", [address.text])
  | .servicesFound _ services => ("ServiceSearched", [services.shown])
  | .deviceConnected _ address => ("DeviceConnected", [address.text])
  | .deviceDisconnected _ address => ("DeviceDisconnected", [address.text])
  | .socketData _ data => ("RfcommDataReceived", [data.shown])
  | .socketConnected _ connection => ("RfcommConnected", [connection.shown])
  | .socketDisconnected _ connection => ("RfcommDisconnected", [connection.shown])
  | .connectionRequested _ request => ("RfcommConnectionRequested", [request.shown])
  | .hidConnection _ address state => ("ConnectionState", [address.text, Coded.name state])

/-- An event without the name of its source. -/
def bare (e : Event) : String := applied e.parts.1 (e.status.name :: e.parts.2)

/-- An event as log records show it, inside the name of its source. -/
def shown (e : Event) : String :=
  let source := match e.source with
    | .base => "Base"
    | .hidHost => "HidHost"
  applied source [e.bare]

end Event

end BluetoothHost
