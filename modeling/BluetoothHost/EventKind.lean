import BluetoothHost.Coded

/-!
# `EventKind` — the kinds of events an application can listen to

Each kind has one slot for a callback. The application fills and empties the slots itself, all but
that of `hidConnection`, which starting and stopping the HID host does.

## Contents
- `EventKind`, with names; `EventKind.all`.
- `SettableKind`: the kinds whose slot the application may fill.
-/

namespace BluetoothHost

/-- The kinds of events an application can listen to. -/
inductive EventKind where
  | adapterState
  | adapterName
  | visibility
  | discovery
  | bondCreated
  | bondDestroyed
  | authorization
  | servicesFound
  | deviceConnection
  | socketData
  | socketConnection
  | connectionRequest
  | hidConnection
  deriving DecidableEq, Inhabited

namespace EventKind

/-- The place and the name of a kind. -/
def entry : EventKind → Int × String
  | .adapterState => (0, "AdapterStateChanged")
  | .adapterName => (1, "AdapterNameChanged")
  | .visibility => (2, "AdapterVisibilityModeChanged")
  | .discovery => (3, "AdapterDeviceDiscoveryStateChanged")
  | .bondCreated => (4, "DeviceBondCreated")
  | .bondDestroyed => (5, "DeviceBondDestroyed")
  | .authorization => (6, "DeviceAuthorizationChanged")
  | .servicesFound => (7, "DeviceServiceSearched")
  | .deviceConnection => (8, "DeviceConnectionStateChanged")
  | .socketData => (9, "SocketDataReceived")
  | .socketConnection => (10, "SocketConnectionStateChanged")
  | .connectionRequest => (11, "SocketConnectionRequested")
  | .hidConnection => (12, "HidConnectionStateChanged")

/-- Every kind, in the order of its place. -/
def all : List EventKind :=
  [.adapterState, .adapterName, .visibility, .discovery, .bondCreated, .bondDestroyed,
    .authorization, .servicesFound, .deviceConnection, .socketData, .socketConnection,
    .connectionRequest, .hidConnection]

instance : Coded EventKind where
  values := all
  code k := k.entry.1
  name k := k.entry.2

theorem mem_all (k : EventKind) : k ∈ all := by cases k <;> decide

end EventKind

/-- A kind whose slot the application may fill. -/
abbrev SettableKind := { k : EventKind // k ≠ .hidConnection }

end BluetoothHost
