import BluetoothHost.Adapter
import BluetoothHost.Record
import BluetoothHost.Status

/-!
# `Event` — what the vendor stack reports on its own

Requests to the vendor only start something; how it ends, and whatever else happens, arrives as
an event. Events of the adapter, of devices and of sockets come from one source, those of input
devices from another; each source has its own dispatcher, all post to the same queue.

## Contents
- `Event`, with `Event.source` and `Event.status`.
- `Source`: where an event comes from.
-/

namespace BluetoothHost

/-- The part of the vendor stack that an event comes from. -/
inductive Source where
  | base
  | hidHost
  deriving DecidableEq

/-- An event of the vendor stack. -/
inductive Event where
  | adapterEnabled (status : Status)
  | adapterDisabled (status : Status)
  | nameChanged (status : Status) (name : String)
  | scanModeChanged (status : Status) (mode : ScanMode)
  | discoveryStarted (status : Status)
  | discoveryFinished (status : Status)
  | deviceFound (status : Status) (device : DeviceRecord)
  | bondingFinished (status : Status) (device : DeviceRecord)
  | bondRemoved (status : Status) (address : Address)
  | deviceAuthorized (status : Status) (address : Address)
  | deviceUnauthorized (status : Status) (address : Address)
  | servicesFound (status : Status) (services : ServiceRecord)
  | deviceConnected (status : Status) (address : Address)
  | deviceDisconnected (status : Status) (address : Address)
  | socketData (status : Status) (data : SocketData)
  | socketConnected (status : Status) (connection : ConnectionRecord)
  | socketDisconnected (status : Status) (connection : ConnectionRecord)
  | connectionRequested (status : Status) (request : ConnectionRequest)
  | hidConnection (status : Status) (address : Address) (state : HidState)
  deriving DecidableEq

namespace Event

/-- The part of the vendor stack that an event comes from. -/
def source : Event → Source
  | .hidConnection .. => .hidHost
  | _ => .base

/-- The status an event carries. -/
def status : Event → Status
  | .adapterEnabled s | .adapterDisabled s | .nameChanged s _ | .scanModeChanged s _
  | .discoveryStarted s | .discoveryFinished s | .deviceFound s _ | .bondingFinished s _
  | .bondRemoved s _ | .deviceAuthorized s _ | .deviceUnauthorized s _ | .servicesFound s _
  | .deviceConnected s _ | .deviceDisconnected s _ | .socketData s _ | .socketConnected s _
  | .socketDisconnected s _ | .connectionRequested s _ | .hidConnection s _ _ => s

end Event

end BluetoothHost
