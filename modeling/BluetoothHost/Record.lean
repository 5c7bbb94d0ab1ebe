import BluetoothHost.Address
import BluetoothHost.DeviceClass
import BluetoothHost.Link

/-!
# `Record` — what the vendor reports about devices and sockets

Records come from the vendor as they are: names as padded octets, service UUIDs beside a count
that need not fit them.

## Contents
- `DeviceRecord`: a bonded or discovered device.
- `ServiceRecord`: the services found on a device.
- `ConnectionRecord`, `SocketData`, `ConnectionRequest`: what happens on sockets.
-/

namespace BluetoothHost

/-- A bonded or discovered device, as the vendor reports it. -/
structure DeviceRecord where
  address : Address := .zero
  /-- The name, filled up with zero octets. -/
  name : List UInt8 := []
  rawClass : RawClass := {}
  rssi : Int16 := 0
  bonded : Bool := false
  connected : Bool := false
  trusted : Bool := false
  /-- How many of the UUIDs are valid, by the vendor's count. -/
  serviceCount : Nat := 0
  uuids : List String := []
  manufacturerData : List UInt8 := []
  deriving DecidableEq, Inhabited

/-- The services found on a device, as the vendor reports them. -/
structure ServiceRecord where
  address : Address := .zero
  /-- How many of the UUIDs are valid, by the vendor's count. -/
  serviceCount : Nat := 0
  uuids : List String := []
  deriving DecidableEq, Inhabited

/-- A socket connection that was made or broken. -/
structure ConnectionRecord where
  descriptor : Int32
  role : SocketRole
  address : Address
  uuid : String
  deriving DecidableEq, Inhabited

/-- Octets that arrived on a socket. -/
structure SocketData where
  descriptor : Int32
  octets : List UInt8
  deriving DecidableEq, Inhabited

/-- A remote device asking to connect to a listening socket. -/
structure ConnectionRequest where
  descriptor : Int32
  address : Address
  deriving DecidableEq, Inhabited

end BluetoothHost
