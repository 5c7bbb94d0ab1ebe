import BluetoothHost.Coded

/-!
# `Link` — states of the links to remote devices

## Contents
- `Authorization`: whether a remote device may use local services without asking.
- `SocketRole` and `SocketState`: the local end of a socket connection, and whether it stands.
- `HidState`: the connection of an input device, with `HidState.settled?`.
-/

namespace BluetoothHost

/-- Whether a remote device may use local services without asking. -/
inductive Authorization where
  | authorized
  | unauthorized
  deriving DecidableEq, Inhabited

instance : Coded Authorization where
  values := [.authorized, .unauthorized]
  code | .authorized => 0 | .unauthorized => 1
  name | .authorized => "Authorized" | .unauthorized => "Unauthorized"

/-- Role of the local end of a socket connection. -/
inductive SocketRole where
  | unknown
  | server
  | client
  deriving DecidableEq, Inhabited

instance : Coded SocketRole where
  values := [.unknown, .server, .client]
  code | .unknown => 0 | .server => 1 | .client => 2
  name | .unknown => "Unknown" | .server => "Server" | .client => "Client"

/-- The role of a code; a code without one stands for `unknown`. -/
def SocketRole.ofCode (n : Int) : SocketRole := (Coded.ofCode? n).getD .unknown

/-- Whether a socket connection stands. -/
inductive SocketState where
  | connected
  | disconnected
  deriving DecidableEq, Inhabited

instance : Coded SocketState where
  values := [.connected, .disconnected]
  code | .connected => 0 | .disconnected => 1
  name | .connected => "Connected" | .disconnected => "Disconnected"

/-- State of the connection to an input device. -/
inductive HidState where
  | connected
  | connecting
  | disconnected
  | disconnecting
  | unknown
  deriving DecidableEq, Inhabited

instance : Coded HidState where
  values := [.connected, .connecting, .disconnected, .disconnecting, .unknown]
  code
    | .connected => 0
    | .connecting => 1
    | .disconnected => 2
    | .disconnecting => 3
    | .unknown => 0xff
  name
    | .connected => "Connected"
    | .connecting => "Connecting"
    | .disconnected => "Disconnected"
    | .disconnecting => "Disconnecting"
    | .unknown => "Unknown"

/-- The state of a code; a code without one stands for `unknown`. -/
def HidState.ofCode (n : Int) : HidState := (Coded.ofCode? n).getD .unknown

/-- Whether the device is connected, unless the state is a passing one. -/
def HidState.settled? : HidState → Option Bool
  | .connected => some true
  | .disconnected => some false
  | _ => none

end BluetoothHost
