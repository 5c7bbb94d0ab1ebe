import BluetoothHost.EventKind
import BluetoothHost.Payload
import BluetoothHost.Refusal
import BluetoothHost.Vendor

/-!
# `Operation` — what an application can ask for

An operation asks for something of the adapter, of a device, of a socket or of the HID host, or
registers a callback. It takes its arguments as an application has them, addresses as text. Most
of them need the stack to be up, some the HID host. Checking the arguments turns an operation into
a task, whose arguments are sound.

## Contents
- `Operation`, with the name it is known by and the `Condition` it needs.
- `Task` and `Reading`: what is left to do once the arguments are checked.
- `Operation.task`: the check, which looks at nothing but the arguments.
-/

namespace BluetoothHost

/-! ## Operations -/

/-- An operation that can fail. Callbacks are of a type `κ`. -/
inductive Operation (κ : Type) where
  | start
  | stop
  | enableAdapter
  | disableAdapter
  | adapterState
  | adapterAddress
  | adapterName
  | setAdapterName (name : String)
  | visibility
  | setVisibility (visibility : Visibility) (timeout : Int32)
  | startDiscovery
  | stopDiscovery
  | isDiscovering
  /-- Visits the bonded devices in turn, as long as `continues` holds of those visited so far. -/
  | eachBondedDevice (continues : List Device → Bool)
  | bondedDevice (address : String)
  | isServiceUsed (uuid : String)
  | createBond (address : String)
  | cancelBonding
  | destroyBond (address : String)
  | setAlias (address nickname : String)
  | setAuthorization (address : String) (authorization : Authorization)
  | startServiceSearch (address : String)
  | cancelServiceSearch
  | serviceMask (uuids : List String)
  | createSocket (uuid : String)
  | destroySocket (descriptor : Int32)
  | listenAndAccept (descriptor backlog : Int32)
  | listen (descriptor backlog : Int32)
  | acceptConnection (descriptor : Int32)
  | rejectConnection (descriptor : Int32)
  | connectSocket (address uuid : String)
  | disconnectSocket (descriptor : Int32)
  | sendData (descriptor : Int32) (octets : List UInt8)
  | startHidHost (callback : κ)
  | stopHidHost
  | connectHid (address : String)
  | disconnectHid (address : String)
  | setCallback (kind : SettableKind) (callback : κ)
  | unsetCallback (kind : SettableKind)

/-- The name an operation is known by, in log records too. -/
def Operation.name {κ : Type} : Operation κ → String
  | .start => "initialize"
  | .stop => "deinitialize"
  | .enableAdapter => "adapter_enable"
  | .disableAdapter => "adapter_disable"
  | .adapterState => "adapter_get_state"
  | .adapterAddress => "adapter_get_address"
  | .adapterName => "adapter_get_name"
  | .setAdapterName _ => "adapter_set_name"
  | .visibility => "adapter_get_visibility"
  | .setVisibility .. => "adapter_set_visibility"
  | .startDiscovery => "adapter_start_device_discovery"
  | .stopDiscovery => "adapter_stop_device_discovery"
  | .isDiscovering => "adapter_is_discovering"
  | .eachBondedDevice _ => "adapter_foreach_bonded_device"
  | .bondedDevice _ => "adapter_get_bonded_device_info"
  | .isServiceUsed _ => "adapter_is_service_used"
  | .createBond _ => "device_create_bond"
  | .cancelBonding => "device_cancel_bonding"
  | .destroyBond _ => "device_destroy_bond"
  | .setAlias .. => "device_set_alias"
  | .setAuthorization .. => "device_set_authorization"
  | .startServiceSearch _ => "device_start_service_search"
  | .cancelServiceSearch => "device_cancel_service_search"
  | .serviceMask _ => "device_get_service_mask_from_uuid_list"
  | .createSocket _ => "socket_create_rfcomm"
  | .destroySocket _ => "socket_destroy_rfcomm"
  | .listenAndAccept .. => "socket_listen_and_accept_rfcomm"
  | .listen .. => "socket_listen_rfcomm"
  | .acceptConnection _ => "socket_accept"
  | .rejectConnection _ => "socket_reject"
  | .connectSocket .. => "socket_connect_rfcomm"
  | .disconnectSocket _ => "socket_disconnect_rfcomm"
  | .sendData .. => "socket_send_data"
  | .startHidHost _ => "hid_host_initialize"
  | .stopHidHost => "hid_host_deinitialize"
  | .connectHid _ => "hid_host_connect"
  | .disconnectHid _ => "hid_host_disconnect"
  | .setCallback .. => "set_cb"
  | .unsetCallback _ => "unset_cb"

/-- What an operation needs to be up, or down. -/
inductive Condition where
  | always
  | started
  /-- The stack is up, and the HID host is too. -/
  | hidStarted
  /-- The stack is up, and the HID host is not. -/
  | hidStopped
  deriving DecidableEq

/-- What an operation needs. -/
def Operation.condition {κ : Type} : Operation κ → Condition
  | .start => .always
  | .startHidHost _ => .hidStopped
  | .stopHidHost | .connectHid _ | .disconnectHid _ => .hidStarted
  | _ => .started

/-! ## Tasks -/

/-- Something to find out, by asking the vendor. -/
inductive Reading where
  | power
  | address
  | name
  | visibility
  | isDiscovering
  | eachBonded (continues : List Device → Bool)
  | bonded (address : Address)
  | isServiceUsed (uuid : String)
  | createSocket (uuid : String)
  | write (descriptor : Int32) (octets : List UInt8)

/-- An operation whose arguments are sound. -/
inductive Task (κ : Type) where
  | start
  | stop
  | startHid (callback : κ)
  | stopHid
  | setCallback (kind : SettableKind) (callback : κ)
  | unsetCallback (kind : SettableKind)
  /-- Pass a command on. -/
  | command (command : Command)
  | read (reading : Reading)
  /-- Tell the service classes of some UUIDs, without the vendor. -/
  | serviceMask (uuids : List String)

/-! ## Checking the arguments -/

/-- The longest name of an adapter, in octets. -/
def maxNameLength : Nat := 248

/-- Reads an address argument. -/
def checkAddress (text : String) : Except Refusal Address :=
  match Address.ofText? text with
  | some a => .ok a
  | none => .error (.malformedAddress text)

/-- A socket descriptor is not negative. -/
def checkDescriptor (number : Int32) : Except Refusal Int32 :=
  if number < 0 then .error (.descriptor number) else .ok number

/-- A service UUID is not empty. -/
def checkUuid (uuid : String) : Except Refusal String :=
  if uuid.isEmpty then .error .emptyUuid else .ok uuid

/-- A name is neither empty nor too long. -/
def checkName (name : String) : Except Refusal String :=
  if name.utf8ByteSize = 0 ∨ maxNameLength < name.utf8ByteSize then
    .error (.nameLength name.utf8ByteSize)
  else .ok name

/-- The seconds a visibility lasts: those given, which are not negative, if it is limited, and
    none otherwise. -/
def checkTimeout (visibility : Visibility) (timeout : Int32) : Except Refusal Int32 :=
  match visibility with
  | .limitedDiscoverable =>
    if timeout < 0 then .error (.visibilityTimeout timeout) else .ok timeout
  | _ => .ok 0

/-- Checks the arguments of an operation. An address is checked before anything beside it. -/
def Operation.task {κ : Type} : Operation κ → Except Refusal (Task κ)
  | .start => .ok .start
  | .stop => .ok .stop
  | .enableAdapter => .ok (.command .enableAdapter)
  | .disableAdapter => .ok (.command .disableAdapter)
  | .adapterState => .ok (.read .power)
  | .adapterAddress => .ok (.read .address)
  | .adapterName => .ok (.read .name)
  | .setAdapterName name => do return .command (.setName (← checkName name))
  | .visibility => .ok (.read .visibility)
  | .setVisibility wanted timeout => do
    return .command (.setScanMode wanted.scanMode (← checkTimeout wanted timeout))
  | .startDiscovery => .ok (.command .startDiscovery)
  | .stopDiscovery => .ok (.command .cancelDiscovery)
  | .isDiscovering => .ok (.read .isDiscovering)
  | .eachBondedDevice continues => .ok (.read (.eachBonded continues))
  | .bondedDevice address => do return .read (.bonded (← checkAddress address))
  | .isServiceUsed uuid => do return .read (.isServiceUsed (← checkUuid uuid))
  | .createBond address => do return .command (.bond (← checkAddress address))
  | .cancelBonding => .ok (.command .cancelBonding)
  | .destroyBond address => do return .command (.unbond (← checkAddress address))
  | .setAlias address nickname => do
    return .command (.setAlias (← checkAddress address) nickname)
  | .setAuthorization address authorization => do
    return .command (.authorize (← checkAddress address) (authorization == .authorized))
  | .startServiceSearch address => do
    return .command (.searchServices (← checkAddress address))
  | .cancelServiceSearch => .ok (.command .cancelServiceSearch)
  | .serviceMask uuids =>
    if uuids.isEmpty then .error .emptyUuidList else .ok (.serviceMask uuids)
  | .createSocket uuid => do return .read (.createSocket (← checkUuid uuid))
  | .destroySocket number => do return .command (.removeSocket (← checkDescriptor number))
  | .listenAndAccept number backlog => do
    return .command (.listenAndAccept (← checkDescriptor number) backlog)
  | .listen number backlog => do return .command (.listen (← checkDescriptor number) backlog)
  | .acceptConnection number => do
    return .command (.acceptConnection (← checkDescriptor number))
  | .rejectConnection number => do
    return .command (.rejectConnection (← checkDescriptor number))
  | .connectSocket address uuid => do
    let address ← checkAddress address
    return .command (.connectSocket address (← checkUuid uuid))
  | .disconnectSocket number => do
    return .command (.disconnectSocket (← checkDescriptor number))
  | .sendData number octets => do return .read (.write (← checkDescriptor number) octets)
  | .startHidHost callback => .ok (.startHid callback)
  | .stopHidHost => .ok .stopHid
  | .connectHid address => do return .command (.connectHid (← checkAddress address))
  | .disconnectHid address => do return .command (.disconnectHid (← checkAddress address))
  | .setCallback kind callback => .ok (.setCallback kind callback)
  | .unsetCallback kind => .ok (.unsetCallback kind)

end BluetoothHost
