import BluetoothHost.Adapter
import BluetoothHost.Event
import BluetoothHost.Text.Uppercase

/-!
# `Vendor` — the stack that drives the hardware

The vendor stack takes two sorts of requests: commands, answered by a status alone, and queries,
answered by a value or by the status that explains why there is none. It is modelled by what its
answers depend on: the status it currently gives, the values it holds, and whether a dispatcher
for its events is installed. It keeps a record of the calls made to it, though not of every query.

## Contents
- `Command` and `Query`: the requests; `Call`: the requests it keeps a record of.
- `Vendor`, with `Vendor.verdict`, `Vendor.command` and `Vendor.ask`.
- `Vendor.Setting` and `Vendor.configure`: changes from outside.
-/

namespace BluetoothHost

/-! ## Requests -/

/-- A request answered by a status. -/
inductive Command where
  /-- Installs the dispatcher for base events. -/
  | register
  | unregister
  | enableAdapter
  | disableAdapter
  | setName (name : String)
  | setScanMode (mode : ScanMode) (timeout : Int32)
  | startDiscovery
  | cancelDiscovery
  | bond (address : Address)
  | cancelBonding
  | unbond (address : Address)
  | setAlias (address : Address) (nickname : String)
  | authorize (address : Address) (authorized : Bool)
  | searchServices (address : Address)
  | cancelServiceSearch
  | removeSocket (descriptor : Int32)
  /-- Waits for connections and takes them without asking. -/
  | listenAndAccept (descriptor backlog : Int32)
  /-- Waits for connections and asks about each one. -/
  | listen (descriptor backlog : Int32)
  | acceptConnection (descriptor : Int32)
  | rejectConnection (descriptor : Int32)
  | connectSocket (address : Address) (uuid : String)
  | disconnectSocket (descriptor : Int32)
  /-- Installs the dispatcher for events of input devices. -/
  | startHid
  | stopHid
  | connectHid (address : Address)
  | disconnectHid (address : Address)
  deriving DecidableEq

/-- A request answered by a value. -/
inductive Query : Type → Type where
  | localAddress : Query Address
  | localName : Query String
  | scanMode : Query ScanMode
  /-- The seconds a limited scan mode still lasts. -/
  | scanTimeout : Query Int32
  | isDiscovering : Query Bool
  | bondedDevices : Query (List DeviceRecord)
  | bondedDevice (address : Address) : Query DeviceRecord
  | isServiceUsed (uuid : String) : Query Bool
  /-- A new socket, named by its descriptor. -/
  | createSocket (uuid : String) : Query Int32
  /-- How many of the octets were written. -/
  | write (descriptor : Int32) (octets : List UInt8) : Query Nat

/-- A request the vendor keeps a record of. -/
inductive Call where
  | command (command : Command)
  | bondedDevices
  | bondedDevice (address : Address)
  | createSocket (uuid : String)
  | write (descriptor : Int32) (octets : List UInt8)
  deriving DecidableEq

/-- The record kept of a query, if one is kept. -/
def Query.calls {α : Type} : Query α → List Call
  | .bondedDevices => [.bondedDevices]
  | .bondedDevice address => [.bondedDevice address]
  | .createSocket uuid => [.createSocket uuid]
  | .write descriptor octets => [.write descriptor octets]
  | _ => []

/-! ## The stack -/

/-- What the answers of the vendor stack depend on. -/
structure Vendor where
  /-- What commands are answered with; queries fail with it, unless it is success. -/
  status : Status := .success
  /-- The status of a command that is answered apart from the others, if it is one. -/
  exception? : Command → Option Status := fun _ => none
  /-- If given, queries fail with this status before they reach the stack. -/
  barrier : Option Status := none
  power : Power := .off
  address : Address := .zero
  name : String := ""
  scanMode : ScanMode := .connectable
  scanTimeout : Int32 := 0
  isDiscovering : Bool := false
  bonded : List DeviceRecord := []
  usedServices : List String := []
  /-- The descriptor of the next socket. -/
  nextDescriptor : Int32 := 10
  /-- Whether a dispatcher for base events is installed. -/
  baseLinked : Bool := false
  /-- Whether a dispatcher for events of input devices is installed. -/
  hidLinked : Bool := false

namespace Vendor

/-- The stack after a command. Dispatchers come and go whatever status the command is given. -/
def linked (v : Vendor) : Command → Vendor
  | .register => { v with baseLinked := true }
  | .unregister => { v with baseLinked := false }
  | .startHid => { v with hidLinked := true }
  | .stopHid => { v with hidLinked := false }
  | _ => v

/-- The status that a command is answered with. -/
def verdict (v : Vendor) (c : Command) : Status := (v.exception? c).getD v.status

/-- Gives a command: the status it is answered with, and the stack afterwards. -/
def command (v : Vendor) (c : Command) : Status × Vendor := (v.verdict c, v.linked c)

/-- The value a query asks for. -/
def value {α : Type} (v : Vendor) : Query α → Except Status α
  | .localAddress => .ok v.address
  | .localName => .ok v.name
  | .scanMode => .ok v.scanMode
  | .scanTimeout => .ok v.scanTimeout
  | .isDiscovering => .ok v.isDiscovering
  | .bondedDevices => .ok v.bonded
  | .bondedDevice address =>
    match v.bonded.find? (·.address == address) with
    | some r => .ok r
    | none => .error .notPaired
  | .isServiceUsed uuid => .ok (v.usedServices.any (Text.sameIgnoringAsciiCase uuid))
  | .createSocket _ => .ok v.nextDescriptor
  | .write _ octets => .ok octets.length

/-- The stack after a query it answered. -/
def answered {α : Type} (v : Vendor) : Query α → Vendor
  | .createSocket _ => { v with nextDescriptor := v.nextDescriptor + 1 }
  | _ => v

/-- Asks a query: its answer, the stack afterwards, and the record kept. -/
def ask {α : Type} (v : Vendor) (q : Query α) : Except Status α × Vendor × List Call :=
  match v.barrier with
  | some s => (.error s, v, [])
  | none =>
    if v.status = .success then (v.value q, v.answered q, q.calls)
    else (.error v.status, v, q.calls)

/-- Whether events of a source are dispatched. -/
def isLinked (v : Vendor) : Source → Bool
  | .base => v.baseLinked
  | .hidHost => v.hidLinked

/-! ## Changes from outside -/

/-- A change of what the stack answers with. -/
inductive Setting where
  | status (status : Status)
  /-- Some commands are answered apart from the others. -/
  | exceptions (exception? : Command → Option Status)
  | barrier (status? : Option Status)
  | power (power : Power)
  | address (address : Address)
  | name (name : String)
  | scanMode (mode : ScanMode)
  | scanTimeout (seconds : Int32)
  | isDiscovering (flag : Bool)
  | bonded (devices : List DeviceRecord)
  | usedServices (uuids : List String)

/-- Makes one change. -/
def apply (v : Vendor) : Setting → Vendor
  | .status s => { v with status := s }
  | .exceptions exception? => { v with exception? := exception? }
  | .barrier s => { v with barrier := s }
  | .power p => { v with power := p }
  | .address a => { v with address := a }
  | .name n => { v with name := n }
  | .scanMode m => { v with scanMode := m }
  | .scanTimeout t => { v with scanTimeout := t }
  | .isDiscovering b => { v with isDiscovering := b }
  | .bonded devices => { v with bonded := devices }
  | .usedServices uuids => { v with usedServices := uuids }

/-- Makes some changes, one after the other. -/
def configure (v : Vendor) (settings : List Setting) : Vendor := settings.foldl apply v

/-- Changes from outside leave the dispatchers and the descriptors alone. -/
theorem configure_frame (v : Vendor) (settings : List Setting) :
    (v.configure settings).baseLinked = v.baseLinked ∧
      (v.configure settings).hidLinked = v.hidLinked ∧
      (v.configure settings).nextDescriptor = v.nextDescriptor := by
  induction settings generalizing v with
  | nil => exact ⟨rfl, rfl, rfl⟩
  | cons s rest ih =>
    obtain ⟨base, hid, next⟩ := ih (v.apply s)
    refine ⟨base.trans ?_, hid.trans ?_, next.trans ?_⟩ <;> cases s <;> rfl

end Vendor

end BluetoothHost
