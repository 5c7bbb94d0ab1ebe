import BluetoothHost.Event
import BluetoothHost.EventKind
import BluetoothHost.Payload

/-!
# `Arguments` — what a callback learns of an event

Every event belongs to the slot of one kind, and the callback in it gets the event in the words of
the public interface: the status as an outcome, addresses as text, records as payloads. Two sorts
of events are not reported at all: socket data that arrived with a failure, and passing states of
an input device.

Events are sorted out at three desks, each of which takes its own events to their slots and no
others: an event handed to the wrong one would get lost. None is (`slot?_desk`).

## Contents
- `Arguments`: one constructor per kind, with `Arguments.kind`.
- `Event.kind`, `Event.isReported`: where an event goes, and whether it goes there.
- `Desk`, `Event.desk` and `Desk.slot?`: how it gets there, with `Desk.slot?_eq_some_iff` and
  `Event.slot?_desk`.
- `Event.arguments`, with `kind_arguments`: what the callback gets fits the slot.
- `Event.shortfall?`: the record of an event that gives no payload.
-/

namespace BluetoothHost

/-- What a callback is called with. -/
inductive Arguments where
  | adapterState (outcome : Outcome) (state : AdapterState)
  | adapterName (name : String)
  | visibility (outcome : Outcome) (visibility : Visibility)
  | discovery (outcome : Outcome) (phase : DiscoveryPhase) (device? : Option Discovery)
  | bondCreated (outcome : Outcome) (device? : Option Device)
  | bondDestroyed (outcome : Outcome) (address : String)
  | authorization (authorization : Authorization) (address : String)
  | servicesFound (outcome : Outcome) (services? : Option Services)
  | deviceConnection (connected : Bool) (address : String)
  | socketData (data : SocketData)
  | socketConnection (outcome : Outcome) (state : SocketState)
      (connection? : Option SocketConnection)
  | connectionRequest (descriptor : Int32) (address : String)
  | hidConnection (outcome : Outcome) (connected : Bool) (address : String)

/-- The kind of callback that takes these arguments. -/
def Arguments.kind : Arguments → EventKind
  | .adapterState .. => .adapterState
  | .adapterName .. => .adapterName
  | .visibility .. => .visibility
  | .discovery .. => .discovery
  | .bondCreated .. => .bondCreated
  | .bondDestroyed .. => .bondDestroyed
  | .authorization .. => .authorization
  | .servicesFound .. => .servicesFound
  | .deviceConnection .. => .deviceConnection
  | .socketData .. => .socketData
  | .socketConnection .. => .socketConnection
  | .connectionRequest .. => .connectionRequest
  | .hidConnection .. => .hidConnection

namespace Event

/-! ## Where an event goes -/

/-- The kind of callback that an event belongs to. -/
def kind : Event → EventKind
  | .adapterEnabled .. | .adapterDisabled .. => .adapterState
  | .nameChanged .. => .adapterName
  | .scanModeChanged .. => .visibility
  | .discoveryStarted .. | .discoveryFinished .. | .deviceFound .. => .discovery
  | .bondingFinished .. => .bondCreated
  | .bondRemoved .. => .bondDestroyed
  | .deviceAuthorized .. | .deviceUnauthorized .. => .authorization
  | .servicesFound .. => .servicesFound
  | .deviceConnected .. | .deviceDisconnected .. => .deviceConnection
  | .socketData .. => .socketData
  | .socketConnected .. | .socketDisconnected .. => .socketConnection
  | .connectionRequested .. => .connectionRequest
  | .hidConnection .. => .hidConnection

/-- Whether a callback gets to know of an event. Socket data that arrived with a failure and
    passing states of an input device stay behind. -/
def isReported : Event → Bool
  | .socketData status _ => status == .success
  | .hidConnection _ _ state => state.settled?.isSome
  | _ => true

end Event

/-- A place where events are sorted out. -/
inductive Desk where
  | adapter
  | socket
  | hidHost
  deriving DecidableEq

/-- The desk that an event is handed to. What the adapter's desk is to take is not listed: it gets
    all that is left. -/
def Event.desk (e : Event) : Desk :=
  match e.source with
  | .hidHost => .hidHost
  | .base =>
    match e with
    | .socketData .. | .socketConnected .. | .socketDisconnected .. | .connectionRequested .. =>
      .socket
    | _ => .adapter

namespace Desk

/-- The slot that a desk takes an event to. A desk that does not know an event takes it nowhere. -/
def slot? : Desk → Event → Option EventKind
  | .adapter, .adapterEnabled .. => some .adapterState
  | .adapter, .adapterDisabled .. => some .adapterState
  | .adapter, .nameChanged .. => some .adapterName
  | .adapter, .scanModeChanged .. => some .visibility
  | .adapter, .discoveryStarted .. => some .discovery
  | .adapter, .discoveryFinished .. => some .discovery
  | .adapter, .deviceFound .. => some .discovery
  | .adapter, .bondingFinished .. => some .bondCreated
  | .adapter, .bondRemoved .. => some .bondDestroyed
  | .adapter, .deviceAuthorized .. => some .authorization
  | .adapter, .deviceUnauthorized .. => some .authorization
  | .adapter, .servicesFound .. => some .servicesFound
  | .adapter, .deviceConnected .. => some .deviceConnection
  | .adapter, .deviceDisconnected .. => some .deviceConnection
  | .socket, .socketData .. => some .socketData
  | .socket, .socketConnected .. => some .socketConnection
  | .socket, .socketDisconnected .. => some .socketConnection
  | .socket, .connectionRequested .. => some .connectionRequest
  | .hidHost, .hidConnection .. => some .hidConnection
  | _, _ => none

/-- A desk takes the events handed to it, each to the slot of its kind, and no others. -/
theorem slot?_eq_some_iff (d : Desk) (e : Event) (k : EventKind) :
    d.slot? e = some k ↔ d = e.desk ∧ k = e.kind := by
  cases d <;> cases e <;> simp [slot?, Event.desk, Event.source, Event.kind, eq_comm]

end Desk

namespace Event

/-- **No event gets lost**: the desk that an event is handed to takes it to the slot of its kind. -/
@[simp] theorem slot?_desk (e : Event) : e.desk.slot? e = some e.kind :=
  (Desk.slot?_eq_some_iff e.desk e e.kind).mpr ⟨rfl, rfl⟩

/-! ## What the callback gets -/

/-- The arguments of an event's callback. -/
def arguments : Event → Arguments
  | .adapterEnabled status => .adapterState status.outcome .enabled
  | .adapterDisabled status => .adapterState status.outcome .disabled
  | .nameChanged _ name => .adapterName name
  | .scanModeChanged status mode => .visibility status.outcome mode.visibility
  | .discoveryStarted status => .discovery status.outcome .started none
  | .discoveryFinished status => .discovery status.outcome .finished none
  | .deviceFound status device =>
    .discovery status.outcome .found (Discovery.ofRecord device).toOption
  | .bondingFinished status device =>
    .bondCreated status.outcome (Device.ofRecord device).toOption
  | .bondRemoved status address => .bondDestroyed status.outcome address.text
  | .deviceAuthorized _ address => .authorization .authorized address.text
  | .deviceUnauthorized _ address => .authorization .unauthorized address.text
  | .servicesFound status services =>
    .servicesFound status.outcome (Services.ofRecord services).toOption
  | .deviceConnected _ address => .deviceConnection true address.text
  | .deviceDisconnected _ address => .deviceConnection false address.text
  | .socketData _ data => .socketData data
  | .socketConnected status connection =>
    .socketConnection status.outcome .connected (some (.ofRecord connection))
  | .socketDisconnected status connection =>
    .socketConnection status.outcome .disconnected (some (.ofRecord connection))
  | .connectionRequested _ request => .connectionRequest request.descriptor request.address.text
  | .hidConnection status address state =>
    .hidConnection status.outcome (state.settled?.getD false) address.text

/-- The record of an event that gives no payload, if its record gives none. -/
def shortfall? : Event → Option Shortfall
  | .deviceFound _ r | .bondingFinished _ r =>
    BluetoothHost.shortfall? r.address r.serviceCount r.uuids
  | .servicesFound _ r => BluetoothHost.shortfall? r.address r.serviceCount r.uuids
  | _ => none

/-- What the callback gets fits the slot that the event belongs to. -/
@[simp] theorem kind_arguments (e : Event) : e.arguments.kind = e.kind := by cases e <;> rfl

end Event

end BluetoothHost
