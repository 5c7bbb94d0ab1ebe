import BluetoothHost.Proofs.Reentrancy
import BluetoothHost.Proofs.Spelling

/-!
# `Proofs.Telling` — a callback is told of its event, and of nothing else

What a callback is told is set out in a table with a row for each event, and one for each scan mode
(`Event.ToldAs`). It says what the arguments must be: an outcome that is a success just for a raw status of
zero (`Outcome.Tells`), a text in which the address is written without a lower-case letter
(`Address.Canonical`), a payload that is missing just if the record falls short, and is what the record is
converted to otherwise (`Conveys`).

That each call is told by the table is a fact about one event (`Event.toldAs_arguments`). That nobody is
called in another way is one about whole runs: all calls are made by `World.invoke`, and all that is seen
besides is no call (`Session.faithful_history`).

## Contents
- `Outcome.Tells`, `Conveys`, `SocketConnection.Describes`.
- `Event.ToldAs`: the table, with `Event.toldAs_arguments`.
- `Observation.Faithful`, with `faithful_invoke`, …, `faithful_history`.
- `Session.callbacks_are_told`.
-/

namespace BluetoothHost

/-! ## What arguments must be -/

/-- An outcome tells of a raw status: it is a success just if that is zero, and otherwise the fault that
    the status of that number has. -/
structure Outcome.Tells (outcome : Outcome) (raw : Int) : Prop where
  ok_iff : outcome = .ok () ↔ raw = 0
  error_iff : ∀ f, outcome = .error f ↔ (Status.ofCode raw).fault? = some f

theorem Status.tells_outcome (raw : Int) : Outcome.Tells (Status.ofCode raw).outcome raw := by
  constructor
  · rw [outcome_eq_ok_iff, ofCode_eq_success_iff]
  · exact outcome_eq_error_iff (Status.ofCode raw)

/-- A payload conveys a record about the device at this address: it is missing just if the record counts
    more services than it carries UUIDs, it is otherwise what the record is converted to, and it gives the
    address in its canonical text. -/
structure Conveys {π : Type} (address : Address) (count : Nat) (uuids : List String)
    (converted : Except Shortfall π) (remoteAddress : π → String) (payload? : Option π) : Prop where
  none_iff : payload? = none ↔ uuids.length < count
  some_iff : ∀ p, payload? = some p ↔ converted = .ok p
  canonical : ∀ p, payload? = some p → address.Canonical (remoteAddress p)

/-- What a record is converted to, if it is, conveys it. -/
theorem conveys_toOption {π : Type} {address : Address} {count : Nat} {uuids : List String}
    {converted : Except Shortfall π} {remoteAddress : π → String} {payload : π}
    (hok : ∀ {p}, converted = .ok p ↔ count ≤ uuids.length ∧ p = payload)
    (haddress : remoteAddress payload = address.text) :
    Conveys address count uuids converted remoteAddress converted.toOption := by
  have hsome : ∀ p, converted.toOption = some p ↔ converted = .ok p := by
    intro p
    cases converted <;> simp [Except.toOption]
  refine ⟨?_, hsome, fun p hp => ?_⟩
  · rw [← Nat.not_le, Option.eq_none_iff_forall_ne_some]
    constructor
    · intro hnone hle
      exact hnone payload ((hsome payload).mpr (hok.mpr ⟨hle, rfl⟩))
    · intro hshort p hp
      exact hshort (hok.mp ((hsome p).mp hp)).1
  · obtain ⟨-, rfl⟩ := hok.mp ((hsome p).mp hp)
    rw [haddress]
    exact address.canonical_text

/-- A connection as it is told of is that of the record. -/
structure SocketConnection.Describes (c : SocketConnection) (r : ConnectionRecord) : Prop where
  descriptor : c.descriptor = r.descriptor
  localRole : c.localRole = r.role
  remoteAddress : r.address.Canonical c.remoteAddress
  serviceUuid : c.serviceUuid = r.uuid

theorem SocketConnection.describes_ofRecord (r : ConnectionRecord) :
    (SocketConnection.ofRecord r).Describes r :=
  ⟨rfl, rfl, r.address.canonical_text, rfl⟩

/-! ## The table -/

/-- What a callback is told of an event that the vendor reports with this raw status. -/
inductive Event.ToldAs (raw : Int) : Event → Arguments → Prop
  | adapterEnabled {s : Status} {o : Outcome} (h : Outcome.Tells o raw) :
      ToldAs raw (.adapterEnabled s) (.adapterState o .enabled)
  | adapterDisabled {s : Status} {o : Outcome} (h : Outcome.Tells o raw) :
      ToldAs raw (.adapterDisabled s) (.adapterState o .disabled)
  | nameChanged {s : Status} {name : String} :
      ToldAs raw (.nameChanged s name) (.adapterName name)
  | nonDiscoverable {s : Status} {o : Outcome} (h : Outcome.Tells o raw) :
      ToldAs raw (.scanModeChanged s .connectable) (.visibility o .nonDiscoverable)
  | generalDiscoverable {s : Status} {o : Outcome} (h : Outcome.Tells o raw) :
      ToldAs raw (.scanModeChanged s .generalDiscoverable) (.visibility o .generalDiscoverable)
  | limitedDiscoverable {s : Status} {o : Outcome} (h : Outcome.Tells o raw) :
      ToldAs raw (.scanModeChanged s .timeLimitedDiscoverable) (.visibility o .limitedDiscoverable)
  | discoveryStarted {s : Status} {o : Outcome} (h : Outcome.Tells o raw) :
      ToldAs raw (.discoveryStarted s) (.discovery o .started none)
  | discoveryFinished {s : Status} {o : Outcome} (h : Outcome.Tells o raw) :
      ToldAs raw (.discoveryFinished s) (.discovery o .finished none)
  | deviceFound {s : Status} {r : DeviceRecord} {o : Outcome} {device? : Option Discovery}
      (h : Outcome.Tells o raw) (hdevice : Conveys r.address r.serviceCount r.uuids (Discovery.ofRecord r)
        Discovery.remoteAddress device?) :
      ToldAs raw (.deviceFound s r) (.discovery o .found device?)
  | bondingFinished {s : Status} {r : DeviceRecord} {o : Outcome} {device? : Option Device}
      (h : Outcome.Tells o raw) (hdevice : Conveys r.address r.serviceCount r.uuids (Device.ofRecord r)
        Device.remoteAddress device?) :
      ToldAs raw (.bondingFinished s r) (.bondCreated o device?)
  | bondRemoved {s : Status} {a : Address} {o : Outcome} {text : String} (h : Outcome.Tells o raw)
      (ha : a.Canonical text) :
      ToldAs raw (.bondRemoved s a) (.bondDestroyed o text)
  | deviceAuthorized {s : Status} {a : Address} {text : String} (ha : a.Canonical text) :
      ToldAs raw (.deviceAuthorized s a) (.authorization .authorized text)
  | deviceUnauthorized {s : Status} {a : Address} {text : String} (ha : a.Canonical text) :
      ToldAs raw (.deviceUnauthorized s a) (.authorization .unauthorized text)
  | servicesFound {s : Status} {r : ServiceRecord} {o : Outcome} {services? : Option Services}
      (h : Outcome.Tells o raw) (hservices : Conveys r.address r.serviceCount r.uuids
        (Services.ofRecord r) Services.remoteAddress services?) :
      ToldAs raw (.servicesFound s r) (.servicesFound o services?)
  | deviceConnected {s : Status} {a : Address} {text : String} (ha : a.Canonical text) :
      ToldAs raw (.deviceConnected s a) (.deviceConnection true text)
  | deviceDisconnected {s : Status} {a : Address} {text : String} (ha : a.Canonical text) :
      ToldAs raw (.deviceDisconnected s a) (.deviceConnection false text)
  | socketData {s : Status} {data : SocketData} :
      ToldAs raw (.socketData s data) (.socketData data)
  | socketConnected {s : Status} {r : ConnectionRecord} {o : Outcome} {c : SocketConnection}
      (h : Outcome.Tells o raw) (hc : c.Describes r) :
      ToldAs raw (.socketConnected s r) (.socketConnection o .connected (some c))
  | socketDisconnected {s : Status} {r : ConnectionRecord} {o : Outcome} {c : SocketConnection}
      (h : Outcome.Tells o raw) (hc : c.Describes r) :
      ToldAs raw (.socketDisconnected s r) (.socketConnection o .disconnected (some c))
  | connectionRequested {s : Status} {r : ConnectionRequest} {text : String}
      (ha : r.address.Canonical text) :
      ToldAs raw (.connectionRequested s r) (.connectionRequest r.descriptor text)
  | hidConnection {s : Status} {a : Address} {state : HidState} {o : Outcome} {connected : Bool}
      {text : String} (h : Outcome.Tells o raw) (hstate : connected = true ↔ state = .connected)
      (ha : a.Canonical text) :
      ToldAs raw (.hidConnection s a state) (.hidConnection o connected text)

/-- **The arguments of an event are those of the table.** -/
theorem Event.toldAs_arguments {e : Event} {raw : Int} (hraw : e.status = Status.ofCode raw) :
    e.ToldAs raw e.arguments := by
  have htells : Outcome.Tells e.status.outcome raw := by
    rw [hraw]
    exact Status.tells_outcome raw
  cases e with
  | adapterEnabled => exact .adapterEnabled htells
  | adapterDisabled => exact .adapterDisabled htells
  | nameChanged => exact .nameChanged
  | scanModeChanged _ mode =>
    cases mode with
    | connectable => exact .nonDiscoverable htells
    | generalDiscoverable => exact .generalDiscoverable htells
    | timeLimitedDiscoverable => exact .limitedDiscoverable htells
  | discoveryStarted => exact .discoveryStarted htells
  | discoveryFinished => exact .discoveryFinished htells
  | deviceFound _ r => exact .deviceFound htells (conveys_toOption Discovery.ofRecord_eq_ok_iff rfl)
  | bondingFinished _ r => exact .bondingFinished htells (conveys_toOption Device.ofRecord_eq_ok_iff rfl)
  | bondRemoved _ a => exact .bondRemoved htells a.canonical_text
  | deviceAuthorized _ a => exact .deviceAuthorized a.canonical_text
  | deviceUnauthorized _ a => exact .deviceUnauthorized a.canonical_text
  | servicesFound _ r => exact .servicesFound htells (conveys_toOption Services.ofRecord_eq_ok_iff rfl)
  | deviceConnected _ a => exact .deviceConnected a.canonical_text
  | deviceDisconnected _ a => exact .deviceDisconnected a.canonical_text
  | socketData => exact .socketData
  | socketConnected _ r => exact .socketConnected htells (SocketConnection.describes_ofRecord r)
  | socketDisconnected _ r => exact .socketDisconnected htells (SocketConnection.describes_ofRecord r)
  | connectionRequested _ r => exact .connectionRequested r.address.canonical_text
  | hidConnection _ a state =>
    refine .hidConnection htells ?_ a.canonical_text
    cases state <;> simp [HidState.settled?]

/-! ## Calls with the arguments of their events -/

/-- If this is a call, it has the arguments of its event. -/
def Observation.Faithful : Observation → Prop
  | .called i _ arguments => arguments = i.event.arguments
  | _ => True

/-- Where nobody is called, nobody is told anything. -/
theorem Observation.faithful_of_uncalled {t : List Observation} (ht : invocations t = []) :
    ∀ o ∈ t, o.Faithful := by
  intro o ho
  have hnone := List.filterMap_eq_nil_iff.mp ht o ho
  cases o with
  | called => exact absurd hnone (by simp)
  | entry | posted | delivered | acted => trivial

theorem joins_faithful : Joins fun _ t _ => ∀ o ∈ t, o.Faithful := .seen Observation.Faithful

namespace World

theorem faithful_opening (i : Invocation Callback) (count : Nat) :
    ∀ o ∈ opening i count, o.Faithful := by
  intro o ho
  rcases List.mem_append.mp ho with hnote | hcall
  · obtain ⟨s, -, rfl⟩ := List.mem_map.mp hnote
    trivial
  · rw [List.mem_singleton.mp hcall]
    rfl

theorem faithful_invoke (locked : Bool) (i : Invocation Callback) (w : World) :
    ∀ o ∈ (invoke locked i w).trace, o.Faithful := by
  by_cases hp : i.registration.number ∈ w.poisoned
  · rw [invoke_of_poisoned hp]
    exact Observation.faithful_of_uncalled rfl
  · rw [invoke_of_not_poisoned hp rfl]
    refine List.forall_mem_append.mpr ⟨faithful_opening i _, ?_⟩
    exact Observation.faithful_of_uncalled (seen_actAll locked _ _).1

theorem faithful_invokeAll (locked : Bool) (is : List (Invocation Callback)) (w : World) :
    ∀ o ∈ (invokeAll locked is w).trace, o.Faithful :=
  joins_faithful.invokeAll (fun i _ w => faithful_invoke locked i w) w

theorem faithful_callTaken (w : World) : ∀ o ∈ w.callTaken.trace, o.Faithful := by
  unfold callTaken
  split
  · exact fun o ho => absurd ho List.not_mem_nil
  · exact faithful_invoke false _ _

/-- Nobody is told anything else in whatever steps are made of. -/
theorem lifts_faithful : Lifts fun _ t _ => ∀ o ∈ t, o.Faithful where
  toJoins := joins_faithful
  act w a := List.forall_mem_append.mpr ⟨Observation.faithful_of_uncalled (w.invocations_act false a),
    Observation.faithful_of_uncalled rfl⟩
  handle _ _ := Observation.faithful_of_uncalled (Observation.invocations_entries _)
  runPending locked _ := faithful_invokeAll locked _ _
  callTaken := faithful_callTaken
  take := joins_faithful.refl
  delivered _ _ := Observation.faithful_of_uncalled rfl
  dropped _ _ := Observation.faithful_of_uncalled rfl
  poison := joins_faithful.refl
  queue w _ _ := joins_faithful.refl w

end World

namespace Session

theorem faithful_history (looping : Bool) (w : World) (steps : List Step) :
    ∀ o ∈ history looping w steps, o.Faithful :=
  World.lifts_faithful.session looping w steps

/-- **Callbacks are told of their events by the table, and called once for each.** For an invocation
    whose event the vendor reports with a raw status: where it is made, in whatever world, its callback is
    called once and nobody else is, with the arguments of the table; and wherever such a call is seen in a
    run, it has these arguments. -/
theorem callbacks_are_told (raw : Int) {i : Invocation Callback}
    (hraw : i.event.status = Status.ofCode raw) :
    (∀ locked w, i.registration.number ∉ w.poisoned →
      Observation.invocations (World.invoke locked i w).trace = [i] ∧
      ∃ count arguments, Observation.called i count arguments ∈ (World.invoke locked i w).trace ∧
        i.event.ToldAs raw arguments) ∧
    ∀ looping w steps count arguments,
      Observation.called i count arguments ∈ history looping w steps →
        i.event.ToldAs raw arguments := by
  constructor
  · intro locked w hp
    rw [World.invoke_of_not_poisoned hp rfl]
    refine ⟨?_, w.called.count i.registration.number + 1, i.event.arguments, ?_,
      Event.toldAs_arguments hraw⟩
    · rw [Observation.invocations_append, World.invocations_opening, (World.seen_actAll locked _ _).1,
        List.append_nil]
    · exact List.mem_append_left _ (List.mem_append_right _ List.mem_cons_self)
  · intro looping w steps count arguments hcalled
    obtain rfl : arguments = i.event.arguments := faithful_history looping w steps _ hcalled
    exact Event.toldAs_arguments hraw

/-- A device with a service that its record does not carry. -/
def wanting : Invocation Callback where
  registration := ⟨0, .discovery, { tag := "listener" }⟩
  event := .deviceFound .timeout { serviceCount := 1, uuids := [] }

/-- A record that falls short gives no payload, and a failure its fault; the callback is called all the
    same, and once. -/
theorem callbacks_are_told_wanting :
    wanting.event.status = Status.ofCode (-7) ∧
      Observation.invocations (World.invoke false wanting {}).trace = [wanting] ∧
      ∃ count, Observation.called wanting count (.discovery (.error .timedOut) .found none) ∈
        (World.invoke false wanting {}).trace := by
  have hraw : wanting.event.status = Status.ofCode (-7) := by decide
  obtain ⟨hmade, -⟩ := callbacks_are_told (-7) hraw
  obtain ⟨honce, count, arguments, hcalled, htold⟩ := hmade false {} List.not_mem_nil
  refine ⟨hraw, honce, count, ?_⟩
  cases htold with
  | deviceFound htells hdevice =>
    obtain rfl := (htells.error_iff .timedOut).mpr (by decide)
    obtain rfl := hdevice.none_iff.mpr (by decide)
    exact hcalled

end Session

end BluetoothHost
