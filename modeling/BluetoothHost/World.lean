import BluetoothHost.Callback

/-!
# `World` — a host, its vendor, and the queue between them

Events that the vendor dispatches are posted to a queue and delivered from it one at a time:
the host handles the event, then all calls that are due are made with the host unlocked, so that
a callback may call back into the host. A host whose lock is held while callbacks are called
answers none of their requests. A callback that panics is not called again, and a panic while the
lock is held makes the host unusable for deliveries.

## Contents
- `World` and `Observation`: the state, and what can be seen of what happens.
- `World.fire`, `World.act`, `World.actAll`: events posted and actions carried out.
- `World.invoke`, `World.invokeAll`: calls of callbacks, in order, up to a panic;
  `invoke_of_poisoned` and `invoke_of_not_poisoned`.
- `World.take`, `World.callTaken`: calls taken out of the host, to be made later.
- `World.deliver`, `deliverAll`, `drain`, `dispatch`, `runPending`: the ways events reach
  callbacks.
-/

namespace BluetoothHost

/-! ## State -/

/-- A host, its vendor, and the queue between them. -/
structure World where
  host : Host Callback := {}
  vendor : Vendor := {}
  /-- The calls that someone has taken out of the host and not made yet, the first one first. -/
  taken : List (Invocation Callback) := []
  /-- The events posted and not yet delivered, the first one first. -/
  queue : List Event := []
  /-- Whether anyone still receives from the queue. -/
  receiving : Bool := true
  /-- The number for the next registration. -/
  nextNumber : Nat := 0
  /-- The numbers of the registrations called so far, the last call first. -/
  called : List Nat := []
  /-- The numbers of the registrations whose callback has panicked. -/
  poisoned : List Nat := []
  /-- Whether a callback has panicked while the host's lock was held. -/
  hostPoisoned : Bool := false

/-- Something that can be seen from outside. -/
inductive Observation where
  | entry (entry : Entry)
  /-- The vendor dispatches an event, and it is posted to the queue or dropped. -/
  | posted (event : Event)
  /-- An event is delivered to the host, which handles or drops it. -/
  | delivered (event : Event)
  /-- A call that was due is made, the `count`-th one of its registration. -/
  | called (invocation : Invocation Callback) (count : Nat) (arguments : Arguments)
  /-- A callback has acted. -/
  | acted (action : Action Callback) (response : Response)

namespace Observation

/-- A notice is logged. -/
def notice (n : Notice) : Observation := .entry (.notice n)

/-- The calls of the vendor among some observations. -/
def calls (trace : List Observation) : List Call :=
  trace.filterMap fun
    | .entry (.call c _) => some c
    | _ => none

/-- The notices logged among some observations. -/
def notices (trace : List Observation) : List Notice :=
  trace.filterMap fun
    | .entry (.notice n) => some n
    | _ => none

/-- The calls of callbacks among some observations. -/
def invocations (trace : List Observation) : List (Invocation Callback) :=
  trace.filterMap fun
    | .called i _ _ => some i
    | _ => none

@[simp] theorem calls_append (s t : List Observation) : calls (s ++ t) = calls s ++ calls t :=
  List.filterMap_append

@[simp] theorem invocations_append (s t : List Observation) :
    invocations (s ++ t) = invocations s ++ invocations t :=
  List.filterMap_append

end Observation

namespace World

/-! ## Actions -/

/-- Posts an event. Without a receiver it is dropped. -/
def post (w : World) (e : Event) : World × List Observation :=
  if w.receiving then ({ w with queue := w.queue ++ [e] }, [.posted e])
  else (w, [.posted e, .notice (.receiverGone e)])

/-- Lets the vendor dispatch an event, and tells whether it has a dispatcher to do so. -/
def fire (w : World) (e : Event) : Bool × World × List Observation :=
  if w.vendor.isLinked e.source then (true, w.post e) else (false, w, [])

/-- Lets the host handle an event. -/
def handle (w : World) (e : Event) : World × List Observation :=
  let (host, trace) := w.host.handle e
  ({ w with host := host }, trace.map .entry)

/-- Carries out an operation. A callback it registers gets a number no other has. -/
def perform (w : World) (op : Operation Callback) : Reply × World × List Observation :=
  let p := w.host.perform w.nextNumber op w.vendor
  (p.reply, { w with host := p.host, vendor := p.vendor, nextNumber := w.nextNumber + 1 },
    p.trace.map .entry)

/-- Carries out a request, with the host's lock free. -/
def answer (w : World) : Request Callback → Response × World × List Observation
  | .operation op =>
    let (reply, after, trace) := w.perform op
    (.reply reply, after, trace)
  | .isStarted => (.flag w.host.started, w, [])
  | .handle e =>
    let (after, trace) := w.handle e
    (.nothing, after, trace)

/-- Carries out an action. If the host's lock is held, requests have no effect. -/
def act (locked : Bool) (w : World) : Action Callback → Response × World × List Observation
  | .fire e =>
    let (dispatched, after, trace) := w.fire e
    (.flag dispatched, after, trace)
  | .configure settings => (.nothing, { w with vendor := w.vendor.configure settings }, [])
  | .request r => if locked then (.locked, w, []) else w.answer r

/-- Carries out the actions of a callback in order, noting down what each of them answers. -/
def actAll (locked : Bool) : List (Action Callback) → World → World × List Observation
  | [], w => (w, [])
  | a :: rest, w =>
    let (response, next, trace) := w.act locked a
    let (final, more) := actAll locked rest next
    (final, trace ++ .acted a response :: more)

/-! ## Calls of callbacks -/

/-- What becomes of a world in which callbacks are called. -/
structure Delivery where
  world : World
  trace : List Observation := []
  /-- Whether the last callback called has panicked. -/
  panicked : Bool := false

/-- What is seen when a call is made, before the callback acts: the record of the event that gives
    no payload, if there is one, then the call, the `count`-th one of its registration. -/
def opening (i : Invocation Callback) (count : Nat) : List Observation :=
  i.event.shortfall?.toList.map (fun s => .notice (.shortfall s)) ++
    [.called i count i.event.arguments]

/-- Counts a call of a registration. -/
def counting (w : World) (number : Nat) : World := { w with called := number :: w.called }

/-- Notes down that the callback of a registration has panicked. -/
def poison (w : World) (number : Nat) : World := { w with poisoned := number :: w.poisoned }

/-- Makes a call that is due. A callback that has panicked before is not called. -/
def invoke (locked : Bool) (i : Invocation Callback) (w : World) : Delivery :=
  let r := i.registration
  if r.number ∈ w.poisoned then ⟨w, [.notice (.callbackPoisoned i.event.kind)], false⟩
  else
    let count := w.called.count r.number + 1
    let (after, trace) := actAll locked (r.callback.actions count) (w.counting r.number)
    let panics := r.callback.panics count
    ⟨if panics then after.poison r.number else after, opening i count ++ trace, panics⟩

/-- Makes the calls that are due in order. A panic leaves the rest of them unmade. -/
def invokeAll (locked : Bool) : List (Invocation Callback) → World → Delivery
  | [], w => ⟨w, [], false⟩
  | i :: rest, w =>
    let d := invoke locked i w
    if d.panicked then d
    else
      let more := invokeAll locked rest d.world
      ⟨more.world, d.trace ++ more.trace, more.panicked⟩

/-- Takes the calls that are due, to make them later. They come behind those taken before. -/
def take (w : World) : World :=
  let (pending, host) := w.host.takePending
  { w with host := host, taken := w.taken ++ pending }

/-- Makes the first of the calls taken, if there is one. -/
def callTaken (w : World) : Delivery :=
  match w.taken with
  | [] => ⟨w, [], false⟩
  | i :: rest => invoke false i { w with taken := rest }

/-- Takes the calls that are due and makes them. -/
def runPending (locked : Bool) (w : World) : Delivery :=
  let (pending, host) := w.host.takePending
  invokeAll locked pending { w with host := host }

theorem invoke_of_poisoned {i : Invocation Callback} {w : World}
    (h : i.registration.number ∈ w.poisoned) (locked : Bool) :
    invoke locked i w = ⟨w, [.notice (.callbackPoisoned i.event.kind)], false⟩ := by
  simp [invoke, h]

/-- A call of a callback that has not panicked before: its actions, between what is seen before
    them and what is kept of a panic. -/
theorem invoke_of_not_poisoned {i : Invocation Callback} {w : World}
    (h : i.registration.number ∉ w.poisoned) {count : Nat}
    (hc : w.called.count i.registration.number + 1 = count) (locked : Bool) :
    invoke locked i w =
      ⟨if i.registration.callback.panics count then
          (actAll locked (i.registration.callback.actions count)
            (w.counting i.registration.number)).1.poison i.registration.number
        else (actAll locked (i.registration.callback.actions count)
          (w.counting i.registration.number)).1,
        opening i count ++ (actAll locked (i.registration.callback.actions count)
          (w.counting i.registration.number)).2,
        i.registration.callback.panics count⟩ := by
  subst hc
  simp [invoke, h]

/-! ## Deliveries -/

/-- Delivers an event: the host handles it, then the calls that are due are made with the host
    unlocked. A poisoned host drops the event. -/
def deliver (w : World) (e : Event) : Delivery :=
  if w.hostPoisoned then ⟨w, [.delivered e, .notice (.contextPoisoned e)], false⟩
  else
    let (handled, trace) := w.handle e
    let d := runPending false handled
    { d with trace := .delivered e :: trace ++ d.trace }

/-- Delivers some events in order, up to a panic. -/
def deliverAll : List Event → World → Delivery
  | [], w => ⟨w, [], false⟩
  | e :: rest, w =>
    let d := w.deliver e
    if d.panicked then d
    else
      let more := deliverAll rest d.world
      ⟨more.world, d.trace ++ more.trace, more.panicked⟩

/-- Delivers the events of the queue, those posted meanwhile too, until it is empty, a callback
    panics, or `limit` events have been delivered; and tells how many have been. -/
def drain : (limit : Nat) → World → Nat × Delivery
  | 0, w => (0, ⟨w, [], false⟩)
  | limit + 1, w =>
    match w.queue with
    | [] => (0, ⟨w, [], false⟩)
    | e :: rest =>
      let d := deliver { w with queue := rest } e
      if d.panicked then (1, d)
      else
        let (count, more) := drain limit d.world
        (count + 1, ⟨more.world, d.trace ++ more.trace, more.panicked⟩)

/-- Handles an event and makes the calls that are due with the host's lock held throughout. A
    panic then poisons the host. -/
def dispatch (w : World) (e : Event) : Delivery :=
  let (handled, trace) := w.handle e
  let d := runPending true handled
  { d with
    world := if d.panicked then { d.world with hostPoisoned := true } else d.world
    trace := trace ++ d.trace }

end World

end BluetoothHost
