import BluetoothHost.Reading
import BluetoothHost.Registry

/-!
# `Host` — the stack as an application sees it

The host knows whether it is up, whether the HID host is, which callbacks are registered, and
which calls of callbacks are due. Operations are carried out against the vendor stack in three
stages: the host checks whether it is in a state to do so, the arguments are checked, and only
then is the vendor asked.

## Contents
- `Host` and `Invocation`: the state, and a call that is due.
- `Host.check`: the checks before the vendor is asked, with `check_of_not_started`.
- `Host.carryOut` and `Host.perform`: a task and an operation, with all that is seen of them.
-/

namespace BluetoothHost

/-! ## State -/

/-- A call that is due: the callback that was registered when an event was handled, and the
event. -/
structure Invocation (κ : Type) where
  registration : Registration κ
  event : Event

/-- The stack as an application sees it. -/
structure Host (κ : Type) where
  started : Bool := false
  hidStarted : Bool := false
  registry : Registry κ := .empty
  /-- The calls that are due, the first one first. -/
  pending : List (Invocation κ) := []

/-- A host and its vendor after an operation, with what it replied and what was seen of it. -/
structure Performed (κ : Type) where
  reply : Reply
  host : Host κ
  vendor : Vendor
  trace : List Entry

namespace Host

variable {κ : Type}

/-! ## Checks -/

/-- Whether the host is in a state to do what an operation needs. -/
def checkCondition (h : Host κ) (c : Condition) : Except Refusal Unit :=
  match c with
  | .always => .ok ()
  | .started => if h.started then .ok () else .error .notStarted
  | .hidStarted =>
    if h.started then if h.hidStarted then .ok () else .error .hidNotStarted
    else .error .notStarted
  | .hidStopped =>
    if h.started then if h.hidStarted then .error .hidAlreadyStarted else .ok ()
    else .error .notStarted

/-- All checks before the vendor is asked: the state of the host first, the arguments after it. -/
def check (h : Host κ) (op : Operation κ) : Except Refusal (Task κ) :=
  match h.checkCondition op.condition with
  | .error refusal => .error refusal
  | .ok () => op.task

/-- A host that is down refuses whatever needs it to be up, whatever the arguments. -/
theorem check_of_not_started {h : Host κ} (down : h.started = false) {op : Operation κ}
    (needs : op.condition ≠ .always) : h.check op = .error .notStarted := by
  unfold check checkCondition
  cases e : op.condition <;> simp_all

/-! ## Tasks -/

/-- The host with a callback registered under a number. -/
def register (h : Host κ) (kind : EventKind) (number : Nat) (callback : κ) : Host κ :=
  { h with registry := h.registry.set ⟨number, kind, callback⟩ }

/-- The host with the slot of a kind emptied. -/
def release (h : Host κ) (kind : EventKind) : Host κ :=
  { h with registry := h.registry.unset kind }

/-- The reply of an operation that has no value to give. -/
def unitReply (outcome : Outcome) : Reply := ⟨outcome.map fun () => .unit, []⟩

/-- Connects to the vendor. Nothing is asked of a vendor already connected. -/
def start (h : Host κ) (v : Vendor) : Performed κ :=
  if h.started then ⟨unitReply (.ok ()), h, v, [.notice .alreadyStarted]⟩
  else
    match forward (Operation.start : Operation κ).name .register v with
    | (.ok (), after, trace) =>
      ⟨unitReply (.ok ()), { h with started := true }, after, trace ++ [.notice .started]⟩
    | (.error f, after, trace) => ⟨unitReply (.error f), h, after, trace⟩

/-- Takes the HID host down on the way to disconnecting, if it is up. -/
def stopHidFirst (h : Host κ) (v : Vendor) : Vendor × List Entry :=
  if h.hidStarted then (forward (Operation.stopHidHost : Operation κ).name .stopHid v).2
  else (v, [])

/-- Disconnects from the vendor and forgets every callback. The HID host goes down first, whatever
    comes of it; what counts is what the vendor says to being disconnected from. -/
def stop (h : Host κ) (v : Vendor) : Performed κ :=
  let (afterHid, hidTrace) := h.stopHidFirst v
  let (status, after) := afterHid.command .unregister
  let (outcome, notices) := conclude (Operation.stop : Operation κ).name status
  ⟨unitReply outcome,
    { h with started := false, hidStarted := false, registry := h.registry.clear },
    after,
    hidTrace ++ [.call (.command .unregister) status, .releasedAll, .notice .stopped] ++
      notices.map .notice⟩

/-- Starts the HID host. The callback is registered once it is up. -/
def startHid (h : Host κ) (number : Nat) (callback : κ) (v : Vendor) : Performed κ :=
  match forward (Operation.startHidHost callback).name .startHid v with
  | (.ok (), after, trace) =>
    ⟨unitReply (.ok ()), { h.register .hidConnection number callback with hidStarted := true },
      after, trace ++ [.registered .hidConnection number]⟩
  | (.error f, after, trace) => ⟨unitReply (.error f), h, after, trace⟩

/-- Stops the HID host. It is down and its callback forgotten whatever the vendor says. -/
def stopHid (h : Host κ) (v : Vendor) : Performed κ :=
  let (outcome, after, trace) := forward (Operation.stopHidHost : Operation κ).name .stopHid v
  ⟨unitReply outcome, { h.release .hidConnection with hidStarted := false }, after,
    trace ++ [.released .hidConnection]⟩

/-- Carries out a task under the name of its operation. A callback it registers gets this number. -/
def carryOut (h : Host κ) (operation : String) (number : Nat) (v : Vendor) :
    Task κ → Performed κ
  | .start => h.start v
  | .stop => h.stop v
  | .startHid callback => h.startHid number callback v
  | .stopHid => h.stopHid v
  | .setCallback kind callback =>
    ⟨⟨.ok .unit, []⟩, h.register kind number callback, v, [.registered kind number]⟩
  | .unsetCallback kind => ⟨⟨.ok .unit, []⟩, h.release kind, v, [.released kind]⟩
  | .command c =>
    let (outcome, after, trace) := forward operation c v
    ⟨unitReply outcome, h, after, trace⟩
  | .read r =>
    let (reply, after, trace) := r.run operation v
    ⟨reply, h, after, trace⟩
  | .serviceMask uuids =>
    ⟨⟨.ok (.services (ServiceMask.ofUuids uuids)), []⟩, h, v,
      (ServiceMask.unreadable uuids).map fun uuid => .notice (.unreadableUuid uuid)⟩

/-! ## Operations -/

/-- Carries out an operation, unless it is refused. A callback it registers gets this number. -/
def perform (h : Host κ) (number : Nat) (op : Operation κ) (v : Vendor) : Performed κ :=
  match h.check op with
  | .error refusal => ⟨⟨.error refusal.fault, []⟩, h, v, [.notice (.refused refusal)]⟩
  | .ok task => h.carryOut op.name number v task

/-- A refused operation changes nothing, neither the host nor the vendor. -/
theorem perform_of_refused {h : Host κ} {op : Operation κ} {refusal : Refusal}
    (refused : h.check op = .error refusal) (number : Nat) (v : Vendor) :
    h.perform number op v =
      ⟨⟨.error refusal.fault, []⟩, h, v, [.notice (.refused refusal)]⟩ := by
  simp [perform, refused]

/-- An operation that passes the checks is carried out as the task they give. -/
theorem perform_of_task {h : Host κ} {op : Operation κ} {task : Task κ}
    (passed : h.check op = .ok task) (number : Nat) (v : Vendor) :
    h.perform number op v = h.carryOut op.name number v task := by
  simp [perform, passed]

end Host

end BluetoothHost
