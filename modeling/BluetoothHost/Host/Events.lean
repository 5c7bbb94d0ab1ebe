import BluetoothHost.Arguments
import BluetoothHost.Host

/-!
# `Host.Events` — events that reach the host

An event is handled by noting down the call it makes due, if there is a callback for it. Nothing
else of the host changes, and the callback is not called yet: whoever takes the calls that are
due makes them.

## Contents
- `Event.comments` and `Event.remarks`: what is logged when an event is handled, with
  `remarks_eq_comments`.
- `Host.due?`: the call that an event makes due, with `due?_eq`.
- `Host.handle` and `Host.takePending`; `due?_of_not_reported` and `due?_of_reported`.
-/

namespace BluetoothHost

namespace Event

/-- What is logged of an event by the desk that takes it. -/
def comments : Event → List Notice
  | .nameChanged status _ => if status = .success then [] else [.nameChangeStatus status]
  | .socketData status data =>
    if status = .success then [] else [.droppedData data.descriptor status]
  | .hidConnection _ address state =>
    if state.settled?.isSome then [] else [.passingHidState address state]
  | _ => []

/-- What is logged when an event is handled. -/
def remarks (e : Event) : List Notice :=
  match e.desk.slot? e with
  | some _ => e.comments
  | none => [.unhandled e]

/-- Every event is taken by its desk, so nothing else is ever logged. -/
theorem remarks_eq_comments (e : Event) : e.remarks = e.comments := by
  simp [remarks]

end Event

namespace Host

variable {κ : Type}

/-- The call that an event makes due, if its desk takes it to a slot, it is reported, and there is a
    callback for it. -/
def due? (h : Host κ) (e : Event) : Option (Invocation κ) :=
  match e.desk.slot? e with
  | some kind => if e.isReported then (h.registry.get kind).map (⟨·, e⟩) else none
  | none => none

/-- The call that an event makes due is of the registration in the slot of its kind. -/
theorem due?_eq (h : Host κ) (e : Event) :
    h.due? e = if e.isReported then (h.registry.get e.kind).map (⟨·, e⟩) else none := by
  simp [due?]

/-- Handles an event: the call it makes due waits behind those already waiting. -/
def handle (h : Host κ) (e : Event) : Host κ × List Entry :=
  ({ h with pending := h.pending ++ (h.due? e).toList }, .handled e :: e.remarks.map .notice)

/-- Takes the calls that are due. -/
def takePending (h : Host κ) : List (Invocation κ) × Host κ :=
  (h.pending, { h with pending := [] })

/-- An event that is not reported makes no call due. -/
theorem due?_of_not_reported {e : Event} (unreported : e.isReported = false) (h : Host κ) :
    h.due? e = none := by
  simp [due?_eq, unreported]

/-- The call that a reported event makes due is of the registration in its slot. -/
theorem due?_of_reported {e : Event} (reported : e.isReported = true) (h : Host κ) :
    h.due? e = (h.registry.get e.kind).map (⟨·, e⟩) := by
  simp [due?_eq, reported]

end Host

end BluetoothHost
