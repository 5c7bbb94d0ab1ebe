import BluetoothHost.Host.Events

/-!
# `Callback` — what a callback does when it is called

A callback notes down that it is called, then acts: it may let the vendor fire an event, change
what the vendor answers, or call back into the host. In the end it may panic. What it does may
differ from one call to the next; a callback that keeps a state of its own, or heeds what it is
told, does in each call of a run some list of actions, and is described by these lists.

## Contents
- `Request`: what a caller can do under the host's lock.
- `Action`: what a callback, or its caller, can do.
- `Callback`: a tag, some actions and whether it panics.
- `Response`: what an action or a step answers.
-/

namespace BluetoothHost

/-- What can be done under the host's lock. -/
inductive Request (κ : Type) where
  | operation (operation : Operation κ)
  /-- Whether the stack is up. -/
  | isStarted
  /-- Handle an event, and leave the call it makes due to someone else. -/
  | handle (event : Event)

/-- What a callback can do, or its caller. -/
inductive Action (κ : Type) where
  /-- Let the vendor dispatch an event. -/
  | fire (event : Event)
  | configure (settings : List Vendor.Setting)
  | request (request : Request κ)

/-- A callback, by what it does when it is called. Its calls are counted from one. -/
structure Callback where
  tag : String
  /-- What it does in its `n`-th call. -/
  actions : (n : Nat) → List (Action Callback) := fun _ => []
  /-- Whether it panics at the end of its `n`-th call. -/
  panics : (n : Nat) → Bool := fun _ => false

/-- Actions that are the same in every call. -/
instance Callback.sameActions : Coe (List (Action Callback)) (Nat → List (Action Callback)) :=
  ⟨fun actions _ => actions⟩

/-- A panic in every call, or in none. -/
instance Callback.samePanics : Coe Bool (Nat → Bool) := ⟨fun panics _ => panics⟩

/-- What an action or a step answers. -/
inductive Response where
  | nothing
  | flag (flag : Bool)
  | count (count : Nat)
  | reply (reply : Reply)
  /-- The host's lock is held by the caller of the callback. -/
  | locked
  | panicked

end BluetoothHost
