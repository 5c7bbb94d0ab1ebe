import BluetoothHost.Proofs.Course
import BluetoothHost.Proofs.Operations

/-!
# `Proofs.Callbacks` — what may be promised of callbacks, and what it is good for

A callback can register other callbacks, so a promise about callbacks is one about all that may ever be
called. `Callback.Throughout P` says that a callback keeps `P`, and so does every callback it may
register, in any of its calls, and so on. A world `Holds` such callbacks only, if all it has registered
and all it is about to call are of that kind, and it keeps doing so whatever they do.

The promise used most is that callbacks leave the handling of events to others (`Callback.Reserved`):
their actions then do not touch the calls that are due, nor is any event handled or delivered, nor any
callback called, while they act (`Undisturbed`).

## Contents
- `Action.callback?`, `Action.handles`: what an action may register, and whether it handles an event.
- `Callback.Throughout`, `Callback.Reserved`: promises about callbacks.
- `World.mem_waiting_handle`: what waits once an event has been handled.
- `World.Holds`: a world with such callbacks only, with `Holds.handle`, `Holds.act`, `Holds.actAll`.
- `World.Undisturbed`, with `undisturbed_act` and `undisturbed_actAll`.
- `World.deliver_of_idle`: what a delivery does when no call is due.
-/

namespace BluetoothHost

/-! ## Actions -/

/-- The callback that an action registers, if it succeeds. -/
def Action.callback? {κ : Type} : Action κ → Option κ
  | .request (.operation op) => op.slot?.map Prod.snd
  | _ => none

/-- Whether an action lets the host handle an event. -/
def Action.handles {κ : Type} : Action κ → Bool
  | .request (.handle _) => true
  | _ => false

/-! ## Promises -/

/-- A callback that keeps `P`, as do all it may register in any call, and all that those may register. -/
inductive Callback.Throughout (P : Callback → Prop) : Callback → Prop
  | intro {c : Callback} (here : P c)
      (later : ∀ n, ∀ a ∈ c.actions n, ∀ d, a.callback? = some d → Throughout P d) : Throughout P c

namespace Callback.Throughout

variable {P : Callback → Prop} {c : Callback}

theorem here (hc : c.Throughout P) : P c := by
  cases hc with
  | intro here _ => exact here

theorem later (hc : c.Throughout P) {n : Nat} {a : Action Callback} (ha : a ∈ c.actions n)
    {d : Callback} (hd : a.callback? = some d) : d.Throughout P := by
  cases hc with
  | intro _ later => exact later n a ha d hd

/-- A callback that never registers another one. -/
theorem of_actions (hP : P c) (hc : ∀ n, ∀ a ∈ c.actions n, a.callback? = none) : c.Throughout P := by
  refine .intro hP fun n a ha d hd => ?_
  rw [hc n a ha] at hd
  exact absurd hd (by simp)

end Callback.Throughout

/-- A callback that leaves the handling of events to others. -/
def Callback.Reserved (c : Callback) : Prop := ∀ n, ∀ a ∈ c.actions n, a.handles = false

/-- The call that an event makes due is of the registration in its slot, with the event. -/
theorem Host.slot_of_due {κ : Type} {h : Host κ} {e : Event} {i : Invocation κ}
    (hdue : h.due? e = some i) : h.registry.get e.kind = some i.registration ∧ i.event = e := by
  rw [Host.due?_eq] at hdue
  split at hdue
  · obtain ⟨r, hr, rfl⟩ := Option.map_eq_some_iff.mp hdue
    exact ⟨hr, rfl⟩
  · exact absurd hdue (by simp)

namespace World

/-- What waits once an event has been handled has waited before, or is the call that the event makes due. -/
theorem mem_waiting_handle {w : World} {e : Event} {i : Invocation Callback}
    (hi : i ∈ (w.handle e).1.taken ++ (w.handle e).1.host.pending) :
    i ∈ w.taken ++ w.host.pending ∨ w.host.due? e = some i := by
  have hi' : i ∈ w.taken ++ (w.host.pending ++ (w.host.due? e).toList) := hi
  rw [← List.append_assoc] at hi'
  exact (List.mem_append.mp hi').imp id Option.mem_toList.mp

/-! ## Worlds that hold such callbacks only -/

/-- All callbacks that are registered, or about to be called, keep `P`, as do all they may register. -/
structure Holds (P : Callback → Prop) (w : World) : Prop where
  registered : ∀ k r, w.host.registry.get k = some r → r.callback.Throughout P
  due : ∀ i ∈ w.taken ++ w.host.pending, i.registration.callback.Throughout P

section Holds

variable {P : Callback → Prop} {w w' : World}

/-- Only what is registered and what is due counts. -/
theorem Holds.congr (hw : w.Holds P) (hr : w'.host.registry = w.host.registry)
    (hd : ∀ i ∈ w'.taken ++ w'.host.pending, i ∈ w.taken ++ w.host.pending) : w'.Holds P := by
  refine ⟨?_, fun i hi => hw.due i (hd i hi)⟩
  rw [hr]
  exact hw.registered

/-- A new host holds no callbacks at all. -/
theorem holds_initial (P : Callback → Prop) (settings : List Vendor.Setting) :
    (Session.initial settings).Holds P := by
  refine ⟨fun k r hr => ?_, fun i hi => absurd hi List.not_mem_nil⟩
  exact absurd hr (by simp [Session.initial])

/-- The call that an event makes due is of a registered callback. -/
theorem Holds.handle (hw : w.Holds P) (e : Event) : (w.handle e).1.Holds P := by
  refine ⟨hw.registered, fun i hi => ?_⟩
  rcases mem_waiting_handle hi with hold | hdue
  · exact hw.due i hold
  · exact hw.registered e.kind _ (Host.slot_of_due hdue).1

theorem Holds.perform (hw : w.Holds P) {op : Operation Callback}
    (hop : ∀ k c, op.slot? = some (k, c) → c.Throughout P) : (w.perform op).2.1.Holds P := by
  refine ⟨fun k r hr => ?_, fun i hi => ?_⟩
  · rcases Host.get_perform hr with hold | ⟨-, -, hnew⟩
    · exact hw.registered k r hold
    · exact hop _ _ hnew
  · have hpending : (w.perform op).2.1.host.pending = w.host.pending :=
      w.host.pending_perform w.nextNumber op w.vendor
    rw [hpending] at hi
    exact hw.due i hi

/-- An action whose callback keeps the promise keeps it for the world. -/
theorem Holds.act (hw : w.Holds P) {a : Action Callback}
    (ha : ∀ c, a.callback? = some c → c.Throughout P) (locked : Bool) :
    (w.act locked a).2.1.Holds P := by
  have heffect := w.effect_act locked a
  generalize w.act locked a = x at heffect ⊢
  cases heffect with
  | posted | configured => exact hw.congr rfl fun _ hi => hi
  | vain | dropped | locked | asked => exact hw
  | operated op =>
    refine hw.perform ?_
    intro k c hslot
    apply ha c
    rw [Action.callback?, hslot]
    rfl
  | handled e => exact hw.handle e

theorem Holds.actAll (hw : w.Holds P) {as : List (Action Callback)}
    (has : ∀ a ∈ as, ∀ c, a.callback? = some c → c.Throughout P) (locked : Bool) :
    (actAll locked as w).1.Holds P :=
  (Joins.invariant (Holds P)).actAll (fun a ha _ hw => hw.act (has a ha) locked) w hw

/-- Whatever a callback that keeps the promise does in a call, the world keeps it. -/
theorem Holds.body (hw : w.Holds P) {c : Callback} (hc : c.Throughout P) (n number : Nat)
    (locked : Bool) : (World.actAll locked (c.actions n) (w.counting number)).1.Holds P := by
  have hcounted : (w.counting number).Holds P := hw.congr rfl fun _ hi => hi
  refine hcounted.actAll ?_ locked
  intro a ha d hd
  exact hc.later ha hd

end Holds

/-! ## Actions that handle no event -/

end World

/-- Whether an event passes on its way to a callback: it is delivered, or handled, or a callback is
    called. -/
def Observation.isPassage : Observation → Bool
  | .delivered _ | .entry (.handled _) | .called .. => true
  | _ => false

namespace World

/-- From `w` to `w'` no event has passed on its way to a callback, and nothing has changed that this
    way depends on but the callbacks registered. -/
structure Undisturbed (w : World) (t : List Observation) (w' : World) : Prop where
  pending : w'.host.pending = w.host.pending
  taken : w'.taken = w.taken
  poisoned : w'.poisoned = w.poisoned
  hostPoisoned : w'.hostPoisoned = w.hostPoisoned
  receiving : w'.receiving = w.receiving
  unseen : ∀ o ∈ t, o.isPassage = false

section Undisturbed

variable {w w' w'' : World} {t u : List Observation}

theorem Undisturbed.refl (w : World) : w.Undisturbed [] w :=
  ⟨rfl, rfl, rfl, rfl, rfl, fun _ ho => absurd ho List.not_mem_nil⟩

theorem Undisturbed.trans (h : w.Undisturbed t w') (h' : w'.Undisturbed u w'') :
    w.Undisturbed (t ++ u) w'' := by
  refine ⟨h'.pending.trans h.pending, h'.taken.trans h.taken, h'.poisoned.trans h.poisoned,
    h'.hostPoisoned.trans h.hostPoisoned, h'.receiving.trans h.receiving, fun o ho => ?_⟩
  rcases List.mem_append.mp ho with hl | hr
  · exact h.unseen o hl
  · exact h'.unseen o hr

theorem undisturbed_perform (w : World) (op : Operation Callback) :
    w.Undisturbed (w.perform op).2.2 (w.perform op).2.1 := by
  refine ⟨w.host.pending_perform w.nextNumber op w.vendor, rfl, rfl, rfl, rfl, fun o ho => ?_⟩
  obtain ⟨entry, hentry, rfl⟩ := List.mem_map.mp ho
  cases entry with
  | handled e => exact absurd hentry (w.host.unhandled_perform w.nextNumber op w.vendor e)
  | call | notice | registered | released | releasedAll => rfl

/-- **An action that handles no event leaves all events where they are**, but for those it posts. -/
theorem undisturbed_act {a : Action Callback} (ha : a.handles = false) (locked : Bool) (w : World) :
    w.Undisturbed ((w.act locked a).2.2 ++ [.acted a (w.act locked a).1]) (w.act locked a).2.1 := by
  have hact : w.Undisturbed (w.act locked a).2.2 (w.act locked a).2.1 := by
    have heffect := w.effect_act locked a
    generalize w.act locked a = x at heffect ⊢
    cases heffect with
    | vain | locked | asked => exact .refl w
    | posted | dropped | configured =>
      exact ⟨rfl, rfl, rfl, rfl, rfl, by simp [Observation.isPassage, Observation.notice]⟩
    | operated op => exact undisturbed_perform w op
    | handled e => exact absurd ha (by simp [Action.handles])
  exact hact.trans ⟨rfl, rfl, rfl, rfl, rfl, by simp [Observation.isPassage]⟩

theorem undisturbed_actAll {as : List (Action Callback)} (has : ∀ a ∈ as, a.handles = false)
    (locked : Bool) (w : World) :
    w.Undisturbed (actAll locked as w).2 (actAll locked as w).1 := by
  have hjoins : Joins Undisturbed := ⟨.refl, .trans⟩
  exact hjoins.actAll (fun a ha w => undisturbed_act (has a ha) locked w) w

end Undisturbed

end World

/-- Entries show nothing to whom no entry shows anything. -/
theorem Observation.filterMap_entries {α : Type} {f : Observation → Option α}
    (hf : ∀ e, f (.entry e) = none) (t : List Entry) : (t.map .entry).filterMap f = [] := by
  rw [List.filterMap_eq_nil_iff]
  intro o ho
  obtain ⟨e, -, rfl⟩ := List.mem_map.mp ho
  exact hf e

/-- Entries are no calls of callbacks. -/
theorem Observation.invocations_entries (t : List Entry) : invocations (t.map .entry) = [] :=
  filterMap_entries (fun _ => rfl) t

namespace World

/-! ## Deliveries to an idle host

When no call is due, an event makes at most one due, and that is the one its delivery makes. -/

section Idle

variable {w : World}

theorem invokeAll_singleton (locked : Bool) (i : Invocation Callback) (w : World) :
    invokeAll locked [i] w = invoke locked i w := by
  unfold invokeAll
  dsimp only
  split
  · rfl
  · rename_i hpanicked
    simp only [invokeAll, List.append_nil]
    rw [← Bool.eq_false_iff.mpr hpanicked]

theorem runPending_handle_of_idle (hidle : w.host.pending = []) (locked : Bool) (e : Event) :
    (w.handle e).1.runPending locked = invokeAll locked (w.host.due? e).toList w := by
  have hback : ({ w with host := { w.host with pending := [] } } : World) = w := by rw [← hidle]
  show invokeAll locked (w.host.pending ++ (w.host.due? e).toList)
    { w with host := { w.host with pending := [] } } = _
  rw [hback, hidle, List.nil_append]

/-- **A delivery to an idle host** makes the call that its event makes due, if there is one. -/
theorem deliver_of_idle (hopen : w.hostPoisoned = false) (hidle : w.host.pending = []) (e : Event) :
    w.deliver e =
      { invokeAll false (w.host.due? e).toList w with
        trace := .delivered e :: (w.handle e).2 ++
          (invokeAll false (w.host.due? e).toList w).trace } := by
  rw [← runPending_handle_of_idle hidle]
  unfold deliver
  rw [hopen]
  rfl

end Idle

end World

end BluetoothHost
