import BluetoothHost.Proofs.Routing
import BluetoothHost.Proofs.Telling

/-!
# `Proofs.Matching` — callbacks take what they are called with

A delivery calls the callback that it finds in a slot only if that takes arguments of the event's kind, and
passes it over without a word if it does not (`Invocation.passed?`). No call is ever passed over: in the slots
of a host, and among the calls that are due or have been taken out of it, there are none but those that fit
(`World.Fitting`). So it makes no difference that `World.invoke` does not look (`nobody_passed_over`).

## Contents
- `Invocation.passed?` and `Invocation.Fits`, with `fits_of_due`.
- `World.Fitting`, with `joins_fitting`: all calls that wait fit, and all that are made on the way.
- `fitting_act`, `fitting_invoke`, …, `lifts_fitting`: so it is all along a session.
- `Session.nobody_passed_over`.
-/

namespace BluetoothHost

/-! ## Calls that fit -/

section Fits

variable {κ : Type}

/-- The arguments that a delivery passes on to the callback of a call: those of the event, if the callback
    takes such. A callback of another kind is passed over. -/
def Invocation.passed? (i : Invocation κ) : Option Arguments :=
  if i.registration.kind = i.event.arguments.kind then some i.event.arguments else none

/-- The callback is of the kind of the event. -/
def Invocation.Fits (i : Invocation κ) : Prop := i.registration.kind = i.event.kind

theorem Invocation.Fits.passed? {i : Invocation κ} (hi : i.Fits) : i.passed? = some i.event.arguments :=
  if_pos (hi.trans i.event.kind_arguments.symm)

/-- The call that an event makes due fits, if registrations stand in the slots of their kinds. -/
theorem Host.fits_of_due {h : Host κ} (sorted : h.registry.Sorted) {e : Event} {i : Invocation κ}
    (hdue : h.due? e = some i) : i.Fits := by
  obtain ⟨hslot, rfl⟩ := slot_of_due hdue
  exact sorted i.event.kind i.registration hslot

/-- A registration that stands in the slot of its kind is called for a reported event, and is not passed
    over. -/
theorem Registry.Sorted.exists_passed? {h : Host κ} (sorted : h.registry.Sorted) {e : Event}
    {r : Registration κ} (reported : e.isReported = true) (hr : h.registry.get e.kind = some r) :
    h.due? e = some ⟨r, e⟩ ∧ Invocation.passed? ⟨r, e⟩ = some e.arguments := by
  have hdue : h.due? e = some ⟨r, e⟩ := by
    rw [Host.due?_of_reported reported, hr]
    rfl
  exact ⟨hdue, (Host.fits_of_due sorted hdue).passed?⟩

end Fits

namespace World

/-! ## Worlds in which all calls fit -/

/-- Registrations stand in the slots of their kinds, and all calls that wait fit. -/
structure Fitting (w : World) : Prop where
  sorted : w.host.registry.Sorted
  waiting : ∀ i ∈ w.taken ++ w.host.pending, i.Fits

/-- Where all calls that wait fit, all that are made do, and all that wait afterwards. -/
def KeepsFitting (w : World) (t : List Observation) (w' : World) : Prop :=
  w.Fitting → w'.Fitting ∧ ∀ i ∈ Observation.invocations t, i.Fits

theorem joins_fitting : Joins KeepsFitting where
  refl _ hw := ⟨hw, fun _ hi => absurd hi List.not_mem_nil⟩
  trans {w w' w'' t u} h h' hw := by
    obtain ⟨hw', ht⟩ := h hw
    obtain ⟨hw'', hu⟩ := h' hw'
    refine ⟨hw'', ?_⟩
    rw [Observation.invocations_append]
    exact List.forall_mem_append.mpr ⟨ht, hu⟩

variable {w w' : World}

/-- Only what is registered and what waits counts. -/
theorem Fitting.congr (hw : w.Fitting) (hr : w'.host.registry = w.host.registry)
    (hd : ∀ i ∈ w'.taken ++ w'.host.pending, i ∈ w.taken ++ w.host.pending) : w'.Fitting :=
  ⟨hr ▸ hw.sorted, fun i hi => hw.waiting i (hd i hi)⟩

/-- Where nobody is called, it is enough that what waits fits. -/
theorem KeepsFitting.uncalled {t : List Observation} (hw : w.Fitting → w'.Fitting)
    (ht : Observation.invocations t = []) : w.KeepsFitting t w' := by
  intro h
  rw [ht]
  exact ⟨hw h, fun _ hi => absurd hi List.not_mem_nil⟩

theorem Fitting.handle (hw : w.Fitting) (e : Event) : (w.handle e).1.Fitting := by
  refine ⟨hw.sorted, fun i hi => ?_⟩
  rcases mem_waiting_handle hi with hold | hdue
  · exact hw.waiting i hold
  · exact Host.fits_of_due hw.sorted hdue

theorem Fitting.act (hw : w.Fitting) (locked : Bool) (a : Action Callback) :
    (w.act locked a).2.1.Fitting := by
  have heffect := w.effect_act locked a
  generalize w.act locked a = x at heffect ⊢
  cases heffect with
  | vain | dropped | locked | asked => exact hw
  | posted | configured => exact hw.congr rfl fun _ hi => hi
  | operated op =>
    refine ⟨Host.sorted_perform hw.sorted w.nextNumber op w.vendor, fun i hi => hw.waiting i ?_⟩
    have hpending : (w.perform op).2.1.host.pending = w.host.pending :=
      w.host.pending_perform w.nextNumber op w.vendor
    rwa [hpending] at hi
  | handled e => exact hw.handle e

theorem fitting_act (locked : Bool) (w : World) (a : Action Callback) :
    w.KeepsFitting ((w.act locked a).2.2 ++ [.acted a (w.act locked a).1]) (w.act locked a).2.1 := by
  refine .uncalled (fun hw => hw.act locked a) ?_
  rw [Observation.invocations_append, w.invocations_act]
  rfl

theorem fitting_actAll (locked : Bool) (as : List (Action Callback)) (w : World) :
    w.KeepsFitting (actAll locked as w).2 (actAll locked as w).1 :=
  joins_fitting.actAll (fun a _ w => fitting_act locked w a) w

/-! ## Calls and sessions -/

/-- The call of a callback is a call that fits, and then its actions. -/
theorem fitting_invoke {i : Invocation Callback} (hi : i.Fits) (locked : Bool) (w : World) :
    w.KeepsFitting (invoke locked i w).trace (invoke locked i w).world := by
  by_cases hp : i.registration.number ∈ w.poisoned
  · rw [invoke_of_poisoned hp]
    exact .uncalled id rfl
  · rw [invoke_of_not_poisoned hp rfl]
    intro hw
    have hcounted : (w.counting i.registration.number).Fitting := hw.congr rfl fun _ hj => hj
    obtain ⟨hafter, -⟩ := fitting_actAll locked (i.registration.callback.actions
      (w.called.count i.registration.number + 1)) _ hcounted
    constructor
    · dsimp only
      split
      · exact hafter.congr rfl fun _ hj => hj
      · exact hafter
    · intro j hj
      rw [Observation.invocations_append, invocations_opening, (seen_actAll locked _ _).1,
        List.append_nil, List.mem_singleton] at hj
      exact hj ▸ hi

theorem fitting_invokeAll {is : List (Invocation Callback)} (his : ∀ i ∈ is, i.Fits) (locked : Bool)
    (w : World) : w.KeepsFitting (invokeAll locked is w).trace (invokeAll locked is w).world :=
  joins_fitting.invokeAll (fun i hi w => fitting_invoke (his i hi) locked w) w

theorem fitting_runPending (locked : Bool) (w : World) :
    w.KeepsFitting (w.runPending locked).trace (w.runPending locked).world := by
  intro hw
  have hpending : ∀ i ∈ w.host.pending, i.Fits := fun i hi => hw.waiting i (List.mem_append_right _ hi)
  refine fitting_invokeAll hpending locked _ (hw.congr rfl fun i hi => ?_)
  exact List.mem_append_left _ (List.append_nil w.taken ▸ hi)

theorem fitting_callTaken (w : World) : w.KeepsFitting w.callTaken.trace w.callTaken.world := by
  unfold callTaken
  split
  · exact joins_fitting.refl w
  · rename_i i rest htaken
    intro hw
    have hi : i.Fits := hw.waiting i (htaken ▸ List.mem_cons_self)
    refine fitting_invoke hi false _ (hw.congr rfl fun j hj => ?_)
    rw [htaken]
    exact List.mem_cons_of_mem i hj

/-- Whatever steps are made of keeps worlds fitting. -/
theorem lifts_fitting : Lifts KeepsFitting where
  toJoins := joins_fitting
  act w a := fitting_act false w a
  handle w e := .uncalled (fun hw => hw.handle e) (Observation.invocations_entries _)
  runPending := fitting_runPending
  callTaken := fitting_callTaken
  take w := by
    refine .uncalled (fun hw => hw.congr rfl fun i hi => ?_) rfl
    have hi' : i ∈ (w.taken ++ w.host.pending) ++ [] := hi
    rwa [List.append_nil] at hi'
  delivered _ _ := .uncalled id rfl
  dropped _ _ := .uncalled id rfl
  poison _ := .uncalled (fun hw => hw.congr rfl fun _ hi => hi) rfl
  queue _ _ _ := .uncalled (fun hw => hw.congr rfl fun _ hi => hi) rfl

end World

namespace Session

/-- **Nobody is passed over.** Whatever call is made in a session, its callback takes the arguments that it is
    called with. -/
theorem nobody_passed_over (looping : Bool) (settings : List Vendor.Setting) (steps : List Step)
    {i : Invocation Callback} {count : Nat} {arguments : Arguments}
    (hcalled : .called i count arguments ∈ history looping (initial settings) steps) :
    i.passed? = some arguments := by
  have hnew : (initial settings).Fitting :=
    ⟨Registry.sorted_empty, fun _ hi => absurd hi List.not_mem_nil⟩
  have hfits : i.Fits :=
    (World.lifts_fitting.session looping _ steps hnew).2 i (List.mem_filterMap.mpr ⟨_, hcalled, rfl⟩)
  obtain rfl : arguments = i.event.arguments := faithful_history looping _ steps _ hcalled
  exact hfits.passed?

end Session

end BluetoothHost
