import BluetoothHost.Proofs.Callbacks
import BluetoothHost.Proofs.Operations

/-!
# `Proofs.Routing` — an event reaches the slot of its kind, and nothing else

Handling an event only notes down whom to call. This module says who that is (`event_reaches_its_slot`):
the registration in the slot of the event's kind, once, or nobody, if the slot is empty or the event is
one of those that are withheld. The vendor is not asked, no flag and no slot changes, and no desk gets an
event that it does not know.

That the registration is of the event's kind itself is a fact about the whole run: operations fill a slot
with registrations of its kind only (`Host.sorted_perform`), and nothing else fills slots (`Course.sorted`).

## Contents
- `Event.Withheld`, with `isReported_iff`: the events that no callback gets to know of;
  `Host.due?_of_withheld` and `Host.due?_of_not_withheld`.
- `Host.sorted_perform`, `Course.sorted`: registrations stand in the slots of their kinds.
- `Session.event_reaches_its_slot`.
-/

namespace BluetoothHost

/-! ## Events that are withheld -/

/-- Data that arrived with a failure, and the states that an input device only passes through. -/
inductive Event.Withheld : Event → Prop
  | failedData {status : Status} {data : SocketData} (failed : status ≠ .success) :
      Withheld (.socketData status data)
  | passingState {status : Status} {address : Address} {state : HidState}
      (up : state ≠ .connected) (down : state ≠ .disconnected) :
      Withheld (.hidConnection status address state)

/-- A state of an input device is settled if it is one of the two that last. -/
theorem HidState.isSome_settled?_iff (state : HidState) :
    state.settled?.isSome = true ↔ state = .connected ∨ state = .disconnected := by
  cases state <;> simp [HidState.settled?]

/-- An event is reported unless it is withheld. -/
theorem Event.isReported_iff (e : Event) : e.isReported = true ↔ ¬ e.Withheld := by
  cases e with
  | socketData status data =>
    show (status == .success) = true ↔ _
    rw [beq_iff_eq]
    constructor
    · rintro hsuccess ⟨hfailed⟩
      exact hfailed hsuccess
    · intro hkept
      by_cases hsuccess : status = .success
      · exact hsuccess
      · exact absurd (.failedData hsuccess) hkept
  | hidConnection status address state =>
    show state.settled?.isSome = true ↔ _
    rw [HidState.isSome_settled?_iff]
    constructor
    · rintro hsettled ⟨⟩
      rename_i hup hdown
      exact hsettled.elim hup hdown
    · intro hkept
      by_cases hsettled : state = .connected ∨ state = .disconnected
      · exact hsettled
      · obtain ⟨hup, hdown⟩ := not_or.mp hsettled
        exact absurd (.passingState hup hdown) hkept
  | _ => exact ⟨fun _ => nofun, fun _ => rfl⟩

instance (e : Event) : Decidable e.Withheld :=
  decidable_of_iff (¬ e.isReported = true) (by rw [e.isReported_iff, Classical.not_not])

section Due

variable {κ : Type} {e : Event}

/-- An event that is withheld makes no call due. -/
theorem Host.due?_of_withheld (hwithheld : e.Withheld) (h : Host κ) : h.due? e = none :=
  due?_of_not_reported (Bool.eq_false_iff.mpr fun hreported => e.isReported_iff.mp hreported hwithheld) h

/-- The call that any other event makes due is of the registration in its slot. -/
theorem Host.due?_of_not_withheld (hkept : ¬ e.Withheld) (h : Host κ) :
    h.due? e = (h.registry.get e.kind).map (⟨·, e⟩) :=
  due?_of_reported (e.isReported_iff.mpr hkept) h

end Due

/-! ## Registrations in the slots of their kinds -/

/-- Operations keep registrations in the slots of their kinds. -/
theorem Host.sorted_perform {κ : Type} {h : Host κ} (hr : h.registry.Sorted) (number : Nat)
    (op : Operation κ) (v : Vendor) : (h.perform number op v).host.registry.Sorted := by
  intro k registration hget
  rcases Host.get_perform hget with hold | ⟨hkind, -⟩
  · exact hr k registration hold
  · exact hkind

/-- All along a course, registrations stand in the slots of their kinds. -/
theorem Course.sorted {w w' : World} {t : List Observation} (h : Course w t w')
    (hw : w.host.registry.Sorted) : w'.host.registry.Sorted := by
  induction h with
  | done => exact hw
  | act locked a h ih =>
    rename_i w' t
    have heffect := w'.effect_act locked a
    generalize w'.act locked a = x at heffect ⊢
    cases heffect with
    | vain | posted | dropped | configured | locked | asked | handled => exact ih
    | operated op => exact Host.sorted_perform ih w'.nextNumber op w'.vendor
  | aside _ ha ih =>
    rw [ha.registry]
    exact ih

/-! ## What handling an event does -/

/-- What is seen of an event being handled is no call of the vendor. -/
theorem World.calls_handle (w : World) (e : Event) : Observation.calls (w.handle e).2 = [] :=
  Observation.calls_of_isAside (w.aside_handle e).unseen

/-- The notices of an event being handled are those of the desk that takes it. -/
theorem World.notices_handle (w : World) (e : Event) :
    Observation.notices (w.handle e).2 = e.comments := by
  show ((Entry.handled e :: e.remarks.map .notice).map Observation.entry).filterMap _ = _
  rw [Event.remarks_eq_comments, List.map_cons, List.filterMap_cons, List.map_map, List.filterMap_map]
  exact List.filterMap_some

/-- No desk says of an event that it does not know it. -/
theorem Event.unhandled_notMem_comments (e e' : Event) : Notice.unhandled e' ∉ e.comments := by
  cases e with
  | nameChanged | socketData | hidConnection =>
    unfold Event.comments
    split <;> simp
  | _ => exact List.not_mem_nil

namespace Session

/-- **An event reaches the slot of its kind, and nothing else.** Whatever world a session passes through,
    and whatever the event, handling it changes nothing but the calls that are due, behind which it puts
    at most one: that of the registration in the slot of its kind, if there is one and the event is not
    withheld, and none otherwise. That registration is of the event's kind; the vendor is not called; and
    no event falls through the desks. -/
theorem event_reaches_its_slot {w : World} (hw : Passed w) (e : Event) :
    ∃ added : List (Invocation Callback),
      (w.handle e).1 = { w with host := { w.host with pending := w.host.pending ++ added } } ∧
      (∀ r, w.host.registry.get e.kind = some r → ¬ e.Withheld → added = [⟨r, e⟩]) ∧
      (w.host.registry.get e.kind = none ∨ e.Withheld → added = []) ∧
      (∀ i ∈ added, i.registration.kind = e.kind) ∧
      Observation.calls (w.handle e).2 = [] ∧
      ∀ e', Notice.unhandled e' ∉ Observation.notices (w.handle e).2 := by
  have hsorted : w.host.registry.Sorted := by
    obtain ⟨settings, t, hcourse⟩ := hw
    exact hcourse.sorted Registry.sorted_empty
  refine ⟨(w.host.due? e).toList, rfl, ?_, ?_, ?_, w.calls_handle e, ?_⟩
  · intro r hr hkept
    rw [Host.due?_of_not_withheld hkept, hr]
    rfl
  · intro hnone
    by_cases hwithheld : e.Withheld
    · rw [Host.due?_of_withheld hwithheld]
      rfl
    · rw [Host.due?_of_not_withheld hwithheld, hnone.resolve_right hwithheld]
      rfl
  · intro i hi
    have hdue := Host.slot_of_due (Option.mem_toList.mp hi)
    exact hsorted e.kind i.registration hdue.1
  · intro e'
    rw [w.notices_handle]
    exact e.unhandled_notMem_comments e'

/-- A host that is up, with a callback for the data of sockets and no other. -/
def withListener : World :=
  (runFrom false (initial []) [.act (.request (.operation .start)),
    .act (.request (.operation (.setCallback ⟨.socketData, nofun⟩ { tag := "listener" })))]).1

/-- Data makes a call due, once; data that arrived with a failure makes none, and neither does an event
    whose slot is empty. -/
theorem event_reaches_its_slot_withListener :
    Passed withListener ∧
      ((withListener.handle (.socketData .success ⟨7, [1]⟩)).1.host.pending.map
        fun i => (i.registration.number, i.event)) = [(1, .socketData .success ⟨7, [1]⟩)] ∧
      (withListener.handle (.socketData .timeout ⟨7, [1]⟩)).1 = withListener ∧
      (withListener.handle (.adapterEnabled .success)).1 = withListener := by
  have hpassed : Passed withListener := Reachable.passed ⟨false, [], _, rfl⟩
  refine ⟨hpassed, ?_, ?_, ?_⟩
  · obtain ⟨added, hframe, hdue, -⟩ := event_reaches_its_slot hpassed (.socketData .success ⟨7, [1]⟩)
    rw [hframe, hdue _ rfl nofun]
    rfl
  · obtain ⟨added, hframe, -, hnone, -⟩ :=
      event_reaches_its_slot hpassed (.socketData .timeout ⟨7, [1]⟩)
    rw [hframe, hnone (.inr (.failedData (by decide))), List.append_nil]
  · obtain ⟨added, hframe, -, hnone, -⟩ := event_reaches_its_slot hpassed (.adapterEnabled .success)
    rw [hframe, hnone (.inl rfl), List.append_nil]

end Session

end BluetoothHost
