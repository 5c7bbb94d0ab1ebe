import BluetoothHost.Proofs.Routing
import Mathlib.Data.List.Induction

/-!
# `Proofs.Registrations` — every event calls the callback that was registered for it, once

Between the moment an event is handled and the moment its callback is called, the slots may change. What
counts is what stood in the slot when the event was handled. An onlooker who reads off the operations and
the calls of the vendor which callbacks are registered (`Slots`) can tell which calls the events handled so
far are owed, and in what order (`Slots.owed`); the books are in order (`Books`) if every call made is the
first of those still owed. They are in order in every session whose callbacks keep calm and whose taken
calls are made before the next event is handled, and what is still owed in the end are the calls that the
host and its caller still have to make, and will have made once they are run (`SettlesUp`).

## Contents
- `Slots`, `Slots.enter`, `Slots.owed`: what an onlooker sees of registrations, and of calls owed.
- `Slots.Made`, `Slots.made_after`, `Slots.exists_of_mem_owed`: which registration a call is owed to.
- `Books`, with `Books.trans`, `Books.split` and `Books.invocations_append`.
- `Callback.Calm`, `World.Calm`: callbacks that neither panic nor handle events.
- `books_act`, `World.settles_invoke`, …, `World.keeps_drain`: what happens keeps the books in order.
- `Step.Tame`, `Prompt`, `books_step`, `books_history`: so do sessions.
- `SettlesUp`, with `settled_callTaken` and `Settled.settlesUp`: what waits is called once it is run.
- `calls_settle_events`: every event handled gets its call, once and in order.
-/

namespace BluetoothHost

/-! ## What an onlooker knows -/

/-- What is registered, as an onlooker sees it. Operations are counted, so that each registration has a
    number of its own. -/
structure Slots where
  get : EventKind → Option (Registration Callback) := fun _ => none
  /-- How many operations have been answered. -/
  answered : Nat := 0

namespace Slots

/-- The slots after an observation: an operation that succeeds fills one or empties one, and some are
    emptied by calls of the vendor that stop its HID host or disconnect from it. -/
def enter (s : Slots) : Observation → Slots
  | .entry e => { s with get := e.slots s.get }
  | .acted (.request (.operation op)) (.reply reply) =>
    { get := op.slots s.answered reply s.get, answered := s.answered + 1 }
  | _ => s

/-- The call that an observation makes due: when an event is handled that is not withheld, one of the
    callback that is registered for it at that time. -/
def due (s : Slots) : Observation → List (Invocation Callback)
  | .entry (.handled e) => if e.Withheld then [] else (s.get e.kind).toList.map (⟨·, e⟩)
  | _ => []

/-- The slots after some observations, of a host that is new. -/
def after (t : List Observation) : Slots := t.foldl enter {}

/-- The calls that some observations make due, in the order of the events. -/
def owed : Slots → List Observation → List (Invocation Callback)
  | _, [] => []
  | s, o :: rest => s.due o ++ (s.enter o).owed rest

end Slots

/-! ## What is owed, and to whom -/

/-- The operations answered among some observations, with their replies. -/
def Observation.answers (t : List Observation) : List (Operation Callback × Reply) :=
  t.filterMap fun
    | .acted (.request (.operation op)) (.reply reply) => some (op, reply)
    | _ => none

@[simp] theorem Observation.answers_append (s t : List Observation) :
    answers (s ++ t) = answers s ++ answers t :=
  List.filterMap_append

namespace Slots

/-- Some observations show a registration being made: the operation with its number has succeeded, and
    fills its slot with its callback. -/
def Made (t : List Observation) (r : Registration Callback) : Prop :=
  ∃ op reply value, (Observation.answers t)[r.number]? = some (op, reply) ∧
    op.slot? = some (r.kind, r.callback) ∧ reply.result = .ok value

variable {s : Slots} {t : List Observation} {r r' : Registration Callback}
  {i : Invocation Callback}

theorem Made.append (h : Made t r) (u : List Observation) : Made (t ++ u) r := by
  obtain ⟨op, reply, value, hget, hslot, hok⟩ := h
  obtain ⟨hlt, -⟩ := List.getElem?_eq_some_iff.mp hget
  refine ⟨op, reply, value, ?_, hslot, hok⟩
  rw [Observation.answers_append, List.getElem?_append_left hlt]
  exact hget

/-- Registrations are told apart by their numbers. -/
theorem Made.eq_of_number_eq (h : Made t r) (h' : Made t r') (hn : r.number = r'.number) : r = r' := by
  obtain ⟨op, reply, _, hget, hslot, -⟩ := h
  obtain ⟨op', reply', _, hget', hslot', -⟩ := h'
  rw [hn, hget'] at hget
  obtain ⟨rfl, -⟩ := Prod.mk.inj (Option.some.inj hget)
  rw [hslot'] at hslot
  obtain ⟨hkind, hcallback⟩ := Prod.mk.inj (Option.some.inj hslot)
  cases r
  cases r'
  simp_all

theorem after_concat (t : List Observation) (o : Observation) : after (t ++ [o]) = (after t).enter o := by
  unfold after
  rw [List.foldl_append]
  rfl

/-- What stands in the slots has been made, and operations are counted right. -/
theorem made_after (t : List Observation) :
    (after t).answered = (Observation.answers t).length ∧
      ∀ k r, (after t).get k = some r → Made t r := by
  induction t using List.reverseRecOn with
  | nil => exact ⟨rfl, fun k r hr => absurd hr (by simp [after])⟩
  | append_singleton t o ih =>
    obtain ⟨hcount, hmade⟩ := ih
    rw [after_concat]
    -- most observations are not about registrations at all
    have hquiet : (after t).enter o = after t → Observation.answers [o] = [] →
        ((after t).enter o).answered = (Observation.answers (t ++ [o])).length ∧
          ∀ k r, ((after t).enter o).get k = some r → Made (t ++ [o]) r := by
      intro henter hanswers
      rw [henter, Observation.answers_append, hanswers, List.append_nil]
      exact ⟨hcount, fun k r hr => (hmade k r hr).append [o]⟩
    cases o with
    | entry e =>
      refine ⟨?_, fun k r hr => ?_⟩
      · rw [Observation.answers_append]
        exact hcount.trans (congrArg List.length (List.append_nil _).symm)
      · have hbefore : (after t).get k = some r := Entry.eq_of_slots hr
        exact (hmade k r hbefore).append [.entry e]
    | posted | delivered | called => exact hquiet rfl rfl
    | acted a response =>
      cases a with
      | fire | configure => exact hquiet rfl rfl
      | request request =>
        cases request with
        | isStarted | handle => exact hquiet rfl rfl
        | operation op =>
          cases response with
          | nothing | flag | count | locked | panicked => exact hquiet rfl rfl
          | reply reply =>
            have hanswers : Observation.answers [.acted (.request (.operation op)) (.reply reply)] =
                [(op, reply)] := rfl
            refine ⟨?_, fun k r hr => ?_⟩
            · rw [Observation.answers_append, hanswers, List.length_append, ← hcount]
              rfl
            · rcases Operation.eq_of_slots hr with hold | ⟨-, hnumber, hslot, value, hok⟩
              · exact (hmade k r hold).append _
              · refine ⟨op, reply, value, ?_, hslot, hok⟩
                rw [Observation.answers_append, hanswers, hnumber, hcount, List.getElem?_concat_length]

/-- **A call is owed to an event** that was handled while its registration stood in the slot. -/
theorem exists_of_mem_owed (hi : i ∈ s.owed t) :
    ∃ before behind, t = before ++ .entry (.handled i.event) :: behind ∧
      ¬ i.event.Withheld ∧ (before.foldl enter s).get i.event.kind = some i.registration := by
  induction t generalizing s with
  | nil => exact absurd hi List.not_mem_nil
  | cons o rest ih =>
    rcases List.mem_append.mp hi with hhere | hlater
    · -- only the handling of an event makes a call due
      refine ⟨[], rest, ?_⟩
      unfold due at hhere
      split at hhere
      · rename_i e
        split at hhere
        · exact absurd hhere List.not_mem_nil
        · rename_i hkept
          obtain ⟨r, hr, rfl⟩ := List.mem_map.mp hhere
          exact ⟨rfl, hkept, Option.mem_toList.mp hr⟩
      · exact absurd hhere List.not_mem_nil
    · obtain ⟨before, behind, rfl, hkept, hslot⟩ := ih hlater
      exact ⟨o :: before, behind, rfl, hkept, hslot⟩

/-- Whom a call is owed to has been made. -/
theorem made_of_mem_owed (hi : i ∈ owed {} t) : Made t i.registration := by
  obtain ⟨before, behind, rfl, -, hslot⟩ := exists_of_mem_owed hi
  exact ((made_after before).2 _ _ hslot).append _

end Slots

/-- No call is owed where no event is handled. -/
theorem Slots.owed_eq_nil {t : List Observation} (ht : ∀ e, .entry (.handled e) ∉ t) (s : Slots) :
    s.owed t = [] := by
  rw [List.eq_nil_iff_forall_not_mem]
  intro i hi
  obtain ⟨before, behind, rfl, -⟩ := exists_of_mem_owed hi
  exact ht i.event (by simp)

/-- An observation that has nothing to do with registrations or calls. -/
structure Observation.Inert (o : Observation) : Prop where
  invocations : Observation.invocations [o] = []
  enter : ∀ s : Slots, s.enter o = s
  due : ∀ s : Slots, s.due o = []

/-! ## Books -/

/-- The books are in order: starting from these slots and the calls `q` still owed, each call made is
    the first of those owed, and `q'` is what is owed in the end. -/
inductive Books : Slots → List (Invocation Callback) → List Observation → Slots →
    List (Invocation Callback) → Prop
  | nil (s : Slots) (q : List (Invocation Callback)) : Books s q [] s q
  | call {s s' : Slots} {q q' : List (Invocation Callback)} {t : List Observation}
      (i : Invocation Callback) (count : Nat) (arguments : Arguments) (h : Books s q t s' q') :
      Books s (i :: q) (.called i count arguments :: t) s' q'
  | other {s s' : Slots} {q q' : List (Invocation Callback)} {t : List Observation}
      {o : Observation} (ho : Observation.invocations [o] = [])
      (h : Books (s.enter o) (q ++ s.due o) t s' q') : Books s q (o :: t) s' q'

namespace Books

variable {s s' s'' : Slots} {q q' q'' : List (Invocation Callback)} {t u : List Observation}

theorem trans (h : Books s q t s' q') (h' : Books s' q' u s'' q'') : Books s q (t ++ u) s'' q'' := by
  induction h with
  | nil => exact h'
  | call i count arguments _ ih => exact .call i count arguments (ih h')
  | other ho _ ih => exact .other ho (ih h')

/-- Books in order are in order at any time before. -/
theorem split (h : Books s q (t ++ u) s'' q'') :
    ∃ s' q', Books s q t s' q' ∧ Books s' q' u s'' q'' := by
  induction t generalizing s q with
  | nil => exact ⟨s, q, .nil s q, h⟩
  | cons o rest ih =>
    cases h with
    | call i count arguments h =>
      obtain ⟨s', q', hrest, hu⟩ := ih h
      exact ⟨s', q', .call i count arguments hrest, hu⟩
    | other ho h =>
      obtain ⟨s', q', hrest, hu⟩ := ih h
      exact ⟨s', q', .other ho hrest, hu⟩

/-- Calls made and calls still owed are those owed at first and those owed to the events since. -/
theorem invocations_append (h : Books s q t s' q') :
    Observation.invocations t ++ q' = q ++ s.owed t := by
  induction h with
  | nil => simp [Observation.invocations, Slots.owed]
  | @call s _ _ _ t i count arguments _ ih =>
    show i :: (Observation.invocations t ++ _) = i :: (_ ++ s.owed t)
    rw [ih]
  | @other s _ q q' t o ho _ ih =>
    have hskip : Observation.invocations (o :: t) = Observation.invocations t := by
      rw [← List.singleton_append, Observation.invocations_append, ho, List.nil_append]
    rw [hskip, ih, Slots.owed, List.append_assoc]

/-- The slots are those that the observations say. -/
theorem slots_eq (h : Books s q t s' q') : s' = t.foldl Slots.enter s := by
  induction h with
  | nil => rfl
  | call i count arguments _ ih => exact ih
  | other _ _ ih => exact ih

/-- Observations that have nothing to do with calls leave the books as they are. -/
theorem of_inert (s : Slots) (q : List (Invocation Callback)) (ht : ∀ o ∈ t, o.Inert) :
    Books s q t s q := by
  induction t with
  | nil => exact .nil s q
  | cons o rest ih =>
    have ho := ht o List.mem_cons_self
    refine .other ho.invocations ?_
    rw [ho.enter, ho.due, List.append_nil]
    exact ih fun x hx => ht x (List.mem_cons_of_mem o hx)

theorem inert (s : Slots) (q : List (Invocation Callback)) {o : Observation} (ho : o.Inert) :
    Books s q [o] s q :=
  of_inert s q (by simpa using ho)

/-- Entries without an event empty slots, and do nothing else. -/
theorem entries (s : Slots) (q : List (Invocation Callback)) {t : List Entry}
    (ht : ∀ e, Entry.handled e ∉ t) :
    Books s q (t.map .entry) { s with get := t.foldl Entry.slots s.get } q := by
  induction t generalizing s with
  | nil => exact .nil s q
  | cons entry rest ih =>
    have hdue : s.due (.entry entry) = [] := by
      cases entry with
      | handled e => exact absurd List.mem_cons_self (ht e)
      | call | notice | registered | released | releasedAll => rfl
    refine .other rfl ?_
    rw [hdue, List.append_nil]
    exact ih _ fun e he => ht e (List.mem_cons_of_mem entry he)

end Books

/-! ## Actions -/

namespace World

/-- The slots as they really are. -/
def slots (w : World) : Slots := ⟨w.host.registry.get, w.nextNumber⟩

/-- The calls still to be made, by whoever has taken them or by the host. -/
def waiting (w : World) : List (Invocation Callback) := w.taken ++ w.host.pending

end World

theorem Observation.inert_notice (n : Notice) : (Observation.notice n).Inert :=
  ⟨rfl, fun _ => rfl, fun _ => rfl⟩

/-- An operation fills and empties slots as it answers. -/
theorem World.books_perform (w : World) (op : Operation Callback) (q : List (Invocation Callback)) :
    Books w.slots q
      ((w.perform op).2.2 ++ [.acted (.request (.operation op)) (.reply (w.perform op).1)])
      (w.perform op).2.1.slots q := by
  have hentries := Books.entries w.slots q (w.host.unhandled_perform w.nextNumber op w.vendor)
  refine hentries.trans (.other rfl ?_)
  have hslots : (w.perform op).2.1.slots = ⟨_, w.nextNumber + 1⟩ :=
    congrArg (Slots.mk · _) (w.host.slots_perform w.nextNumber op w.vendor)
  rw [hslots]
  show Books _ (q ++ []) [] _ q
  rw [List.append_nil]
  exact .nil _ q

/-- **An action that handles no event** makes no call due, and fills and empties slots as it says. -/
theorem books_act {a : Action Callback} (ha : a.handles = false) (locked : Bool) (w : World)
    (q : List (Invocation Callback)) :
    Books w.slots q ((w.act locked a).2.2 ++ [.acted a (w.act locked a).1])
      (w.act locked a).2.1.slots q := by
  have heffect := w.effect_act locked a
  generalize w.act locked a = x at heffect ⊢
  cases heffect with
  | vain | configured | asked => exact .inert _ _ ⟨rfl, fun _ => rfl, fun _ => rfl⟩
  | posted e | dropped e =>
    have hposted : (Observation.posted e).Inert := ⟨rfl, fun _ => rfl, fun _ => rfl⟩
    have hacted : (Observation.acted (.fire e) (.flag true)).Inert :=
      ⟨rfl, fun _ => rfl, fun _ => rfl⟩
    exact .of_inert _ _ (by simp [hposted, hacted, Observation.inert_notice])
  | locked r =>
    have hacted : (Observation.acted (.request r) .locked).Inert := by
      cases r <;> exact ⟨rfl, fun _ => rfl, fun _ => rfl⟩
    exact .inert _ _ hacted
  | operated op => exact w.books_perform op q
  | handled e => exact absurd ha (by simp [Action.handles])

theorem books_actAll {as : List (Action Callback)} (has : ∀ a ∈ as, a.handles = false) (locked : Bool)
    (w : World) (q : List (Invocation Callback)) :
    Books w.slots q (World.actAll locked as w).2 (World.actAll locked as w).1.slots q := by
  induction as generalizing w with
  | nil => exact .nil _ q
  | cons a rest ih =>
    have hfirst := books_act (has a List.mem_cons_self) locked w q
    have hrest := ih (fun x hx => has x (List.mem_cons_of_mem a hx)) (w.act locked a).2.1
    simpa [World.actAll] using hfirst.trans hrest

/-! ## Calls of callbacks -/

/-- A callback that neither handles events nor panics. -/
def Callback.Calm (c : Callback) : Prop := c.Reserved ∧ ∀ n, c.panics n = false

namespace World

/-- All callbacks keep calm, and none has panicked before. -/
structure Calm (w : World) : Prop where
  holds : w.Holds Callback.Calm
  poisoned : w.poisoned = []
  hostPoisoned : w.hostPoisoned = false

/-- Some calls are made of those due in `w`: the books are in order, from the calls `q` owed at first to
    the calls `q'` owed in the end, no event is handled meanwhile, and calls waiting elsewhere still wait. -/
structure Settles (w : World) (q : List (Invocation Callback)) (d : Delivery)
    (q' : List (Invocation Callback)) : Prop where
  books : Books w.slots q d.trace d.world.slots q'
  calm : d.world.Calm
  unpanicked : d.panicked = false
  unhandled : ∀ e, .entry (.handled e) ∉ d.trace
  taken : d.world.taken = w.taken
  pending : d.world.host.pending = w.host.pending

section Calls

variable {w w' : World}

theorem Calm.congr (hw : w.Calm) (hh : w'.Holds Callback.Calm) (hp : w'.poisoned = w.poisoned)
    (hq : w'.hostPoisoned = w.hostPoisoned) : w'.Calm :=
  ⟨hh, hp.trans hw.poisoned, hq.trans hw.hostPoisoned⟩

/-- The call that comes first is made, and the world stays calm. -/
theorem settles_invoke (hw : w.Calm) {i : Invocation Callback}
    (hi : i.registration.callback.Throughout Callback.Calm) (locked : Bool)
    (q : List (Invocation Callback)) : w.Settles (i :: q) (invoke locked i w) q := by
  have hunpoisoned : i.registration.number ∉ w.poisoned := by simp [hw.poisoned]
  obtain ⟨hreserved, hsteady⟩ := hi.here
  rw [invoke_of_not_poisoned hunpoisoned rfl]
  generalize w.called.count i.registration.number + 1 = n
  have hbooks := books_actAll (hreserved n) locked (w.counting i.registration.number) q
  have hframe := undisturbed_actAll (hreserved n) locked (w.counting i.registration.number)
  have hholds := hw.holds.body hi n i.registration.number locked
  rw [hsteady n]
  refine ⟨?_, hw.congr hholds hframe.poisoned hframe.hostPoisoned, rfl, ?_, hframe.taken,
    hframe.pending⟩
  · -- the note of a shortfall comes before the call
    unfold opening
    rw [List.append_assoc]
    refine Books.trans (.of_inert _ _ ?_) (.call i n _ hbooks)
    intro o ho
    obtain ⟨x, -, rfl⟩ := List.mem_map.mp ho
    exact Observation.inert_notice _
  · intro e he
    rcases List.mem_append.mp he with hopening | hacted
    · exact absurd hopening (by simp [opening, Observation.notice])
    · exact absurd (hframe.unseen _ hacted) (by simp [Observation.isPassage])

/-- The calls that are made are those no longer owed. -/
theorem Settles.invocations_eq {is q : List (Invocation Callback)} {d : Delivery}
    (h : w.Settles (is ++ q) d q) : Observation.invocations d.trace = is := by
  have howed := h.books.invocations_append
  rw [Slots.owed_eq_nil h.unhandled, List.append_nil] at howed
  exact List.append_cancel_right howed

/-- Calls made in order are all made, as nothing panics. -/
theorem settles_invokeAll (hw : w.Calm) {is : List (Invocation Callback)}
    (his : ∀ i ∈ is, i.registration.callback.Throughout Callback.Calm) (locked : Bool)
    (q : List (Invocation Callback)) : w.Settles (is ++ q) (invokeAll locked is w) q := by
  induction is generalizing w with
  | nil => exact ⟨.nil _ q, hw, rfl, fun _ => List.not_mem_nil, rfl, rfl⟩
  | cons i rest ih =>
    have hfirst := settles_invoke hw (his i List.mem_cons_self) locked (rest ++ q)
    have hrest := ih hfirst.calm fun j hj => his j (List.mem_cons_of_mem i hj)
    unfold invokeAll
    dsimp only
    rw [hfirst.unpanicked]
    refine ⟨hfirst.books.trans hrest.books, hrest.calm, hrest.unpanicked, fun e he => ?_,
      hrest.taken.trans hfirst.taken, hrest.pending.trans hfirst.pending⟩
    exact (List.mem_append.mp he).elim (hfirst.unhandled e) (hrest.unhandled e)

/-! ## Deliveries -/

/-- The books are in order from the calls that wait before to those that wait after, and nobody takes
    any. -/
structure Keeps (w : World) (d : Delivery) : Prop where
  books : Books w.slots w.waiting d.trace d.world.slots d.world.waiting
  calm : d.world.Calm
  unpanicked : d.panicked = false
  taken : d.world.taken = w.taken

theorem Keeps.refl (hw : w.Calm) : w.Keeps ⟨w, [], false⟩ := ⟨.nil _ _, hw, rfl, rfl⟩

/-- Nothing changes but the queue of events. -/
theorem Calm.setQueue (hw : w.Calm) (es : List Event) : ({ w with queue := es } : World).Calm :=
  hw.congr (hw.holds.congr rfl fun _ hi => hi) rfl rfl

/-- An event that is handled is owed a call if its slot is filled, behind those already waiting. -/
theorem books_handle (w : World) (e : Event) :
    Books w.slots w.waiting (w.handle e).2 (w.handle e).1.slots (w.handle e).1.waiting := by
  have hdue : w.slots.due (.entry (.handled e)) = (w.host.due? e).toList := by
    show (if e.Withheld then [] else _) = _
    by_cases hwithheld : e.Withheld
    · rw [if_pos hwithheld, Host.due?_of_withheld hwithheld]
      rfl
    · rw [if_neg hwithheld, Host.due?_of_not_withheld hwithheld]
      cases hslot : w.host.registry.get e.kind <;> simp [slots, hslot]
  have hwaiting : (w.handle e).1.waiting = w.waiting ++ w.slots.due (.entry (.handled e)) := by
    rw [hdue]
    exact (List.append_assoc _ _ _).symm
  rw [hwaiting]
  refine .other rfl (.of_inert _ _ ?_)
  intro o ho
  obtain ⟨entry, hentry, rfl⟩ := List.mem_map.mp ho
  obtain ⟨n, -, rfl⟩ := List.mem_map.mp hentry
  exact Observation.inert_notice n

theorem Calm.handle (hw : w.Calm) (e : Event) : (w.handle e).1.Calm :=
  hw.congr (hw.holds.handle e) rfl rfl

/-- The calls that are due are made. -/
theorem settles_runPending (hw : w.Calm) (locked : Bool) (q : List (Invocation Callback)) :
    ({ w with host := w.host.takePending.2 } : World).Settles (w.host.pending ++ q)
      (w.runPending locked) q := by
  have hcalm : ({ w with host := w.host.takePending.2 } : World).Calm := by
    refine hw.congr (hw.holds.congr rfl fun i hi => ?_) rfl rfl
    rw [List.mem_append] at hi ⊢
    exact .inl (hi.resolve_right List.not_mem_nil)
  refine settles_invokeAll hcalm (fun i hi => ?_) locked q
  exact hw.holds.due i (List.mem_append_right _ hi)

/-- **The calls that are due are made in order**, unless someone has taken others before them; then none
    is due any more. -/
theorem keeps_runPending (hw : w.Calm) (hone : w.taken = [] ∨ w.host.pending = []) (locked : Bool) :
    w.Keeps (w.runPending locked) ∧ (w.runPending locked).world.host.pending = [] := by
  have h := settles_runPending hw locked w.taken
  -- of the calls taken and those due there is one kind only, so that either order is theirs
  have hbefore : w.waiting = w.host.pending ++ w.taken := by
    rcases hone with hnone | hnone <;> simp [waiting, hnone]
  have hafter : (w.runPending locked).world.waiting = w.taken := by
    show (w.runPending locked).world.taken ++ (w.runPending locked).world.host.pending = w.taken
    rw [show (w.runPending locked).world.taken = w.taken from h.taken,
      show (w.runPending locked).world.host.pending = [] from h.pending, List.append_nil]
  refine ⟨⟨?_, h.calm, h.unpanicked, h.taken⟩, h.pending⟩
  rw [hbefore, hafter]
  exact h.books

/-- An event is handled, and the calls that are due are made. -/
theorem keeps_handle_runPending (hw : w.Calm) (hnone : w.taken = []) (e : Event) (locked : Bool) :
    w.Keeps { (w.handle e).1.runPending locked with
      trace := (w.handle e).2 ++ ((w.handle e).1.runPending locked).trace } := by
  obtain ⟨h, -⟩ := keeps_runPending (hw.handle e) (.inl hnone) locked
  exact ⟨(w.books_handle e).trans h.books, h.calm, h.unpanicked, h.taken⟩

theorem keeps_deliver (hw : w.Calm) (hnone : w.taken = []) (e : Event) : w.Keeps (w.deliver e) := by
  have h := keeps_handle_runPending hw hnone e false
  unfold deliver
  rw [hw.hostPoisoned]
  refine ⟨.other rfl ?_, h.calm, h.unpanicked, h.taken⟩
  show Books w.slots (w.waiting ++ []) _ _ _
  rw [List.append_nil]
  exact h.books

theorem keeps_deliverAll (hw : w.Calm) (hnone : w.taken = []) (es : List Event) :
    w.Keeps (deliverAll es w) := by
  induction es generalizing w with
  | nil => exact .refl hw
  | cons e rest ih =>
    have hfirst := keeps_deliver hw hnone e
    have hrest := ih hfirst.calm (hfirst.taken.trans hnone)
    unfold deliverAll
    dsimp only
    rw [hfirst.unpanicked]
    exact ⟨hfirst.books.trans hrest.books, hrest.calm, hrest.unpanicked,
      hrest.taken.trans hfirst.taken⟩

theorem keeps_drain (hw : w.Calm) (hnone : w.taken = []) (limit : Nat) :
    w.Keeps (drain limit w).2 := by
  induction limit generalizing w with
  | zero => exact .refl hw
  | succ limit ih =>
    unfold drain
    split
    · exact .refl hw
    · rename_i e rest _
      have hfirst := keeps_deliver (hw.setQueue rest) hnone e
      have hrest := ih hfirst.calm (hfirst.taken.trans hnone)
      dsimp only
      rw [hfirst.unpanicked]
      exact ⟨hfirst.books.trans hrest.books, hrest.calm, hrest.unpanicked,
        hrest.taken.trans hfirst.taken⟩

theorem keeps_dispatch (hw : w.Calm) (hnone : w.taken = []) (e : Event) : w.Keeps (w.dispatch e) := by
  have h := keeps_handle_runPending hw hnone e true
  have hpanicked : ((w.handle e).1.runPending true).panicked = false := h.unpanicked
  unfold dispatch
  dsimp only
  rw [hpanicked]
  exact ⟨h.books, h.calm, rfl, h.taken⟩

/-! ## Calls taken -/

/-- Calls taken come behind those taken before, so that their order stays. -/
theorem waiting_take (w : World) : w.take.waiting = w.waiting := by
  show (w.taken ++ w.host.pending) ++ [] = w.taken ++ w.host.pending
  rw [List.append_nil]

theorem Calm.take (hw : w.Calm) : w.take.Calm := by
  refine hw.congr (hw.holds.congr rfl fun i hi => ?_) rfl rfl
  have hi' : i ∈ w.take.waiting := hi
  rw [waiting_take] at hi'
  exact hi'

/-- The first of the calls taken is made. -/
theorem settles_callTaken (hw : w.Calm) {i : Invocation Callback} {rest : List (Invocation Callback)}
    (htaken : w.taken = i :: rest) (q : List (Invocation Callback)) :
    ({ w with taken := rest } : World).Settles (i :: q) w.callTaken q := by
  have hdue : ∀ j ∈ w.taken ++ w.host.pending, j.registration.callback.Throughout Callback.Calm :=
    hw.holds.due
  rw [htaken] at hdue
  have hcalm : ({ w with taken := rest } : World).Calm :=
    hw.congr ⟨hw.holds.registered, fun j hj => hdue j (List.mem_cons_of_mem i hj)⟩ rfl rfl
  unfold callTaken
  rw [htaken]
  exact settles_invoke hcalm (hdue i List.mem_cons_self) false q

theorem books_callTaken (hw : w.Calm) :
    Books w.slots w.waiting w.callTaken.trace w.callTaken.world.slots w.callTaken.world.waiting ∧
      w.callTaken.world.Calm ∧ w.callTaken.world.taken = w.taken.tail ∧
      w.callTaken.world.host.pending = w.host.pending := by
  cases htaken : w.taken with
  | nil =>
    have hvain : w.callTaken = ⟨w, [], false⟩ := by
      unfold callTaken
      rw [htaken]
    rw [hvain]
    exact ⟨.nil _ _, hw, htaken, rfl⟩
  | cons i rest =>
    have h := settles_callTaken hw htaken (rest ++ w.host.pending)
    refine ⟨?_, h.calm, h.taken, h.pending⟩
    have hbefore : w.waiting = i :: (rest ++ w.host.pending) := by simp [waiting, htaken]
    have hafter : w.callTaken.world.waiting = rest ++ w.host.pending := by
      rw [waiting, h.taken, h.pending]
    rw [hbefore, hafter]
    exact h.books

end Calls

end World

/-! ## Sessions -/

namespace Session

/-- Whether a step handles events. -/
def Step.handles : Step → Bool
  | .act a => a.handles
  | .receive | .drain | .deliver _ | .dispatch _ | .loop _ => true
  | .runPending | .take | .callTaken | .stopReceiving => false

/-- A step that registers calm callbacks only. -/
def Step.Tame : Step → Prop
  | .act a => ∀ c, a.callback? = some c → c.Throughout Callback.Calm
  | _ => True

/-- Calls that are taken are made before the next event is handled. -/
def Prompt (looping : Bool) (w : World) : List Step → Prop
  | [] => True
  | s :: rest =>
    (s.handles = true → w.taken = []) ∧ Prompt looping (step looping w s).1 rest

/-- A calm world in which calls wait in one place at most, with whoever has taken them or with the
    host. -/
structure Settled (w : World) : Prop where
  calm : w.Calm
  one : w.taken = [] ∨ w.host.pending = []

section Steps

variable {w : World}

/-- An action of the application keeps the books in order, like one of a callback, and it may handle an
    event besides. -/
theorem books_step_act (hw : Settled w) {a : Action Callback}
    (ha : ∀ c, a.callback? = some c → c.Throughout Callback.Calm)
    (hprompt : a.handles = true → w.taken = []) :
    Books w.slots w.waiting ((w.act false a).2.2 ++ [.acted a (w.act false a).1])
        (w.act false a).2.1.slots (w.act false a).2.1.waiting ∧
      Settled (w.act false a).2.1 := by
  cases hhandles : a.handles with
  | false =>
    have hframe := World.undisturbed_act hhandles false w
    have hwaiting : (w.act false a).2.1.waiting = w.waiting := by
      rw [World.waiting, hframe.taken, hframe.pending]
      rfl
    refine ⟨?_, ?_, ?_⟩
    · rw [hwaiting]
      exact books_act hhandles false w w.waiting
    · exact hw.calm.congr (hw.calm.holds.act ha false) hframe.poisoned hframe.hostPoisoned
    · rw [hframe.taken, hframe.pending]
      exact hw.one
  | true =>
    -- no call is taken, so that the one made due may wait with the host
    obtain ⟨e, rfl⟩ : ∃ e, a = .request (.handle e) := by
      unfold Action.handles at hhandles
      split at hhandles
      · exact ⟨_, rfl⟩
      · exact absurd hhandles (by simp)
    have hacted : (Observation.acted (.request (.handle e)) .nothing).Inert :=
      ⟨rfl, fun _ => rfl, fun _ => rfl⟩
    refine ⟨?_, hw.calm.handle e, .inl (hprompt hhandles)⟩
    exact (w.books_handle e).trans (.inert _ _ hacted)

/-- Deliveries keep the books in order, and leave no calls taken. -/
theorem settled_of_keeps (hnone : w.taken = []) {d : World.Delivery} (h : w.Keeps d) :
    Books w.slots w.waiting d.trace d.world.slots d.world.waiting ∧ Settled d.world :=
  ⟨h.books, h.calm, .inl (h.taken.trans hnone)⟩

theorem books_receiveUpTo (hw : Settled w) (hnone : w.taken = []) (limit : Nat) (looping : Bool) :
    Books w.slots w.waiting (receiveUpTo limit looping w).2.trace (receiveUpTo limit looping w).1.slots
        (receiveUpTo limit looping w).1.waiting ∧
      Settled (receiveUpTo limit looping w).1 := by
  unfold receiveUpTo
  split
  · exact settled_of_keeps hnone (World.keeps_drain hw.calm hnone limit)
  · exact ⟨.nil _ _, hw⟩

/-- **Every step keeps the books in order**, from the calls that wait before it to those after it. -/
theorem books_step (looping : Bool) (hw : Settled w) {s : Step} (hs : s.Tame)
    (hprompt : s.handles = true → w.taken = []) :
    Books w.slots w.waiting (s.observations (step looping w s).2) (step looping w s).1.slots
        (step looping w s).1.waiting ∧
      Settled (step looping w s).1 := by
  cases s with
  | act a => exact books_step_act hw hs hprompt
  -- whatever delivers events finds no calls taken
  | receive => exact books_receiveUpTo hw (hprompt rfl) 1 looping
  | drain => exact books_receiveUpTo hw (hprompt rfl) drainLimit looping
  | deliver e =>
    exact settled_of_keeps (hprompt rfl) (World.keeps_deliver hw.calm (hprompt rfl) e)
  | dispatch e =>
    exact settled_of_keeps (hprompt rfl) (World.keeps_dispatch hw.calm (hprompt rfl) e)
  -- whatever does not leaves calls waiting where they waited, or moves all of them
  | runPending =>
    obtain ⟨h, hpending⟩ := World.keeps_runPending hw.calm hw.one false
    exact ⟨h.books, h.calm, .inr hpending⟩
  | take =>
    refine ⟨?_, hw.calm.take, .inr rfl⟩
    show Books w.slots w.waiting [] w.slots w.take.waiting
    rw [World.waiting_take]
    exact .nil _ _
  | callTaken =>
    obtain ⟨hbooks, hcalm, htaken, hpending⟩ := World.books_callTaken hw.calm
    refine ⟨hbooks, hcalm, ?_⟩
    show w.callTaken.world.taken = [] ∨ w.callTaken.world.host.pending = []
    rw [htaken, hpending]
    rcases hw.one with hnone | hnone
    · exact .inl (by rw [hnone]; rfl)
    · exact .inr hnone
  | stopReceiving =>
    exact ⟨.nil _ _, hw.calm.congr (hw.calm.holds.congr rfl fun _ hi => hi) rfl rfl, hw.one⟩
  | loop es =>
    exact settled_of_keeps (hprompt rfl) (World.keeps_deliverAll hw.calm (hprompt rfl) es)

theorem books_history (looping : Bool) (hw : Settled w) {steps : List Step}
    (htame : ∀ s ∈ steps, s.Tame) (hprompt : Prompt looping w steps) :
    Books w.slots w.waiting (history looping w steps) (runFrom looping w steps).1.slots
        (runFrom looping w steps).1.waiting ∧
      Settled (runFrom looping w steps).1 := by
  -- on the steps; that calls wait in one place at most is what carries the order over
  induction steps generalizing w with
  | nil => exact ⟨.nil _ _, hw⟩
  | cons s rest ih =>
    obtain ⟨hhere, hlater⟩ := hprompt
    obtain ⟨hfirst, hnext⟩ := books_step looping hw (htame s List.mem_cons_self) hhere
    obtain ⟨hrest, hlast⟩ := ih hnext (fun x hx => htame x (List.mem_cons_of_mem s hx)) hlater
    rw [history_cons]
    exact ⟨hfirst.trans hrest, hlast⟩

/-! ## Settling up -/

/-- The calls taken are made one by one, and those that are due are left for later. -/
theorem settled_callTaken (looping : Bool) (hw : Settled w) :
    Observation.invocations (history looping w (List.replicate w.taken.length .callTaken)) = w.taken ∧
      (runFrom looping w (List.replicate w.taken.length .callTaken)).1.taken = [] ∧
      (runFrom looping w (List.replicate w.taken.length .callTaken)).1.host.pending = w.host.pending ∧
      Settled (runFrom looping w (List.replicate w.taken.length .callTaken)).1 := by
  induction htaken : w.taken generalizing w with
  | nil => exact ⟨rfl, htaken, rfl, hw⟩
  | cons i rest ih =>
    have hfirst : ({ w with taken := rest } : World).Settles ([i] ++ []) w.callTaken [] :=
      World.settles_callTaken hw.calm htaken []
    have hmade : Observation.invocations w.callTaken.trace = [i] := hfirst.invocations_eq
    obtain ⟨-, hnext⟩ := books_step looping hw (s := .callTaken) trivial nofun
    obtain ⟨hlater, hnone, hpending, hlast⟩ := ih hnext hfirst.taken
    refine ⟨?_, hnone, hpending.trans hfirst.pending, hlast⟩
    rw [List.length_cons, List.replicate_succ, history_cons, Observation.invocations_append]
    exact congrArg₂ (· ++ ·) hmade hlater

/-- What waits is settled by making the calls taken, one by one, and those that are due behind them: all of
    them are made, in order, and no others, and nothing waits any more. -/
structure SettlesUp (looping : Bool) (w : World) : Prop where
  taken : Observation.invocations (history looping w (List.replicate w.taken.length .callTaken)) = w.taken
  untaken : (runFrom looping w (List.replicate w.taken.length .callTaken)).1.taken = []
  waiting : Observation.invocations
    (history looping w (List.replicate w.taken.length .callTaken ++ [.runPending])) = w.waiting
  done : (runFrom looping w (List.replicate w.taken.length .callTaken ++ [.runPending])).1.waiting = []

theorem Settled.settlesUp (hw : Settled w) (looping : Bool) : SettlesUp looping w := by
  obtain ⟨hmade, hnone, hpending, hlast⟩ := settled_callTaken looping hw
  generalize hsteps : List.replicate w.taken.length Step.callTaken = steps at hmade hnone hpending hlast
  have hrun := World.settles_runPending hlast.calm false []
  have hwaiting : (runFrom looping w (steps ++ [.runPending])).1.waiting = [] := by
    rw [runFrom_append]
    show World.waiting (World.runPending false _).world = []
    rw [World.waiting, show (World.runPending false _).world.taken = _ from hrun.taken, hnone,
      show (World.runPending false _).world.host.pending = [] from hrun.pending]
    rfl
  refine ⟨?_, ?_, ?_, ?_⟩
  · rw [hsteps]; exact hmade
  · rw [hsteps]; exact hnone
  · rw [hsteps, history_append, Observation.invocations_append, hmade]
    refine congrArg (w.taken ++ ·) ?_
    rw [← hpending]
    refine Eq.trans ?_ hrun.invocations_eq
    rw [history_cons, history_nil, List.append_nil]
    rfl
  · rw [hsteps]; exact hwaiting

end Steps

theorem settled_initial (settings : List Vendor.Setting) : Settled (initial settings) :=
  ⟨⟨World.holds_initial _ settings, rfl, rfl⟩, .inl rfl⟩

end Session

/-- The events of the calls of one registration. -/
def Invocation.eventsOf {κ : Type} (number : Nat) (is : List (Invocation κ)) : List Event :=
  (is.filter (·.registration.number = number)).map (·.event)

/-- **Every event calls the callback that was registered for it, once.** In a session whose callbacks
    keep calm and whose taken calls are made before the next event is handled,
    - the onlooker sees the slots as they are;
    - the calls made, and behind them those that wait, are those that the events handled are owed: one of
      the callback registered when the event was handled, in the order of the events, whatever becomes of
      the slots before the call;
    - a call is owed only to an event that was handled while its registration, made before, stood in the
      slot, and registrations are told apart by their numbers;
    - hence each registration is called once for each event that was handled while it stood in its slot,
      in their order, and for no other;
    - no call is made before its event is handled, nor out of order, at any time;
    - what waits in the end is called in order, and nothing else, once the calls taken are made and those
      that are due have been run; then nothing waits any more. -/
theorem Session.calls_settle_events (looping : Bool) (settings : List Vendor.Setting)
    (steps : List Step) (htame : ∀ s ∈ steps, s.Tame)
    (hprompt : Prompt looping (initial settings) steps) :
    (Slots.after (history looping (initial settings) steps)).get =
        (runFrom looping (initial settings) steps).1.host.registry.get ∧
      Observation.invocations (history looping (initial settings) steps) ++
          (runFrom looping (initial settings) steps).1.waiting =
        Slots.owed {} (history looping (initial settings) steps) ∧
      (∀ i ∈ Slots.owed {} (history looping (initial settings) steps),
        (∃ before behind, history looping (initial settings) steps =
            before ++ .entry (.handled i.event) :: behind ∧
          ¬ i.event.Withheld ∧
          (Slots.after before).get i.event.kind = some i.registration ∧
          Slots.Made before i.registration) ∧
        ∀ j ∈ Slots.owed {} (history looping (initial settings) steps),
          i.registration.number = j.registration.number → i.registration = j.registration) ∧
      (∀ number, Invocation.eventsOf number
            (Observation.invocations (history looping (initial settings) steps)) ++
          Invocation.eventsOf number (runFrom looping (initial settings) steps).1.waiting =
        Invocation.eventsOf number (Slots.owed {} (history looping (initial settings) steps))) ∧
      (∀ before behind, history looping (initial settings) steps = before ++ behind →
        Observation.invocations before <+: Slots.owed {} before) ∧
      SettlesUp looping (runFrom looping (initial settings) steps).1 := by
  obtain ⟨hbooks, hsettled⟩ := books_history looping (settled_initial settings) htame hprompt
  have howed := hbooks.invocations_append
  refine ⟨(congrArg Slots.get hbooks.slots_eq).symm, howed, fun i hi => ⟨?_, fun j hj hn => ?_⟩,
    fun number => ?_, ?_, hsettled.settlesUp looping⟩
  · obtain ⟨before, behind, hsplit, hkept, hslot⟩ := Slots.exists_of_mem_owed hi
    exact ⟨before, behind, hsplit, hkept, hslot, (Slots.made_after before).2 _ _ hslot⟩
  · exact (Slots.made_of_mem_owed hi).eq_of_number_eq (Slots.made_of_mem_owed hj) hn
  · unfold Invocation.eventsOf
    rw [← List.map_append, ← List.filter_append, howed]
    rfl
  · intro before behind hsplit
    rw [hsplit] at hbooks
    obtain ⟨_, q, hbefore, -⟩ := hbooks.split
    exact ⟨q, hbefore.invocations_append⟩

/-- A callback is unset between an event and the call that the event makes due. -/
def Session.unsetBetween : List Session.Step :=
  [.act (.request (.operation .start)),
    .act (.request (.operation (.setCallback ⟨.authorization, nofun⟩ { tag := "once" }))),
    .act (.request (.handle (.deviceAuthorized .success .zero))),
    .act (.request (.operation (.unsetCallback ⟨.authorization, nofun⟩))),
    .take]

/-- The call is made all the same once it has been taken, of the callback that was registered, and nothing
    waits after it. -/
theorem Session.calls_settle_events_unsetBetween :
    (∀ s ∈ unsetBetween, s.Tame) ∧ Prompt false (initial []) unsetBetween ∧
      (Slots.after (history false (initial []) unsetBetween)).get .authorization = none ∧
      Slots.owed {} (history false (initial []) unsetBetween) =
        [⟨⟨1, .authorization, { tag := "once" }⟩, .deviceAuthorized .success .zero⟩] ∧
      Observation.invocations (history false (initial []) unsetBetween) = [] ∧
      Observation.invocations (history false (initial []) (unsetBetween ++ [.callTaken])) =
        [⟨⟨1, .authorization, { tag := "once" }⟩, .deviceAuthorized .success .zero⟩] ∧
      (runFrom false (initial []) (unsetBetween ++ [.callTaken, .runPending])).1.waiting = [] := by
  have hquiet : Callback.Throughout Callback.Calm { tag := "once" } :=
    .of_actions ⟨fun _ _ ha => absurd ha List.not_mem_nil, fun _ => rfl⟩
      fun _ _ ha => absurd ha List.not_mem_nil
  have htame : ∀ s ∈ unsetBetween, s.Tame := by
    simp only [unsetBetween, List.forall_mem_cons]
    refine ⟨nofun, fun c hc => ?_, nofun, nofun, trivial, fun _ hs => absurd hs List.not_mem_nil⟩
    rw [← Option.some.inj hc]
    exact hquiet
  have hprompt : Prompt false (initial []) unsetBetween :=
    ⟨nofun, nofun, fun _ => rfl, nofun, nofun, trivial⟩
  obtain ⟨hslots, hcalls, -, -, -, hsettles⟩ := calls_settle_events false [] unsetBetween htame hprompt
  refine ⟨htame, hprompt, ?_, ?_, rfl, ?_, ?_⟩
  · rw [hslots]
    rfl
  · rw [← hcalls]
    rfl
  · rw [history_append, Observation.invocations_append]
    exact congrArg₂ (· ++ ·) rfl hsettles.taken
  · rw [runFrom_append]
    exact hsettles.done

end BluetoothHost
