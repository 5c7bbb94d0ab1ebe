import BluetoothHost.Proofs.Callbacks

/-!
# `Proofs.Channel` — no event is lost, doubled or overtaken on its way to a callback

Both dispatchers post to one queue, and callbacks may let the vendor emit further events in the midst of a
delivery. Still the events that the vendor emitted are those delivered so far and, behind them, those in
the queue, in one order; and each delivery calls at most one callback, with the event delivered.

The invariant is about a world that is `Open`: somebody receives from its queue, no call is due, and its
callbacks leave the handling of events to others. What an action adds to the queue is what it shows that
it emits (`Posts`), and a delivery takes one event from the front (`Relays`).

## Contents
- `Observation.emissions`, `posts`, `arrivals`, `deliveries`: what is seen of events.
- `World.Posts`, with `posts_act` and `posts_actAll`: actions post what they emit.
- `World.Open`, `World.Relays`, with `relays_deliver` and `relays_drain`: deliveries from the queue.
- `Session.Step.Relaying`, `relays_step`, `relays_history`, and `events_arrive_in_order`.
-/

namespace BluetoothHost

/-! ## What is seen of events -/

namespace Observation

/-- The events that the vendor was let to emit, and did. -/
def emissions (t : List Observation) : List Event :=
  t.filterMap fun
    | .acted (.fire e) (.flag true) => some e
    | _ => none

/-- The events that were posted. -/
def posts (t : List Observation) : List Event :=
  t.filterMap fun
    | .posted e => some e
    | _ => none

/-- The events that were delivered. -/
def arrivals (t : List Observation) : List Event :=
  t.filterMap fun
    | .delivered e => some e
    | _ => none

/-- The calls made ahead of the next delivery. -/
def callsAhead : List Observation → List (Invocation Callback)
  | [] => []
  | .delivered _ :: _ => []
  | .called i _ _ :: rest => i :: callsAhead rest
  | _ :: rest => callsAhead rest

/-- The events that were delivered, each with the calls made up to the next delivery. -/
def deliveries : List Observation → List (Event × List (Invocation Callback))
  | [] => []
  | .delivered e :: rest => (e, callsAhead rest) :: deliveries rest
  | _ :: rest => deliveries rest

section Projections

variable {t u : List Observation}

@[simp] theorem emissions_append (t u : List Observation) :
    emissions (t ++ u) = emissions t ++ emissions u :=
  List.filterMap_append

@[simp] theorem posts_append (t u : List Observation) : posts (t ++ u) = posts t ++ posts u :=
  List.filterMap_append

@[simp] theorem arrivals_append (t u : List Observation) :
    arrivals (t ++ u) = arrivals t ++ arrivals u :=
  List.filterMap_append

/-- The first components of the deliveries are the events delivered. -/
theorem map_fst_deliveries (t : List Observation) : (deliveries t).map Prod.fst = arrivals t := by
  induction t with
  | nil => rfl
  | cons o rest ih =>
    cases o with
    | delivered e => exact congrArg (e :: ·) ih
    | entry | posted | called | acted => exact ih

/-- Every call is made ahead of the first delivery, or belongs to one delivery. -/
theorem callsAhead_append_deliveries (t : List Observation) :
    callsAhead t ++ (deliveries t).flatMap Prod.snd = invocations t := by
  induction t with
  | nil => rfl
  | cons o rest ih =>
    cases o with
    | called i count arguments => exact congrArg (i :: ·) ih
    | entry | posted | delivered | acted => exact ih

/-- What begins with a delivery can be looked at by itself. -/
theorem deliveries_append (hu : callsAhead u = []) :
    callsAhead (t ++ u) = callsAhead t ∧ deliveries (t ++ u) = deliveries t ++ deliveries u := by
  induction t with
  | nil => exact ⟨hu, rfl⟩
  | cons o rest ih =>
    obtain ⟨hahead, hdeliveries⟩ := ih
    cases o with
    | delivered e =>
      refine ⟨rfl, ?_⟩
      show (e, callsAhead (rest ++ u)) :: deliveries (rest ++ u) = _
      rw [hahead, hdeliveries]
      rfl
    | called i count arguments => exact ⟨congrArg (i :: ·) hahead, hdeliveries⟩
    | entry | posted | acted => exact ⟨hahead, hdeliveries⟩

/-- Without a delivery, all calls are made ahead of the next one. -/
theorem callsAhead_of_undelivered (ht : arrivals t = []) :
    callsAhead t = invocations t ∧ deliveries t = [] := by
  have hnone : deliveries t = [] := by
    rw [← List.map_eq_nil_iff (f := Prod.fst), map_fst_deliveries, ht]
  have hcalls := callsAhead_append_deliveries t
  rw [hnone] at hcalls
  exact ⟨by simpa using hcalls, hnone⟩

theorem posts_entries (t : List Entry) : posts (t.map .entry) = [] :=
  filterMap_entries (fun _ => rfl) t

theorem emissions_entries (t : List Entry) : emissions (t.map .entry) = [] :=
  filterMap_entries (fun _ => rfl) t

theorem arrivals_entries (t : List Entry) : arrivals (t.map .entry) = [] :=
  filterMap_entries (fun _ => rfl) t

/-- Where no event passes on its way, none is delivered and nobody is called. -/
theorem arrivals_of_unseen (ht : ∀ o ∈ t, o.isPassage = false) :
    arrivals t = [] ∧ invocations t = [] := by
  unfold arrivals invocations
  rw [List.filterMap_eq_nil_iff, List.filterMap_eq_nil_iff]
  constructor
  · intro o ho
    cases o with
    | delivered e => exact absurd (ht _ ho) (by simp [isPassage])
    | entry | posted | called | acted => rfl
  · intro o ho
    cases o with
    | called i count arguments => exact absurd (ht _ ho) (by simp [isPassage])
    | entry | posted | delivered | acted => rfl

end Projections

end Observation

open Observation (emissions posts arrivals callsAhead deliveries)

namespace World

/-! ## Actions -/

/-- From `w` to `w'` the events emitted, and no others, were posted and joined the queue. -/
structure Posts (w : World) (t : List Observation) (w' : World) : Prop where
  posted : posts t = emissions t
  queue : w'.queue = w.queue ++ emissions t

section Posts

variable {w w' w'' : World} {t u : List Observation}

theorem Posts.refl (w : World) : w.Posts [] w := ⟨rfl, (List.append_nil _).symm⟩

theorem Posts.trans (h : w.Posts t w') (h' : w'.Posts u w'') : w.Posts (t ++ u) w'' := by
  constructor
  · rw [Observation.posts_append, Observation.emissions_append, h.posted, h'.posted]
  · rw [h'.queue, h.queue, Observation.emissions_append, List.append_assoc]

/-- Entries neither emit nor post. -/
theorem posts_entries (t : List Entry) (hqueue : w'.queue = w.queue) : w.Posts (t.map .entry) w' := by
  constructor
  · rw [Observation.posts_entries, Observation.emissions_entries]
  · rw [Observation.emissions_entries, List.append_nil, hqueue]

/-- **An action posts what it emits**, and nothing else. An event that the vendor has no dispatcher for is
    posted nowhere. -/
theorem posts_act (hr : w.receiving = true) (locked : Bool) (a : Action Callback) :
    w.Posts ((w.act locked a).2.2 ++ [.acted a (w.act locked a).1]) (w.act locked a).2.1 := by
  have heffect := w.effect_act locked a
  generalize w.act locked a = x at heffect ⊢
  cases heffect with
  | vain | configured | locked | asked => exact ⟨rfl, (List.append_nil _).symm⟩
  | posted e => exact ⟨rfl, rfl⟩
  -- somebody receives, so nothing is dropped
  | dropped e hgone => exact absurd hr (by simp [hgone])
  | operated op =>
    have hentries : w.Posts (w.perform op).2.2 (w.perform op).2.1 := posts_entries _ rfl
    exact hentries.trans ⟨rfl, (List.append_nil _).symm⟩
  | handled e =>
    have hentries : w.Posts (w.handle e).2 (w.handle e).1 := posts_entries _ rfl
    exact hentries.trans ⟨rfl, (List.append_nil _).symm⟩

theorem posts_actAll (hr : w.receiving = true) (locked : Bool) {as : List (Action Callback)}
    (has : ∀ a ∈ as, a.handles = false) : w.Posts (actAll locked as w).2 (actAll locked as w).1 := by
  induction as generalizing w with
  | nil => exact .refl w
  | cons a rest ih =>
    have hfirst := posts_act hr locked a
    have hframe := undisturbed_act (has a List.mem_cons_self) locked w
    have hrest := ih (hframe.receiving.trans hr) fun x hx => has x (List.mem_cons_of_mem a hx)
    simpa [actAll] using hfirst.trans hrest

end Posts

/-! ## Deliveries -/

/-- Somebody receives from the queue, the host can be delivered to, no call is due, and callbacks leave
    the handling of events to others. -/
structure Open (w : World) : Prop where
  holds : w.Holds Callback.Reserved
  hostPoisoned : w.hostPoisoned = false
  receiving : w.receiving = true
  idle : w.host.pending = []

/-- Starting with the events `q` in the queue, some are delivered from its front, and what is emitted
    joins it at the end; each delivery calls at most one callback, with the event delivered. -/
structure Relays (q : List Event) (t : List Observation) (w' : World) : Prop where
  opened : w'.Open
  posted : posts t = emissions t
  queue : arrivals t ++ w'.queue = q ++ emissions t
  ahead : callsAhead t = []
  each : ∀ d ∈ deliveries t, d.2 = [] ∨ ∃ r, d.2 = [⟨r, d.1⟩]

section Deliveries

variable {w w' : World} {q : List Event} {t u : List Observation}

theorem Relays.refl (hw : w.Open) : Relays w.queue [] w :=
  ⟨hw, rfl, (List.append_nil _).symm, rfl, fun _ hd => absurd hd List.not_mem_nil⟩

theorem Relays.trans (h : Relays q t w) (h' : Relays w.queue u w') : Relays q (t ++ u) w' := by
  obtain ⟨hahead, hdeliveries⟩ := Observation.deliveries_append (t := t) h'.ahead
  refine ⟨h'.opened, ?_, ?_, hahead.trans h.ahead, ?_⟩
  · rw [Observation.posts_append, Observation.emissions_append, h.posted, h'.posted]
  · rw [Observation.arrivals_append, List.append_assoc, h'.queue, ← List.append_assoc, h.queue,
      Observation.emissions_append, List.append_assoc]
  · intro d hd
    rw [hdeliveries] at hd
    rcases List.mem_append.mp hd with hl | hr
    · exact h.each d hl
    · exact h'.each d hr

/-- Where no event passes on its way to a callback, but some are posted. -/
theorem Posts.relays (h : w.Posts t w') (hw : w'.Open) (ht : ∀ o ∈ t, o.isPassage = false) :
    Relays w.queue t w' := by
  obtain ⟨hundelivered, huncalled⟩ := Observation.arrivals_of_unseen ht
  obtain ⟨hahead, hdeliveries⟩ := Observation.callsAhead_of_undelivered hundelivered
  refine ⟨hw, h.posted, ?_, hahead.trans huncalled, ?_⟩
  · rw [hundelivered, h.queue, List.nil_append]
  · rw [hdeliveries]
    exact fun d hd => absurd hd List.not_mem_nil

/-- An open world stays open if only what it holds changes. -/
theorem Open.congr (hw : w.Open) (hh : w'.Holds Callback.Reserved)
    (hp : w'.hostPoisoned = w.hostPoisoned) (hr : w'.receiving = w.receiving)
    (hi : w'.host.pending = w.host.pending) : w'.Open :=
  ⟨hh, hp.trans hw.hostPoisoned, hr.trans hw.receiving, hi.trans hw.idle⟩

/-- One call: what it emits joins the queue, and nobody else is called. A callback that has panicked
    before is not called. -/
theorem posts_invoke (hw : w.Open) {i : Invocation Callback}
    (hi : i.registration.callback.Throughout Callback.Reserved) :
    w.Posts (invoke false i w).trace (invoke false i w).world ∧ (invoke false i w).world.Open ∧
      arrivals (invoke false i w).trace = [] ∧
      (Observation.invocations (invoke false i w).trace = [] ∨
        Observation.invocations (invoke false i w).trace = [i]) := by
  by_cases hp : i.registration.number ∈ w.poisoned
  · rw [invoke_of_poisoned hp]
    exact ⟨⟨rfl, (List.append_nil _).symm⟩, hw, rfl, .inl rfl⟩
  · rw [invoke_of_not_poisoned hp rfl]
    generalize w.called.count i.registration.number + 1 = n
    have hreserved := hi.here n
    have hposts := posts_actAll (w := w.counting i.registration.number) hw.receiving false hreserved
    have hframe := undisturbed_actAll hreserved false (w.counting i.registration.number)
    have hholds := hw.holds.body hi n i.registration.number false
    have hopened := hw.congr hholds hframe.hostPoisoned hframe.receiving hframe.pending
    obtain ⟨hundelivered, huncalled⟩ := Observation.arrivals_of_unseen hframe.unseen
    have hopening : w.Posts (opening i n) (w.counting i.registration.number) ∧
        arrivals (opening i n) = [] ∧ Observation.invocations (opening i n) = [i] := by
      unfold opening
      cases i.event.shortfall? <;> exact ⟨⟨rfl, (List.append_nil _).symm⟩, rfl, rfl⟩
    obtain ⟨hopens, hcalls⟩ := hopening
    have hall := hopens.trans hposts
    refine ⟨?_, ?_, ?_, .inr ?_⟩
    · -- a panic at the end leaves the queue alone
      dsimp only
      split
      · exact ⟨hall.posted, hall.queue⟩
      · exact hall
    · dsimp only
      split
      · exact hopened.congr (hopened.holds.congr rfl fun _ hj => hj) rfl rfl rfl
      · exact hopened
    · rw [Observation.arrivals_append, hcalls.1, hundelivered]
      rfl
    · rw [Observation.invocations_append, hcalls.2, huncalled]
      rfl

/-- Behind the handling of an event there is nothing, or one call. -/
theorem posts_invokeAll_due (hw : w.Open) (e : Event) {d : Delivery}
    (hd : invokeAll false (w.host.due? e).toList w = d) :
    w.Posts d.trace d.world ∧ d.world.Open ∧ arrivals d.trace = [] ∧
      (Observation.invocations d.trace = [] ∨ ∃ r, Observation.invocations d.trace = [⟨r, e⟩]) := by
  subst hd
  cases hdue : w.host.due? e with
  | none => exact ⟨.refl w, hw, rfl, .inl rfl⟩
  | some i =>
    obtain ⟨hslot, hevent⟩ := Host.slot_of_due hdue
    have hcallback := hw.holds.registered e.kind i.registration hslot
    obtain ⟨hposts, hopened, hundelivered, hcalls⟩ := posts_invoke hw hcallback
    rw [Option.toList_some, invokeAll_singleton]
    refine ⟨hposts, hopened, hundelivered, ?_⟩
    rcases hcalls with hnone | hone
    · exact .inl hnone
    · rw [← hevent]
      exact .inr ⟨i.registration, hone⟩

/-- **A delivery** takes its event from the queue, and calls at most one callback with it. -/
theorem relays_deliver (hw : w.Open) (e : Event) :
    Relays (e :: w.queue) (w.deliver e).trace (w.deliver e).world := by
  rw [deliver_of_idle hw.hostPoisoned hw.idle]
  generalize hd : invokeAll false (w.host.due? e).toList w = d
  obtain ⟨hposts, hopened, hundelivered, hcalls⟩ := posts_invokeAll_due hw e hd
  have hhandled : w.Posts (w.handle e).2 w := posts_entries _ rfl
  have huncalled : Observation.invocations (w.handle e).2 = [] := Observation.invocations_entries _
  have hall := hhandled.trans hposts
  have harrivals : arrivals ((w.handle e).2 ++ d.trace) = [] := by
    rw [Observation.arrivals_append, hundelivered, List.append_nil]
    exact Observation.arrivals_entries _
  obtain ⟨hahead, hnone⟩ := Observation.callsAhead_of_undelivered harrivals
  rw [Observation.invocations_append, huncalled, List.nil_append] at hahead
  refine ⟨hopened, hall.posted, ?_, rfl, ?_⟩
  · show (e :: arrivals ((w.handle e).2 ++ d.trace)) ++ d.world.queue = _
    rw [harrivals, hall.queue]
    rfl
  · show ∀ x ∈ (e, callsAhead ((w.handle e).2 ++ d.trace)) :: deliveries ((w.handle e).2 ++ d.trace), _
    rw [hahead, hnone]
    intro x hx
    rw [List.mem_singleton.mp hx]
    exact hcalls

/-- Events are delivered one after the other, until the queue is empty or a callback panics. -/
theorem relays_drain (hw : w.Open) (limit : Nat) :
    Relays w.queue (drain limit w).2.trace (drain limit w).2.world := by
  -- on the limit; the queue is what the last delivery left, events emitted in it included
  induction limit generalizing w with
  | zero => exact .refl hw
  | succ limit ih =>
    unfold drain
    split
    · exact .refl hw
    · rename_i e rest hqueue
      have hpopped : ({ w with queue := rest } : World).Open :=
        hw.congr (hw.holds.congr rfl fun _ hi => hi) rfl rfl rfl
      have hfirst := relays_deliver hpopped e
      rw [hqueue]
      dsimp only
      split
      · exact hfirst
      · exact hfirst.trans (ih hfirst.opened)

end Deliveries

end World

/-! ## Sessions -/

namespace Session

/-- A step that emits an event, carries out an operation, changes the vendor, or delivers from the queue.
    It registers callbacks only that leave the handling of events to others. -/
def Step.Relaying : Step → Prop
  | .act a => a.handles = false ∧ ∀ c, a.callback? = some c → c.Throughout Callback.Reserved
  | .receive | .drain => True
  | _ => False

theorem open_initial (settings : List Vendor.Setting) : (initial settings).Open :=
  ⟨World.holds_initial _ settings, rfl, rfl, rfl⟩

section Steps

variable {w : World}

theorem relays_receiveUpTo (hw : w.Open) (limit : Nat) (looping : Bool) :
    World.Relays w.queue (receiveUpTo limit looping w).2.trace (receiveUpTo limit looping w).1 := by
  unfold receiveUpTo
  rw [hw.receiving]
  exact World.relays_drain hw limit

theorem relays_step (looping : Bool) (hw : w.Open) {s : Step} (hs : s.Relaying) :
    World.Relays w.queue (s.observations (step looping w s).2) (step looping w s).1 := by
  cases s with
  | act a =>
    obtain ⟨hhandles, hcallback⟩ := hs
    have hframe := World.undisturbed_act hhandles false w
    have hopened : (w.act false a).2.1.Open :=
      hw.congr (hw.holds.act hcallback false) hframe.hostPoisoned hframe.receiving hframe.pending
    exact (World.posts_act hw.receiving false a).relays hopened hframe.unseen
  | receive => exact relays_receiveUpTo hw 1 looping
  | drain => exact relays_receiveUpTo hw drainLimit looping
  | deliver | dispatch | runPending | take | callTaken | stopReceiving | loop => exact hs.elim

theorem relays_history (looping : Bool) (hw : w.Open) {steps : List Step}
    (hsteps : ∀ s ∈ steps, s.Relaying) :
    World.Relays w.queue (history looping w steps) (runFrom looping w steps).1 := by
  induction steps generalizing w with
  | nil => exact .refl hw
  | cons s rest ih =>
    have hfirst := relays_step looping hw (hsteps s List.mem_cons_self)
    have hrest := ih hfirst.opened fun x hx => hsteps x (List.mem_cons_of_mem s hx)
    rw [history_cons]
    exact hfirst.trans hrest

end Steps

/-- **Events arrive once, and in order.** However emissions, operations and deliveries from the queue are
    interleaved, at the top level and in callbacks that leave the handling of events to others,
    - the events that the vendor was let to emit, and did, from either source, are those delivered so far
      and, behind them, those in the queue;
    - no other event is posted, so one that is not emitted goes nowhere;
    - the calls of callbacks are those of the deliveries, one after the other, and each delivery makes one
      call at most, with the event delivered. -/
theorem events_arrive_in_order (looping : Bool) (settings : List Vendor.Setting) (steps : List Step)
    (hsteps : ∀ s ∈ steps, s.Relaying) :
    emissions (history looping (initial settings) steps) =
        arrivals (history looping (initial settings) steps) ++
          (runFrom looping (initial settings) steps).1.queue ∧
      posts (history looping (initial settings) steps) =
        emissions (history looping (initial settings) steps) ∧
      (deliveries (history looping (initial settings) steps)).map Prod.fst =
        arrivals (history looping (initial settings) steps) ∧
      (deliveries (history looping (initial settings) steps)).flatMap Prod.snd =
        Observation.invocations (history looping (initial settings) steps) ∧
      ∀ d ∈ deliveries (history looping (initial settings) steps),
        d.2 = [] ∨ ∃ r, d.2 = [⟨r, d.1⟩] := by
  have h := relays_history looping (open_initial settings) hsteps
  refine ⟨?_, h.posted, Observation.map_fst_deliveries _, ?_, h.each⟩
  · exact h.queue.symm
  · have hcalls := Observation.callsAhead_append_deliveries (history looping (initial settings) steps)
    rw [h.ahead] at hcalls
    exact hcalls

/-- An event that nobody has a dispatcher for is emitted in vain; another calls a callback that lets a
    third be emitted. -/
def relayed : List Step :=
  [.act (.request (.operation .start)),
    .act (.request (.operation (.setCallback ⟨.adapterState, nofun⟩
      { tag := "again", actions := fun _ => [.fire (.adapterDisabled .success)] }))),
    .act (.fire (.hidConnection .success .zero .connected)),
    .act (.fire (.adapterEnabled .success)),
    .receive]

/-- The third event waits behind the one delivered, and the first is nowhere. -/
theorem events_arrive_in_order_relayed :
    (∀ s ∈ relayed, s.Relaying) ∧
      posts (history false (initial []) relayed) =
        [.adapterEnabled .success, .adapterDisabled .success] ∧
      emissions (history false (initial []) relayed) =
        [.adapterEnabled .success] ++ (runFrom false (initial []) relayed).1.queue := by
  have hreserved : Callback.Throughout Callback.Reserved
      { tag := "again", actions := fun _ => [.fire (.adapterDisabled .success)] } := by
    refine .of_actions (fun _ a ha => ?_) (fun _ a ha => ?_) <;>
      rw [List.mem_singleton.mp ha] <;> rfl
  have hrelaying : ∀ s ∈ relayed, s.Relaying := by
    simp only [relayed, List.forall_mem_cons]
    refine ⟨⟨rfl, nofun⟩, ⟨rfl, fun c hc => ?_⟩, ⟨rfl, nofun⟩, ⟨rfl, nofun⟩, trivial,
      fun _ hs => absurd hs List.not_mem_nil⟩
    rw [← Option.some.inj hc]
    exact hreserved
  obtain ⟨hqueue, hposts, -⟩ := events_arrive_in_order false [] relayed hrelaying
  refine ⟨hrelaying, ?_, ?_⟩
  · rw [hposts]
    rfl
  · rw [hqueue]
    rfl

end Session

end BluetoothHost
