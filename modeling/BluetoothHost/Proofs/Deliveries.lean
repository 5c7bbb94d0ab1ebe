import BluetoothHost.Proofs.Callbacks

/-!
# `Proofs.Deliveries` — it makes no difference how events are driven through a host

Events reach callbacks in four ways. They are drained from the queue one at a time, or a loop receives them,
or the host is told to dispatch each of them at once, or it handles all of them first and the calls that
have become due are made afterwards. The ways differ in when the calls that are due are taken and in who
holds the lock meanwhile. Callbacks that leave the host alone notice neither, so that each way comes to the
same as making the calls of all events in one go (`invokeAll` of what the events make due, in their order):
the same calls with the same arguments, up to the same panic, and the host as it was
(`Session.ways_agree`).

## Contents
- `Delivery.andThen` and `World.inTurn`, with `invokeAll_append` and `deliverAll_eq_inTurn`.
- `World.behind`, with `deliver_behind` and `drain_behind`: what stands before others in the queue makes no
  difference to them, so that a queue is drained as a loop receives.
- `Callback.Detached`, with `invokeAll_locked` and `Ready.invokeAll`: callbacks that leave the host alone.
- `Host.forall_due`: what holds of all registered callbacks holds of those that events make due.
- `Delivery.Matches`, with `Matches.andThen`, `matches_inTurn` and `handleAll_fst`.
- `Way` and `World.Outcome`, with `outcome_run`; `Session.ways_agree`.
-/

namespace BluetoothHost

namespace World

/-! ## One delivery after the other -/

/-- Goes on after a delivery, unless it has panicked. -/
def Delivery.andThen (d : Delivery) (next : World → Delivery) : Delivery :=
  if d.panicked then d
  else ⟨(next d.world).world, d.trace ++ (next d.world).trace, (next d.world).panicked⟩

/-- Nothing is delivered yet. -/
def Delivery.begun (w : World) : Delivery := ⟨w, [], false⟩

namespace Delivery

variable {d : Delivery} {next then' : World → Delivery}

theorem andThen_of_panicked (hd : d.panicked = true) : d.andThen next = d := by
  unfold andThen
  rw [if_pos hd]

theorem andThen_of_not_panicked (hd : d.panicked = false) :
    d.andThen next =
      ⟨(next d.world).world, d.trace ++ (next d.world).trace, (next d.world).panicked⟩ := by
  unfold andThen
  rw [if_neg (Bool.eq_false_iff.mp hd)]

theorem begun_andThen (w : World) : (begun w).andThen next = next w := by
  rw [andThen_of_not_panicked rfl]
  rfl

theorem andThen_assoc :
    (d.andThen next).andThen then' = d.andThen fun w => (next w).andThen then' := by
  cases hd : d.panicked with
  | true => rw [andThen_of_panicked hd, andThen_of_panicked hd, andThen_of_panicked hd]
  | false =>
    rw [andThen_of_not_panicked hd, andThen_of_not_panicked hd]
    cases hnext : (next d.world).panicked with
    | true => rw [andThen_of_panicked hnext, andThen_of_panicked rfl, hnext]
    | false =>
      rw [andThen_of_not_panicked hnext, andThen_of_not_panicked rfl, List.append_assoc]

end Delivery

/-- Has some events delivered in order, each in this way, up to a panic. -/
def inTurn (one : World → Event → Delivery) : List Event → World → Delivery
  | [], w => .begun w
  | e :: rest, w => (one w e).andThen (inTurn one rest)

theorem deliverAll_eq_inTurn (es : List Event) (w : World) : deliverAll es w = inTurn deliver es w := by
  induction es generalizing w with
  | nil => rfl
  | cons e rest ih =>
    show (w.deliver e).andThen (deliverAll rest) = (w.deliver e).andThen (inTurn deliver rest)
    rw [funext ih]

/-- Calls in two lists are made as those of one after those of the other. -/
theorem invokeAll_append (locked : Bool) (is js : List (Invocation Callback)) (w : World) :
    invokeAll locked (is ++ js) w = (invokeAll locked is w).andThen (invokeAll locked js) := by
  induction is generalizing w with
  | nil => exact (Delivery.begun_andThen w).symm
  | cons i rest ih =>
    show (invoke locked i w).andThen (invokeAll locked (rest ++ js)) =
      ((invoke locked i w).andThen (invokeAll locked rest)).andThen (invokeAll locked js)
    rw [Delivery.andThen_assoc, funext ih]

/-- Draining goes on after each event of the queue. -/
theorem drain_of_queue {w : World} {e : Event} {rest : List Event} (hqueue : w.queue = e :: rest)
    (limit : Nat) :
    (drain (limit + 1) w).2 =
      (deliver { w with queue := rest } e).andThen fun w => (drain limit w).2 := by
  rw [drain, hqueue]
  unfold Delivery.andThen
  dsimp only
  split <;> rfl

/-- Once the queue is empty, or a callback has panicked, draining on makes no difference. -/
theorem drain_of_le {w : World} {enough limit : Nat} (hlimit : enough ≤ limit)
    (hdone : (drain enough w).2.panicked = true ∨ (drain enough w).2.world.queue = []) :
    (drain limit w).2 = (drain enough w).2 := by
  have hempty : ∀ (limit : Nat) (w : World), w.queue = [] → (drain limit w).2 = .begun w := by
    intro limit w hqueue
    cases limit with
    | zero => rfl
    | succ limit => rw [drain, hqueue]; rfl
  induction enough generalizing w limit with
  | zero => exact hempty limit w (hdone.resolve_left (by simp [drain]))
  | succ enough ih =>
    obtain ⟨limit, rfl⟩ : ∃ n, limit = n + 1 := ⟨limit - 1, by omega⟩
    cases hqueue : w.queue with
    | nil => rw [hempty _ w hqueue, hempty _ w hqueue]
    | cons e rest =>
      rw [drain_of_queue hqueue] at hdone ⊢
      rw [drain_of_queue hqueue]
      cases hd : (deliver { w with queue := rest } e).panicked with
      | true => rw [Delivery.andThen_of_panicked hd, Delivery.andThen_of_panicked hd]
      | false =>
        rw [Delivery.andThen_of_not_panicked hd] at hdone ⊢
        rw [Delivery.andThen_of_not_panicked hd, ih (Nat.le_of_succ_le_succ hlimit) hdone]

/-! ## What stands before others in the queue -/

/-- The world in which these events stand before those in the queue. -/
def behind (es : List Event) (w : World) : World := { w with queue := es ++ w.queue }

/-- What becomes of a world in which these events stand before the others. -/
def Delivery.behind (es : List Event) (d : Delivery) : Delivery := { d with world := d.world.behind es }

section Behind

variable (es : List Event) (w : World)

theorem post_behind (e : Event) :
    (w.behind es).post e = ((w.post e).1.behind es, (w.post e).2) := by
  show (if w.receiving then _ else _) = _
  unfold post
  split
  · simp [behind]
  · rfl

/-- No action looks at the queue. -/
theorem act_behind (locked : Bool) (a : Action Callback) :
    (w.behind es).act locked a =
      ((w.act locked a).1, (w.act locked a).2.1.behind es, (w.act locked a).2.2) := by
  cases a with
  | fire e =>
    have hfire : (w.behind es).fire e =
        ((w.fire e).1, (w.fire e).2.1.behind es, (w.fire e).2.2) := by
      show (if w.vendor.isLinked e.source then _ else _) = _
      unfold fire
      rw [post_behind]
      split <;> rfl
    rw [act, hfire]
    rfl
  | configure settings => rfl
  | request r =>
    cases locked with
    | true => rfl
    | false => cases r <;> rfl

theorem actAll_behind (locked : Bool) (as : List (Action Callback)) :
    actAll locked as (w.behind es) = ((actAll locked as w).1.behind es, (actAll locked as w).2) := by
  induction as generalizing w with
  | nil => rfl
  | cons a rest ih =>
    unfold actAll
    rw [act_behind]
    dsimp only
    rw [ih]

theorem invoke_behind (locked : Bool) (i : Invocation Callback) :
    invoke locked i (w.behind es) = (invoke locked i w).behind es := by
  by_cases hp : i.registration.number ∈ w.poisoned
  · rw [invoke_of_poisoned hp, invoke_of_poisoned (w := w.behind es) hp]
    rfl
  · have hcounting : (w.behind es).counting i.registration.number =
        (w.counting i.registration.number).behind es := rfl
    have hcount : (w.behind es).called.count i.registration.number + 1 =
        w.called.count i.registration.number + 1 := rfl
    rw [invoke_of_not_poisoned hp rfl, invoke_of_not_poisoned (w := w.behind es) hp hcount, hcounting,
      actAll_behind]
    unfold Delivery.behind
    split <;> rfl

theorem behind_andThen {next : World → Delivery}
    (hnext : ∀ w : World, next (w.behind es) = (next w).behind es) (d : Delivery) :
    (d.behind es).andThen next = (d.andThen next).behind es := by
  have hsame : (d.behind es).panicked = d.panicked := rfl
  cases hd : d.panicked with
  | true => rw [Delivery.andThen_of_panicked hd, Delivery.andThen_of_panicked (hsame.trans hd)]
  | false =>
    rw [Delivery.andThen_of_not_panicked hd, Delivery.andThen_of_not_panicked (hsame.trans hd)]
    show (⟨(next (d.world.behind es)).world, d.trace ++ (next (d.world.behind es)).trace,
      (next (d.world.behind es)).panicked⟩ : Delivery) = _
    rw [hnext]
    rfl

theorem invokeAll_behind (locked : Bool) (is : List (Invocation Callback)) :
    invokeAll locked is (w.behind es) = (invokeAll locked is w).behind es := by
  induction is generalizing w with
  | nil => rfl
  | cons i rest ih =>
    show (invoke locked i (w.behind es)).andThen (invokeAll locked rest) =
      ((invoke locked i w).andThen (invokeAll locked rest)).behind es
    rw [invoke_behind]
    exact behind_andThen es ih _

/-- A delivery does not look at the queue either. -/
theorem deliver_behind (e : Event) : (w.behind es).deliver e = (w.deliver e).behind es := by
  have hrun : ((w.behind es).handle e).1.runPending false =
      ((w.handle e).1.runPending false).behind es :=
    invokeAll_behind es { w with host := (w.host.handle e).1.takePending.2 } false _
  show (if w.hostPoisoned then _ else _) = _
  unfold deliver
  split
  · rfl
  · dsimp only
    rw [hrun]
    rfl

theorem deliverAll_behind (es' : List Event) :
    deliverAll es' (w.behind es) = (deliverAll es' w).behind es := by
  induction es' generalizing w with
  | nil => rfl
  | cons e rest ih =>
    show ((w.behind es).deliver e).andThen (deliverAll rest) =
      ((w.deliver e).andThen (deliverAll rest)).behind es
    rw [deliver_behind]
    exact behind_andThen es ih _

/-- **A queue is drained as a loop receives.** Whatever the callbacks do, draining the events that stand
    first in the queue delivers them, and leaves those behind that a panic keeps from being delivered. -/
theorem drain_behind :
    ∃ left, (drain es.length (w.behind es)).2 = (deliverAll es w).behind left ∧
      ((deliverAll es w).panicked = false → left = []) := by
  induction es generalizing w with
  | nil => exact ⟨[], rfl, fun _ => rfl⟩
  | cons e rest ih =>
    have hdrain : (drain (rest.length + 1) (w.behind (e :: rest))).2 =
        ((w.deliver e).behind rest).andThen fun w => (drain rest.length w).2 := by
      rw [← deliver_behind rest w e]
      exact drain_of_queue rfl rest.length
    have hall : deliverAll (e :: rest) w = (w.deliver e).andThen (deliverAll rest) := rfl
    rw [List.length_cons, hdrain, hall]
    cases hd : (w.deliver e).panicked with
    | true =>
      rw [Delivery.andThen_of_panicked hd, Delivery.andThen_of_panicked (d := (w.deliver e).behind rest) hd]
      exact ⟨rest, rfl, fun hnot => absurd (hd.symm.trans hnot) (by simp)⟩
    | false =>
      obtain ⟨left, hleft, hempty⟩ := ih (w.deliver e).world
      have hworld : ((w.deliver e).behind rest).world = (w.deliver e).world.behind rest := rfl
      rw [Delivery.andThen_of_not_panicked hd,
        Delivery.andThen_of_not_panicked (d := (w.deliver e).behind rest) hd]
      refine ⟨left, ?_, hempty⟩
      rw [hworld, hleft]
      rfl

end Behind

end World

/-! ## Callbacks that leave the host alone -/

/-- Whether an action asks something of the host. -/
def Action.asksHost {κ : Type} : Action κ → Bool
  | .request _ => true
  | _ => false

/-- Whether an action lets the vendor dispatch an event. -/
def Action.fires {κ : Type} : Action κ → Bool
  | .fire _ => true
  | _ => false

/-- A callback that leaves the host alone. It may do all else, and panic. -/
def Callback.Detached (c : Callback) : Prop := ∀ n, ∀ a ∈ c.actions n, a.asksHost = false

/-- A callback that lets no event be dispatched. -/
def Callback.FiresNothing (c : Callback) : Prop := ∀ n, ∀ a ∈ c.actions n, a.fires = false

namespace Host

variable {h : Host Callback} {P : Callback → Prop}

/-- What holds of all registered callbacks holds of the one whose call an event makes due. -/
theorem holds_of_due (hP : ∀ k r, h.registry.get k = some r → P r.callback) {e : Event}
    {i : Invocation Callback} (hi : h.due? e = some i) : P i.registration.callback :=
  hP e.kind i.registration (slot_of_due hi).1

theorem forall_due (hP : ∀ k r, h.registry.get k = some r → P r.callback) (es : List Event) :
    ∀ i ∈ es.filterMap h.due?, P i.registration.callback := by
  intro i hi
  obtain ⟨e, -, he⟩ := List.mem_filterMap.mp hi
  exact holds_of_due hP he

theorem filterMap_due_cons (e : Event) (rest : List Event) :
    (e :: rest).filterMap h.due? = (h.due? e).toList ++ rest.filterMap h.due? := by
  rw [List.filterMap_cons]
  cases h.due? e <;> rfl

end Host

namespace World

theorem actAll_locked {as : List (Action Callback)} (has : ∀ a ∈ as, a.asksHost = false) (w : World) :
    actAll true as w = actAll false as w := by
  induction as generalizing w with
  | nil => rfl
  | cons a rest ih =>
    have hfirst : w.act true a = w.act false a := by
      cases a with
      | request r => exact absurd (has _ List.mem_cons_self) (by simp [Action.asksHost])
      | fire | configure => rfl
    unfold actAll
    rw [hfirst]
    dsimp only
    rw [ih fun x hx => has x (List.mem_cons_of_mem a hx)]

/-- Whoever leaves the host alone does not notice that its lock is held. -/
theorem invokeAll_locked {is : List (Invocation Callback)}
    (his : ∀ i ∈ is, i.registration.callback.Detached) (w : World) :
    invokeAll true is w = invokeAll false is w := by
  induction is generalizing w with
  | nil => rfl
  | cons i rest ih =>
    have hfirst : invoke true i w = invoke false i w := by
      by_cases hp : i.registration.number ∈ w.poisoned
      · rw [invoke_of_poisoned hp, invoke_of_poisoned hp]
      · rw [invoke_of_not_poisoned hp rfl, invoke_of_not_poisoned hp rfl,
          actAll_locked (his i List.mem_cons_self _)]
    show (invoke true i w).andThen (invokeAll true rest) =
      (invoke false i w).andThen (invokeAll false rest)
    rw [hfirst, funext (ih fun x hx => his x (List.mem_cons_of_mem i hx))]

/-- What each action of some callbacks keeps, and what the books have no part in, is kept while they are
    called. -/
theorem keeps_invokeAll {I : World → Prop} {locked : Bool} {is : List (Invocation Callback)}
    (hact : ∀ i ∈ is, ∀ n, ∀ a ∈ i.registration.callback.actions n, ∀ w, I w → I (w.act locked a).2.1)
    (hcounting : ∀ w number, I w → I (w.counting number))
    (hpoison : ∀ w number, I w → I (w.poison number)) {w : World} (hw : I w) :
    I (invokeAll locked is w).world := by
  have hjoins := Joins.invariant I
  refine hjoins.invokeAll (fun i hi w hw => ?_) w hw
  by_cases hp : i.registration.number ∈ w.poisoned
  · rw [invoke_of_poisoned hp]
    exact hw
  · rw [invoke_of_not_poisoned hp rfl]
    have hbody := hjoins.actAll (hact i hi (w.called.count i.registration.number + 1)) _
      (hcounting w i.registration.number hw)
    dsimp only
    split
    · exact hpoison _ _ hbody
    · exact hbody

/-- The world of this host, whose lock is not poisoned. -/
structure Ready (h : Host Callback) (w : World) : Prop where
  host : w.host = h
  unpoisoned : w.hostPoisoned = false

/-- Callbacks that leave the host alone leave it ready. -/
theorem Ready.invokeAll {h : Host Callback} {w : World} (hw : w.Ready h)
    {is : List (Invocation Callback)} (his : ∀ i ∈ is, i.registration.callback.Detached) (locked : Bool) :
    (invokeAll locked is w).world.Ready h := by
  refine keeps_invokeAll ?_ (fun _ _ hw => ⟨hw.host, hw.unpoisoned⟩)
    (fun _ _ hw => ⟨hw.host, hw.unpoisoned⟩) hw
  intro i hi n a ha w hw
  have hasks := his i hi n a ha
  have heffect := w.effect_act locked a
  generalize w.act locked a = x at heffect ⊢
  cases heffect with
  | vain | dropped => exact hw
  | posted | configured => exact ⟨hw.host, hw.unpoisoned⟩
  | locked | operated | asked | handled => exact absurd hasks (by simp [Action.asksHost])

/-- Callbacks that leave the host alone and let no event be dispatched leave the queue as it is. -/
theorem queue_invokeAll {is : List (Invocation Callback)}
    (hdetached : ∀ i ∈ is, i.registration.callback.Detached)
    (hunfired : ∀ i ∈ is, i.registration.callback.FiresNothing) (locked : Bool) (w : World) :
    (invokeAll locked is w).world.queue = w.queue := by
  refine keeps_invokeAll (I := fun w' => w'.queue = w.queue) ?_ (fun _ _ hw => hw) (fun _ _ hw => hw) rfl
  intro i hi n a ha w' hw'
  have hfires := hunfired i hi n a ha
  cases a with
  | fire e => exact absurd hfires (by simp [Action.fires])
  | configure settings => exact hw'
  | request r => exact absurd (hdetached i hi n _ ha) (by simp [Action.asksHost])

end World

/-! ## What callbacks do -/

/-- Whether something is seen of what callbacks do: they are called, let events be posted, and act. -/
def Observation.isDoing : Observation → Bool
  | .posted _ | .called .. | .acted .. => true
  | _ => false

/-- What callbacks do, among some observations. -/
def Observation.doings (t : List Observation) : List Observation := t.filter isDoing

@[simp] theorem Observation.doings_append (s t : List Observation) :
    doings (s ++ t) = doings s ++ doings t :=
  List.filter_append s t

/-- Entries are none of what callbacks do. -/
theorem Observation.doings_entries (t : List Entry) : doings (t.map .entry) = [] := by
  unfold doings
  rw [List.filter_eq_nil_iff]
  intro o ho
  obtain ⟨e, -, rfl⟩ := List.mem_map.mp ho
  exact Bool.false_ne_true

namespace World

/-- Two deliveries in which callbacks do the same, up to the same panic, and after which the worlds are the
    same, unless the panic has poisoned the lock of one of them. -/
structure Delivery.Matches (d d' : Delivery) : Prop where
  doings : Observation.doings d.trace = Observation.doings d'.trace
  panicked : d.panicked = d'.panicked
  world : d.panicked = false → d.world = d'.world
  poisoned : ∃ flag, d.world = { d'.world with hostPoisoned := flag }

theorem Delivery.Matches.andThen {d d' : Delivery} (h : d.Matches d') {next next' : World → Delivery}
    (hnext : d'.panicked = false → (next d'.world).Matches (next' d'.world)) :
    (d.andThen next).Matches (d'.andThen next') := by
  cases hd : d'.panicked with
  | true =>
    rw [andThen_of_panicked hd, andThen_of_panicked (h.panicked.trans hd)]
    exact h
  | false =>
    have hmore := hnext hd
    rw [andThen_of_not_panicked hd, andThen_of_not_panicked (h.panicked.trans hd),
      h.world (h.panicked.trans hd)]
    refine ⟨?_, hmore.panicked, hmore.world, hmore.poisoned⟩
    rw [Observation.doings_append, Observation.doings_append, h.doings, hmore.doings]

/-- The same calls, with something else seen as well, and a lock that may be poisoned by a panic. -/
theorem Delivery.matches_of_calls {d d' : Delivery} {other : List Observation}
    (hother : Observation.doings other = []) (htrace : d.trace = other ++ d'.trace)
    (hpanicked : d.panicked = d'.panicked) (hworld : d.panicked = false → d.world = d'.world)
    (hflag : ∃ flag, d.world = { d'.world with hostPoisoned := flag }) : d.Matches d' := by
  refine ⟨?_, hpanicked, hworld, hflag⟩
  rw [htrace, Observation.doings_append, hother, List.nil_append]

section Ways

variable {w : World} (hidle : w.host.pending = [])
include hidle

/-- **A delivery to an idle host** makes the call that its event makes due. -/
theorem matches_deliver (hopen : w.hostPoisoned = false) (e : Event) :
    (w.deliver e).Matches (invokeAll false (w.host.due? e).toList w) := by
  have hother : Observation.doings (.delivered e :: (w.handle e).2) = [] :=
    Observation.doings_entries (w.host.handle e).2
  rw [deliver_of_idle hopen hidle]
  exact Delivery.matches_of_calls hother rfl rfl (fun _ => rfl) ⟨_, rfl⟩

/-- **A dispatch to an idle host** makes the same call, since its callback does not notice the lock. -/
theorem matches_dispatch (hdetached : ∀ k r, w.host.registry.get k = some r → r.callback.Detached)
    (e : Event) : (w.dispatch e).Matches (invokeAll false (w.host.due? e).toList w) := by
  have hdue : ∀ i ∈ (w.host.due? e).toList, i.registration.callback.Detached :=
    fun i hi => Host.holds_of_due hdetached (Option.mem_toList.mp hi)
  unfold dispatch
  dsimp only
  rw [runPending_handle_of_idle hidle, invokeAll_locked hdue]
  refine Delivery.matches_of_calls (Observation.doings_entries (w.host.handle e).2) rfl rfl
    (fun hnot => ?_) ?_
  · rw [if_neg (Bool.eq_false_iff.mp hnot)]
  · dsimp only
    split
    · exact ⟨true, rfl⟩
    · exact ⟨_, rfl⟩

end Ways

/-- **Events in turn.** If an event that is driven through a host which is ready makes the call that it makes
    due, then events in turn make the calls that they make due, in their order. -/
theorem matches_inTurn {h : Host Callback} {one : World → Event → Delivery}
    (hdetached : ∀ k r, h.registry.get k = some r → r.callback.Detached)
    (hone : ∀ w, w.Ready h → ∀ e, (one w e).Matches (invokeAll false (h.due? e).toList w))
    (es : List Event) {w : World} (hw : w.Ready h) :
    (inTurn one es w).Matches (invokeAll false (es.filterMap h.due?) w) := by
  induction es generalizing w with
  | nil => exact ⟨rfl, rfl, fun _ => rfl, _, rfl⟩
  | cons e rest ih =>
    have hdue : ∀ i ∈ (h.due? e).toList, i.registration.callback.Detached :=
      fun i hi => Host.holds_of_due hdetached (Option.mem_toList.mp hi)
    rw [Host.filterMap_due_cons, invokeAll_append]
    exact (hone w hw e).andThen fun _ => ih (hw.invokeAll hdue false)

/-- Deliveries in turn make the calls that their events make due. -/
theorem matches_deliverAll {h : Host Callback} (hidle : h.pending = [])
    (hdetached : ∀ k r, h.registry.get k = some r → r.callback.Detached) (es : List Event) {w : World}
    (hw : w.Ready h) : (deliverAll es w).Matches (invokeAll false (es.filterMap h.due?) w) := by
  rw [deliverAll_eq_inTurn]
  refine matches_inTurn hdetached (fun w hw e => ?_) es hw
  obtain ⟨rfl, hopen⟩ := hw
  exact matches_deliver hidle hopen e

/-- Lets the host handle some events in order. -/
def handleAll : List Event → World → World × List Observation
  | [], w => (w, [])
  | e :: rest, w =>
    let (next, trace) := w.handle e
    let (final, more) := handleAll rest next
    (final, trace ++ more)

/-- Handling some events makes the calls due that they make due, in their order, and nothing else. -/
theorem handleAll_fst (es : List Event) (w : World) :
    (handleAll es w).1 =
      { w with host := { w.host with pending := w.host.pending ++ es.filterMap w.host.due? } } := by
  induction es generalizing w with
  | nil => simp [handleAll]
  | cons e rest ih =>
    have hdue : (w.handle e).1.host.due? = w.host.due? := rfl
    show (handleAll rest (w.handle e).1).1 = _
    rw [ih, hdue]
    show ({ w with host := { w.host with
      pending := (w.host.pending ++ (w.host.due? e).toList) ++ rest.filterMap w.host.due? } } : World) = _
    rw [List.append_assoc, Host.filterMap_due_cons]

theorem doings_handleAll (es : List Event) (w : World) : Observation.doings (handleAll es w).2 = [] := by
  induction es generalizing w with
  | nil => rfl
  | cons e rest ih =>
    show Observation.doings ((w.handle e).2 ++ (handleAll rest (w.handle e).1).2) = []
    rw [Observation.doings_append, ih, List.append_nil]
    exact Observation.doings_entries (w.host.handle e).2

/-! ## The four ways -/

/-- A way to drive events through a host. -/
inductive Way where
  /-- Deliver them one at a time out of the queue. -/
  | draining
  /-- Let a loop receive them. -/
  | looping
  /-- Have the host handle each of them and make the calls that are due at once. -/
  | dispatching
  /-- Have the host handle all of them, and make the calls that are due then. -/
  | handlingFirst

/-- Drives some events through the host of a world, up to a panic. -/
def Way.run : Way → List Event → World → Delivery
  | .draining, es, w => (drain es.length { w with queue := es }).2
  | .looping, es, w => deliverAll es w
  | .dispatching, es, w => inTurn dispatch es w
  | .handlingFirst, es, w =>
    let (handled, trace) := handleAll es w
    let d := handled.runPending false
    { d with trace := trace ++ d.trace }

/-- What a delivery comes to: what callbacks have done, whether one of them has panicked, the host, the
    vendor, and the books on registrations called and on those whose callback has panicked. -/
structure Outcome where
  doings : List Observation
  panicked : Bool
  host : Host Callback
  vendor : Vendor
  called : List Nat
  poisoned : List Nat

/-- What a delivery comes to. -/
def Delivery.outcome (d : Delivery) : Outcome where
  doings := Observation.doings d.trace
  panicked := d.panicked
  host := d.world.host
  vendor := d.world.vendor
  called := d.world.called
  poisoned := d.world.poisoned

theorem Delivery.Matches.outcome_eq {d d' : Delivery} (h : d.Matches d') : d.outcome = d'.outcome := by
  obtain ⟨flag, hworld⟩ := h.poisoned
  unfold Delivery.outcome
  rw [h.doings, h.panicked, hworld]

/-- Draining some events out of the queue delivers them, and leaves those behind that a panic keeps from
    being delivered. -/
theorem exists_left_of_draining (es : List Event) (w : World) :
    ∃ left, Way.draining.run es w = (deliverAll es { w with queue := [] }).behind left ∧
      ((deliverAll es { w with queue := [] }).panicked = false → left = []) := by
  have hdrain := drain_behind es { w with queue := [] }
  have hqueue : ({ w with queue := [] } : World).behind es = { w with queue := es } := by simp [behind]
  rw [hqueue] at hdrain
  exact hdrain

/-- Draining comes to what receiving in a loop comes to: the queue of a world has no part in that. -/
theorem outcome_draining (es : List Event) (w : World) :
    (Way.draining.run es w).outcome = (deliverAll es w).outcome := by
  obtain ⟨left, hleft, -⟩ := exists_left_of_draining es w
  have hqueue : ({ w with queue := [] } : World).behind w.queue = w := by simp [behind]
  have hbehind := deliverAll_behind w.queue { w with queue := [] } es
  rw [hqueue] at hbehind
  rw [hleft, hbehind]
  rfl

/-- **Each way comes to the calls that the events make due**, made in one go in the order of the events. -/
theorem outcome_run {h : Host Callback} {w : World} (hw : w.Ready h) (hidle : h.pending = [])
    (hdetached : ∀ k r, h.registry.get k = some r → r.callback.Detached) (es : List Event) (way : Way) :
    (way.run es w).outcome = (invokeAll false (es.filterMap h.due?) w).outcome := by
  have hlooping := matches_deliverAll hidle hdetached es hw
  cases way with
  | looping => exact hlooping.outcome_eq
  | draining => exact (outcome_draining es w).trans hlooping.outcome_eq
  | dispatching =>
    refine (matches_inTurn hdetached (fun w hw e => ?_) es hw).outcome_eq
    obtain ⟨rfl, -⟩ := hw
    exact matches_dispatch hidle hdetached e
  | handlingFirst =>
    obtain ⟨rfl, -⟩ := hw
    have hback : ({ w with host := { w.host with pending := [] } } : World) = w := by rw [← hidle]
    have hrun : (handleAll es w).1.runPending false =
        invokeAll false (es.filterMap w.host.due?) w := by
      rw [handleAll_fst, hidle, List.nil_append]
      show invokeAll false (es.filterMap w.host.due?) { w with host := { w.host with pending := [] } } = _
      rw [hback]
    unfold Way.run
    dsimp only
    rw [hrun]
    unfold Delivery.outcome
    dsimp only
    rw [Observation.doings_append, doings_handleAll, List.nil_append]

/-- The world with its host behind a new lock. A lock guards a host, and that it has been poisoned is no
    matter of the host; behind a poisoned one, nothing can be delivered at all. -/
def inNewLock (w : World) : World := { w with hostPoisoned := false }

end World

namespace Session

open World

/-- **It makes no difference how events are driven through a host.** If no call is due and the registered
    callbacks leave the host alone, then whatever the events are, draining them from the queue, receiving
    them in a loop, dispatching each of them, and handling all of them before the calls that are due are
    made come to the same: the callbacks do the same, called with the same arguments in the same order, up
    to the same panic, and the host is as it was, with no call due. If no callback lets an event be
    dispatched, then there is no more to drain after that, and draining on makes no difference. -/
theorem ways_agree {w : World} (hidle : w.host.pending = [])
    (hdetached : ∀ k r, w.host.registry.get k = some r → r.callback.Detached) (es : List Event)
    (a b : Way) :
    (a.run es w.inNewLock).outcome = (b.run es w.inNewLock).outcome ∧
      (a.run es w.inNewLock).world.host = w.host ∧
      ((∀ k r, w.host.registry.get k = some r → r.callback.FiresNothing) →
        ∀ limit, es.length ≤ limit →
          (drain limit { w.inNewLock with queue := es }).2 = Way.draining.run es w.inNewLock ∧
          ((Way.draining.run es w.inNewLock).panicked = false →
            (Way.draining.run es w.inNewLock).world.queue = [])) := by
  have hready : w.inNewLock.Ready w.host := ⟨rfl, rfl⟩
  have hdetachedDue := Host.forall_due hdetached es
  have hall := outcome_run hready hidle hdetached es
  refine ⟨(hall a).trans (hall b).symm, ?_, fun hunfired limit hlimit => ?_⟩
  · have hhost := congrArg Outcome.host (hall a)
    exact hhost.trans (hready.invokeAll hdetachedDue false).host
  · have hunfiredDue := Host.forall_due hunfired es
    obtain ⟨left, hrun, hleft⟩ := exists_left_of_draining es w.inNewLock
    have hsame := matches_deliverAll hidle hdetached es
      (w := { w.inNewLock with queue := [] }) ⟨rfl, rfl⟩
    have hempty : (Way.draining.run es w.inNewLock).panicked = false →
        (Way.draining.run es w.inNewLock).world.queue = [] := by
      rw [hrun]
      intro hnot
      show left ++ (deliverAll es { w.inNewLock with queue := [] }).world.queue = []
      rw [hleft hnot, hsame.world hnot, queue_invokeAll hdetachedDue hunfiredDue]
      rfl
    refine ⟨drain_of_le hlimit ?_, hempty⟩
    cases hpanicked : (Way.draining.run es w.inNewLock).panicked with
    | true => exact .inl hpanicked
    | false => exact .inr (hempty hpanicked)

/-- Whoever shows whether the adapter can be found, and fails to do so the second time. -/
def lamp : Callback where
  tag := "lamp"
  panics := fun n => n == 2

/-- Whoever shows the name of the adapter, and has the vendor fail from then on. -/
def sign : Callback where
  tag := "sign"
  actions := fun _ => [.configure [.status .timeout]]

/-- A host that is up, with both of them registered. -/
def withLampAndSign : World :=
  (runFrom false (initial []) [.act (.request (.operation .start)),
    .act (.request (.operation (.setCallback ⟨.visibility, nofun⟩ lamp))),
    .act (.request (.operation (.setCallback ⟨.adapterName, nofun⟩ sign)))]).1

/-- The adapter is shown, named, hidden and named again. -/
def changes : List Event :=
  [.scanModeChanged .success .generalDiscoverable, .nameChanged .success "first",
    .scanModeChanged .success .connectable, .nameChanged .success "second"]

/-- Each way makes three calls, the last of which panics, and leaves the host as it was. -/
theorem ways_agree_withLampAndSign :
    Reachable withLampAndSign ∧
      (∀ a b : Way, (a.run changes withLampAndSign.inNewLock).outcome =
        (b.run changes withLampAndSign.inNewLock).outcome) ∧
      (∀ way : Way, ((way.run changes withLampAndSign.inNewLock).outcome.doings.countP fun
        | .called .. => true
        | _ => false) = 3) ∧
      ∀ way : Way, (way.run changes withLampAndSign.inNewLock).panicked = true ∧
        (way.run changes withLampAndSign.inNewLock).world.host = withLampAndSign.host := by
  have hidle : withLampAndSign.host.pending = [] := rfl
  have hdetached : ∀ k r, withLampAndSign.host.registry.get k = some r → r.callback.Detached := by
    intro k r hr
    cases k with
    | visibility =>
      obtain rfl := Option.some.inj hr
      exact fun n a ha => absurd ha List.not_mem_nil
    | adapterName =>
      obtain rfl := Option.some.inj hr
      intro n a ha
      rw [List.mem_singleton.mp ha]
      rfl
    | _ => exact absurd hr nofun
  have hagree := fun a b => (ways_agree hidle hdetached changes a b).1
  refine ⟨⟨false, [], _, rfl⟩, hagree, fun way => ?_, fun way => ⟨?_, ?_⟩⟩
  · rw [hagree way .looping]
    rfl
  · exact congrArg Outcome.panicked (hagree way .looping)
  · exact (ways_agree hidle hdetached changes way way).2.1

end Session

end BluetoothHost
