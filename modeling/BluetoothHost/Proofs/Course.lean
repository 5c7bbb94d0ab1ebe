import BluetoothHost.Session

/-!
# `Proofs.Course` — a run as actions with asides between them

Whatever a session does, only its **actions** (at the top level or inside callbacks) reach the flags
of the host, its registry, the vendor or the supply of registration numbers. All else — events queued,
handled and delivered, calls taken, made and counted, panics — happens *aside* of these. A `Course`
forgets the rest: it is any sequence of actions and asides, in any order, in worlds that follow one
another. A property of flags, registry and vendor that every action keeps and that does not look at
anything else holds all along every session (`course_history`), whatever its callbacks do.

## Contents
- `World.Effect`, with `World.effect_act`: all that an action can come to.
- `Observation.isAside` and `World.Aside`: what happens between actions, and leaves no trace in them.
- `Joins`: a relation that joins up along a run holds of all of it, if it does of its parts; with
  `Joins.invariant` and `Joins.seen`.
- `Lifts`: one that holds of what steps are made of holds of every step and every session.
- `Course`, with `Course.trans`.
- `course_actAll`, `course_invoke`, …, `course_callTaken`: each way of making calls is a course.
- `course_history`: so is a whole session.
- `Session.Reachable`, `Session.Passed`: the worlds that sessions lead to, and those they pass through.
-/

namespace BluetoothHost

/-! ## What an action does -/

/-- All that an action can come to: its answer, the world after it, and what is seen of it. -/
inductive World.Effect (w : World) : Action Callback → Response × World × List Observation → Prop
  | vain (e : Event) : Effect w (.fire e) (.flag false, w, [])
  | posted (e : Event) (hr : w.receiving = true) :
      Effect w (.fire e) (.flag true, { w with queue := w.queue ++ [e] }, [.posted e])
  | dropped (e : Event) (hr : w.receiving = false) :
      Effect w (.fire e) (.flag true, w, [.posted e, .notice (.receiverGone e)])
  | configured (settings : List Vendor.Setting) :
      Effect w (.configure settings) (.nothing, { w with vendor := w.vendor.configure settings }, [])
  | locked (r : Request Callback) : Effect w (.request r) (.locked, w, [])
  | operated (op : Operation Callback) :
      Effect w (.request (.operation op))
        (.reply (w.perform op).1, (w.perform op).2.1, (w.perform op).2.2)
  | asked : Effect w (.request .isStarted) (.flag w.host.started, w, [])
  | handled (e : Event) :
      Effect w (.request (.handle e)) (.nothing, (w.handle e).1, (w.handle e).2)

/-- **An action comes to one of these**, with the lock held or free. -/
theorem World.effect_act (w : World) (locked : Bool) (a : Action Callback) :
    w.Effect a (w.act locked a) := by
  cases a with
  | fire e =>
    -- the dispatcher decides whether the event is posted, the receiver whether it is kept
    show w.Effect (.fire e) (.flag (w.fire e).1, (w.fire e).2.1, (w.fire e).2.2)
    cases hlinked : w.vendor.isLinked e.source with
    | false =>
      have hfire : w.fire e = (false, w, []) := by simp [fire, hlinked]
      rw [hfire]
      exact .vain e
    | true =>
      have hfire : w.fire e = (true, w.post e) := by simp [fire, hlinked]
      rw [hfire]
      unfold post
      split
      · rename_i hr
        exact .posted e hr
      · rename_i hr
        exact .dropped e (Bool.eq_false_iff.mpr hr)
  | configure settings => exact .configured settings
  | request r =>
    cases locked with
    | true => exact .locked r
    | false =>
      cases r with
      | operation op => exact .operated op
      | isStarted => exact .asked
      | handle e => exact .handled e

/-! ## Asides -/

/-- What may be seen without an action: no call of the vendor, nothing registered or released, nothing
    posted, and no answer. -/
def Observation.isAside : Observation → Bool
  | .entry (.notice _) | .entry (.handled _) | .delivered _ | .called .. => true
  | _ => false

/-- Aside of actions there are no calls. -/
theorem Observation.calls_of_isAside {t : List Observation} (ht : ∀ o ∈ t, o.isAside = true) :
    calls t = [] := by
  refine List.filterMap_eq_nil_iff.mpr fun o ho => ?_
  have haside := ht o ho
  cases o with
  | entry entry =>
    cases entry with
    | call => exact absurd haside (by simp [isAside])
    | _ => rfl
  | _ => rfl

namespace World

/-- `w'` follows `w` without an action: what actions work on is the same in both. -/
structure Aside (w : World) (t : List Observation) (w' : World) : Prop where
  started : w'.host.started = w.host.started
  hidStarted : w'.host.hidStarted = w.host.hidStarted
  registry : w'.host.registry = w.host.registry
  vendor : w'.vendor = w.vendor
  nextNumber : w'.nextNumber = w.nextNumber
  unseen : ∀ o ∈ t, o.isAside = true

/-- Nothing seen, and nothing changed but what an aside may change. -/
theorem Aside.silent {w w' : World} (hs : w'.host.started = w.host.started)
    (hh : w'.host.hidStarted = w.host.hidStarted) (hr : w'.host.registry = w.host.registry)
    (hv : w'.vendor = w.vendor) (hn : w'.nextNumber = w.nextNumber) : w.Aside [] w' :=
  ⟨hs, hh, hr, hv, hn, fun _ ho => absurd ho List.not_mem_nil⟩

/-- Something is seen that is no action, and nothing changes. -/
theorem Aside.seen {t : List Observation} (w : World) (ht : ∀ o ∈ t, o.isAside = true) :
    w.Aside t w :=
  ⟨rfl, rfl, rfl, rfl, rfl, ht⟩

/-- Handling an event is an aside: it touches the calls that are due, and nothing else. -/
theorem aside_handle (w : World) (e : Event) : w.Aside (w.handle e).2 (w.handle e).1 := by
  refine ⟨rfl, rfl, rfl, rfl, rfl, ?_⟩
  intro o ho
  obtain ⟨entry, hentry, rfl⟩ := List.mem_map.mp ho
  rcases List.mem_cons.mp hentry with rfl | hremark
  · rfl
  · obtain ⟨notice, _, rfl⟩ := List.mem_map.mp hremark
    rfl

end World

/-! ## Runs made of parts -/

/-- A relation between a world, what is seen, and the world after it, that joins up along a run. -/
structure Joins (R : World → List Observation → World → Prop) : Prop where
  refl : ∀ w, R w [] w
  trans : ∀ {w w' w'' : World} {t u : List Observation}, R w t w' → R w' u w'' → R w (t ++ u) w''

namespace Joins

/-- What is kept here and there is kept throughout. -/
theorem invariant (I : World → Prop) : Joins fun w _ w' => I w → I w' :=
  ⟨fun _ hw => hw, fun h h' hw => h' (h hw)⟩

/-- What is true of all that is seen here and there is true of all that is seen. -/
theorem seen (P : Observation → Prop) : Joins fun _ t _ => ∀ o ∈ t, P o :=
  ⟨fun _ _ ho => absurd ho List.not_mem_nil, fun h h' => List.forall_mem_append.mpr ⟨h, h'⟩⟩

variable {R : World → List Observation → World → Prop} (hR : Joins R)
include hR

/-- What joins up and holds of each action holds of actions in turn. -/
theorem actAll {locked : Bool} {as : List (Action Callback)}
    (hact : ∀ a ∈ as, ∀ w : World,
      R w ((w.act locked a).2.2 ++ [.acted a (w.act locked a).1]) (w.act locked a).2.1) (w : World) :
    R w (World.actAll locked as w).2 (World.actAll locked as w).1 := by
  induction as generalizing w with
  | nil => exact hR.refl w
  | cons a rest ih =>
    have hfirst := hact a List.mem_cons_self w
    have hrest := ih (fun x hx => hact x (List.mem_cons_of_mem a hx)) (w.act locked a).2.1
    simpa [World.actAll] using hR.trans hfirst hrest

/-- What joins up and holds of each call holds of calls in turn, wherever a panic ends them. -/
theorem invokeAll {locked : Bool} {is : List (Invocation Callback)}
    (hinvoke : ∀ i ∈ is, ∀ w : World,
      R w (World.invoke locked i w).trace (World.invoke locked i w).world) (w : World) :
    R w (World.invokeAll locked is w).trace (World.invokeAll locked is w).world := by
  induction is generalizing w with
  | nil => exact hR.refl w
  | cons i rest ih =>
    have hfirst := hinvoke i List.mem_cons_self w
    unfold World.invokeAll
    dsimp only
    split
    · exact hfirst
    · exact hR.trans hfirst (ih (fun x hx => hinvoke x (List.mem_cons_of_mem i hx)) _)

section Deliveries

variable (hdeliver : ∀ (w : World) (e : Event), R w (w.deliver e).trace (w.deliver e).world)
include hdeliver

/-- What joins up and holds of each delivery holds of deliveries in turn. -/
theorem deliverAll (es : List Event) (w : World) :
    R w (World.deliverAll es w).trace (World.deliverAll es w).world := by
  induction es generalizing w with
  | nil => exact hR.refl w
  | cons e rest ih =>
    unfold World.deliverAll
    dsimp only
    split
    · exact hdeliver w e
    · exact hR.trans (hdeliver w e) (ih _)

variable (hpop : ∀ (w : World) (es : List Event), R w [] { w with queue := es })
include hpop

/-- So it does of the deliveries that empty the queue, if it does of taking events out of it. -/
theorem drain (limit : Nat) (w : World) :
    R w (World.drain limit w).2.trace (World.drain limit w).2.world := by
  induction limit generalizing w with
  | zero => exact hR.refl w
  | succ limit ih =>
    unfold World.drain
    split
    · exact hR.refl w
    · rename_i e rest _
      have hfirst := hR.trans (hpop w rest) (hdeliver { w with queue := rest } e)
      dsimp only
      split
      · exact hfirst
      · exact hR.trans hfirst (ih _)

theorem receiveUpTo (limit : Nat) (looping : Bool) (w : World) :
    R w (Session.receiveUpTo limit looping w).2.trace (Session.receiveUpTo limit looping w).1 := by
  unfold Session.receiveUpTo
  split
  · exact hR.drain hdeliver hpop limit w
  · exact hR.refl w

end Deliveries

/-- What joins up and holds of each step holds of a session. -/
theorem history {looping : Bool} {steps : List Session.Step}
    (hstep : ∀ s ∈ steps, ∀ w : World,
      R w (s.observations (Session.step looping w s).2) (Session.step looping w s).1) (w : World) :
    R w (Session.history looping w steps) (Session.runFrom looping w steps).1 := by
  induction steps generalizing w with
  | nil => exact hR.refl w
  | cons s rest ih =>
    rw [Session.history_cons]
    exact hR.trans (hstep s List.mem_cons_self w) (ih (fun x hx => hstep x (List.mem_cons_of_mem s hx)) _)

end Joins

/-- A relation that joins up and holds of all that the steps of sessions are made of: an action, an event
    handled, the calls made that are due or have been taken, and what goes on beside these. -/
structure Lifts (R : World → List Observation → World → Prop) : Prop extends Joins R where
  act : ∀ (w : World) (a : Action Callback),
    R w ((w.act false a).2.2 ++ [.acted a (w.act false a).1]) (w.act false a).2.1
  handle : ∀ (w : World) (e : Event), R w (w.handle e).2 (w.handle e).1
  runPending : ∀ (locked : Bool) (w : World),
    R w (w.runPending locked).trace (w.runPending locked).world
  callTaken : ∀ w : World, R w w.callTaken.trace w.callTaken.world
  take : ∀ w : World, R w [] w.take
  delivered : ∀ (w : World) (e : Event), R w [.delivered e] w
  dropped : ∀ (w : World) (e : Event), R w [.delivered e, .notice (.contextPoisoned e)] w
  poison : ∀ w : World, R w [] { w with hostPoisoned := true }
  /-- Events are taken out of the queue, and it may be closed. -/
  queue : ∀ (w : World) (es : List Event) (receiving : Bool),
    R w [] { w with queue := es, receiving := receiving }

namespace Lifts

variable {R : World → List Observation → World → Prop} (hR : Lifts R)
include hR

/-- An event is handled, and the calls that are due are made. -/
theorem handle_runPending (locked : Bool) (w : World) (e : Event) :
    R w ((w.handle e).2 ++ ((w.handle e).1.runPending locked).trace)
      ((w.handle e).1.runPending locked).world :=
  hR.trans (hR.handle w e) (hR.runPending locked _)

theorem deliver (w : World) (e : Event) : R w (w.deliver e).trace (w.deliver e).world := by
  unfold World.deliver
  split
  · exact hR.dropped w e
  · have h := hR.trans (hR.delivered w e) (hR.handle_runPending false w e)
    exact h

theorem dispatch (w : World) (e : Event) : R w (w.dispatch e).trace (w.dispatch e).world := by
  have h := hR.handle_runPending true w e
  unfold World.dispatch
  dsimp only
  split
  · rw [← List.append_nil (_ ++ _)]
    exact hR.trans h (hR.poison _)
  · exact h

/-- It holds of every step, -/
theorem step (looping : Bool) (w : World) (s : Session.Step) :
    R w (s.observations (Session.step looping w s).2) (Session.step looping w s).1 := by
  have hreceive := fun limit =>
    hR.receiveUpTo hR.deliver (fun w es => hR.queue w es w.receiving) limit looping w
  cases s with
  | act a => exact hR.act w a
  | receive => exact hreceive 1
  | drain => exact hreceive Session.drainLimit
  | deliver e => exact hR.deliver w e
  | dispatch e => exact hR.dispatch w e
  | runPending => exact hR.runPending false w
  | take => exact hR.take w
  | callTaken => exact hR.callTaken w
  | stopReceiving => exact hR.queue w [] false
  | loop es => exact hR.deliverAll hR.deliver es w

/-- **and of every session.** -/
theorem session (looping : Bool) (w : World) (steps : List Session.Step) :
    R w (Session.history looping w steps) (Session.runFrom looping w steps).1 :=
  hR.history (fun s _ w => hR.step looping w s) w

end Lifts

/-! ## Courses -/

/-- A sequence of actions and asides, from one world to another, with all that is seen of it. -/
inductive Course : World → List Observation → World → Prop
  | done (w : World) : Course w [] w
  | act {w w' : World} {t : List Observation} (locked : Bool) (a : Action Callback)
      (h : Course w t w') :
      Course w (t ++ ((w'.act locked a).2.2 ++ [.acted a (w'.act locked a).1]))
        (w'.act locked a).2.1
  | aside {w w' w'' : World} {t u : List Observation} (h : Course w t w') (ha : w'.Aside u w'') :
      Course w (t ++ u) w''

theorem World.Aside.course {w w' : World} {t : List Observation} (ha : w.Aside t w') :
    Course w t w' :=
  Course.aside (.done w) ha

/-- What is changed aside, and unseen, is a course. -/
theorem Course.silent {w w' : World} (hs : w'.host.started = w.host.started)
    (hh : w'.host.hidStarted = w.host.hidStarted) (hr : w'.host.registry = w.host.registry)
    (hv : w'.vendor = w.vendor) (hn : w'.nextNumber = w.nextNumber) : Course w [] w' :=
  (World.Aside.silent hs hh hr hv hn).course

/-- Courses that follow one another are a course. -/
theorem Course.trans {w w' w'' : World} {t u : List Observation} (h : Course w t w')
    (h' : Course w' u w'') : Course w (t ++ u) w'' := by
  induction h' with
  | done => rw [List.append_nil]; exact h
  | act locked a _ ih => rw [← List.append_assoc]; exact ih.act locked a
  | aside _ ha ih => rw [← List.append_assoc]; exact ih.aside ha

theorem joins_course : Joins Course := ⟨.done, .trans⟩

/-- A single action is a course. -/
theorem course_act (locked : Bool) (w : World) (a : Action Callback) :
    Course w ((w.act locked a).2.2 ++ [.acted a (w.act locked a).1]) (w.act locked a).2.1 :=
  (Course.done w).act locked a

/-! ## The calls of callbacks -/

theorem course_actAll (locked : Bool) (as : List (Action Callback)) (w : World) :
    Course w (World.actAll locked as w).2 (World.actAll locked as w).1 :=
  joins_course.actAll (fun a _ w => course_act locked w a) w

/-- What is seen before the callback acts is an aside, and so is the count. -/
theorem World.aside_counting (w : World) (i : Invocation Callback) (count : Nat) :
    w.Aside (World.opening i count) (w.counting i.registration.number) := by
  refine ⟨rfl, rfl, rfl, rfl, rfl, ?_⟩
  intro o ho
  rcases List.mem_append.mp ho with hnote | hcall
  · obtain ⟨s, _, rfl⟩ := List.mem_map.mp hnote
    rfl
  · rw [List.mem_singleton.mp hcall]; rfl

/-- A call is a course: its actions, with the count before them and a possible panic after them. -/
theorem course_invoke (locked : Bool) (i : Invocation Callback) (w : World) :
    Course w (World.invoke locked i w).trace (World.invoke locked i w).world := by
  by_cases hp : i.registration.number ∈ w.poisoned
  · rw [World.invoke_of_poisoned hp]
    exact (World.Aside.seen w (by simp [Observation.isAside, Observation.notice])).course
  · rw [World.invoke_of_not_poisoned hp rfl]
    have h := (w.aside_counting i (w.called.count i.registration.number + 1)).course.trans
      (course_actAll locked (i.registration.callback.actions
        (w.called.count i.registration.number + 1)) (w.counting i.registration.number))
    dsimp only
    split
    · -- the panic is noted down behind the actions
      rw [← List.append_nil (_ ++ _)]
      exact h.aside (.silent rfl rfl rfl rfl rfl)
    · exact h

theorem course_invokeAll (locked : Bool) (is : List (Invocation Callback)) (w : World) :
    Course w (World.invokeAll locked is w).trace (World.invokeAll locked is w).world :=
  joins_course.invokeAll (fun i _ w => course_invoke locked i w) w

theorem course_runPending (locked : Bool) (w : World) :
    Course w (w.runPending locked).trace (w.runPending locked).world := by
  have htake : w.Aside [] { w with host := w.host.takePending.2 } := .silent rfl rfl rfl rfl rfl
  exact htake.course.trans (course_invokeAll locked w.host.pending _)

theorem course_callTaken (w : World) : Course w w.callTaken.trace w.callTaken.world := by
  unfold World.callTaken
  split
  · exact .done w
  · rename_i i rest _
    have hpop : w.Aside [] { w with taken := rest } := .silent rfl rfl rfl rfl rfl
    exact hpop.course.trans (course_invoke false i _)

/-! ## Sessions -/

/-- All that steps are made of is a course. -/
theorem lifts_course : Lifts Course where
  toJoins := joins_course
  act w a := course_act false w a
  handle w e := (w.aside_handle e).course
  runPending := course_runPending
  callTaken := course_callTaken
  take _ := .silent rfl rfl rfl rfl rfl
  delivered w _ := (World.Aside.seen w (by simp [Observation.isAside])).course
  dropped w _ := (World.Aside.seen w (by simp [Observation.isAside, Observation.notice])).course
  poison _ := .silent rfl rfl rfl rfl rfl
  queue _ _ _ := .silent rfl rfl rfl rfl rfl

namespace Session

/-- **A session is a course**, with its history as what is seen of it. -/
theorem course_history (looping : Bool) (w : World) (steps : List Step) :
    Course w (history looping w steps) (runFrom looping w steps).1 :=
  lifts_course.session looping w steps

/-- A world that a session can lead to. -/
def Reachable (w : World) : Prop :=
  ∃ looping settings steps, w = (runFrom looping (initial settings) steps).1

/-- A world that a session can pass through: it may lead there, or come by in the midst of a step, between
    two actions of a callback, say. -/
def Passed (w : World) : Prop := ∃ settings t, Course (initial settings) t w

theorem Reachable.passed {w : World} (hw : Reachable w) : Passed w := by
  obtain ⟨looping, settings, steps, rfl⟩ := hw
  exact ⟨settings, _, course_history looping (initial settings) steps⟩

end Session

end BluetoothHost
