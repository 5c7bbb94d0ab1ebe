import BluetoothHost.Proofs.Callbacks
import BluetoothHost.Proofs.Changes

/-!
# `Proofs.Reentrancy` — a callback may do what its caller may do after it

A callback that acts on the host while it is called, with the host unlocked, does nothing that could not
be done at the top level once the delivery is over. So a delivery that calls it looks like one that calls
a callback with an empty body, followed by its actions (`delivery_is_transparent`), and this holds of any
actions, those that change the slot of the callback among them.

What a world does cannot depend on the bodies of the callbacks it holds unless it calls them. This is said
by changing registrations (`World.map`): what comes of actions in the changed world is what comes of them
in the other one, changed (`World.actAll_map`), as long as registrations yet to be made stay as they are.

## Contents
- `World.Numbered`, with `Course.numbered`: numbers yet to come are new.
- `World.actAll_map`: a change of the registrations there are commutes with actions, and is not seen.
- `World.due_of_called`: a delivery to an idle host calls nobody but whom its event is due to.
- `Registration.emptied`, `World.emptied`, `Session.delivery_is_transparent`.
-/

namespace BluetoothHost

namespace World

/-! ## Numbers -/

/-- The registrations in the slots have been numbered already. -/
def Numbered (w : World) : Prop := ∀ k r, w.host.registry.get k = some r → r.number < w.nextNumber

theorem Numbered.act {w : World} (hw : w.Numbered) (locked : Bool) (a : Action Callback) :
    (w.act locked a).2.1.Numbered := by
  have heffect := w.effect_act locked a
  generalize w.act locked a = x at heffect ⊢
  cases heffect with
  | vain | posted | dropped | configured | locked | asked | handled => exact hw
  | operated op =>
    intro k r hr
    show r.number < w.nextNumber + 1
    rcases Host.get_perform hr with hold | ⟨-, hnew, -⟩
    · have hlt := hw k r hold
      omega
    · omega

end World

/-- All along a course, registrations in the slots have been numbered already. -/
theorem Course.numbered {w w' : World} {t : List Observation} (h : Course w t w') (hw : w.Numbered) :
    w'.Numbered := by
  induction h with
  | done => exact hw
  | act locked a _ ih => exact ih.act locked a
  | aside _ ha ih =>
    intro k r hr
    rw [ha.registry] at hr
    rw [ha.nextNumber]
    exact ih k r hr

/-! ## What is seen of an action and of a delivery -/

/-- What can be seen of an action alone: it calls nobody, and answers later. -/
def Observation.isEffect : Observation → Bool
  | .entry _ | .posted _ => true
  | _ => false

/-- The actions whose answers are among some observations. -/
def Observation.actions (t : List Observation) : List (Action Callback) :=
  t.filterMap fun
    | .acted a _ => some a
    | _ => none

@[simp] theorem Observation.actions_append (s t : List Observation) :
    actions (s ++ t) = actions s ++ actions t :=
  List.filterMap_append

namespace World

theorem effects_entries (t : List Entry) : ∀ o ∈ t.map Observation.entry, o.isEffect = true := by
  intro o ho
  obtain ⟨e, -, rfl⟩ := List.mem_map.mp ho
  rfl

theorem effects_act (locked : Bool) (w : World) (a : Action Callback) :
    ∀ o ∈ (w.act locked a).2.2, o.isEffect = true := by
  have heffect := w.effect_act locked a
  generalize w.act locked a = x at heffect ⊢
  cases heffect with
  | vain | configured | locked | asked => exact fun _ ho => absurd ho List.not_mem_nil
  | posted | dropped => simp [Observation.isEffect, Observation.notice]
  | operated op => exact effects_entries _
  | handled e => exact effects_entries _

end World

/-- Effects show nothing to whom neither an entry nor an event posted shows anything. -/
theorem Observation.filterMap_effects {α : Type} {f : Observation → Option α} {t : List Observation}
    (hentry : ∀ e, f (.entry e) = none) (hposted : ∀ e, f (.posted e) = none)
    (ht : ∀ o ∈ t, o.isEffect = true) : t.filterMap f = [] := by
  rw [List.filterMap_eq_nil_iff]
  intro o ho
  cases o with
  | entry e => exact hentry e
  | posted e => exact hposted e
  | delivered | called | acted => exact absurd (ht _ ho) (by simp [isEffect])

/-- No action calls anybody. -/
theorem World.invocations_act (locked : Bool) (w : World) (a : Action Callback) :
    Observation.invocations (w.act locked a).2.2 = [] :=
  Observation.filterMap_effects (fun _ => rfl) (fun _ => rfl) (w.effects_act locked a)

theorem World.invocations_opening (i : Invocation Callback) (count : Nat) :
    Observation.invocations (World.opening i count) = [i] := by
  unfold World.opening
  rw [Observation.invocations_append]
  cases i.event.shortfall? <;> rfl

theorem World.actions_opening (i : Invocation Callback) (count : Nat) :
    Observation.actions (World.opening i count) = [] := by
  unfold World.opening
  rw [Observation.actions_append]
  cases i.event.shortfall? <;> rfl

/-- What some actions show is that they act, in their order, and that they call nobody. -/
theorem World.seen_actAll (locked : Bool) (as : List (Action Callback)) (w : World) :
    Observation.invocations (World.actAll locked as w).2 = [] ∧
      Observation.actions (World.actAll locked as w).2 = as := by
  induction as generalizing w with
  | nil => exact ⟨rfl, rfl⟩
  | cons a rest ih =>
    obtain ⟨hcalls, hactions⟩ := ih (w.act locked a).2.1
    have hunanswered : Observation.actions (w.act locked a).2.2 = [] :=
      Observation.filterMap_effects (fun _ => rfl) (fun _ => rfl) (w.effects_act locked a)
    have htrace : (World.actAll locked (a :: rest) w).2 =
        (w.act locked a).2.2 ++ ([.acted a (w.act locked a).1] ++
          (World.actAll locked rest (w.act locked a).2.1).2) := rfl
    rw [htrace]
    constructor
    · rw [Observation.invocations_append, Observation.invocations_append, w.invocations_act locked a, hcalls]
      rfl
    · rw [Observation.actions_append, Observation.actions_append, hunanswered, hactions]
      rfl

/-- Where nobody is called, no registration is seen but its number. -/
theorem Observation.map_change_of_uncalled {c : Change} (hnumber : c.number = id) {t : List Observation}
    (ht : invocations t = []) : t.map (Observation.change c) = t := by
  have hsame : ∀ o ∈ t, Observation.change c o = id o := by
    intro o ho
    cases o with
    | entry e =>
      rw [Observation.change, hnumber, Entry.renumber_id]
      rfl
    | called i count arguments =>
      have hnone := List.filterMap_eq_nil_iff.mp ht _ ho
      exact absurd hnone (by simp)
    | posted | delivered | acted => rfl
  rw [List.map_congr_left hsame, List.map_id]

/-- In a world with changed registrations, actions do what they do in the other one, and show it, unless
    it is a registration yet to be made that would be changed. -/
theorem World.actAll_map {f : Registration Callback → Registration Callback} {w : World}
    (hf : ∀ r, w.nextNumber ≤ r.number → f r = r) (locked : Bool) (as : List (Action Callback)) :
    actAll locked as (w.map f) = ((actAll locked as w).1.map f, (actAll locked as w).2) := by
  have hrenames : ({ registration := f } : Change).Renames w.nextNumber :=
    ⟨fun _ _ => rfl, fun _ hn _ _ => hf _ hn⟩
  have hall := actAll_change hrenames locked as
  rw [Observation.map_change_of_uncalled rfl (seen_actAll locked as w).1] at hall
  exact hall

namespace World

variable {w : World} {e : Event} {i : Invocation Callback}

/-- **A delivery to an idle host calls nobody but whom its event is due to**, and only if it has not
    panicked before. -/
theorem due_of_called (hidle : w.host.pending = [])
    (hcalled : i ∈ Observation.invocations (w.deliver e).trace) :
    w.hostPoisoned = false ∧ w.host.due? e = some i ∧ i.registration.number ∉ w.poisoned := by
  have hhandled : Observation.invocations (w.handle e).2 = [] := Observation.invocations_entries _
  cases hopen : w.hostPoisoned with
  | true =>
    -- the event is dropped
    have hnone : Observation.invocations (w.deliver e).trace = [] := by
      unfold deliver
      rw [hopen]
      rfl
    rw [hnone] at hcalled
    exact absurd hcalled List.not_mem_nil
  | false =>
    have htrace : Observation.invocations (w.deliver e).trace =
        Observation.invocations (invokeAll false (w.host.due? e).toList w).trace := by
      rw [deliver_of_idle hopen hidle]
      show Observation.invocations ((w.handle e).2 ++ _) = _
      rw [Observation.invocations_append, hhandled, List.nil_append]
    rw [htrace] at hcalled
    cases hdue : w.host.due? e with
    | none =>
      rw [hdue] at hcalled
      exact absurd hcalled List.not_mem_nil
    | some j =>
      -- the one call made is the one due, since what its body does calls nobody
      rw [hdue, Option.toList_some, invokeAll_singleton] at hcalled
      by_cases hp : j.registration.number ∈ w.poisoned
      · rw [invoke_of_poisoned hp] at hcalled
        exact absurd hcalled List.not_mem_nil
      · rw [invoke_of_not_poisoned hp rfl] at hcalled
        dsimp only at hcalled
        rw [Observation.invocations_append, (seen_actAll ..).1, List.append_nil, invocations_opening,
          List.mem_singleton] at hcalled
        rw [hcalled]
        exact ⟨rfl, rfl, hp⟩

/-- The delivery of an event whose callback is called, and does not panic. -/
theorem deliver_of_due (hopen : w.hostPoisoned = false) (hidle : w.host.pending = [])
    (hdue : w.host.due? e = some i) (hp : i.registration.number ∉ w.poisoned) {count : Nat}
    (hcount : w.called.count i.registration.number + 1 = count)
    (hpanics : i.registration.callback.panics count = false) :
    w.deliver e =
      ⟨(actAll false (i.registration.callback.actions count) (w.counting i.registration.number)).1,
        .delivered e :: (w.handle e).2 ++ (opening i count ++
          (actAll false (i.registration.callback.actions count)
            (w.counting i.registration.number)).2), false⟩ := by
  rw [deliver_of_idle hopen hidle, hdue, Option.toList_some, invokeAll_singleton,
    invoke_of_not_poisoned hp hcount, hpanics]
  rfl

end World

/-! ## Emptied bodies -/

/-- The registration with the body of its callback emptied, if it has this number. -/
def Registration.emptied (number : Nat) (r : Registration Callback) : Registration Callback :=
  if r.number = number then { r with callback := { tag := r.callback.tag } } else r

/-- The world in which the body of the callback registered under a number is emptied. -/
def World.emptied (number : Nat) (w : World) : World := w.map (Registration.emptied number)

/-- What is seen when the body of the callback registered under a number is emptied: the same, but for
    the body. -/
def Observation.emptied (number : Nat) : Observation → Observation
  | .called i count arguments => .called (i.map (Registration.emptied number)) count arguments
  | o => o

/-- Emptying a body changes its registration, and no number. -/
theorem Observation.emptied_eq_change (number : Nat) :
    Observation.emptied number = Observation.change { registration := Registration.emptied number } := by
  funext o
  cases o with
  | entry e => exact congrArg Observation.entry e.renumber_id.symm
  | posted | delivered | called | acted => rfl

/-- Where nobody is called, no body is seen. -/
theorem Observation.map_emptied_of_uncalled (number : Nat) {t : List Observation}
    (ht : invocations t = []) : t.map (Observation.emptied number) = t := by
  rw [emptied_eq_change]
  exact map_change_of_uncalled rfl ht

theorem World.map_emptied_opening (number : Nat) (i : Invocation Callback) (count : Nat) :
    (World.opening i count).map (Observation.emptied number) =
      World.opening (i.map (Registration.emptied number)) count := by
  rw [Observation.emptied_eq_change]
  exact World.map_change_opening _ i count

/-- A delivery that calls an emptied body does nothing behind the call. -/
theorem World.deliver_emptied {w : World} {e : Event} {i : Invocation Callback}
    (hopen : w.hostPoisoned = false) (hidle : w.host.pending = []) (hdue : w.host.due? e = some i)
    (hp : i.registration.number ∉ w.poisoned) {count : Nat}
    (hcount : w.called.count i.registration.number + 1 = count) :
    (w.emptied i.registration.number).deliver e =
      ⟨(w.counting i.registration.number).emptied i.registration.number,
        .delivered e :: (w.handle e).2 ++
          opening (i.map (Registration.emptied i.registration.number)) count, false⟩ := by
  generalize hn : i.registration.number = n at *
  -- the same call is due, of the emptied callback
  have hbody : i.registration.emptied n =
      { i.registration with callback := { tag := i.registration.callback.tag } } := if_pos hn
  have hdue' : (w.emptied n).host.due? e = some (i.map (Registration.emptied n)) := by
    show (w.host.map (Registration.emptied n)).due? e = _
    rw [Host.due?_map, hdue]
    rfl
  have hidle' : (w.emptied n).host.pending = [] := by
    show w.host.pending.map _ = []
    rw [hidle, List.map_nil]
  have hnumber : (i.map (Registration.emptied n)).registration.number = n := by
    show (i.registration.emptied n).number = n
    rw [hbody]
    exact hn
  have hcallback : (i.map (Registration.emptied n)).registration.callback =
      { tag := i.registration.callback.tag } := by
    show (i.registration.emptied n).callback = _
    rw [hbody]
  have hp' : (i.map (Registration.emptied n)).registration.number ∉ (w.emptied n).poisoned := by
    rw [hnumber]
    exact hp
  have hcount' : (w.emptied n).called.count (i.map (Registration.emptied n)).registration.number + 1 =
      count := by
    rw [hnumber]
    exact hcount
  have hopen' : (w.emptied n).hostPoisoned = false := hopen
  rw [deliver_of_due hopen' hidle' hdue' hp' hcount' (by rw [hcallback]), hnumber, hcallback]
  have hhandle : ((w.emptied n).handle e).2 = (w.handle e).2 := rfl
  rw [hhandle]
  show (⟨_, _ ++ (_ ++ []), _⟩ : Delivery) = _
  rw [List.append_nil]
  rfl

namespace Session

theorem Reachable.numbered {w : World} (hw : Reachable w) : w.Numbered := by
  obtain ⟨looping, settings, steps, rfl⟩ := hw
  refine (course_history looping (initial settings) steps).numbered fun k r hr => ?_
  exact absurd hr (by simp [initial])

/-- Actions taken one by one at the top level are carried out as those of a callback are. -/
theorem run_acts (looping : Bool) (as : List (Action Callback)) (w : World) :
    history looping w (as.map .act) = (World.actAll false as w).2 ∧
      (runFrom looping w (as.map .act)).1 = (World.actAll false as w).1 := by
  induction as generalizing w with
  | nil => exact ⟨rfl, rfl⟩
  | cons a rest ih =>
    obtain ⟨hhistory, hworld⟩ := ih (w.act false a).2.1
    refine ⟨?_, hworld⟩
    have htrace : (World.actAll false (a :: rest) w).2 =
        ((w.act false a).2.2 ++ [.acted a (w.act false a).1]) ++
          (World.actAll false rest (w.act false a).2.1).2 :=
      List.append_cons _ _ _
    rw [htrace, ← hhistory]
    rfl

/-- **Re-entrancy is transparent.** In any world a session can lead to, if no call is due, and the
    delivery of an event calls a callback whose body does some actions and does not panic, then all that
    is seen of this delivery — the arguments of the callback, what each action does and answers, in
    their order — is seen just as well if the body is emptied and the actions are taken one by one at the
    top level after the delivery; and both end in the same world, but for the body. All actions of the
    body are carried out, whatever they do to the slot it is called from. -/
theorem delivery_is_transparent (looping : Bool) {w : World} (hw : Reachable w)
    (hidle : w.host.pending = []) {r : Registration Callback} {e : Event}
    (hcalled : ⟨r, e⟩ ∈ Observation.invocations (w.deliver e).trace) {body : List (Action Callback)}
    (hbody : r.callback.actions (w.called.count r.number + 1) = body)
    (hpanics : r.callback.panics (w.called.count r.number + 1) = false) :
    history looping (w.emptied r.number) (.deliver e :: body.map .act) =
        (w.deliver e).trace.map (Observation.emptied r.number) ∧
      (runFrom looping (w.emptied r.number) (.deliver e :: body.map .act)).1 =
        (w.deliver e).world.emptied r.number ∧
      Observation.actions (w.deliver e).trace = body := by
  obtain ⟨hopen, hdue, hp⟩ := World.due_of_called hidle hcalled
  subst hbody
  generalize hcount : w.called.count r.number + 1 = count at hpanics ⊢
  have hfixed : ∀ x : Registration Callback, w.nextNumber ≤ x.number → x.emptied r.number = x := by
    intro x hx
    -- the registration called is in its slot, so it has been numbered before any yet to come
    have hlt := hw.numbered e.kind r (Host.slot_of_due hdue).1
    exact if_neg (by omega)
  -- the body is what the delivery does behind the call
  have hfull := World.deliver_of_due hopen hidle hdue hp hcount hpanics
  have hactions := World.actAll_map (w := w.counting r.number) hfixed false (r.callback.actions count)
  obtain ⟨huncalled, hall⟩ := World.seen_actAll false (r.callback.actions count) (w.counting r.number)
  have hempty := World.deliver_emptied hopen hidle hdue hp hcount
  obtain ⟨hhistory, hworld⟩ :=
    run_acts looping (r.callback.actions count) ((w.counting r.number).emptied r.number)
  refine ⟨?_, ?_, ?_⟩
  · rw [history_cons]
    show ((w.emptied r.number).deliver e).trace ++
      history looping ((w.emptied r.number).deliver e).world _ = _
    have hhandled : Observation.invocations (.delivered e :: (w.handle e).2) = [] := by
      show Observation.invocations (w.handle e).2 = []
      exact Observation.invocations_entries _
    rw [hempty, hhistory, World.emptied, hactions, hfull]
    dsimp only
    rw [List.map_append, List.map_append, Observation.map_emptied_of_uncalled _ hhandled,
      Observation.map_emptied_of_uncalled _ huncalled, World.map_emptied_opening, List.append_assoc]
  · show (runFrom looping ((w.emptied r.number).deliver e).world _).1 = _
    rw [hempty, hworld, World.emptied, hactions, hfull]
    rfl
  · have hhandled : Observation.actions (.delivered e :: (w.handle e).2) = [] := by
      show Observation.actions (w.handle e).2 = []
      exact Observation.filterMap_entries (fun _ => rfl) _
    rw [hfull]
    dsimp only
    rw [Observation.actions_append, Observation.actions_append, hhandled,
      World.actions_opening, hall, List.nil_append, List.nil_append]

/-- A callback that empties its own slot, and accepts the connection it was asked for after that. -/
def acceptOnce : Callback where
  tag := "once"
  actions := fun _ => [.request (.operation (.unsetCallback ⟨.connectionRequest, nofun⟩)),
    .request (.operation (.acceptConnection 5))]

/-- A host that is up, and has this callback registered. -/
def listening : World :=
  (runFrom false (initial []) [.act (.request (.operation .start)),
    .act (.request (.operation (.setCallback ⟨.connectionRequest, nofun⟩ acceptOnce)))]).1

/-- A device asks to connect. -/
def asking : Event := .connectionRequested .success ⟨5, .zero⟩

/-- The connection is accepted although the slot is empty by then, as it is if the callback does nothing
    and its actions are taken after it. -/
theorem delivery_is_transparent_acceptOnce :
    Reachable listening ∧ listening.host.pending = [] ∧
      ⟨⟨1, .connectionRequest, acceptOnce⟩, asking⟩ ∈
        Observation.invocations (listening.deliver asking).trace ∧
      acceptOnce.panics (listening.called.count 1 + 1) = false ∧
      history false (listening.emptied 1)
          [.deliver asking, .act (.request (.operation (.unsetCallback ⟨.connectionRequest, nofun⟩))),
            .act (.request (.operation (.acceptConnection 5)))] =
        (listening.deliver asking).trace.map (Observation.emptied 1) ∧
      Observation.calls (listening.deliver asking).trace = [.command (.acceptConnection 5)] := by
  have hreachable : Reachable listening := ⟨false, [], _, rfl⟩
  have hidle : listening.host.pending = [] := rfl
  have hcalled : ⟨⟨1, .connectionRequest, acceptOnce⟩, asking⟩ ∈
      Observation.invocations (listening.deliver asking).trace :=
    List.mem_singleton.mpr rfl
  obtain ⟨hhistory, -, -⟩ := delivery_is_transparent false hreachable hidle hcalled rfl rfl
  exact ⟨hreachable, hidle, hcalled, rfl, hhistory, rfl⟩

end Session

end BluetoothHost
