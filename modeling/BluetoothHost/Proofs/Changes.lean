import BluetoothHost.Proofs.Course
import BluetoothHost.Proofs.Operations

/-!
# `Proofs.Changes` — worlds that differ in their registrations only

A host asks of a registration what its kind is, and nothing else. What it does, and what is seen of it, is
therefore the same in a world whose registrations are changed, but for the change: this holds of every
action (`World.act_change`), whatever becomes of the callbacks. Calls of callbacks look at more, at the
callback itself and at the numbers that tell registrations apart. A change that leaves the callbacks alone
and keeps the books under the new numbers (`Change.Faithful`) goes unnoticed there as well, so that all of a
session goes on as it would have gone on without it (`Session.runFrom_change`).

## Contents
- `Registry.map`, `Host.map`, `World.map`: registrations are changed wherever they stand.
- `Entry.renumber`, `Host.perform_map`: a change commutes with operations.
- `Change`, `World.change`, `Observation.change`; `Change.Renames`, with `World.actAll_change`.
- `Change.Faithful`, with `World.invoke_change`, …, `Session.step_change`, `Session.runFrom_change`.
-/

namespace BluetoothHost

/-! ## Changing registrations -/

/-- The registry with its registrations changed. -/
def Registry.map {κ : Type} (f : Registration κ → Registration κ) (r : Registry κ) : Registry κ where
  get k := (r.get k).map f

/-- The same call, of a changed registration. -/
def Invocation.map {κ : Type} (f : Registration κ → Registration κ) (i : Invocation κ) : Invocation κ :=
  { i with registration := f i.registration }

/-- The host with its registrations changed, in the slots and in the calls that are due. -/
def Host.map {κ : Type} (f : Registration κ → Registration κ) (h : Host κ) : Host κ :=
  { h with registry := h.registry.map f, pending := h.pending.map (Invocation.map f) }

/-- The same entry, of a registration under a changed number. -/
def Entry.renumber (g : Nat → Nat) : Entry → Entry
  | .registered kind number => .registered kind (g number)
  | e => e

/-- A performed operation with the registrations of the host changed, and their numbers where they are
    seen. -/
def Performed.map {κ : Type} (f : Registration κ → Registration κ) (g : Nat → Nat) (p : Performed κ) :
    Performed κ :=
  { p with host := p.host.map f, trace := p.trace.map (Entry.renumber g) }

section Map

variable {κ : Type} {f : Registration κ → Registration κ} {g : Nat → Nat}

namespace Registry

theorem map_set (r : Registry κ) {x y : Registration κ} (hx : f x = y) (hkind : y.kind = x.kind) :
    (r.map f).set y = (r.set x).map f := by
  ext1
  funext k
  by_cases hk : k = x.kind <;> simp [map, set, hk, hx, hkind]

theorem map_unset (r : Registry κ) (kind : EventKind) : (r.map f).unset kind = (r.unset kind).map f := by
  ext1
  funext k
  by_cases hk : k = kind <;> simp [map, unset, hk]

end Registry

namespace Entry

/-- Notices tell of no registration. -/
@[simp] theorem renumber_comp_notice : renumber g ∘ Entry.notice = Entry.notice := rfl

/-- Queries tell of no registration. -/
theorem Queries.map_renumber {t : List Entry} (ht : Queries t) : t.map (renumber g) = t := by
  have hsame : ∀ e ∈ t, renumber g e = id e := by
    intro e he
    have hquery := ht e he
    cases e with
    | call | notice => rfl
    | registered | released | releasedAll | handled => exact hquery.elim
  rw [List.map_congr_left hsame, List.map_id]

theorem renumber_id (e : Entry) : e.renumber id = e := by cases e <;> rfl

end Entry

namespace Host

/-- A task does to a host with changed registrations what it does to the host, changed, if a registration
    under the new number is changed to one under the changed number. -/
theorem carryOut_map {number : Nat}
    (hf : ∀ kind callback, f ⟨number, kind, callback⟩ = ⟨g number, kind, callback⟩) (h : Host κ)
    (operation : String) (v : Vendor) (task : Task κ) :
    (h.map f).carryOut operation (g number) v task = (h.carryOut operation number v task).map f g := by
  have hset : ∀ kind callback, (h.registry.map f).set ⟨g number, kind, callback⟩ =
      (h.registry.set ⟨number, kind, callback⟩).map f :=
    fun kind callback => h.registry.map_set (hf kind callback) rfl
  cases task with
  | start =>
    show (h.map f).start v = (h.start v).map f g
    cases hs : h.started with
    | true =>
      rw [start_of_started v hs, start_of_started v (show (h.map f).started = true from hs)]
      rfl
    | false =>
      have hs' : (h.map f).started = false := hs
      unfold start
      rw [hs, hs', forward_eq]
      cases (v.verdict .register).outcome <;> simp [Performed.map, Host.map, Entry.renumber]
  | stop =>
    show (h.map f).stop v = (h.stop v).map f g
    cases hh : h.hidStarted <;>
      simp [stop, stopHidFirst, hh, forward_eq, Performed.map, Host.map, Entry.renumber, Registry.clear,
        Registry.map, Registry.empty]
  -- the callback registered here is the one under the new number
  | startHid callback =>
    show (h.map f).startHid (g number) callback v = (h.startHid number callback v).map f g
    unfold startHid
    rw [forward_eq]
    cases (v.verdict .startHid).outcome with
    | ok u => simp [Performed.map, Host.map, register, hset, Entry.renumber]
    | error fault => simp [Performed.map, Entry.renumber]
  | stopHid =>
    show (h.map f).stopHid v = (h.stopHid v).map f g
    simp [stopHid, forward_eq, Performed.map, Host.map, release, Registry.map_unset, Entry.renumber]
  | setCallback kind callback =>
    simp [carryOut, Performed.map, Host.map, register, hset, Entry.renumber]
  | unsetCallback kind =>
    simp [carryOut, Performed.map, Host.map, release, Registry.map_unset, Entry.renumber]
  | command c => simp [carryOut, forward_eq, Performed.map, Entry.renumber]
  | read r =>
    show (⟨_, h.map f, _, (r.run operation v).2.2⟩ : Performed κ) =
      ⟨_, h.map f, _, (r.run operation v).2.2.map (Entry.renumber g)⟩
    rw [(asked_run operation r v).queries.map_renumber]
    rfl
  | serviceMask uuids => simp [carryOut, Performed.map, Entry.renumber]

/-- An operation does to a host with changed registrations what it does to the host, changed, if a
    registration under the new number is changed to one under the changed number. -/
theorem perform_map {number : Nat}
    (hf : ∀ kind callback, f ⟨number, kind, callback⟩ = ⟨g number, kind, callback⟩) (h : Host κ)
    (op : Operation κ) (v : Vendor) :
    (h.map f).perform (g number) op v = (h.perform number op v).map f g := by
  have hcheck : (h.map f).check op = h.check op := rfl
  cases hc : h.check op with
  | error refusal =>
    rw [perform_of_refused hc, perform_of_refused (hcheck.trans hc)]
    rfl
  | ok task =>
    rw [perform_of_task hc, perform_of_task (hcheck.trans hc)]
    exact carryOut_map hf h op.name v task

theorem due?_map (h : Host κ) (e : Event) :
    (h.map f).due? e = (h.due? e).map (Invocation.map f) := by
  rw [due?_eq, due?_eq]
  split
  · show ((h.registry.get e.kind).map f).map _ = _
    rw [Option.map_map, Option.map_map]
    rfl
  · rfl

/-- Handling an event makes the changed call due. -/
theorem handle_map (h : Host κ) (e : Event) :
    (h.map f).handle e = ((h.handle e).1.map f, (h.handle e).2) := by
  have hpending : (h.map f).pending ++ ((h.map f).due? e).toList =
      (h.pending ++ (h.due? e).toList).map (Invocation.map f) := by
    rw [due?_map, List.map_append, Option.toList_map]
    rfl
  show (({ h.map f with pending := _ } : Host κ), _) = _
  rw [hpending]
  rfl

end Host

end Map

/-- The world with the registrations of its host changed, and those of the calls taken from it. -/
def World.map (f : Registration Callback → Registration Callback) (w : World) : World :=
  { w with host := w.host.map f, taken := w.taken.map (Invocation.map f) }

/-! ## Actions in a changed world -/

/-- A change of the registrations of a world: what becomes of each of them, of the number for the next
    one, and of the books on those called and on those whose callback has panicked. -/
structure Change where
  registration : Registration Callback → Registration Callback
  number : Nat → Nat := id
  called : List Nat → List Nat := id
  poisoned : List Nat → List Nat := id

/-- From this number on, registrations are made under the changed numbers, one after the other, and are
    otherwise left alone. -/
structure Change.Renames (c : Change) (next : Nat) : Prop where
  number_succ : ∀ n, next ≤ n → c.number (n + 1) = c.number n + 1
  registration_mk : ∀ n, next ≤ n → ∀ kind callback,
    c.registration ⟨n, kind, callback⟩ = ⟨c.number n, kind, callback⟩

theorem Change.Renames.mono {c : Change} {m n : Nat} (hc : c.Renames m) (hmn : m ≤ n) : c.Renames n :=
  ⟨fun k hk => hc.number_succ k (Nat.le_trans hmn hk),
    fun k hk => hc.registration_mk k (Nat.le_trans hmn hk)⟩

/-- The world with its registrations changed, and the books on them. -/
def World.change (c : Change) (w : World) : World :=
  { w.map c.registration with
    nextNumber := c.number w.nextNumber
    called := c.called w.called
    poisoned := c.poisoned w.poisoned }

/-- What is seen in the changed world where this is seen in the other one. -/
def Observation.change (c : Change) : Observation → Observation
  | .entry e => .entry (e.renumber c.number)
  | .called i count arguments => .called (i.map c.registration) count arguments
  | o => o

theorem Observation.map_change_entries (c : Change) (t : List Entry) :
    (t.map Observation.entry).map (Observation.change c) =
      (t.map (Entry.renumber c.number)).map Observation.entry := by
  rw [List.map_map, List.map_map]
  rfl

namespace World

section Actions

variable {c : Change} {w : World}

theorem post_change (c : Change) (w : World) (e : Event) :
    (w.change c).post e = ((w.post e).1.change c, (w.post e).2.map (Observation.change c)) := by
  show (if w.receiving then _ else _) = _
  unfold post
  split <;> rfl

theorem fire_change (c : Change) (w : World) (e : Event) :
    (w.change c).fire e =
      ((w.fire e).1, (w.fire e).2.1.change c, (w.fire e).2.2.map (Observation.change c)) := by
  show (if w.vendor.isLinked e.source then _ else _) = _
  unfold fire
  rw [post_change]
  split <;> rfl

theorem handle_change (c : Change) (w : World) (e : Event) :
    (w.change c).handle e = ((w.handle e).1.change c, (w.handle e).2.map (Observation.change c)) := by
  have hhost : (w.change c).host.handle e = _ := w.host.handle_map e
  have hseen : (w.host.handle e).2.map (Entry.renumber c.number) = (w.host.handle e).2 := by
    simp [Host.handle, Entry.renumber]
  unfold handle
  rw [hhost]
  dsimp only
  rw [Observation.map_change_entries, hseen]
  rfl

theorem perform_change (hc : c.Renames w.nextNumber) (op : Operation Callback) :
    (w.change c).perform op = ((w.perform op).1, (w.perform op).2.1.change c,
      (w.perform op).2.2.map (Observation.change c)) := by
  have hhost : (w.change c).host.perform (w.change c).nextNumber op (w.change c).vendor = _ :=
    Host.perform_map (hc.registration_mk w.nextNumber (Nat.le_refl _)) w.host op w.vendor
  have hnext := hc.number_succ w.nextNumber (Nat.le_refl _)
  unfold perform
  rw [hhost]
  dsimp only
  rw [Observation.map_change_entries]
  unfold change
  dsimp only
  rw [hnext]
  rfl

/-- **An action looks at no callback.** In a changed world it does what it does in the other one,
    changed. -/
theorem act_change (hc : c.Renames w.nextNumber) (locked : Bool) (a : Action Callback) :
    (w.change c).act locked a =
      ((w.act locked a).1, (w.act locked a).2.1.change c,
        (w.act locked a).2.2.map (Observation.change c)) := by
  cases a with
  | fire e => rw [act, fire_change]; rfl
  | configure settings => rfl
  | request r =>
    cases locked with
    | true => rfl
    | false =>
      cases r with
      | operation op =>
        show (w.change c).answer (.operation op) = _
        rw [answer, perform_change hc]
        rfl
      | isStarted => rfl
      | handle e =>
        show (w.change c).answer (.handle e) = _
        rw [answer, handle_change]
        rfl

/-- The numbers of registrations yet to be made only get fewer. -/
theorem nextNumber_le_act (locked : Bool) (w : World) (a : Action Callback) :
    w.nextNumber ≤ (w.act locked a).2.1.nextNumber := by
  have heffect := w.effect_act locked a
  generalize w.act locked a = x at heffect ⊢
  cases heffect with
  | vain | posted | dropped | configured | locked | asked | handled => exact Nat.le_refl _
  | operated op => exact Nat.le_succ _

/-- Actions look at no callback, however many they are. -/
theorem actAll_change (hc : c.Renames w.nextNumber) (locked : Bool) (as : List (Action Callback)) :
    actAll locked as (w.change c) =
      ((actAll locked as w).1.change c, (actAll locked as w).2.map (Observation.change c)) := by
  induction as generalizing w with
  | nil => rfl
  | cons a rest ih =>
    -- what is yet to be made after `a` was yet to be made before it
    have hrest := ih (hc.mono (w.nextNumber_le_act locked a))
    unfold actAll
    rw [act_change hc locked a]
    dsimp only
    rw [hrest, List.map_append, List.map_cons]
    rfl

end Actions

end World

/-! ## Calls in a changed world -/

/-- A change that nobody notices: callbacks are left alone, numbers are changed everywhere, and the books
    say of a changed number what they say of the number. -/
structure Change.Faithful (c : Change) : Prop where
  renames : c.Renames 0
  callback : ∀ r, (c.registration r).callback = r.callback
  called_cons : ∀ r l, c.called (r.number :: l) = (c.registration r).number :: c.called l
  poisoned_cons : ∀ r l, c.poisoned (r.number :: l) = (c.registration r).number :: c.poisoned l
  count_called : ∀ r l, (c.called l).count (c.registration r).number = l.count r.number
  mem_poisoned : ∀ r l, (c.registration r).number ∈ c.poisoned l ↔ r.number ∈ l

/-- What becomes of a changed world. -/
def World.Delivery.change (c : Change) (d : World.Delivery) : World.Delivery :=
  ⟨d.world.change c, d.trace.map (Observation.change c), d.panicked⟩

namespace World

theorem map_change_opening (c : Change) (i : Invocation Callback) (count : Nat) :
    (opening i count).map (Observation.change c) = opening (i.map c.registration) count := by
  unfold opening
  rw [List.map_append]
  show _ ++ _ = (i.event.shortfall?.toList.map fun s => Observation.notice (.shortfall s)) ++ _
  cases i.event.shortfall? <;> rfl

section Calls

variable {c : Change} (hc : c.Faithful)
include hc

theorem invoke_change (locked : Bool) (i : Invocation Callback) (w : World) :
    invoke locked (i.map c.registration) (w.change c) = (invoke locked i w).change c := by
  have hmem : (i.map c.registration).registration.number ∈ (w.change c).poisoned ↔
      i.registration.number ∈ w.poisoned := hc.mem_poisoned i.registration w.poisoned
  by_cases hp : i.registration.number ∈ w.poisoned
  · rw [invoke_of_poisoned hp, invoke_of_poisoned (hmem.mpr hp)]
    rfl
  · have hcount : (w.change c).called.count (i.map c.registration).registration.number + 1 =
        w.called.count i.registration.number + 1 :=
      congrArg (· + 1) (hc.count_called i.registration w.called)
    have hcallback : (i.map c.registration).registration.callback = i.registration.callback :=
      hc.callback i.registration
    have hcounting : (w.change c).counting (i.map c.registration).registration.number =
        (w.counting i.registration.number).change c := by
      unfold counting change
      dsimp only
      rw [hc.called_cons]
      rfl
    rw [invoke_of_not_poisoned hp rfl, invoke_of_not_poisoned (mt hmem.mp hp) hcount, hcallback,
      hcounting, actAll_change (hc.renames.mono (Nat.zero_le _))]
    unfold Delivery.change
    dsimp only
    rw [List.map_append, map_change_opening]
    split
    · unfold poison change
      dsimp only
      rw [hc.poisoned_cons]
      rfl
    · rfl

theorem invokeAll_change (locked : Bool) (is : List (Invocation Callback)) (w : World) :
    invokeAll locked (is.map (Invocation.map c.registration)) (w.change c) =
      (invokeAll locked is w).change c := by
  induction is generalizing w with
  | nil => rfl
  | cons i rest ih =>
    rw [List.map_cons]
    unfold invokeAll
    rw [invoke_change hc]
    dsimp only
    cases hpanicked : (invoke locked i w).panicked with
    | true => simp [Delivery.change, hpanicked]
    | false => simp [Delivery.change, hpanicked, ih]

theorem runPending_change (locked : Bool) (w : World) :
    (w.change c).runPending locked = (w.runPending locked).change c :=
  invokeAll_change hc locked w.host.pending { w with host := w.host.takePending.2 }

omit hc in
theorem take_change (w : World) : (w.change c).take = w.take.change c := by
  unfold take change map
  dsimp only [Host.takePending]
  rw [List.map_append]
  rfl

theorem callTaken_change (w : World) : (w.change c).callTaken = w.callTaken.change c := by
  cases htaken : w.taken with
  | nil => simp [callTaken, change, map, htaken, Delivery.change]
  | cons i rest =>
    have htaken' : (w.change c).taken =
        i.map c.registration :: rest.map (Invocation.map c.registration) := by
      show w.taken.map _ = _
      rw [htaken, List.map_cons]
    unfold callTaken
    rw [htaken, htaken']
    exact invoke_change hc false i { w with taken := rest }

theorem deliver_change (w : World) (e : Event) :
    (w.change c).deliver e = (w.deliver e).change c := by
  cases hpoisoned : w.hostPoisoned with
  | true => simp [deliver, change, map, hpoisoned, Delivery.change, Observation.change, Observation.notice,
      Entry.renumber]
  | false =>
    have hpoisoned' : (w.change c).hostPoisoned = false := hpoisoned
    unfold deliver
    rw [hpoisoned, hpoisoned', handle_change]
    dsimp only
    rw [runPending_change hc]
    simp [Delivery.change, Observation.change]

theorem deliverAll_change (es : List Event) (w : World) :
    deliverAll es (w.change c) = (deliverAll es w).change c := by
  induction es generalizing w with
  | nil => rfl
  | cons e rest ih =>
    unfold deliverAll
    rw [deliver_change hc]
    dsimp only
    cases hpanicked : (w.deliver e).panicked with
    | true => simp [Delivery.change, hpanicked]
    | false => simp [Delivery.change, hpanicked, ih]

theorem drain_change (limit : Nat) (w : World) :
    drain limit (w.change c) = ((drain limit w).1, (drain limit w).2.change c) := by
  induction limit generalizing w with
  | zero => rfl
  | succ limit ih =>
    cases hqueue : w.queue with
    | nil =>
      have hqueue' : (w.change c).queue = [] := hqueue
      unfold drain
      rw [hqueue, hqueue']
      rfl
    | cons e rest =>
      have hqueue' : (w.change c).queue = e :: rest := hqueue
      have hfirst : deliver { w.change c with queue := rest } e = _ :=
        deliver_change hc { w with queue := rest } e
      unfold drain
      rw [hqueue, hqueue']
      dsimp only
      rw [hfirst]
      cases hpanicked : (deliver { w with queue := rest } e).panicked with
      | true => simp [Delivery.change, hpanicked]
      | false => simp [Delivery.change, hpanicked, ih]

theorem dispatch_change (w : World) (e : Event) :
    (w.change c).dispatch e = (w.dispatch e).change c := by
  unfold dispatch
  rw [handle_change]
  dsimp only
  rw [runPending_change hc]
  cases hpanicked : ((w.handle e).1.runPending true).panicked <;>
    simp [Delivery.change, hpanicked, change, map]

end Calls

end World

/-! ## Sessions in a changed world -/

namespace Session

/-- What is reported in a changed world. -/
def Report.change (c : Change) (r : Report) : Report :=
  ⟨r.response, r.trace.map (Observation.change c)⟩

section Sessions

variable {c : Change} (hc : c.Faithful)
include hc

theorem receiveUpTo_change (limit : Nat) (looping : Bool) (w : World) :
    receiveUpTo limit looping (w.change c) =
      ((receiveUpTo limit looping w).1.change c, (receiveUpTo limit looping w).2.change c) := by
  show (if w.receiving then _ else _) = _
  unfold receiveUpTo
  rw [World.drain_change hc]
  split <;> rfl

/-- A step in a changed world is the step, changed. -/
theorem step_change (looping : Bool) (w : World) (s : Step) :
    step looping (w.change c) s =
      ((step looping w s).1.change c, (step looping w s).2.change c) := by
  have hpending : (w.change c).host.pending.length = w.host.pending.length := List.length_map _
  cases s with
  | act a =>
    simp only [step]
    rw [World.act_change (hc.renames.mono (Nat.zero_le _))]
    rfl
  | receive => exact receiveUpTo_change hc 1 looping w
  | drain => exact receiveUpTo_change hc drainLimit looping w
  | deliver e =>
    simp only [step]
    rw [World.deliver_change hc]
    rfl
  | dispatch e =>
    simp only [step]
    rw [World.dispatch_change hc]
    rfl
  | runPending =>
    simp only [step]
    rw [World.runPending_change hc, hpending]
    rfl
  | take =>
    simp only [step]
    rw [World.take_change, hpending]
    rfl
  | callTaken =>
    simp only [step]
    rw [World.callTaken_change hc]
    rfl
  | stopReceiving => rfl
  | loop es =>
    simp only [step]
    rw [World.deliverAll_change hc]
    rfl

/-- **A session in a changed world goes on as the session**, and all that is reported is changed. -/
theorem runFrom_change (looping : Bool) (w : World) (steps : List Step) :
    runFrom looping (w.change c) steps =
      ((runFrom looping w steps).1.change c,
        (runFrom looping w steps).2.map (Report.change c)) := by
  induction steps generalizing w with
  | nil => rfl
  | cons s rest ih =>
    unfold runFrom
    rw [step_change hc]
    dsimp only
    rw [ih]
    rfl

end Sessions

end Session

end BluetoothHost
