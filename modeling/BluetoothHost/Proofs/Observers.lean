import BluetoothHost.Proofs.Deliveries
import BluetoothHost.Proofs.Reentrancy
import BluetoothHost.Proofs.Routing

/-!
# `Proofs.Observers` — worlds in which callbacks only observe

A callback that only observes does nothing when it is called. What is left of a call is that it has been
made, and how many there have been of its registration by then. So making the calls that are due comes to
noting them down (`World.runPending_of_observes`), and all that can ever be learned of a callback is
learned from the calls made of it and the calls that are still due.

This module keeps account of both together. The `tally` of a registration counts its calls, made or due; the
`standing` of a kind is the callback in its slot, with its tally; the calls that are `owed` are those still
due, each with the count it will have. The accounts change only where an event is handled or a slot is
changed: that a call which is due is made makes no difference to them, except that it is not owed any more.

## Contents
- `Callback.Observes`, `World.invokeAll_of_observes`, with `countedAfter`.
- `Heard`, `Observation.heard`: the calls of some kinds, as their callbacks see them.
- `World.Booked`: no number of a registration is used twice; `World.Observed`, with `Observed.act`.
- `World.tally`, `World.standing`, `World.owed`, and what handling and calling make of them:
  `standing_handle`, `owed_handle`, `standing_rested`, `owed_rested`, `heard_told`.
-/

namespace BluetoothHost

/-- A callback that only observes: it does nothing in any of its calls, and does not panic. -/
def Callback.Observes (c : Callback) : Prop := ∀ n, c.actions n = [] ∧ c.panics n = false

/-- Who does nothing registers nobody. -/
theorem Callback.Observes.throughout {c : Callback} (hc : c.Observes) : c.Throughout Observes := by
  refine .of_actions hc fun n a ha => ?_
  rw [(hc n).1] at ha
  exact absurd ha List.not_mem_nil

/-! ## Calls with their counts -/

/-- Some calls in order, each with the number of calls of its registration by then, if those of some
    registrations have been made before. -/
def countedAfter (called : List Nat) : List (Invocation Callback) → List (Invocation Callback × Nat)
  | [] => []
  | i :: rest =>
    (i, called.count i.registration.number + 1) :: countedAfter (i.registration.number :: called) rest

/-- The registrations of some calls. -/
def numbersOf (is : List (Invocation Callback)) : List Nat := is.map (·.registration.number)

theorem countedAfter_concat (called : List Nat) (is : List (Invocation Callback))
    (i : Invocation Callback) :
    countedAfter called (is ++ [i]) = countedAfter called is ++
      [(i, called.count i.registration.number + (numbersOf is).count i.registration.number + 1)] := by
  induction is generalizing called with
  | nil => rfl
  | cons j rest ih =>
    have hcount : (j.registration.number :: called).count i.registration.number +
        (numbersOf rest).count i.registration.number =
          called.count i.registration.number +
            (numbersOf (j :: rest)).count i.registration.number := by
      unfold numbersOf
      rw [List.map_cons, List.count_cons, List.count_cons]
      omega
    show (j, _) :: countedAfter _ (rest ++ [i]) = (j, _) :: (countedAfter _ rest ++ _)
    rw [ih, hcount]

theorem map_fst_countedAfter (called : List Nat) (is : List (Invocation Callback)) :
    (countedAfter called is).map Prod.fst = is := by
  induction is generalizing called with
  | nil => rfl
  | cons i rest ih => exact congrArg (i :: ·) (ih (i.registration.number :: called))

/-! ## Calls as callbacks see them -/

/-- A call as its callback sees it. -/
structure Heard where
  /-- The kind it is registered for. -/
  kind : EventKind
  callback : Callback
  /-- How many calls of its registration there have been by then. -/
  count : Nat
  event : Event
  arguments : Arguments

/-- A call that is made when there have been so many of its registration. -/
def Heard.ofCall (x : Invocation Callback × Nat) : Heard where
  kind := x.1.registration.kind
  callback := x.1.registration.callback
  count := x.2
  event := x.1.event
  arguments := x.1.event.arguments

namespace Observation

/-- The calls of callbacks of some kinds, among some observations. -/
def heard (watched : EventKind → Bool) (t : List Observation) : List Heard :=
  t.filterMap fun
    | .called i count arguments =>
      if watched i.registration.kind then
        some ⟨i.registration.kind, i.registration.callback, count, i.event, arguments⟩
      else none
    | _ => none

variable {watched : EventKind → Bool}

@[simp] theorem heard_append (s t : List Observation) :
    heard watched (s ++ t) = heard watched s ++ heard watched t :=
  List.filterMap_append

theorem heard_entries (t : List Entry) : heard watched (t.map .entry) = [] :=
  filterMap_entries (fun _ => rfl) t

end Observation

theorem World.heard_opening (watched : EventKind → Bool) (i : Invocation Callback) (n : Nat) :
    Observation.heard watched (World.opening i n) =
      if watched i.registration.kind then [Heard.ofCall (i, n)] else [] := by
  have hnotes : Observation.heard watched
      (i.event.shortfall?.toList.map fun s => .notice (.shortfall s)) = [] := by
    cases i.event.shortfall? <;> rfl
  unfold World.opening
  rw [Observation.heard_append, hnotes, List.nil_append]
  unfold Observation.heard
  split
  · rename_i hwatched
    simp [hwatched, Heard.ofCall]
  · rename_i hwatched
    simp [hwatched]

/-- What is heard of calls made one after the other. -/
theorem World.heard_openings (watched : EventKind → Bool) (xs : List (Invocation Callback × Nat)) :
    Observation.heard watched (xs.flatMap fun x => World.opening x.1 x.2) =
      (xs.filter fun x => watched x.1.registration.kind).map Heard.ofCall := by
  induction xs with
  | nil => rfl
  | cons x rest ih =>
    rw [List.flatMap_cons, Observation.heard_append, World.heard_opening, ih, List.filter_cons]
    split <;> rfl

/-! ## Calls that only observe -/

namespace World

theorem invoke_of_observes {i : Invocation Callback} (hi : i.registration.callback.Observes) {w : World}
    (hpoisoned : w.poisoned = []) (locked : Bool) :
    invoke locked i w =
      ⟨w.counting i.registration.number, opening i (w.called.count i.registration.number + 1),
        false⟩ := by
  have hp : i.registration.number ∉ w.poisoned := by
    rw [hpoisoned]
    exact List.not_mem_nil
  obtain ⟨hactions, hpanics⟩ := hi (w.called.count i.registration.number + 1)
  rw [invoke_of_not_poisoned hp rfl, hactions, hpanics]
  simp [actAll]

/-- **Calls that only observe** are noted down, and that is all. -/
theorem invokeAll_of_observes {is : List (Invocation Callback)}
    (his : ∀ i ∈ is, i.registration.callback.Observes) {w : World} (hpoisoned : w.poisoned = [])
    (locked : Bool) :
    invokeAll locked is w =
      ⟨{ w with called := (numbersOf is).reverse ++ w.called },
        (countedAfter w.called is).flatMap fun x => opening x.1 x.2, false⟩ := by
  induction is generalizing w with
  | nil => rfl
  | cons i rest ih =>
    have hfirst := invoke_of_observes (his i List.mem_cons_self) hpoisoned locked
    have hrest := ih (fun x hx => his x (List.mem_cons_of_mem i hx))
      (w := w.counting i.registration.number) hpoisoned
    show (invoke locked i w).andThen (invokeAll locked rest) = _
    rw [hfirst, Delivery.andThen_of_not_panicked rfl, hrest]
    simp [counting, numbersOf, countedAfter]

/-! ## Books in order -/

/-- The books on registrations are in order: each registration stands in the slot of its kind, no two slots
    share one, and all that are registered, about to be called or called already have been numbered. -/
structure Booked (w : World) : Prop where
  sorted : w.host.registry.Sorted
  numbered : w.Numbered
  distinct : ∀ k k' r r', w.host.registry.get k = some r → w.host.registry.get k' = some r' →
    r.number = r'.number → k = k'
  due : ∀ n ∈ numbersOf w.host.pending, n < w.nextNumber
  called : ∀ n ∈ w.called, n < w.nextNumber

theorem Booked.handle {w : World} (hw : w.Booked) (e : Event) : (w.handle e).1.Booked := by
  refine ⟨hw.sorted, hw.numbered, hw.distinct, fun n hn => ?_, hw.called⟩
  have hmem : n ∈ numbersOf (w.host.pending ++ (w.host.due? e).toList) := hn
  rw [numbersOf, List.map_append] at hmem
  rcases List.mem_append.mp hmem with hold | hnew
  · exact hw.due n hold
  · obtain ⟨i, hi, rfl⟩ := List.mem_map.mp hnew
    exact hw.numbered e.kind _ (Host.slot_of_due (Option.mem_toList.mp hi)).1

theorem Booked.perform {w : World} (hw : w.Booked) (op : Operation Callback) :
    (w.perform op).2.1.Booked := by
  have hsorted : (w.perform op).2.1.host.registry.Sorted :=
    Host.sorted_perform hw.sorted w.nextNumber op w.vendor
  have hpending : (w.perform op).2.1.host.pending = w.host.pending :=
    w.host.pending_perform w.nextNumber op w.vendor
  refine ⟨hsorted, hw.numbered.act false (.request (.operation op)), ?_, fun n hn => ?_, fun n hn => ?_⟩
  · intro k k' r r' hr hr' hsame
    rcases Host.get_perform hr with hold | ⟨hkind, hnew, hslot⟩
    · have hlt := hw.numbered k r hold
      rcases Host.get_perform hr' with hold' | ⟨-, hnew', -⟩
      · exact hw.distinct k k' r r' hold hold' hsame
      · omega
    · rcases Host.get_perform hr' with hold' | ⟨hkind', -, hslot'⟩
      · have hlt := hw.numbered k' r' hold'
        omega
      · -- one operation fills one slot
        have hkinds : r.kind = r'.kind := congrArg Prod.fst (Option.some.inj (hslot.symm.trans hslot'))
        rw [← hkind, ← hkind', hkinds]
  · rw [hpending] at hn
    exact Nat.lt_succ_of_lt (hw.due n hn)
  · exact Nat.lt_succ_of_lt (hw.called n hn)

/-- The world after the calls that are due have been made and noted down. -/
def rested (w : World) : World :=
  { w with
    host := { w.host with pending := [] }
    called := (numbersOf w.host.pending).reverse ++ w.called }

theorem Booked.rested {w : World} (hw : w.Booked) : w.rested.Booked := by
  refine ⟨hw.sorted, hw.numbered, hw.distinct, fun n hn => absurd hn List.not_mem_nil, fun n hn => ?_⟩
  rcases List.mem_append.mp hn with hdue | hcalled
  · exact hw.due n (List.mem_reverse.mp hdue)
  · exact hw.called n hcalled

/-- What is seen of the calls that are due when they are made. -/
def told (w : World) : List Observation :=
  (countedAfter w.called w.host.pending).flatMap fun x => opening x.1 x.2

/-- Calls that are made are asides. -/
theorem isAside_of_mem_told {w : World} : ∀ o ∈ w.told, o.isAside = true := by
  intro o ho
  obtain ⟨x, -, hx⟩ := List.mem_flatMap.mp ho
  exact (w.aside_counting x.1 x.2).unseen o hx

/-- Each call that is due is made, once. -/
theorem invocations_told (w : World) : Observation.invocations w.told = w.host.pending := by
  have hopenings : ∀ xs : List (Invocation Callback × Nat),
      Observation.invocations (xs.flatMap fun x => opening x.1 x.2) = xs.map Prod.fst := by
    intro xs
    induction xs with
    | nil => rfl
    | cons x rest ih =>
      rw [List.flatMap_cons, Observation.invocations_append, invocations_opening, ih]
      rfl
  exact (hopenings _).trans (map_fst_countedAfter w.called w.host.pending)

/-- A world in which callbacks only observe, and whose books are in order. -/
structure Observed (w : World) : Prop where
  holds : w.Holds Callback.Observes
  unpoisoned : w.poisoned = []
  hostUnpoisoned : w.hostPoisoned = false
  booked : w.Booked

theorem Observed.due {w : World} (hw : w.Observed) :
    ∀ i ∈ w.host.pending, i.registration.callback.Observes :=
  fun i hi => (hw.holds.due i (List.mem_append_right _ hi)).here

/-- Callbacks that only observe are told, and the world rests. -/
theorem runPending_of_observes {w : World} (hw : w.Observed) (locked : Bool) :
    w.runPending locked = ⟨w.rested, w.told, false⟩ :=
  invokeAll_of_observes hw.due (w := { w with host := { w.host with pending := [] } }) hw.unpoisoned locked

theorem Observed.handle {w : World} (hw : w.Observed) (e : Event) : (w.handle e).1.Observed :=
  ⟨hw.holds.handle e, hw.unpoisoned, hw.hostUnpoisoned, hw.booked.handle e⟩

/-- Delivered or dispatched, an event is handled, and the world rests. -/
theorem deliver_of_observes {w : World} (hw : w.Observed) (e : Event) :
    w.deliver e =
        ⟨(w.handle e).1.rested, .delivered e :: (w.handle e).2 ++ (w.handle e).1.told, false⟩ ∧
      w.dispatch e = ⟨(w.handle e).1.rested, (w.handle e).2 ++ (w.handle e).1.told, false⟩ := by
  have hrun := runPending_of_observes (hw.handle e)
  constructor
  · unfold deliver
    rw [hw.hostUnpoisoned]
    dsimp only
    rw [hrun false]
    rfl
  · unfold dispatch
    dsimp only
    rw [hrun true]
    rfl

theorem Observed.rested {w : World} (hw : w.Observed) : w.rested.Observed := by
  refine ⟨hw.holds.congr rfl fun i hi => ?_, hw.unpoisoned, hw.hostUnpoisoned, hw.booked.rested⟩
  have htaken : i ∈ w.taken ++ [] := hi
  rw [List.append_nil] at htaken
  exact List.mem_append_left _ htaken

/-- Nothing but host, books and callbacks counts. -/
theorem Observed.congr {w w' : World} (hw : w.Observed) (hhost : w'.host = w.host)
    (htaken : w'.taken = w.taken) (hnext : w'.nextNumber = w.nextNumber) (hcalled : w'.called = w.called)
    (hpoisoned : w'.poisoned = w.poisoned) (hflag : w'.hostPoisoned = w.hostPoisoned) : w'.Observed := by
  obtain ⟨host, vendor, taken, queue, receiving, next, called, poisoned, flag⟩ := w
  obtain ⟨host', vendor', taken', queue', receiving', next', called', poisoned', flag'⟩ := w'
  subst hhost htaken hnext hcalled hpoisoned hflag
  exact ⟨hw.holds.congr rfl fun _ hi => hi, hw.unpoisoned, hw.hostUnpoisoned,
    ⟨hw.booked.sorted, hw.booked.numbered, hw.booked.distinct, hw.booked.due, hw.booked.called⟩⟩

/-- An action that registers nobody but observers leaves observers. -/
theorem Observed.act {w : World} (hw : w.Observed) {a : Action Callback}
    (ha : ∀ c, a.callback? = some c → c.Throughout Callback.Observes) :
    (w.act false a).2.1.Observed := by
  have hholds := hw.holds.act ha false
  have heffect := w.effect_act false a
  generalize w.act false a = x at heffect hholds ⊢
  cases heffect with
  | vain | dropped | locked | asked => exact hw
  | posted | configured => exact hw.congr rfl rfl rfl rfl rfl rfl
  | operated op => exact ⟨hholds, hw.unpoisoned, hw.hostUnpoisoned, hw.booked.perform op⟩
  | handled e => exact hw.handle e

theorem observed_initial (settings : List Vendor.Setting) : (Session.initial settings).Observed := by
  have hempty : ∀ k r, (Session.initial settings).host.registry.get k ≠ some r := by
    intro k r hr
    exact absurd hr (Option.some_ne_none r).symm
  refine ⟨holds_initial _ settings, rfl, rfl, ?_⟩
  exact
    { sorted := Registry.sorted_empty
      numbered := fun k r hr => absurd hr (hempty k r)
      distinct := fun k k' r r' hr _ _ => absurd hr (hempty k r)
      due := fun n hn => absurd hn List.not_mem_nil
      called := fun n hn => absurd hn List.not_mem_nil }

/-! ## Accounts -/

/-- How many calls of a registration have been made or are due. -/
def tally (w : World) (number : Nat) : Nat :=
  w.called.count number + (numbersOf w.host.pending).count number

/-- The callback in the slot of a kind, with how many calls of it have been made or are due. -/
def standing (w : World) (k : EventKind) : Option (Callback × Nat) :=
  (w.host.registry.get k).map fun r => (r.callback, w.tally r.number)

/-- The calls that are due of callbacks of some kinds, as they will be seen. -/
def owed (watched : EventKind → Bool) (w : World) : List Heard :=
  ((countedAfter w.called w.host.pending).filter fun x => watched x.1.registration.kind).map Heard.ofCall

theorem tally_rested (w : World) (number : Nat) : w.rested.tally number = w.tally number := by
  show ((numbersOf w.host.pending).reverse ++ w.called).count number + 0 = _
  unfold tally
  rw [List.count_append, List.count_reverse]
  omega

theorem standing_rested (w : World) (k : EventKind) : w.rested.standing k = w.standing k := by
  unfold standing
  simp only [tally_rested]
  rfl

theorem owed_rested (watched : EventKind → Bool) (w : World) : w.rested.owed watched = [] := rfl

/-- **What is heard of the calls that are due is what was owed.** -/
theorem heard_told (watched : EventKind → Bool) (w : World) :
    Observation.heard watched w.told = w.owed watched :=
  heard_openings watched _

theorem tally_handle (w : World) (e : Event) (number : Nat) :
    (w.handle e).1.tally number =
      w.tally number + (numbersOf (w.host.due? e).toList).count number := by
  show w.called.count number + (numbersOf (w.host.pending ++ (w.host.due? e).toList)).count number = _
  unfold tally numbersOf
  rw [List.map_append, List.count_append]
  omega

section Handling

variable {w : World} (hw : w.Booked) (e : Event)
include hw

/-- The call that an event makes due is of the registration in the slot of its kind, and of no other. -/
theorem count_due {k : EventKind} {r : Registration Callback} (hr : w.host.registry.get k = some r) :
    (numbersOf (w.host.due? e).toList).count r.number =
      if k = e.kind ∧ e.isReported = true then 1 else 0 := by
  cases hreported : e.isReported with
  | false =>
    rw [Host.due?_of_not_reported hreported, if_neg (by simp)]
    rfl
  | true =>
    rw [Host.due?_of_reported hreported]
    by_cases hk : k = e.kind
    · rw [← hk, hr, if_pos ⟨rfl, rfl⟩]
      simp [numbersOf]
    · rw [if_neg fun h => hk h.1]
      cases hr' : w.host.registry.get e.kind with
      | none => rfl
      | some r' =>
        have hne : r'.number ≠ r.number := fun hsame => hk (hw.distinct k e.kind r r' hr hr' hsame.symm)
        simp [numbersOf, hne]

/-- Handling an event counts for the slot of its kind, if it is reported, and for no other. -/
theorem standing_handle (k : EventKind) :
    (w.handle e).1.standing k =
      if k = e.kind ∧ e.isReported = true then (w.standing k).map fun x => (x.1, x.2 + 1)
      else w.standing k := by
  show (w.host.registry.get k).map (fun r => (r.callback, (w.handle e).1.tally r.number)) = _
  unfold standing
  cases hr : w.host.registry.get k with
  | none => split <;> rfl
  | some r =>
    rw [Option.map_some, tally_handle, count_due hw e hr]
    split <;> rfl

/-- A call that an event makes due is owed behind the others, with the count that its slot stands at. -/
theorem owed_handle (watched : EventKind → Bool) :
    (w.handle e).1.owed watched = w.owed watched ++
      if watched e.kind = true ∧ e.isReported = true then
        ((w.standing e.kind).map fun x => (⟨e.kind, x.1, x.2 + 1, e, e.arguments⟩ : Heard)).toList
      else [] := by
  show ((countedAfter w.called (w.host.pending ++ (w.host.due? e).toList)).filter _).map _ = _
  unfold owed standing
  cases hreported : e.isReported with
  | false =>
    rw [Host.due?_of_not_reported hreported, if_neg (by simp)]
    simp
  | true =>
    rw [Host.due?_of_reported hreported]
    cases hr : w.host.registry.get e.kind with
    | none => simp
    | some r =>
      have hkind : r.kind = e.kind := hw.sorted e.kind r hr
      rw [Option.map_some, Option.toList_some, countedAfter_concat, List.filter_append, List.map_append]
      cases hwatched : watched e.kind <;> simp [hwatched, hkind, Heard.ofCall, tally]

end Handling

end World

end BluetoothHost
