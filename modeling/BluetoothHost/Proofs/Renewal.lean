import BluetoothHost.Proofs.Reentrancy
import Mathlib.Data.List.Count

/-!
# `Proofs.Renewal` — a host that was stopped is a new one

Stopping a host empties its slots and takes its flags down. It does not look at the calls that are due; but
where events are only handled to be delivered, none is left between two steps (`World.Quiet`). So nothing
of the host is left after it was stopped but the numbers that its registrations had (`Past`), and these
are never heard of again: no slot holds such a registration, and none gets such a number again. What comes
behind a past goes on as it would have gone on without one (`Past.faithful`), with numbers that begin later.

## Contents
- `Registration.raised`, `Report.raised`: the same under later numbers.
- `Past`, with `Past.change` and `Past.faithful`.
- `World.Quiet`, kept by all of a session: `Quiet.act`, `Quiet.invoke`, …, `quiet_runFrom`.
- `World.renewed`, with `World.renewed_change`, and `Session.stop_makes_new`.
-/

namespace BluetoothHost

/-! ## Later numbers -/

/-- The registration under a number that is later by so many. -/
def Registration.raised (offset : Nat) (r : Registration Callback) : Registration Callback :=
  { r with number := offset + r.number }

/-- The same to be seen, of registrations whose numbers are later by so many. -/
def Observation.raised (offset : Nat) : Observation → Observation
  | .entry (.registered kind number) => .entry (.registered kind (offset + number))
  | .called i count arguments => .called (i.map (Registration.raised offset)) count arguments
  | o => o

/-- The same report, of registrations whose numbers are later by so many. -/
def Session.Report.raised (offset : Nat) (r : Report) : Report :=
  { r with trace := r.trace.map (Observation.raised offset) }

/-! ## The past -/

/-- What registrations leave behind when they are gone: how many there have been, the numbers of those
    called, and the numbers of those whose callback has panicked. -/
structure Past where
  numbers : Nat
  called : List Nat
  poisoned : List Nat
  called_lt : ∀ n ∈ called, n < numbers
  poisoned_lt : ∀ n ∈ poisoned, n < numbers

namespace Past

/-- What a past changes in what comes behind it: all numbers are later, and the books are longer. -/
def change (p : Past) : Change where
  registration := Registration.raised p.numbers
  number n := p.numbers + n
  called l := l.map (p.numbers + ·) ++ p.called
  poisoned l := l.map (p.numbers + ·) ++ p.poisoned

/-- A later number is none of the past. -/
theorem notMem_of_lt {l : List Nat} {offset : Nat} (hl : ∀ n ∈ l, n < offset) (n : Nat) :
    offset + n ∉ l := by
  intro hn
  have hlt := hl _ hn
  omega

/-- **Nobody notices a past.** -/
theorem faithful (p : Past) : p.change.Faithful where
  renames := ⟨fun _ _ => rfl, fun _ _ _ _ => rfl⟩
  callback _ := rfl
  called_cons _ _ := rfl
  poisoned_cons _ _ := rfl
  count_called r l := by
    have hinjective : Function.Injective (p.numbers + ·) := fun _ _ h => Nat.add_left_cancel h
    show (l.map (p.numbers + ·) ++ p.called).count (p.numbers + r.number) = l.count r.number
    rw [List.count_append, List.count_map_of_injective l _ hinjective,
      List.count_eq_zero.mpr (notMem_of_lt p.called_lt r.number), Nat.add_zero]
  mem_poisoned r l := by
    show p.numbers + r.number ∈ l.map (p.numbers + ·) ++ p.poisoned ↔ r.number ∈ l
    rw [List.mem_append, List.mem_map]
    constructor
    · rintro (⟨n, hn, heq⟩ | hpast)
      · rw [← Nat.add_left_cancel heq]
        exact hn
      · exact absurd hpast (notMem_of_lt p.poisoned_lt r.number)
    · intro hr
      exact .inl ⟨r.number, hr, rfl⟩

/-- A past is seen in nothing but later numbers. -/
theorem change_eq_raised (p : Past) : Observation.change p.change = Observation.raised p.numbers := by
  funext o
  cases o with
  | entry e => cases e <;> rfl
  | posted | delivered | called | acted => rfl

end Past

/-! ## Between two steps -/

namespace World

/-- Nothing is due, nothing is taken, and all numbers in the books have been given already, in a world of
    callbacks that leave the handling of events to others. -/
structure Quiet (w : World) : Prop where
  holds : w.Holds Callback.Reserved
  idle : w.host.pending = []
  untaken : w.taken = []
  numbered : w.Numbered
  called_lt : ∀ n ∈ w.called, n < w.nextNumber
  poisoned_lt : ∀ n ∈ w.poisoned, n < w.nextNumber

theorem quiet_new (v : Vendor) : ({ vendor := v } : World).Quiet where
  holds := ⟨fun _ _ hr => absurd hr (by simp), fun _ hi => absurd hi List.not_mem_nil⟩
  idle := rfl
  untaken := rfl
  numbered _ _ hr := absurd hr (by simp)
  called_lt _ hn := absurd hn List.not_mem_nil
  poisoned_lt _ hn := absurd hn List.not_mem_nil

section Quiet

variable {w : World}

/-- The books may change, as long as all numbers in them have been given. -/
theorem Quiet.keep (hw : w.Quiet) {w' : World} (hhost : w'.host = w.host) (htaken : w'.taken = w.taken)
    (hnext : w'.nextNumber = w.nextNumber) (hcalled : ∀ n ∈ w'.called, n < w.nextNumber)
    (hpoisoned : ∀ n ∈ w'.poisoned, n < w.nextNumber) : w'.Quiet where
  holds := by
    refine hw.holds.congr (by rw [hhost]) ?_
    rw [hhost, htaken]
    exact fun _ hi => hi
  idle := by rw [hhost, hw.idle]
  untaken := by rw [htaken, hw.untaken]
  numbered := by
    unfold Numbered
    rw [hhost, hnext]
    exact hw.numbered
  called_lt := by rwa [hnext]
  poisoned_lt := by rwa [hnext]

/-- An action calls nobody. -/
theorem called_act (locked : Bool) (w : World) (a : Action Callback) :
    (w.act locked a).2.1.called = w.called := by
  have heffect := w.effect_act locked a
  generalize w.act locked a = x at heffect ⊢
  cases heffect <;> rfl

theorem Quiet.act (hw : w.Quiet) {a : Action Callback} (ha : a.handles = false)
    (hc : ∀ c, a.callback? = some c → c.Throughout Callback.Reserved) (locked : Bool) :
    (w.act locked a).2.1.Quiet := by
  have hframe := undisturbed_act ha locked w
  have hle := w.nextNumber_le_act locked a
  refine ⟨hw.holds.act hc locked, hframe.pending.trans hw.idle, hframe.taken.trans hw.untaken,
    hw.numbered.act locked a, ?_, ?_⟩
  · rw [called_act]
    exact fun n hn => Nat.lt_of_lt_of_le (hw.called_lt n hn) hle
  · rw [hframe.poisoned]
    exact fun n hn => Nat.lt_of_lt_of_le (hw.poisoned_lt n hn) hle

theorem nextNumber_le_actAll (locked : Bool) (as : List (Action Callback)) (w : World) :
    w.nextNumber ≤ (actAll locked as w).1.nextNumber := by
  have hjoins : Joins fun w _ w' => w.nextNumber ≤ w'.nextNumber := ⟨fun _ => Nat.le_refl _, Nat.le_trans⟩
  exact hjoins.actAll (fun a _ w => w.nextNumber_le_act locked a) w

theorem joins_quiet : Joins fun w _ w' => w.Quiet → w'.Quiet := .invariant Quiet

theorem Quiet.actAll (hw : w.Quiet) {as : List (Action Callback)}
    (has : ∀ a ∈ as, a.handles = false)
    (hc : ∀ a ∈ as, ∀ c, a.callback? = some c → c.Throughout Callback.Reserved) (locked : Bool) :
    (actAll locked as w).1.Quiet :=
  joins_quiet.actAll (fun a ha _ hw => hw.act (has a ha) (hc a ha) locked) w hw

/-- A call of a registration that has its number already leaves nothing due, whether it panics or not. -/
theorem Quiet.invoke (hw : w.Quiet) {i : Invocation Callback}
    (hi : i.registration.callback.Throughout Callback.Reserved)
    (hnumber : i.registration.number < w.nextNumber) (locked : Bool) :
    (invoke locked i w).world.Quiet := by
  by_cases hp : i.registration.number ∈ w.poisoned
  · rw [invoke_of_poisoned hp]
    exact hw
  · rw [invoke_of_not_poisoned hp rfl]
    generalize w.called.count i.registration.number + 1 = n
    have hcounted : (w.counting i.registration.number).Quiet :=
      hw.keep rfl rfl rfl (List.forall_mem_cons.mpr ⟨hnumber, hw.called_lt⟩) hw.poisoned_lt
    have hquiet := hcounted.actAll (hi.here n) (fun _ ha _ hd => hi.later ha hd) locked
    have hle := nextNumber_le_actAll locked (i.registration.callback.actions n)
      (w.counting i.registration.number)
    dsimp only
    split
    · have hgiven := Nat.lt_of_lt_of_le hnumber hle
      exact hquiet.keep rfl rfl rfl hquiet.called_lt
        (List.forall_mem_cons.mpr ⟨hgiven, hquiet.poisoned_lt⟩)
    · exact hquiet

/-- The call that an event makes due leaves nothing due behind it. -/
theorem Quiet.invoke_due (hw : w.Quiet) (locked : Bool) (e : Event) :
    (invokeAll locked (w.host.due? e).toList w).world.Quiet := by
  cases hdue : w.host.due? e with
  | none => exact hw
  | some i =>
    obtain ⟨hslot, -⟩ := Host.slot_of_due hdue
    rw [Option.toList_some, invokeAll_singleton]
    exact hw.invoke (hw.holds.registered e.kind i.registration hslot)
      (hw.numbered e.kind i.registration hslot) locked

theorem Quiet.deliver (hw : w.Quiet) (e : Event) : (w.deliver e).world.Quiet := by
  cases hpoisoned : w.hostPoisoned with
  | true =>
    have hdropped : (w.deliver e).world = w := by simp [World.deliver, hpoisoned]
    rw [hdropped]
    exact hw
  | false =>
    rw [deliver_of_idle hpoisoned hw.idle]
    exact hw.invoke_due false e

theorem Quiet.dispatch (hw : w.Quiet) (e : Event) : (w.dispatch e).world.Quiet := by
  have hdue := hw.invoke_due true e
  unfold World.dispatch
  dsimp only
  rw [runPending_handle_of_idle hw.idle]
  split
  · exact hdue.keep rfl rfl rfl hdue.called_lt hdue.poisoned_lt
  · exact hdue

/-- Where nothing is due, there is nothing to run. -/
theorem Quiet.runPending (hw : w.Quiet) (locked : Bool) : (w.runPending locked).world.Quiet := by
  have hsame : (w.runPending locked).world = w := by
    unfold World.runPending Host.takePending
    rw [hw.idle]
    show ({ w with host := { w.host with pending := [] } } : World) = w
    rw [← hw.idle]
  rw [hsame]
  exact hw

theorem Quiet.take (hw : w.Quiet) : w.take.Quiet := by
  have hsame : w.take = w := by
    unfold World.take Host.takePending
    dsimp only
    rw [hw.idle, List.append_nil, ← hw.idle]
  rw [hsame]
  exact hw

theorem Quiet.callTaken (hw : w.Quiet) : w.callTaken.world.Quiet := by
  have hsame : w.callTaken.world = w := by
    unfold World.callTaken
    rw [hw.untaken]
  rw [hsame]
  exact hw

end Quiet

end World

namespace Session

/-- A step that handles no event but to deliver it, and registers callbacks only that leave the handling of
    events to others. -/
def Step.Reserved : Step → Prop
  | .act a => a.handles = false ∧ ∀ c, a.callback? = some c → c.Throughout Callback.Reserved
  | _ => True

section Steps

variable {w : World}

theorem quiet_receiveUpTo (hw : w.Quiet) (limit : Nat) (looping : Bool) :
    (receiveUpTo limit looping w).1.Quiet :=
  World.joins_quiet.receiveUpTo (fun _ e hw => hw.deliver e)
    (fun _ _ hw => hw.keep rfl rfl rfl hw.called_lt hw.poisoned_lt) limit looping w hw

theorem quiet_step (looping : Bool) (hw : w.Quiet) {s : Step} (hs : s.Reserved) :
    (step looping w s).1.Quiet := by
  cases s with
  | act a => exact hw.act hs.1 hs.2 false
  | receive => exact quiet_receiveUpTo hw 1 looping
  | drain => exact quiet_receiveUpTo hw drainLimit looping
  | deliver e => exact hw.deliver e
  | dispatch e => exact hw.dispatch e
  | runPending => exact hw.runPending false
  | take => exact hw.take
  | callTaken => exact hw.callTaken
  | stopReceiving => exact hw.keep rfl rfl rfl hw.called_lt hw.poisoned_lt
  | loop es => exact World.joins_quiet.deliverAll (fun _ e hw => hw.deliver e) es w hw

theorem quiet_runFrom (looping : Bool) (hw : w.Quiet) {steps : List Step}
    (hsteps : ∀ s ∈ steps, s.Reserved) : (runFrom looping w steps).1.Quiet :=
  World.joins_quiet.history (fun s hs _ hw => quiet_step looping hw (hsteps s hs)) w hw

end Steps

end Session

/-! ## The host as new -/

/-- A new host, over the same vendor and the same queue. Whether the lock around the host is poisoned is
    no matter of the host. -/
def World.renewed (w : World) : World :=
  { vendor := w.vendor, queue := w.queue, receiving := w.receiving, hostPoisoned := w.hostPoisoned }

/-- A world whose host is like new is a new one with a past. -/
theorem World.renewed_change {w : World} (hhost : w.host = {}) (htaken : w.taken = [])
    (hcalled : ∀ n ∈ w.called, n < w.nextNumber) (hpoisoned : ∀ n ∈ w.poisoned, n < w.nextNumber) :
    w.renewed.change (Past.change ⟨w.nextNumber, w.called, w.poisoned, hcalled, hpoisoned⟩) = w := by
  cases w
  dsimp only at hhost htaken
  subst hhost htaken
  rfl

/-- A host that is up and has nothing due is like new once it was stopped. -/
theorem Host.host_stop_of_idle {κ : Type} {h : Host κ} (hs : h.started = true) (hidle : h.pending = [])
    (number : Nat) (v : Vendor) : (h.perform number .stop v).host = {} := by
  rw [perform_stop v hs]
  show ({ pending := h.pending } : Host κ) = {}
  rw [hidle]

namespace Session

/-- **A host that was stopped is a new one.** Let a session take any steps that handle events only to
    deliver them, with callbacks that leave this to others, over a vendor of any answers, and then stop the
    host, which was up. Then whatever steps come next, all that is reported of them is what would be
    reported if the host were new, over the same vendor and queue, but that registrations have later
    numbers. -/
theorem stop_makes_new (looping : Bool) (v : Vendor) {steps : List Step}
    (hsteps : ∀ s ∈ steps, s.Reserved)
    (hup : (runFrom looping { vendor := v } steps).1.host.started = true) {w : World}
    (hw : (runFrom looping { vendor := v } (steps ++ [.act (.request (.operation .stop))])).1 = w)
    (rest : List Step) :
    (runFrom looping w rest).2 =
      (runFrom looping w.renewed rest).2.map (Report.raised w.nextNumber) := by
  have hbefore := quiet_runFrom looping (World.quiet_new v) hsteps
  rw [runFrom_append] at hw
  generalize (runFrom looping { vendor := v } steps).1 = before at hbefore hup hw
  change (before.act false (.request (.operation .stop))).2.1 = w at hw
  -- the stop is one more step that leaves nothing due
  have hstop : Step.Reserved (.act (.request (.operation .stop))) := ⟨rfl, nofun⟩
  have hquiet : w.Quiet := by
    rw [← hw]
    exact hbefore.act hstop.1 hstop.2 false
  have hhost : w.host = {} := by
    rw [← hw]
    exact Host.host_stop_of_idle hup hbefore.idle before.nextNumber before.vendor
  have hnew := World.renewed_change hhost hquiet.untaken hquiet.called_lt hquiet.poisoned_lt
  generalize hp : (⟨w.nextNumber, w.called, w.poisoned, hquiet.called_lt, hquiet.poisoned_lt⟩ : Past) = p
    at hnew
  have hnumbers : p.numbers = w.nextNumber := by rw [← hp]
  have hrun := runFrom_change p.faithful looping w.renewed rest
  rw [hnew] at hrun
  have hreport : Report.change p.change = Report.raised w.nextNumber := by
    funext r
    unfold Report.change Report.raised
    rw [p.change_eq_raised, hnumbers]
  rw [hrun, hreport]

/-- A callback that disconnects its device whenever it is called, and panics then. -/
def nervous : Callback where
  tag := "nervous"
  actions _ := [.request (.operation (.disconnectHid "00:1A:7D:DA:71:13"))]
  panics _ := true

/-- A host is started, its HID host too, an event makes a callback panic, and the vendor begins to fail. -/
def wearing : List Step :=
  [.act (.request (.operation .start)), .act (.request (.operation (.startHidHost nervous))),
    .deliver (.hidConnection .success .zero .connected), .act (.configure [.status .timeout])]

/-- The host is stopped, HID host and all, though the vendor fails twice. -/
def wornOut : World :=
  (runFrom false {} (wearing ++ [.act (.request (.operation .stop))])).1

/-- Four numbers have been given and one callback has panicked, but whatever comes next is that of a new
    host. -/
theorem stop_makes_new_wornOut :
    wornOut.poisoned = [1] ∧ wornOut.nextNumber = 4 ∧
      ∀ rest, (runFrom false wornOut rest).2 =
        (runFrom false wornOut.renewed rest).2.map (Report.raised 4) := by
  have hnervous : nervous.Throughout Callback.Reserved := by
    refine .of_actions ?_ ?_
    · intro n a ha
      rw [List.mem_singleton.mp ha]
      rfl
    · intro n a ha
      rw [List.mem_singleton.mp ha]
      rfl
  have hsteps : ∀ s ∈ wearing, s.Reserved := by
    refine List.forall_mem_cons.mpr ⟨⟨rfl, nofun⟩, List.forall_mem_cons.mpr ⟨⟨rfl, ?_⟩,
      List.forall_mem_cons.mpr ⟨trivial, List.forall_mem_singleton.mpr ⟨rfl, nofun⟩⟩⟩⟩
    intro c hc
    obtain rfl := Option.some.inj hc
    exact hnervous
  exact ⟨rfl, rfl, fun rest => stop_makes_new false {} hsteps rfl rfl rest⟩

end Session

end BluetoothHost
