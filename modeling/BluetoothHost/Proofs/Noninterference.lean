import BluetoothHost.Proofs.Forwarding
import BluetoothHost.Proofs.Observers
import BluetoothHost.Proofs.VendorProtocol

/-!
# `Proofs.Noninterference` — observers do not interfere

Whether anyone observes makes no difference to what is observed. If the callbacks of a session only observe,
then steps that set or unset a callback can be left out of it: the other steps come to the same, the same
calls of the vendor are made, the same events are in the queue, and callbacks of the kinds that were left
alone are called as before (`Session.observers_do_not_interfere`).

The session and what is left of it run abreast (`World.Abreast`): flags, vendor and queue are the same, and
for the kinds that were left alone, so is the standing of the slot and what is owed. A step taken in both
keeps them abreast and reports the same in both (`Session.abreast_step`), and a step left out of one of them
keeps them abreast too (`Session.abreast_skip`). What differs is the numbers of registrations, the slots
and the calls of other kinds, and nothing that is compared depends on those.

## Contents
- `Registry.Edit`, `Host.perform_alike`: an operation looks at the flags and at the vendor alone.
- `World.Abreast` and `World.SeenAlike`, with `Abreast.handle`, `Abreast.fire`, `Abreast.act`, `Abreast.skip`.
- `Delivery.Abreast`, with `Abreast.runPending`, `Abreast.deliver`, `Abreast.drain`.
- `Step.listens?`, `Step.Observing`, `Report.Alike`; `Session.abreast_step`, `Session.abreast_skip`.
- `Script`, with `Script.Observing`; `Session.abreast_runFrom`.
- `Session.observers_do_not_interfere`.
-/

namespace BluetoothHost

/-! ## Operations look at no slot -/

/-- What an operation does to the registry. -/
inductive Registry.Edit (κ : Type) where
  | keep
  | clear
  | unset (kind : EventKind)
  | set (kind : EventKind) (callback : κ)

section Edits

variable {κ : Type}

/-- The registry after an operation that does this to it. A callback is registered under this number. -/
def Registry.edited (r : Registry κ) (number : Nat) : Registry.Edit κ → Registry κ
  | .keep => r
  | .clear => r.clear
  | .unset kind => r.unset kind
  | .set kind callback => r.set ⟨number, kind, callback⟩

/-- Two performed operations that differ in nothing but the registry, and in what is seen of it. -/
structure Performed.Alike (p p' : Performed κ) : Prop where
  reply : p'.reply = p.reply
  started : p'.host.started = p.host.started
  hidStarted : p'.host.hidStarted = p.host.hidStarted
  vendor : p'.vendor = p.vendor
  exchanges : Entry.exchanges p'.trace = Entry.exchanges p.trace

variable {h h' : Host κ} (hs : h'.started = h.started) (hh : h'.hidStarted = h.hidStarted)
include hs hh

/-- A task does the same to two hosts whose flags are the same, whatever is registered in them. -/
theorem Host.carryOut_alike (operation : String) (number number' : Nat) (v : Vendor) (task : Task κ) :
    (h.carryOut operation number v task).Alike (h'.carryOut operation number' v task) ∧
      ∃ edit, (h.carryOut operation number v task).host.registry = h.registry.edited number edit ∧
        (h'.carryOut operation number' v task).host.registry = h'.registry.edited number' edit := by
  obtain ⟨started, hidStarted, registry, pending⟩ := h
  obtain ⟨started', hidStarted', registry', pending'⟩ := h'
  obtain rfl : started' = started := hs
  obtain rfl : hidStarted' = hidStarted := hh
  cases task with
  | start =>
    simp only [carryOut, start, forward_eq]
    cases started' with
    | true => exact ⟨⟨rfl, rfl, rfl, rfl, rfl⟩, .keep, rfl, rfl⟩
    | false =>
      cases (v.verdict .register).outcome with
      | ok _ => exact ⟨⟨rfl, rfl, rfl, rfl, rfl⟩, .keep, rfl, rfl⟩
      | error f => exact ⟨⟨rfl, rfl, rfl, rfl, rfl⟩, .keep, rfl, rfl⟩
  | stop => exact ⟨⟨rfl, rfl, rfl, rfl, rfl⟩, .clear, rfl, rfl⟩
  | startHid callback =>
    simp only [carryOut, startHid, forward_eq]
    cases (v.verdict .startHid).outcome with
    | ok _ =>
      refine ⟨⟨rfl, rfl, rfl, rfl, ?_⟩, .set .hidConnection callback, rfl, rfl⟩
      simp
    | error f => exact ⟨⟨rfl, rfl, rfl, rfl, rfl⟩, .keep, rfl, rfl⟩
  | stopHid => exact ⟨⟨rfl, rfl, rfl, rfl, rfl⟩, .unset .hidConnection, rfl, rfl⟩
  | setCallback kind callback => exact ⟨⟨rfl, rfl, rfl, rfl, rfl⟩, .set kind callback, rfl, rfl⟩
  | unsetCallback kind => exact ⟨⟨rfl, rfl, rfl, rfl, rfl⟩, .unset kind, rfl, rfl⟩
  | command c => exact ⟨⟨rfl, rfl, rfl, rfl, rfl⟩, .keep, rfl, rfl⟩
  | read r => exact ⟨⟨rfl, rfl, rfl, rfl, rfl⟩, .keep, rfl, rfl⟩
  | serviceMask uuids => exact ⟨⟨rfl, rfl, rfl, rfl, rfl⟩, .keep, rfl, rfl⟩

/-- **An operation does the same to two hosts whose flags are the same**, whatever is registered in them. -/
theorem Host.perform_alike {v v' : Vendor} (hv : v' = v) (number number' : Nat) (op : Operation κ) :
    (h.perform number op v).Alike (h'.perform number' op v') ∧
      ∃ edit, (h.perform number op v).host.registry = h.registry.edited number edit ∧
        (h'.perform number' op v').host.registry = h'.registry.edited number' edit := by
  subst hv
  have hcheck : h'.check op = h.check op := by
    unfold check checkCondition
    rw [hs, hh]
  cases hc : h.check op with
  | error refusal =>
    rw [perform_of_refused hc, perform_of_refused (hcheck.trans hc)]
    exact ⟨⟨rfl, hs, hh, rfl, rfl⟩, .keep, rfl, rfl⟩
  | ok task =>
    rw [perform_of_task hc, perform_of_task (hcheck.trans hc)]
    exact carryOut_alike hs hh op.name number number' v' task

end Edits

/-! ## Worlds abreast -/

namespace World

/-- The standing of a slot after an operation that does this to the registry. -/
def standingAfter (k : EventKind) (before : Option (Callback × Nat)) :
    Registry.Edit Callback → Option (Callback × Nat)
  | .keep => before
  | .clear => none
  | .unset kind => if k = kind then none else before
  | .set kind callback => if k = kind then some (callback, 0) else before

/-- What an operation does to the registry decides what becomes of the standing of a slot. -/
theorem standing_perform {w : World} (hw : w.Booked) {op : Operation Callback}
    {edit : Registry.Edit Callback}
    (hedit : (w.perform op).2.1.host.registry = w.host.registry.edited w.nextNumber edit) (k : EventKind) :
    (w.perform op).2.1.standing k = standingAfter k (w.standing k) edit := by
  have hpending : (w.perform op).2.1.host.pending = w.host.pending :=
    w.host.pending_perform w.nextNumber op w.vendor
  have htally : ∀ number, (w.perform op).2.1.tally number = w.tally number := by
    intro number
    unfold tally
    rw [hpending]
    rfl
  -- a number that is new has not been called
  have hnew : w.tally w.nextNumber = 0 := by
    unfold tally
    rw [List.count_eq_zero_of_not_mem fun hmem => Nat.lt_irrefl _ (hw.called _ hmem),
      List.count_eq_zero_of_not_mem fun hmem => Nat.lt_irrefl _ (hw.due _ hmem)]
  unfold standing
  simp only [htally, hedit]
  cases edit with
  | keep => rfl
  | clear => rfl
  | unset kind =>
    by_cases hk : k = kind <;> simp [Registry.edited, standingAfter, Registry.unset, hk]
  | set kind callback =>
    by_cases hk : k = kind <;> simp [Registry.edited, standingAfter, Registry.set, hk, hnew]

/-- No operation makes a call due, or makes one that is. -/
theorem owed_perform (watched : EventKind → Bool) (w : World) (op : Operation Callback) :
    (w.perform op).2.1.owed watched = w.owed watched := by
  have hpending : (w.perform op).2.1.host.pending = w.host.pending :=
    w.host.pending_perform w.nextNumber op w.vendor
  unfold owed
  rw [hpending]
  rfl

/-- Two worlds of observers run abreast, as far as some kinds are watched: flags, vendor and queue are the
    same, and so are the standing and what is owed of the kinds that are watched. -/
structure Abreast (watched : EventKind → Bool) (w w' : World) : Prop where
  observed : w.Observed
  observed' : w'.Observed
  started : w'.host.started = w.host.started
  hidStarted : w'.host.hidStarted = w.host.hidStarted
  vendor : w'.vendor = w.vendor
  queue : w'.queue = w.queue
  receiving : w'.receiving = w.receiving
  standing : ∀ k, watched k = true → w'.standing k = w.standing k
  owed : w'.owed watched = w.owed watched

variable {watched : EventKind → Bool} {w w' : World}

theorem Abreast.handle (h : Abreast watched w w') (e : Event) :
    Abreast watched (w.handle e).1 (w'.handle e).1 := by
  refine ⟨h.observed.handle e, h.observed'.handle e, h.started, h.hidStarted, h.vendor, h.queue,
    h.receiving, fun k hk => ?_, ?_⟩
  · rw [standing_handle h.observed.booked, standing_handle h.observed'.booked, h.standing k hk]
  · rw [owed_handle h.observed.booked, owed_handle h.observed'.booked, h.owed]
    congr 1
    -- only a watched kind makes a difference, and there the standing is the same
    by_cases hwatched : watched e.kind = true
    · rw [h.standing e.kind hwatched]
    · rw [if_neg fun hboth => hwatched hboth.1, if_neg fun hboth => hwatched hboth.1]

theorem Abreast.rested (h : Abreast watched w w') : Abreast watched w.rested w'.rested := by
  refine ⟨h.observed.rested, h.observed'.rested, h.started, h.hidStarted, h.vendor, h.queue, h.receiving,
    fun k hk => ?_, ?_⟩
  · rw [standing_rested, standing_rested]
    exact h.standing k hk
  · rw [owed_rested, owed_rested]

/-- Worlds stay abreast while their queues change alike. -/
theorem Abreast.setQueue (h : Abreast watched w w') (es : List Event) :
    Abreast watched { w with queue := es } { w' with queue := es } :=
  ⟨h.observed.congr rfl rfl rfl rfl rfl rfl, h.observed'.congr rfl rfl rfl rfl rfl rfl, h.started,
    h.hidStarted, h.vendor, rfl, h.receiving, h.standing, h.owed⟩

/-- Worlds stay abreast if nobody receives in either of them any more. -/
theorem Abreast.stopReceiving (h : Abreast watched w w') :
    Abreast watched { w with queue := [], receiving := false }
      { w' with queue := [], receiving := false } :=
  ⟨h.observed.congr rfl rfl rfl rfl rfl rfl, h.observed'.congr rfl rfl rfl rfl rfl rfl, h.started,
    h.hidStarted, h.vendor, rfl, rfl, h.standing, h.owed⟩

/-- What two runs abreast show alike: the calls of the vendor, with their status, and those of the callbacks
    of watched kinds. -/
structure SeenAlike (watched : EventKind → Bool) (t t' : List Observation) : Prop where
  exchanges : Observation.exchanges t' = Observation.exchanges t
  heard : Observation.heard watched t' = Observation.heard watched t

theorem SeenAlike.append {t t' u u' : List Observation} (h : SeenAlike watched t t')
    (hu : SeenAlike watched u u') : SeenAlike watched (t ++ u) (t' ++ u') := by
  constructor
  · rw [Observation.exchanges_append, Observation.exchanges_append, h.exchanges, hu.exchanges]
  · rw [Observation.heard_append, Observation.heard_append, h.heard, hu.heard]

theorem SeenAlike.refl (t : List Observation) : SeenAlike watched t t := ⟨rfl, rfl⟩

/-- The calls that are due are seen alike if they are owed alike. -/
theorem Abreast.told (h : Abreast watched w w') : SeenAlike watched w.told w'.told := by
  constructor
  · rw [Observation.exchanges_of_isAside isAside_of_mem_told,
      Observation.exchanges_of_isAside isAside_of_mem_told]
  · rw [heard_told, heard_told, h.owed]

/-! ## Actions abreast -/

/-- An event is posted in both worlds or in none of them, and kept in both or dropped. -/
theorem Abreast.fire (h : Abreast watched w w') (e : Event) :
    (w'.fire e).1 = (w.fire e).1 ∧ Abreast watched (w.fire e).2.1 (w'.fire e).2.1 ∧
      (w'.fire e).2.2 = (w.fire e).2.2 := by
  have hposted : Abreast watched (w.post e).1 (w'.post e).1 ∧ (w'.post e).2 = (w.post e).2 := by
    cases hr : w.receiving with
    | true =>
      have hpost : w.post e = ({ w with queue := w.queue ++ [e] }, [.posted e]) := if_pos hr
      have hpost' : w'.post e = ({ w' with queue := w'.queue ++ [e] }, [.posted e]) :=
        if_pos (h.receiving.trans hr)
      rw [hpost, hpost', h.queue]
      exact ⟨h.setQueue _, rfl⟩
    | false =>
      have hpost : w.post e = (w, [.posted e, .notice (.receiverGone e)]) :=
        if_neg (Bool.eq_false_iff.mp hr)
      have hpost' : w'.post e = (w', [.posted e, .notice (.receiverGone e)]) :=
        if_neg (Bool.eq_false_iff.mp (h.receiving.trans hr))
      rw [hpost, hpost']
      exact ⟨h, rfl⟩
  unfold World.fire
  rw [h.vendor]
  split
  · exact ⟨rfl, hposted⟩
  · exact ⟨rfl, h, rfl⟩

/-- An action that registers nobody but observers keeps worlds abreast. It is answered alike in both, and
    what is seen of it is alike. -/
theorem Abreast.act (h : Abreast watched w w') {a : Action Callback}
    (ha : ∀ c, a.callback? = some c → c.Throughout Callback.Observes) :
    (w'.act false a).1 = (w.act false a).1 ∧
      Abreast watched (w.act false a).2.1 (w'.act false a).2.1 ∧
      SeenAlike watched (w.act false a).2.2 (w'.act false a).2.2 := by
  have hobserved := h.observed.act ha
  have hobserved' := h.observed'.act ha
  cases a with
  | fire e =>
    obtain ⟨hflag, hworld, hseen⟩ := h.fire e
    refine ⟨congrArg Response.flag hflag, hworld, ?_⟩
    show SeenAlike watched (w.fire e).2.2 (w'.fire e).2.2
    rw [hseen]
    exact .refl _
  | configure settings =>
    refine ⟨rfl, ⟨hobserved, hobserved', h.started, h.hidStarted, ?_, h.queue, h.receiving, h.standing,
      h.owed⟩, .refl _⟩
    show w'.vendor.configure settings = w.vendor.configure settings
    rw [h.vendor]
  | request r =>
    cases r with
    | operation op =>
      obtain ⟨halike, edit, hedit, hedit'⟩ :=
        Host.perform_alike h.started h.hidStarted h.vendor w.nextNumber w'.nextNumber op
      refine ⟨congrArg Response.reply halike.reply, ⟨hobserved, hobserved', halike.started,
        halike.hidStarted, halike.vendor, h.queue, h.receiving, fun k hk => ?_, ?_⟩, ?_, ?_⟩
      · exact (standing_perform h.observed'.booked hedit' k).trans
          ((congrArg (standingAfter k · edit) (h.standing k hk)).trans
            (standing_perform h.observed.booked hedit k).symm)
      · exact (owed_perform watched w' op).trans (h.owed.trans (owed_perform watched w op).symm)
      · show Observation.exchanges (List.map _ _) = Observation.exchanges (List.map _ _)
        rw [Observation.exchanges_map_entry, Observation.exchanges_map_entry]
        exact halike.exchanges
      · show Observation.heard watched (List.map _ _) = Observation.heard watched (List.map _ _)
        rw [Observation.heard_entries, Observation.heard_entries]
    | isStarted => exact ⟨congrArg Response.flag h.started, h, .refl _⟩
    | handle e => exact ⟨rfl, h.handle e, .refl _⟩

/-! ## Deliveries abreast -/

/-- What becomes of two worlds that run abreast and go on to do so: they show the same, and callbacks panic in
    both or in none. -/
structure Delivery.Abreast (watched : EventKind → Bool) (d d' : Delivery) : Prop where
  world : World.Abreast watched d.world d'.world
  seen : SeenAlike watched d.trace d'.trace
  panicked : d'.panicked = d.panicked

theorem Delivery.Abreast.andThen {d d' : Delivery} (h : d.Abreast watched d')
    {next next' : World → Delivery}
    (hnext : ∀ {w w' : World}, World.Abreast watched w w' → (next w).Abreast watched (next' w')) :
    (d.andThen next).Abreast watched (d'.andThen next') := by
  cases hd : d.panicked with
  | true =>
    rw [andThen_of_panicked hd, andThen_of_panicked (h.panicked.trans hd)]
    exact h
  | false =>
    have hmore := hnext h.world
    rw [andThen_of_not_panicked hd, andThen_of_not_panicked (h.panicked.trans hd)]
    exact ⟨hmore.world, h.seen.append hmore.seen, hmore.panicked⟩

theorem Abreast.runPending (h : Abreast watched w w') (locked : Bool) :
    (w.runPending locked).Abreast watched (w'.runPending locked) := by
  rw [runPending_of_observes h.observed, runPending_of_observes h.observed']
  exact ⟨h.rested, h.told, rfl⟩

theorem Abreast.deliver (h : Abreast watched w w') (e : Event) :
    (w.deliver e).Abreast watched (w'.deliver e) := by
  rw [(deliver_of_observes h.observed e).1, (deliver_of_observes h.observed' e).1]
  exact ⟨(h.handle e).rested,
    (SeenAlike.refl (.delivered e :: (w.handle e).2)).append (h.handle e).told, rfl⟩

theorem Abreast.dispatch (h : Abreast watched w w') (e : Event) :
    (w.dispatch e).Abreast watched (w'.dispatch e) := by
  rw [(deliver_of_observes h.observed e).2, (deliver_of_observes h.observed' e).2]
  exact ⟨(h.handle e).rested, (SeenAlike.refl (w.handle e).2).append (h.handle e).told, rfl⟩

theorem Abreast.deliverAll (h : Abreast watched w w') (es : List Event) :
    (deliverAll es w).Abreast watched (deliverAll es w') := by
  induction es generalizing w w' with
  | nil => exact ⟨h, .refl [], rfl⟩
  | cons e rest ih => exact (h.deliver e).andThen fun hnext => ih hnext

/-- Queues are drained abreast, and as many events are delivered in one world as in the other. -/
theorem Abreast.drain (h : Abreast watched w w') (limit : Nat) :
    (drain limit w').1 = (drain limit w).1 ∧ (drain limit w).2.Abreast watched (drain limit w').2 := by
  induction limit generalizing w w' with
  | zero => exact ⟨rfl, h, .refl [], rfl⟩
  | succ limit ih =>
    cases hqueue : w.queue with
    | nil =>
      unfold World.drain
      rw [hqueue, h.queue.trans hqueue]
      exact ⟨rfl, h, .refl [], rfl⟩
    | cons e rest =>
      have hfirst : Delivery.Abreast watched (World.deliver { w with queue := rest } e)
          (World.deliver { w' with queue := rest } e) := (h.setQueue rest).deliver e
      obtain ⟨hcount, -⟩ := ih hfirst.world
      refine ⟨?_, ?_⟩
      · unfold World.drain
        rw [hqueue, h.queue.trans hqueue]
        dsimp only
        rw [hfirst.panicked]
        split
        · rfl
        · exact congrArg (· + 1) hcount
      · rw [drain_of_queue hqueue, drain_of_queue (h.queue.trans hqueue)]
        exact hfirst.andThen fun hnext => (ih hnext).2

/-- A world of observers runs abreast of itself. -/
theorem Observed.abreast (hw : w.Observed) : Abreast watched w w :=
  ⟨hw, hw, rfl, rfl, rfl, rfl, rfl, fun _ _ => rfl, rfl⟩

end World

/-! ## Steps left out -/

/-- The kind whose slot an application sets or unsets by an operation. -/
def Operation.listens? {κ : Type} : Operation κ → Option EventKind
  | .setCallback kind _ | .unsetCallback kind => some kind
  | _ => none

/-- Setting or unsetting the slot of a kind, whether it is refused or not, changes neither flags nor vendor,
    asks nothing of the vendor, and leaves the other slots as they are. -/
theorem Host.perform_of_listens {κ : Type} {op : Operation κ} {kind : EventKind}
    (hop : op.listens? = some kind) (h : Host κ) (number : Nat) (v : Vendor) :
    (h.perform number op v).host.started = h.started ∧
      (h.perform number op v).host.hidStarted = h.hidStarted ∧
      (h.perform number op v).vendor = v ∧
      ∃ edit : Registry.Edit κ, (h.perform number op v).host.registry = h.registry.edited number edit ∧
        (edit = .keep ∨ edit = .unset kind ∨ ∃ callback, edit = .set kind callback) := by
  cases hc : h.check op with
  | error refusal =>
    rw [perform_of_refused hc]
    exact ⟨rfl, rfl, rfl, .keep, rfl, .inl rfl⟩
  | ok task =>
    have htask := task_of_check hc
    rw [perform_of_task hc]
    cases op with
    | setCallback k callback =>
      obtain rfl := Option.some.inj hop
      obtain rfl := Except.ok.inj htask
      exact ⟨rfl, rfl, rfl, .set k callback, rfl, .inr (.inr ⟨callback, rfl⟩)⟩
    | unsetCallback k =>
      obtain rfl := Option.some.inj hop
      obtain rfl := Except.ok.inj htask
      exact ⟨rfl, rfl, rfl, .unset k, rfl, .inr (.inl rfl)⟩
    | _ => exact absurd hop (by simp [Operation.listens?])

/-- Setting or unsetting the slot of a kind that is not watched, in one world only, keeps worlds abreast. -/
theorem World.Abreast.skip {watched : EventKind → Bool} {w w' : World} (h : Abreast watched w w')
    {op : Operation Callback} {kind : EventKind} (hop : op.listens? = some kind)
    (hwatched : watched kind = false) (hobserved : (w.perform op).2.1.Observed) :
    Abreast watched (w.perform op).2.1 w' := by
  obtain ⟨hstarted, hhid, hvendor, edit, hedit, hkinds⟩ :=
    Host.perform_of_listens hop w.host w.nextNumber w.vendor
  refine ⟨hobserved, h.observed', h.started.trans hstarted.symm, h.hidStarted.trans hhid.symm,
    h.vendor.trans hvendor.symm, h.queue, h.receiving, fun k hk => ?_,
    h.owed.trans (owed_perform watched w op).symm⟩
  have hne : k ≠ kind := by
    rintro rfl
    exact absurd (hk.symm.trans hwatched) (by simp)
  rw [h.standing k hk, standing_perform h.observed.booked hedit]
  rcases hkinds with rfl | rfl | ⟨callback, rfl⟩
  · rfl
  · exact (if_neg hne).symm
  · exact (if_neg hne).symm

namespace Session

/-- The kind whose slot an application sets or unsets in a step. -/
def Step.listens? : Step → Option EventKind
  | .act (.request (.operation op)) => op.listens?
  | _ => none

/-- The callback that a step registers, if it succeeds. -/
def Step.callback? : Step → Option Callback
  | .act a => a.callback?
  | _ => none

/-- Whether a step takes calls out of the host, to be made later, or makes one of them. -/
def Step.takesCalls : Step → Bool
  | .take | .callTaken => true
  | _ => false

/-- A step that registers nobody but observers. Calls that are due are made by the deliveries, and not by
    someone who has taken them. -/
structure Step.Observing (s : Step) : Prop where
  callback : ∀ c, s.callback? = some c → c.Observes
  takesCalls : s.takesCalls = false

/-- Reports on a step that is taken in two sessions: it has the same result, makes the same calls of the
    vendor, which are answered alike, and calls callbacks of watched kinds alike. Making the calls that are
    due has no result but their number, which is compared by the calls themselves. -/
structure Report.Alike (watched : EventKind → Bool) (s : Step) (r r' : Report) : Prop where
  response : s ≠ .runPending → r'.response = r.response
  counted : s = .runPending →
    r.response = .count (Observation.invocations r.trace).length ∧
      r'.response = .count (Observation.invocations r'.trace).length
  seen : World.SeenAlike watched r.trace r'.trace

section Steps

variable {watched : EventKind → Bool} {w w' : World}

theorem Report.alike_of_seen (s : Step) (hs : s ≠ .runPending) {r r' : Report}
    (hresponse : r'.response = r.response) (hseen : World.SeenAlike watched r.trace r'.trace) :
    Report.Alike watched s r r' :=
  ⟨fun _ => hresponse, fun hrun => absurd hrun hs, hseen⟩

theorem Report.alike_of_delivery {d d' : World.Delivery} (h : d.Abreast watched d') (s : Step)
    (hs : s ≠ .runPending) (response : Response) :
    Report.Alike watched s ⟨unlessPanicked d response, d.trace⟩
      ⟨unlessPanicked d' response, d'.trace⟩ := by
  have hresponse : unlessPanicked d' response = unlessPanicked d response := by
    unfold unlessPanicked
    rw [h.panicked]
  exact alike_of_seen s hs hresponse h.seen

theorem abreast_receiveUpTo (h : World.Abreast watched w w') (s : Step) (hs : s ≠ .runPending)
    (limit : Nat) (looping : Bool) :
    World.Abreast watched (receiveUpTo limit looping w).1 (receiveUpTo limit looping w').1 ∧
      Report.Alike watched s (receiveUpTo limit looping w).2 (receiveUpTo limit looping w').2 := by
  obtain ⟨hcount, hdrain⟩ := h.drain limit
  unfold receiveUpTo
  rw [h.receiving]
  split
  · refine ⟨hdrain.world, ?_⟩
    dsimp only
    rw [hcount]
    exact Report.alike_of_delivery hdrain s hs _
  · exact ⟨h, Report.alike_of_seen s hs rfl (.refl [])⟩

/-- Making the calls that are due has their number for a result. -/
theorem response_runPending {w : World} (hw : w.Observed) :
    unlessPanicked (w.runPending false) (.count w.host.pending.length) =
      .count (Observation.invocations (w.runPending false).trace).length := by
  rw [World.runPending_of_observes hw]
  show Response.count w.host.pending.length = .count (Observation.invocations w.told).length
  rw [World.invocations_told]

/-- **A step taken in both sessions** keeps them abreast and is reported alike. -/
theorem abreast_step (h : World.Abreast watched w w') {s : Step} (hs : s.Observing) (looping : Bool) :
    World.Abreast watched (step looping w s).1 (step looping w' s).1 ∧
      Report.Alike watched s (step looping w s).2 (step looping w' s).2 := by
  cases s with
  | act a =>
    obtain ⟨hresponse, hworld, hseen⟩ := h.act fun c hc => (hs.callback c hc).throughout
    exact ⟨hworld, Report.alike_of_seen (.act a) nofun hresponse hseen⟩
  | receive => exact abreast_receiveUpTo h .receive nofun 1 looping
  | drain => exact abreast_receiveUpTo h .drain nofun drainLimit looping
  | deliver e =>
    have hdeliver := h.deliver e
    exact ⟨hdeliver.world, Report.alike_of_delivery hdeliver (.deliver e) nofun _⟩
  | dispatch e =>
    have hdispatch := h.dispatch e
    exact ⟨hdispatch.world, Report.alike_of_delivery hdispatch (.dispatch e) nofun _⟩
  | runPending =>
    have hrun := h.runPending false
    refine ⟨hrun.world, fun hs => absurd rfl hs, fun _ => ⟨?_, ?_⟩, hrun.seen⟩
    · exact response_runPending h.observed
    · exact response_runPending h.observed'
  | take | callTaken => exact absurd hs.takesCalls (by simp [Step.takesCalls])
  | stopReceiving => exact ⟨h.stopReceiving, Report.alike_of_seen .stopReceiving nofun rfl (.refl [])⟩
  | loop es =>
    have hall := h.deliverAll es
    exact ⟨hall.world, Report.alike_of_delivery hall (.loop es) nofun _⟩

/-- **A step left out of one session** keeps them abreast, if it sets or unsets the slot of a kind that is
    not watched. -/
theorem abreast_skip (h : World.Abreast watched w w') {s : Step} (hs : s.Observing) {kind : EventKind}
    (hkind : s.listens? = some kind) (hwatched : watched kind = false) (looping : Bool) :
    World.Abreast watched (step looping w s).1 w' := by
  cases s with
  | act a =>
    have hobserved := h.observed.act fun c hc => (hs.callback c hc).throughout
    cases a with
    | request r =>
      cases r with
      | operation op => exact h.skip hkind hwatched hobserved
      | isStarted | handle => exact absurd hkind (by simp [Step.listens?])
    | fire | configure => exact absurd hkind (by simp [Step.listens?])
  | receive | drain | deliver | dispatch | runPending | take | callTaken | stopReceiving | loop =>
    exact absurd hkind (by simp [Step.listens?])

end Steps

/-! ## Sessions abreast -/

/-- A session, with a mark on each step that says whether it stays. -/
abbrev Script := List (Step × Bool)

namespace Script

/-- All steps. -/
def full (script : Script) : List Step := script.map Prod.fst

/-- The steps that stay. -/
def kept (script : Script) : List Step := (script.filter Prod.snd).map Prod.fst

/-- Whether no step is left out that sets or unsets the slot of a kind. -/
def untouched (script : Script) (kind : EventKind) : Bool :=
  script.all fun x => x.2 || x.1.listens? != some kind

/-- What a session of observers may be: nobody else is registered, and steps are left out only where they set
    or unset a slot. -/
structure Observing (script : Script) : Prop where
  steps : ∀ x ∈ script, x.1.Observing
  left : ∀ x ∈ script, x.2 = false → x.1.listens?.isSome = true

theorem Observing.of_append {first second : Script} (h : Observing (first ++ second)) :
    Observing first ∧ Observing second :=
  ⟨⟨fun x hx => h.steps x (List.mem_append_left second hx),
      fun x hx => h.left x (List.mem_append_left second hx)⟩,
    ⟨fun x hx => h.steps x (List.mem_append_right first hx),
      fun x hx => h.left x (List.mem_append_right first hx)⟩⟩

/-- A step that is left out touches the kind of its slot. -/
theorem untouched_eq_false {script : Script} {s : Step} (hs : (s, false) ∈ script) {kind : EventKind}
    (hkind : s.listens? = some kind) : script.untouched kind = false := by
  refine Bool.eq_false_iff.mpr fun hall => ?_
  have hstep := List.all_eq_true.mp hall _ hs
  simp [hkind] at hstep

end Script

/-- **The whole session and what is left of it run abreast**, as far as kinds are watched that no step left
    out is about. -/
theorem abreast_runFrom {watched : EventKind → Bool} {script : Script} (hobserving : script.Observing)
    (hwatched : ∀ s kind, (s, false) ∈ script → s.listens? = some kind → watched kind = false)
    (looping : Bool) {w w' : World} (h : World.Abreast watched w w') :
    World.Abreast watched (runFrom looping w script.full).1 (runFrom looping w' script.kept).1 := by
  induction script generalizing w w' with
  | nil => exact h
  | cons x rest ih =>
    obtain ⟨s, stays⟩ := x
    have hstep := hobserving.steps (s, stays) List.mem_cons_self
    have hsplit : Script.Observing ([(s, stays)] ++ rest) := hobserving
    have hrest := hsplit.of_append.2
    have hwatchedRest : ∀ s' kind, (s', false) ∈ rest → s'.listens? = some kind →
        watched kind = false :=
      fun s' kind hs' => hwatched s' kind (List.mem_cons_of_mem _ hs')
    cases stays with
    | true => exact ih hrest hwatchedRest (abreast_step h hstep looping).1
    | false =>
      obtain ⟨kind, hkind⟩ := Option.isSome_iff_exists.mp (hobserving.left _ List.mem_cons_self rfl)
      have hunwatched := hwatched s kind List.mem_cons_self hkind
      exact ih hrest hwatchedRest (abreast_skip h hstep hkind hunwatched looping)

/-- **Observers do not interfere.** If the callbacks that a session registers only observe, then any of its
    steps that set or unset a callback can be left out. At each point the same events are in the queue as in
    the whole session, and each step that stays has the same result, makes the same calls of the vendor, and
    calls the same callbacks with the same arguments, of all kinds that no step left out is about. -/
theorem observers_do_not_interfere (looping : Bool) (settings : List Vendor.Setting) {script : Script}
    (hobserving : script.Observing) :
    (∀ before behind, script = before ++ behind →
      (runFrom looping (initial settings) (Script.kept before)).1.queue =
        (runFrom looping (initial settings) (Script.full before)).1.queue) ∧
    ∀ before s behind, script = before ++ (s, true) :: behind →
      Report.Alike script.untouched s
        (step looping (runFrom looping (initial settings) (Script.full before)).1 s).2
        (step looping (runFrom looping (initial settings) (Script.kept before)).1 s).2 := by
  have hbefore : ∀ before behind, script = before ++ behind →
      World.Abreast script.untouched
        (runFrom looping (initial settings) (Script.full before)).1
        (runFrom looping (initial settings) (Script.kept before)).1 := by
    rintro before behind rfl
    refine abreast_runFrom hobserving.of_append.1 (fun s kind hs hkind => ?_) looping
      (World.observed_initial settings).abreast
    exact Script.untouched_eq_false (List.mem_append_left behind hs) hkind
  refine ⟨fun before behind hsplit => (hbefore before behind hsplit).queue, ?_⟩
  intro before s behind hsplit
  have hs : s.Observing := by
    refine hobserving.steps (s, true) ?_
    rw [hsplit]
    exact List.mem_append_right before List.mem_cons_self
  exact (abreast_step (hbefore before _ hsplit) hs looping).2

/-- Whoever watches. -/
def watcher : Callback := { tag := "watcher" }

/-- A headset is used for input until its bond is removed. Whoever watches bonds is left out, whoever watches
    the HID host is not. -/
def watching : Script :=
  [(.act (.request (.operation .start)), true),
    (.act (.request (.operation (.setCallback ⟨.bondDestroyed, nofun⟩ watcher))), false),
    (.act (.request (.operation (.startHidHost watcher))), true),
    (.act (.fire (.hidConnection .success Host.headset .connected)), true),
    (.act (.fire (.bondRemoved .success Host.headset)), true),
    (.loop [.bondRemoved .success Host.headset, .hidConnection .success Host.headset .disconnected],
      true)]

/-- The events in the queue are the same, and so is what is heard of the HID host when a loop delivers
    others. -/
theorem observers_do_not_interfere_watching :
    Script.Observing watching ∧
      (runFrom false (initial []) (Script.kept watching)).1.queue =
        [.hidConnection .success Host.headset .connected, .bondRemoved .success Host.headset] ∧
      (Observation.heard (Script.untouched watching)
        (step false (runFrom false (initial []) (Script.kept (watching.take 5))).1
          (.loop [.bondRemoved .success Host.headset,
            .hidConnection .success Host.headset .disconnected])).2.trace).map
        (fun x => (x.kind, x.count, x.event)) =
          [(.hidConnection, 1, .hidConnection .success Host.headset .disconnected)] := by
  have hcallback : ∀ x ∈ watching, x.1.callback? = none ∨ x.1.callback? = some watcher := by
    simp only [watching, List.forall_mem_cons]
    exact ⟨.inl rfl, .inr rfl, .inr rfl, .inl rfl, .inl rfl, .inl rfl,
      fun _ hx => absurd hx List.not_mem_nil⟩
  have hobserving : Script.Observing watching := by
    refine ⟨fun x hx => ⟨fun c hc => ?_, ?_⟩, ?_⟩
    · rcases hcallback x hx with hnone | hsome
      · exact absurd (hnone.symm.trans hc) (by simp)
      · obtain rfl := Option.some.inj (hsome.symm.trans hc)
        exact fun n => ⟨rfl, rfl⟩
    · revert x
      simp [watching, Step.takesCalls]
    · simp [watching, Step.listens?, Operation.listens?]
  obtain ⟨hqueue, hsteps⟩ := observers_do_not_interfere false [] hobserving
  refine ⟨hobserving, (hqueue watching [] (List.append_nil _).symm).trans rfl, ?_⟩
  rw [(hsteps (watching.take 5) _ [] rfl).seen.heard]
  rfl

end Session

end BluetoothHost
