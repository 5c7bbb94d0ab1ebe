import BluetoothHost.Proofs.Dispatchers

/-!
# `Proofs.Lifecycle` — flags, slots and dispatchers fit together, and failures change nothing

A host comes up and goes down by four operations, which each change a flag, some slots and a dispatcher of
the vendor, one after the other, and can fail in between. Whatever fails, the three still fit together
(`World.Orderly`): a HID host is up only in a host that is up, its slot is filled just as long, no slot is
filled in a host that is down, and the vendor has a dispatcher for whatever is up.

Two things make it so. An operation that fails leaves the host alone, unless it takes something down
(`host_perform_of_error`); and one that takes something down does so whatever the vendor says.

## Contents
- `Host.Tidy`, with `Tidy.perform`, `Tidy.act`, `Course.tidy`: slots fit the flags.
- `World.Orderly`, and `Session.lifecycle_is_orderly`.
- `Host.host_carryOut_of_error`, `Host.host_perform_of_error`: failures change nothing.
- `Reply.Tells`, `Host.HasStopped`, `Host.HasStoppedHid`, and `Session.failures_change_nothing`.
-/

namespace BluetoothHost

/-! ## Slots and flags -/

/-- The slots that are filled fit the flags. -/
structure Host.Tidy {κ : Type} (h : Host κ) : Prop where
  hidSlot : h.registry.isSet .hidConnection = h.hidStarted
  cleared : h.started = false → ∀ k, h.registry.isSet k = false

section Slots

variable {κ : Type} {h : Host κ} {task : Task κ}

/-- Carrying out a task keeps slots and flags in line, whether it fails or not. -/
theorem Host.Tidy.carryOut (ht : h.Tidy) (hm : h.Meets task.condition) (operation : String)
    (number : Nat) (v : Vendor) : (h.carryOut operation number v task).host.Tidy := by
  cases task with
  | start =>
    show (h.start v).host.Tidy
    cases hs : h.started with
    | true =>
      rw [Host.start_of_started v hs]
      exact ht
    | false =>
      rw [Host.host_start v hs]
      by_cases hv : v.verdict .register = .success
      · rw [if_pos hv]
        exact ⟨ht.hidSlot, fun hdown => absurd hdown (by simp)⟩
      · rw [if_neg hv]
        exact ht
  | stop => exact ⟨rfl, fun _ k => h.registry.isSet_clear k⟩
  | startHid callback =>
    have hs : h.started = true := hm.1
    show (h.startHid number callback v).host.Tidy
    rw [Host.host_startHid]
    by_cases hv : v.verdict .startHid = .success
    · rw [if_pos hv]
      constructor
      · exact h.registry.isSet_set_self ⟨number, .hidConnection, callback⟩
      · intro hdown
        exact absurd (hs.symm.trans hdown) (by simp)
    · rw [if_neg hv]
      exact ht
  | stopHid =>
    have hs : h.started = true := hm.1
    constructor
    · exact h.registry.isSet_unset_self .hidConnection
    · intro hdown
      exact absurd (hs.symm.trans hdown) (by simp)
  | setCallback kind callback =>
    have hs : h.started = true := hm
    constructor
    · -- the application fills no slot of the HID host
      have hother : (h.registry.set ⟨number, kind, callback⟩).isSet .hidConnection =
          h.registry.isSet .hidConnection := Registry.isSet_set_of_ne kind.2.symm
      exact hother.trans ht.hidSlot
    · intro hdown
      exact absurd (hs.symm.trans hdown) (by simp)
  | unsetCallback kind =>
    have hs : h.started = true := hm
    constructor
    · have hother : (h.registry.unset kind).isSet .hidConnection =
          h.registry.isSet .hidConnection := Registry.isSet_unset_of_ne kind.2.symm
      exact hother.trans ht.hidSlot
    · intro hdown
      exact absurd (hs.symm.trans hdown) (by simp)
  | command c => exact ht
  | read r => exact ht
  | serviceMask uuids => exact ht

theorem Host.Tidy.perform (ht : h.Tidy) (number : Nat) (op : Operation κ) (v : Vendor) :
    (h.perform number op v).host.Tidy := by
  cases hc : h.check op with
  | error refusal =>
    rw [Host.perform_of_refused hc]
    exact ht
  | ok task =>
    rw [Host.perform_of_task hc]
    exact ht.carryOut (Host.meets_of_check hc).1 op.name number v

end Slots

theorem Host.Tidy.act {w : World} (ht : w.host.Tidy) (locked : Bool) (a : Action Callback) :
    (w.act locked a).2.1.host.Tidy := by
  have heffect := w.effect_act locked a
  generalize w.act locked a = x at heffect ⊢
  cases heffect with
  | vain | posted | dropped | configured | locked | asked => exact ht
  | operated op => exact ht.perform w.nextNumber op w.vendor
  | handled e => exact ⟨ht.hidSlot, ht.cleared⟩

/-- Slots and flags stay in line all along a course. -/
theorem Course.tidy {w w' : World} {t : List Observation} (h : Course w t w') (ht : w.host.Tidy) :
    w'.host.Tidy := by
  induction h with
  | done => exact ht
  | act locked a _ ih => exact ih.act locked a
  | aside _ ha ih =>
    constructor
    · rw [ha.registry, ha.hidStarted]
      exact ih.hidSlot
    · rw [ha.registry, ha.started]
      exact ih.cleared

/-! ## The lifecycle -/

/-- Flags, slots and dispatchers fit together. -/
structure World.Orderly (w : World) : Prop where
  /-- The HID host is up only in a host that is up. -/
  nested : w.host.hidStarted = true → w.host.started = true
  /-- The slot of the HID host is filled just while it is up. -/
  hidSlot : w.host.registry.isSet .hidConnection = true ↔ w.host.hidStarted = true
  /-- No slot is filled while the host is down. -/
  cleared : w.host.started = false → ∀ k, w.host.registry.isSet k = false
  /-- What is up has its dispatcher with the vendor. -/
  baseLinked : w.host.started = true → w.vendor.baseLinked = true
  hidLinked : w.host.hidStarted = true → w.vendor.hidLinked = true

theorem Course.orderly {settings : List Vendor.Setting} {t : List Observation} {w : World}
    (h : Course (Session.initial settings) t w) : w.Orderly := by
  have hnew : (Session.initial settings).host.Nested := fun hh => absurd hh (by simp [Session.initial])
  obtain ⟨-, hnested⟩ := h.in_order hnew
  have htidy : w.host.Tidy := h.tidy ⟨rfl, fun _ _ => rfl⟩
  refine ⟨hnested, ?_, htidy.cleared, ?_, ?_⟩
  · rw [htidy.hidSlot]
  · intro hup
    exact (h.isLinked_iff .base).mpr (.inl hup)
  · intro hup
    exact (h.isLinked_iff .hidHost).mpr (.inl hup)

namespace Session

/-- **The lifecycle is orderly.** Flags, slots and dispatchers fit together in every world that a session
    passes through, whatever its steps and its callbacks do and whatever the vendor answers. -/
theorem lifecycle_is_orderly {w : World} (hw : Passed w) : w.Orderly := by
  obtain ⟨settings, t, h⟩ := hw
  exact h.orderly

/-- A host that is up, and its HID host too, with a callback for bonds that are made. -/
def withHid : World :=
  (runFrom false (initial []) [.act (.request (.operation .start)),
    .act (.request (.operation (.startHidHost bystander))),
    .act (.request (.operation (.setCallback ⟨.bondCreated, nofun⟩ bystander)))]).1

theorem passed_withHid : Passed withHid :=
  Reachable.passed ⟨false, [], _, rfl⟩

/-- In the midst of a callback, a vendor that fails is told to disconnect from both. -/
theorem lifecycle_is_orderly_stopping :
    withHid.host.hidStarted = true ∧
      Passed (World.actAll false [.configure [.status .timeout], .request (.operation .stop)] withHid).1 ∧
      (World.actAll false [.configure [.status .timeout], .request (.operation .stop)]
        withHid).1.host.started = false ∧
      ∀ k, (World.actAll false [.configure [.status .timeout], .request (.operation .stop)]
        withHid).1.host.registry.isSet k = false := by
  obtain ⟨settings, t, hcourse⟩ := passed_withHid
  have hpassed : Passed (World.actAll false [.configure [.status .timeout],
      .request (.operation .stop)] withHid).1 :=
    ⟨settings, _, hcourse.trans (course_actAll false _ withHid)⟩
  exact ⟨rfl, hpassed, rfl, (lifecycle_is_orderly hpassed).cleared rfl⟩

end Session

/-! ## Failures -/

namespace Host

section Failures

variable {κ : Type} {h : Host κ} {number : Nat} {v : Vendor} {f : Fault}

/-- An operation without a value to give fails just as its outcome does. -/
theorem result_unitReply_eq_error_iff {outcome : Outcome} :
    (unitReply outcome).result = .error f ↔ outcome = .error f := by
  cases outcome <;> simp [unitReply, Except.map]

/-- **A task that fails leaves the host alone**, unless it takes something down. -/
theorem host_carryOut_of_error {task : Task κ} (hup : task.isTeardown = false) {operation : String}
    (hf : (h.carryOut operation number v task).reply.result = .error f) :
    (h.carryOut operation number v task).host = h := by
  cases task with
  | start =>
    change (h.start v).reply.result = .error f at hf
    show (h.start v).host = h
    cases hs : h.started with
    | true => rw [start_of_started v hs]
    | false =>
      rw [reply_start v hs, result_unitReply_eq_error_iff] at hf
      rw [host_start v hs, if_neg (Status.ne_success_of_outcome hf)]
  | startHid callback =>
    change (h.startHid number callback v).reply.result = .error f at hf
    show (h.startHid number callback v).host = h
    rw [reply_startHid, result_unitReply_eq_error_iff] at hf
    rw [host_startHid, if_neg (Status.ne_success_of_outcome hf)]
  | stop | stopHid => exact absurd hup (by simp [Task.isTeardown])
  | setCallback kind callback => exact absurd hf (by simp [carryOut])
  | unsetCallback kind => exact absurd hf (by simp [carryOut])
  | command c => rfl
  | read r => rfl
  | serviceMask uuids => rfl

/-- **An operation that fails leaves the host alone**, for whatever reason it does, unless it takes
    something down. -/
theorem host_perform_of_error {op : Operation κ} (hup : op.isTeardown = false)
    (hf : (h.perform number op v).reply.result = .error f) : (h.perform number op v).host = h := by
  cases hc : h.check op with
  | error refusal => rw [perform_of_refused hc]
  | ok task =>
    rw [perform_of_task hc] at hf ⊢
    have htask : task.isTeardown = false := (yields_of_check hc).isTeardown.trans hup
    exact host_carryOut_of_error htask hf

end Failures

end Host

theorem Operation.isTeardown_eq_false {κ : Type} {op : Operation κ} (hstop : op ≠ .stop)
    (hhid : op ≠ .stopHidHost) : op.isTeardown = false := by
  cases op with
  | stop => exact absurd rfl hstop
  | stopHidHost => exact absurd rfl hhid
  | _ => rfl

/-! ## What stopping comes to -/

/-- A reply tells a status: it succeeds, with no value to give, if the status is success, it fails with the
    fault of any other status, and no device is visited. -/
structure Reply.Tells (reply : Reply) (s : Status) : Prop where
  ok_iff : ∀ value, reply.result = .ok value ↔ s = .success ∧ value = .unit
  error_iff : ∀ f, reply.result = .error f ↔ s.fault? = some f
  visited : reply.visited = []

theorem Host.tells_unitReply (s : Status) : (Host.unitReply s.outcome).Tells s := by
  refine ⟨fun value => ?_, fun f => ?_, rfl⟩
  · cases ho : s.outcome with
    | ok u =>
      have hs : s = .success := (Status.outcome_eq_ok_iff s).mp ho
      exact ⟨fun h => ⟨hs, (Except.ok.inj h).symm⟩, fun h => congrArg _ h.2.symm⟩
    | error f => exact ⟨nofun, fun h => absurd h.1 (Status.ne_success_of_outcome ho)⟩
  · rw [result_unitReply_eq_error_iff, Status.outcome_eq_error_iff]

section Stopping

variable {κ : Type}

/-- What is left of a host that has been stopped: nothing is up and no slot is filled. Calls that are due
    stay due. -/
structure Host.HasStopped (h h' : Host κ) : Prop where
  started : h'.started = false
  hidStarted : h'.hidStarted = false
  slots : ∀ k, h'.registry.isSet k = false
  pending : h'.pending = h.pending

/-- What is left of a host whose HID host has been stopped: this is down and its slot is empty. All else is
    as it was. -/
structure Host.HasStoppedHid (h h' : Host κ) : Prop where
  started : h'.started = h.started
  hidStarted : h'.hidStarted = false
  hidSlot : h'.registry.isSet .hidConnection = false
  otherSlots : ∀ k, k ≠ .hidConnection → h'.registry.get k = h.registry.get k
  pending : h'.pending = h.pending

theorem Host.hasStopped_stop (h : Host κ) (v : Vendor) : h.HasStopped (h.stop v).host :=
  ⟨rfl, rfl, h.registry.isSet_clear, rfl⟩

theorem Host.hasStoppedHid_stopHid (h : Host κ) (v : Vendor) : h.HasStoppedHid (h.stopHid v).host :=
  ⟨rfl, rfl, h.registry.isSet_unset_self .hidConnection, fun _ hk => Registry.get_unset_of_ne hk, rfl⟩

end Stopping

namespace Session

/-- **Failures change nothing, and stopping never fails to stop.** In every world that a session passes
    through, whatever the vendor answers to each of its commands:
    - an operation that fails, other than those that stop something, leaves the host exactly as it was;
    - a host that is up is down after it is stopped, its HID host too, and no slot is filled; the reply
      tells what the vendor said to being unregistered from, whatever it said to the stop of the HID host;
    - a HID host that is up is down after it is stopped, its slot is empty and all else is as it was; the
      reply tells what the vendor said to that. -/
theorem failures_change_nothing {w : World} (hw : Passed w) (number : Nat) (v : Vendor) :
    (∀ op f, op ≠ .stop → op ≠ .stopHidHost →
      (w.host.perform number op v).reply.result = .error f →
        (w.host.perform number op v).host = w.host) ∧
    (w.host.started = true →
      w.host.HasStopped (w.host.perform number .stop v).host ∧
      Entry.exchanges (w.host.perform number .stop v).trace =
        (if w.host.hidStarted then [(.command .stopHid, v.verdict .stopHid)] else []) ++
          [(.command .unregister, v.verdict .unregister)] ∧
      (w.host.perform number .stop v).reply.Tells (v.verdict .unregister)) ∧
    (w.host.hidStarted = true →
      w.host.HasStoppedHid (w.host.perform number .stopHidHost v).host ∧
      Entry.exchanges (w.host.perform number .stopHidHost v).trace =
        [(.command .stopHid, v.verdict .stopHid)] ∧
      (w.host.perform number .stopHidHost v).reply.Tells (v.verdict .stopHid)) := by
  refine ⟨?_, ?_, ?_⟩
  · intro op f hstop hhid hf
    exact Host.host_perform_of_error (Operation.isTeardown_eq_false hstop hhid) hf
  · intro hs
    rw [Host.perform_stop v hs number, Host.reply_stop]
    exact ⟨w.host.hasStopped_stop v, w.host.exchanges_stop v, Host.tells_unitReply _⟩
  · intro hh
    obtain ⟨settings, t, h⟩ := hw
    -- a HID host is up only in a host that is up, so that the operation is not refused
    have hs : w.host.started = true := h.orderly.nested hh
    rw [Host.perform_stopHid v hs hh number, Host.reply_stopHid]
    exact ⟨w.host.hasStoppedHid_stopHid v, w.host.exchanges_stopHid v, Host.tells_unitReply _⟩

/-- A vendor that stops its HID host, but fails to be unregistered from. -/
def clinging : Vendor := { exception? := fun c => if c = .unregister then some .timeout else none }

/-- A second start of the HID host fails and changes nothing. Stopping the host fails and takes all down.
    Stopping the HID host succeeds and empties its slot, but not the one for bonds that are made. -/
theorem failures_change_nothing_clinging :
    Passed withHid ∧ withHid.host.started = true ∧ withHid.host.hidStarted = true ∧
      (withHid.host.perform 2 (.startHidHost bystander) clinging).host = withHid.host ∧
      (withHid.host.perform 2 .stop clinging).host.hidStarted = false ∧
      (withHid.host.perform 2 .stop clinging).reply.result = .error .timedOut ∧
      (withHid.host.perform 2 .stopHidHost clinging).reply.result = .ok .unit ∧
      withHid.host.registry.isSet .hidConnection = true ∧
      (withHid.host.perform 2 .stopHidHost clinging).host.registry.isSet .hidConnection = false ∧
      withHid.host.registry.isSet .bondCreated = true ∧
      (withHid.host.perform 2 .stopHidHost clinging).host.registry.get .bondCreated =
        withHid.host.registry.get .bondCreated := by
  obtain ⟨hfail, hstop, hstopHid⟩ := failures_change_nothing passed_withHid 2 clinging
  obtain ⟨hdown, -, htells⟩ := hstop rfl
  obtain ⟨hdownHid, -, htellsHid⟩ := hstopHid rfl
  refine ⟨passed_withHid, rfl, rfl, hfail _ .alreadyDone nofun nofun rfl, hdown.hidStarted, ?_, ?_, rfl,
    hdownHid.hidSlot, rfl, hdownHid.otherSlots .bondCreated nofun⟩
  · exact (htells.error_iff .timedOut).mpr rfl
  · exact (htellsHid.ok_iff .unit).mpr ⟨rfl, rfl⟩

end Session

end BluetoothHost
