import BluetoothHost.Proofs.Lifecycle

/-!
# `Proofs.Alarms` — whoever fails says so in the log, once, and nobody else does

An operation can fail at many places: at a check, at the vendor's answer, at a record that gives no device.
Each of these places logs one alarm, an error or a warning, and hands the failure on without another one.
So there are as many alarms as failures, none or one (`failureCount`): this is shown of what a status and
an answer come to, of exchanges, of readings and of tasks, one stage after the other.

Stopping a host whose HID host is up is the one operation that can see two failures. It logs both and tells
of the second, so that failures and alarms go together only if the vendor answers both commands alike.

## Contents
- `Entry.alarms`, `Observation.alarms`: the errors and warnings among what is seen.
- `Entry.Admits`: as many alarms as failures, with `admits_forward`, `admits_inquire`, `Reading.admits_run`.
- `Host.admits_carryOut`, `Host.admits_perform`, `Host.alarms_stop`, `Host.alarms_perform_stop`.
- `Session.failures_are_logged`.
-/

namespace BluetoothHost

/-! ## Alarms -/

namespace Entry

/-- The notices among some entries that tell of a failure. -/
def alarms (t : List Entry) : List Notice :=
  (t.filterMap fun
    | .notice n => some n
    | _ => none).filter Notice.isAlarm

@[simp] theorem alarms_nil : alarms [] = [] := rfl

@[simp] theorem alarms_append (s t : List Entry) : alarms (s ++ t) = alarms s ++ alarms t := by
  unfold alarms
  rw [List.filterMap_append, List.filter_append]

@[simp] theorem alarms_cons_call (c : Call) (s : Status) (t : List Entry) :
    alarms (.call c s :: t) = alarms t := rfl

@[simp] theorem alarms_cons_released (k : EventKind) (t : List Entry) :
    alarms (.released k :: t) = alarms t := rfl

@[simp] theorem alarms_map_notice (ns : List Notice) :
    alarms (ns.map .notice) = ns.filter Notice.isAlarm := by
  unfold alarms
  rw [List.filterMap_map]
  exact congrArg _ List.filterMap_some

/-- Calls of the vendor are no notices. -/
@[simp] theorem alarms_map_call (cs : List Call) (s : Status) :
    alarms (cs.map (Entry.call · s)) = [] := by
  induction cs with
  | nil => rfl
  | cons c rest ih => exact ih

end Entry

/-- The notices among some observations that tell of a failure. -/
def Observation.alarms (t : List Observation) : List Notice := (notices t).filter Notice.isAlarm

theorem Observation.alarms_map_entry (t : List Entry) : alarms (t.map .entry) = Entry.alarms t := by
  unfold alarms notices Entry.alarms
  rw [List.filterMap_map]
  congr 2
  funext e
  cases e <;> rfl

/-! ## As many alarms as failures -/

/-- How many failures a result is: none or one. -/
def failureCount {α : Type} : Except Fault α → Nat
  | .ok _ => 0
  | .error _ => 1

theorem failureCount_map {α β : Type} (f : α → β) (result : Except Fault α) :
    failureCount (result.map f) = failureCount result := by
  cases result <;> rfl

/-- What is seen of something with this result admits its failure: it holds one alarm if there is one, and
    none otherwise. -/
def Entry.Admits {α : Type} (t : List Entry) (result : Except Fault α) : Prop :=
  (Entry.alarms t).length = failureCount result

namespace Entry.Admits

variable {α β : Type} {t : List Entry} {result : Except Fault α}

/-- What is made of the value makes no difference. -/
theorem map (h : Entry.Admits t result) (f : α → β) : Entry.Admits t (result.map f) :=
  Eq.trans h (failureCount_map f result).symm

/-- What follows a success stands for itself. -/
theorem append {a : α} (h : Entry.Admits t (.ok a : Except Fault α)) {u : List Entry}
    {next : Except Fault β} (hnext : Entry.Admits u next) : Entry.Admits (t ++ u) next := by
  have hnone : (Entry.alarms t).length = 0 := h
  unfold Entry.Admits
  rw [Entry.alarms_append, List.length_append, hnone, Nat.zero_add]
  exact hnext

end Entry.Admits

/-- A record that gives no device is an alarm. -/
theorem admits_shortfall {α : Type} (s : Shortfall) :
    Entry.Admits [.notice (.shortfall s)] (.error s.fault : Except Fault α) := rfl

/-- A refusal is an alarm, whatever the reason. -/
theorem Refusal.isAlarm_refused (r : Refusal) : (Notice.refused r).isAlarm = true := by
  cases r <;> rfl

/-! ## Exchanges with the vendor -/

/-- A status that is a failure is logged when it is learned, and no other is. -/
theorem alarms_conclude (operation : String) (s : Status) :
    ((conclude operation s).2.filter Notice.isAlarm).length = failureCount s.outcome := by
  unfold conclude Status.outcome
  cases s.fault? <;> rfl

/-- A failure to answer is logged when it is learned, also one without a reason. -/
theorem alarms_concludeAnswer {α : Type} (operation : String) (answer : Except Status α) :
    ((concludeAnswer operation answer).2.filter Notice.isAlarm).length =
      failureCount (concludeAnswer operation answer).1 := by
  unfold concludeAnswer
  cases answer with
  | ok a => rfl
  | error s => cases hf : s.fault? <;> simp [hf] <;> rfl

theorem admits_forward (operation : String) (c : Command) (v : Vendor) :
    Entry.Admits (forward operation c v).2.2 (forward operation c v).1 := by
  rw [forward_eq]
  unfold Entry.Admits
  rw [Entry.alarms_cons_call, Entry.alarms_map_notice]
  exact alarms_conclude operation (v.verdict c)

theorem admits_inquire {α : Type} (operation : String) (q : Query α) (v : Vendor) :
    Entry.Admits (inquire operation q v).2.2 (inquire operation q v).1 := by
  show (Entry.alarms (_ ++ _)).length = failureCount (concludeAnswer operation (v.ask q).1).1
  rw [Entry.alarms_append, Entry.alarms_map_call, Entry.alarms_map_notice, List.nil_append]
  exact alarms_concludeAnswer operation (v.ask q).1

/-! ## Readings -/

/-- A reading admits it if it fails. -/
def ReadResult.Admits (x : ReadResult) : Prop := Entry.Admits x.2.2 x.1.result

theorem admits_readValue {α : Type} (operation : String) (q : Query α) (toValue : α → Value)
    (v : Vendor) : (readValue operation q toValue v).Admits :=
  (admits_inquire operation q v).map toValue

theorem admits_readVisibility (operation : String) (v : Vendor) :
    (readVisibility operation v).Admits := by
  have hmode := admits_inquire operation .scanMode v
  unfold readVisibility
  split
  · rename_i heq; rw [heq] at hmode; exact hmode
  · rename_i after trace heq
    rw [heq] at hmode
    -- the mode is known, so that only the time left may be missing
    exact hmode.append (admits_readValue operation .scanTimeout _ after)
  · rename_i heq; rw [heq] at hmode; exact hmode

theorem admits_readEachBonded (operation : String) (continues : List Device → Bool) (v : Vendor) :
    (readEachBonded operation continues v).Admits := by
  have hlist := admits_inquire operation .bondedDevices v
  unfold readEachBonded
  split
  · rename_i heq; rw [heq] at hlist; exact hlist
  · rename_i heq; rw [heq] at hlist
    split
    · exact hlist
    · rename_i s _ _
      exact hlist.append (admits_shortfall s)

theorem admits_readBonded (operation : String) (address : Address) (v : Vendor) :
    (readBonded operation address v).Admits := by
  have hrecord := admits_inquire operation (.bondedDevice address) v
  unfold readBonded
  split
  · rename_i heq; rw [heq] at hrecord; exact hrecord
  · rename_i heq; rw [heq] at hrecord
    split
    · exact hrecord
    · rename_i s _
      exact hrecord.append (admits_shortfall s)

/-- **A reading that fails logs one alarm**, and one that succeeds logs none. -/
theorem Reading.admits_run (operation : String) (r : Reading) (v : Vendor) :
    (r.run operation v).Admits := by
  cases r with
  | power => exact rfl
  | visibility => exact admits_readVisibility operation v
  | eachBonded continues => exact admits_readEachBonded operation continues v
  | bonded address => exact admits_readBonded operation address v
  | address | name | isDiscovering | isServiceUsed | createSocket | write =>
    exact admits_readValue operation _ _ v

/-! ## Tasks and operations -/

namespace Host

variable {κ : Type} (h : Host κ) (operation : String) (number : Nat) (v : Vendor)

/-- **A task that fails logs one alarm**, and one that succeeds logs none, unless it stops the host. -/
theorem admits_carryOut {task : Task κ} (hstop : task ≠ .stop) :
    Entry.Admits (h.carryOut operation number v task).trace
      (h.carryOut operation number v task).reply.result := by
  cases task with
  | stop => exact absurd rfl hstop
  | start =>
    show Entry.Admits (h.start v).trace (h.start v).reply.result
    have hexchange := admits_forward (Operation.start : Operation κ).name .register v
    unfold start
    split
    · exact rfl
    · split
      · rename_i heq; rw [heq] at hexchange
        exact hexchange.append (u := [.notice .started]) rfl
      · rename_i heq; rw [heq] at hexchange
        exact hexchange.map fun () => Value.unit
  | startHid callback =>
    show Entry.Admits (h.startHid number callback v).trace (h.startHid number callback v).reply.result
    have hexchange := admits_forward (Operation.startHidHost callback).name .startHid v
    unfold startHid
    split
    · rename_i heq; rw [heq] at hexchange
      exact hexchange.append (u := [.registered .hidConnection number]) rfl
    · rename_i heq; rw [heq] at hexchange
      exact hexchange.map fun () => Value.unit
  | stopHid =>
    have hexchange := admits_forward (Operation.stopHidHost : Operation κ).name .stopHid v
    show (Entry.alarms ((forward _ .stopHid v).2.2 ++ [.released .hidConnection])).length = _
    rw [Entry.alarms_append, Entry.alarms_cons_released, Entry.alarms_nil, List.append_nil]
    exact hexchange.map fun () => Value.unit
  | command c => exact (admits_forward operation c v).map fun () => Value.unit
  | read r => exact r.admits_run operation v
  | setCallback | unsetCallback => rfl
  | serviceMask uuids =>
    show (Entry.alarms ((ServiceMask.unreadable uuids).map (Entry.notice ∘ .unreadableUuid))).length = 0
    rw [← List.map_map, Entry.alarms_map_notice, List.filter_map]
    simp [Function.comp_def, Notice.isAlarm, Notice.severity]

/-- Stopping logs an alarm for each of the two commands that fails. -/
theorem alarms_stop :
    (Entry.alarms (h.stop v).trace).length =
      (if h.hidStarted then failureCount (v.verdict .stopHid).outcome else 0) +
        failureCount (v.verdict .unregister).outcome := by
  have hclosing : ∀ t : List Entry, Entry.alarms
      (t ++ [.call (.command .unregister) (v.verdict .unregister), .releasedAll, .notice .stopped]) =
        Entry.alarms t := by
    intro t
    rw [Entry.alarms_append]
    exact List.append_nil _
  cases hh : h.hidStarted with
  | true =>
    have hhid := admits_forward (Operation.stopHidHost : Operation κ).name .stopHid v
    unfold Entry.Admits at hhid
    simp only [stop, stopHidFirst, hh, if_true, Vendor.command, Entry.alarms_append (_ ++ _)]
    rw [Entry.alarms_map_notice, List.length_append, alarms_conclude]
    rw [forward_eq] at hhid ⊢
    rw [Vendor.verdict_linked, hclosing, hhid]
  | false =>
    simp only [stop, stopHidFirst, hh, Vendor.command, Entry.alarms_append (_ ++ _)]
    rw [Entry.alarms_map_notice, List.length_append, alarms_conclude]
    rw [if_neg Bool.false_ne_true, if_neg Bool.false_ne_true, hclosing]
    rfl

end Host

/-- No operation but `stop` stops the host. -/
theorem Operation.Yields.ne_stop {κ : Type} {op : Operation κ} {task : Task κ} (hy : op.Yields task)
    (hop : op ≠ .stop) : task ≠ .stop := by
  rintro rfl
  have hteardown := hy.isTeardown
  have hcondition := hy.condition
  cases op with
  | stop => exact hop rfl
  -- the other teardown needs the HID host to be up
  | stopHidHost => exact absurd hcondition (by simp [Operation.condition, Task.condition])
  | _ => exact absurd hteardown (by simp [Operation.isTeardown, Task.isTeardown])

namespace Host

variable {κ : Type} {h : Host κ} {v : Vendor}

/-- **An operation that fails logs one alarm**, and one that succeeds logs none, unless it stops the host. -/
theorem admits_perform {op : Operation κ} (hop : op ≠ .stop) (number : Nat) :
    Entry.Admits (h.perform number op v).trace (h.perform number op v).reply.result := by
  cases hc : h.check op with
  | error refusal =>
    rw [perform_of_refused hc]
    show ([Notice.refused refusal].filter Notice.isAlarm).length = 1
    rw [List.filter_cons_of_pos refusal.isAlarm_refused]
    rfl
  | ok task =>
    rw [perform_of_task hc]
    exact h.admits_carryOut op.name number v ((yields_of_check hc).ne_stop hop)

/-- Over a vendor that answers both commands alike, stopping a host whose HID host is up logs two alarms if
    it fails, and one otherwise. -/
theorem alarms_perform_stop (hnested : h.hidStarted = true → h.started = true)
    (halike : ∀ c, v.verdict c = v.status) (number : Nat) :
    (Entry.alarms (h.perform number .stop v).trace).length =
      (if h.hidStarted then 2 else 1) * failureCount (h.perform number .stop v).reply.result := by
  cases hs : h.started with
  | false =>
    -- refused, and no HID host is up
    have hh : h.hidStarted = false := by
      refine Bool.eq_false_iff.mpr fun hh => ?_
      exact absurd (hs.symm.trans (hnested hh)) Bool.false_ne_true
    have hneeds : (Operation.stop : Operation κ).condition ≠ .always :=
      show Condition.started ≠ .always by decide
    rw [perform_of_refused (check_of_not_started hs hneeds), hh]
    rfl
  | true =>
    have hresult : failureCount (unitReply (v.verdict .unregister).outcome).result =
        failureCount v.status.outcome := by
      rw [halike]
      exact failureCount_map _ _
    rw [perform_stop v hs, alarms_stop, reply_stop, hresult, halike, halike]
    cases h.hidStarted with
    | true => exact (Nat.two_mul _).symm
    | false => rw [if_neg Bool.false_ne_true, if_neg Bool.false_ne_true, Nat.zero_add, Nat.one_mul]

end Host

/-- If alarms are a multiple of failures, there are alarms just if there is a failure. -/
theorem exists_alarm_iff {α : Type} {alarms : List Notice} {result : Except Fault α} {factor : Nat}
    (hpos : 0 < factor) (hcount : alarms.length = factor * failureCount result) :
    (∃ f, result = .error f) ↔ alarms ≠ [] := by
  cases result with
  | ok a => simpa [failureCount] using hcount
  | error f =>
    refine ⟨fun _ hnone => ?_, fun _ => ⟨f, rfl⟩⟩
    rw [hnone] at hcount
    simp only [List.length_nil, failureCount, Nat.mul_one] at hcount
    omega

/-- What tells of a failure is an error or a warning. -/
theorem Observation.alarms_ne_nil_iff (t : List Observation) :
    alarms t ≠ [] ↔ ∃ n ∈ notices t, n.severity = .error ∨ n.severity = .warn := by
  unfold alarms
  rw [ne_eq, List.filter_eq_nil_iff]
  simp [Notice.isAlarm, or_iff_not_imp_left]

namespace Session

/-- **Whoever fails says so in the log, and nobody else does.** In every world that a session passes
    through, over a vendor that answers all commands alike, an operation fails just if an error or a warning
    is logged while it runs. It is then one such record, or two if it stops a host whose HID host is up. -/
theorem failures_are_logged {w : World} (hw : Passed w)
    (halike : ∀ c, w.vendor.verdict c = w.vendor.status) (op : Operation Callback) :
    ((∃ f, (w.perform op).1.result = .error f) ↔
        ∃ n ∈ Observation.notices (w.perform op).2.2, n.severity = .error ∨ n.severity = .warn) ∧
      ∀ f, (w.perform op).1.result = .error f →
        (op ≠ .stop ∨ w.host.hidStarted = false →
          (Observation.alarms (w.perform op).2.2).length = 1) ∧
        (op = .stop → w.host.hidStarted = true →
          (Observation.alarms (w.perform op).2.2).length = 2) := by
  obtain ⟨settings, t, hcourse⟩ := hw
  have hseen : Observation.alarms (w.perform op).2.2 =
      Entry.alarms (w.host.perform w.nextNumber op w.vendor).trace := Observation.alarms_map_entry _
  rw [← Observation.alarms_ne_nil_iff, hseen]
  show ((∃ f, (w.host.perform w.nextNumber op w.vendor).reply.result = .error f) ↔ _) ∧
    ∀ f, (w.host.perform w.nextNumber op w.vendor).reply.result = .error f → _
  by_cases hop : op = .stop
  · subst hop
    have hcount := Host.alarms_perform_stop hcourse.orderly.nested halike w.nextNumber
    refine ⟨exists_alarm_iff (by split <;> omega) hcount, fun f hf => ?_⟩
    rw [hf] at hcount
    refine ⟨fun hdown => ?_, fun _ hup => ?_⟩
    · rw [hcount, hdown.resolve_left (fun hne => hne rfl)]
      rfl
    · rw [hcount, hup]
      rfl
  · have hcount := Host.admits_perform (h := w.host) (v := w.vendor) hop w.nextNumber
    refine ⟨exists_alarm_iff Nat.one_pos (hcount.trans (Nat.one_mul _).symm), fun f hf => ?_⟩
    rw [hf] at hcount
    exact ⟨fun _ => hcount, fun hstop => absurd hstop hop⟩

/-- A host that is up, and its HID host too, over a vendor that fails. -/
def withHidFailing : World :=
  (runFrom false (initial []) [.act (.request (.operation .start)),
    .act (.request (.operation (.startHidHost bystander))), .act (.configure [.status .timeout])]).1

/-- There, stopping the host is told of twice and enabling the adapter once; removing a callback succeeds,
    and no failure is told of. -/
theorem failures_are_logged_twice :
    Passed withHidFailing ∧
      (Observation.alarms (withHidFailing.perform .stop).2.2).length = 2 ∧
      (Observation.alarms (withHidFailing.perform .enableAdapter).2.2).length = 1 ∧
      ¬ ∃ n ∈ Observation.notices (withHidFailing.perform (.unsetCallback ⟨.socketData, nofun⟩)).2.2,
        n.severity = .error ∨ n.severity = .warn := by
  have hpassed : Passed withHidFailing := Reachable.passed ⟨false, [], _, rfl⟩
  have halike : ∀ c, withHidFailing.vendor.verdict c = withHidFailing.vendor.status := fun _ => rfl
  refine ⟨hpassed, ?_, ?_, ?_⟩
  · exact ((failures_are_logged hpassed halike .stop).2 .timedOut rfl).2 rfl rfl
  · exact ((failures_are_logged hpassed halike .enableAdapter).2 .timedOut rfl).1 (.inl nofun)
  · intro hnotice
    obtain ⟨f, hf⟩ :=
      (failures_are_logged hpassed halike (.unsetCallback ⟨.socketData, nofun⟩)).1.mpr hnotice
    exact absurd hf nofun

end Session

end BluetoothHost
