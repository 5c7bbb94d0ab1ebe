import BluetoothHost.Host

/-!
# `Proofs.Operations` — what an operation does to the host, and what it asks of the vendor

An operation passes three gates: the state of the host, its arguments, the vendor. This module says once
what lies behind each of them, so that no later proof opens an operation again: which condition a task
relies on (`yields_of_task`), which calls of the vendor it makes and with which status they are answered
(`exchanges_*`), what it replies (`reply_*`), and which host and which vendor it leaves behind (`host_*`,
`vendor_*`).

## Contents
- `Entry.exchanges`: the calls of the vendor, with the status of each.
- `exchanges_forward` and `asked_run`: a command is one call, a reading only asks (`Vendor.Asked`).
- `Host.Meets`, `Operation.Yields`, `Host.meets_of_check`: what a task that is carried out may rely on.
- `exchanges_start`, `reply_start`, `host_start` and their like: coming up and going down, with
  `perform_stop` and `perform_stopHid`.
- `Entry.slots`, `Operation.slots`, `Host.slots_perform`: how slots are filled and emptied.
-/

namespace BluetoothHost

/-! ## Calls with their status -/

/-- The call of the vendor that an entry stands for, with the status it was answered with. -/
def Entry.exchange? : Entry → Option (Call × Status)
  | .call c s => some (c, s)
  | _ => none

/-- The calls of the vendor among some entries. -/
def Entry.exchanges (t : List Entry) : List (Call × Status) := t.filterMap Entry.exchange?

namespace Entry

@[simp] theorem exchanges_nil : exchanges [] = [] := rfl

@[simp] theorem exchanges_append (s t : List Entry) :
    exchanges (s ++ t) = exchanges s ++ exchanges t :=
  List.filterMap_append

@[simp] theorem exchanges_cons_call (c : Call) (s : Status) (t : List Entry) :
    exchanges (.call c s :: t) = (c, s) :: exchanges t := rfl

@[simp] theorem exchanges_cons_notice (n : Notice) (t : List Entry) :
    exchanges (.notice n :: t) = exchanges t := rfl

@[simp] theorem exchanges_cons_registered (k : EventKind) (n : Nat) (t : List Entry) :
    exchanges (.registered k n :: t) = exchanges t := rfl

@[simp] theorem exchanges_cons_released (k : EventKind) (t : List Entry) :
    exchanges (.released k :: t) = exchanges t := rfl

@[simp] theorem exchanges_cons_releasedAll (t : List Entry) :
    exchanges (.releasedAll :: t) = exchanges t := rfl

@[simp] theorem exchanges_cons_handled (e : Event) (t : List Entry) :
    exchanges (.handled e :: t) = exchanges t := rfl

/-- Notices are no calls. -/
@[simp] theorem exchanges_map_notice (ns : List Notice) : exchanges (ns.map .notice) = [] := by
  induction ns with
  | nil => rfl
  | cons n rest ih => exact ih

end Entry

/-! ## Commands and queries -/

/-- A status that the caller learns as a failure is none of success. -/
theorem Status.ne_success_of_outcome {s : Status} {f : Fault} (hs : s.outcome = .error f) :
    s ≠ .success := by
  intro h
  rw [(outcome_eq_ok_iff s).mpr h] at hs
  exact absurd hs (by simp)

/-- A command leaves what the vendor answers with alone. -/
@[simp] theorem Vendor.verdict_linked (v : Vendor) (c d : Command) :
    (v.linked c).verdict d = v.verdict d := by
  cases c <;> rfl

/-- A command is one call, and what the caller learns is what its status means. -/
theorem forward_eq (operation : String) (c : Command) (v : Vendor) :
    forward operation c v = ((v.verdict c).outcome, v.linked c,
      .call (.command c) (v.verdict c) :: (conclude operation (v.verdict c)).2.map .notice) := by
  rw [← conclude_fst operation (v.verdict c)]
  rfl

theorem exchanges_forward (operation : String) (c : Command) (v : Vendor) :
    Entry.exchanges (forward operation c v).2.2 = [(.command c, v.verdict c)] := by
  simp [forward_eq]

/-- A query, or a notice of how it went. Commands are none, nor is whatever changes the registry. -/
def Entry.IsQuery : Entry → Prop
  | .call c _ => ∀ command : Command, c ≠ .command command
  | .notice _ => True
  | _ => False

/-- Nothing but queries and notices. -/
def Entry.Queries (t : List Entry) : Prop := ∀ e ∈ t, e.IsQuery

theorem Entry.Queries.append {s t : List Entry} (hs : Queries s) (ht : Queries t) :
    Queries (s ++ t) := by
  intro e he
  rcases List.mem_append.mp he with h | h
  · exact hs e h
  · exact ht e h

theorem Entry.queries_notices (ns : List Notice) : Queries (ns.map .notice) := by
  intro e he
  obtain ⟨n, -, rfl⟩ := List.mem_map.mp he
  exact trivial

/-- The calls among queries are none of commands. -/
theorem Entry.Queries.ne_command {t : List Entry} (ht : Queries t) {x : Call × Status}
    (hx : x ∈ exchanges t) (command : Command) : x.1 ≠ .command command := by
  obtain ⟨e, he, heq⟩ := List.mem_filterMap.mp hx
  have hq := ht e he
  cases e with
  | call c s =>
    obtain rfl := Option.some.inj heq
    exact hq command
  | notice | registered | released | releasedAll | handled => exact absurd heq (by simp [exchange?])

/-- What a query is recorded as is never a command. -/
theorem Query.ne_command_of_mem_calls {α : Type} {q : Query α} {c : Call} (hc : c ∈ q.calls)
    (command : Command) : c ≠ .command command := by
  rintro rfl
  cases q <;> simp [Query.calls] at hc

/-- The vendor records a query as that query, or not at all. -/
theorem Vendor.calls_ask {α : Type} (v : Vendor) (q : Query α) :
    (v.ask q).2.2 = [] ∨ (v.ask q).2.2 = q.calls := by
  unfold Vendor.ask
  split
  · exact .inl rfl
  · split
    · exact .inr rfl
    · exact .inr rfl

/-- A query that is answered without a change of the vendor leaves it as it is, answered or not. -/
theorem Vendor.ask_frame {α : Type} {v : Vendor} {q : Query α} (h : v.answered q = v) :
    (v.ask q).2.1 = v := by
  unfold Vendor.ask
  split
  · rfl
  · split
    · exact h
    · rfl

/-- From `v` to `v'` the vendor has been asked, and no more: no command has been given, the registry is
    left alone, and of the vendor nothing has changed but the descriptor of the next socket. -/
structure Vendor.Asked (v : Vendor) (t : List Entry) (v' : Vendor) : Prop where
  same : v' = { v with nextDescriptor := v'.nextDescriptor }
  queries : Entry.Queries t

namespace Vendor.Asked

variable {v v' v'' : Vendor} {t u : List Entry}

theorem refl (v : Vendor) : v.Asked [] v := ⟨rfl, fun _ he => absurd he List.not_mem_nil⟩

theorem trans (h : v.Asked t v') (h' : v'.Asked u v'') : v.Asked (t ++ u) v'' := by
  refine ⟨?_, h.queries.append h'.queries⟩
  calc v'' = { v' with nextDescriptor := v''.nextDescriptor } := h'.same
    _ = { v with nextDescriptor := v''.nextDescriptor } :=
      congrArg (fun x : Vendor => { x with nextDescriptor := v''.nextDescriptor }) h.same

/-- Notices make no difference. -/
theorem noting (h : v.Asked t v') (ns : List Notice) : v.Asked (t ++ ns.map .notice) v' :=
  ⟨h.same, h.queries.append (Entry.queries_notices ns)⟩

/-- The dispatchers stay as they are. -/
theorem isLinked (h : v.Asked t v') (s : Source) : v'.isLinked s = v.isLinked s := by
  rw [h.same]
  cases s <;> rfl

end Vendor.Asked

/-- A query asks the vendor for nothing else. -/
theorem asked_inquire {α : Type} (operation : String) (q : Query α) (v : Vendor) :
    v.Asked (inquire operation q v).2.2 (inquire operation q v).2.1 := by
  have hask : v.Asked ((v.ask q).2.2.map (Entry.call · (answerStatus (v.ask q).1))) (v.ask q).2.1 := by
    constructor
    · unfold Vendor.ask
      split
      · rfl
      · split
        · cases q <;> rfl
        · rfl
    · intro e he
      obtain ⟨c, hc, rfl⟩ := List.mem_map.mp he
      rcases v.calls_ask q with h | h
      · rw [h] at hc; exact absurd hc List.not_mem_nil
      · rw [h] at hc; exact Query.ne_command_of_mem_calls hc
  exact hask.noting (concludeAnswer operation (v.ask q).1).2

theorem asked_readVisibility (operation : String) (v : Vendor) :
    v.Asked (readVisibility operation v).2.2 (readVisibility operation v).2.1 := by
  have hq := asked_inquire operation .scanMode v
  unfold readVisibility
  split
  · rename_i heq; rw [heq] at hq; exact hq
  · rename_i heq; rw [heq] at hq
    exact hq.trans (asked_inquire operation .scanTimeout _)
  · rename_i heq; rw [heq] at hq; exact hq

theorem asked_readEachBonded (operation : String) (continues : List Device → Bool) (v : Vendor) :
    v.Asked (readEachBonded operation continues v).2.2 (readEachBonded operation continues v).2.1 := by
  have hq := asked_inquire operation .bondedDevices v
  unfold readEachBonded
  split
  · rename_i heq; rw [heq] at hq; exact hq
  · rename_i heq; rw [heq] at hq
    split
    · exact hq
    · exact hq.noting [_]

theorem asked_readBonded (operation : String) (address : Address) (v : Vendor) :
    v.Asked (readBonded operation address v).2.2 (readBonded operation address v).2.1 := by
  have hq := asked_inquire operation (.bondedDevice address) v
  unfold readBonded
  split
  · rename_i heq; rw [heq] at hq; exact hq
  · rename_i heq; rw [heq] at hq
    split
    · exact hq
    · exact hq.noting [_]

/-- **A reading asks the vendor**, and no more. -/
theorem asked_run (operation : String) (r : Reading) (v : Vendor) :
    v.Asked (r.run operation v).2.2 (r.run operation v).2.1 := by
  cases r with
  | power => exact .refl v
  | address => exact asked_inquire operation _ v
  | name => exact asked_inquire operation _ v
  | visibility => exact asked_readVisibility operation v
  | isDiscovering => exact asked_inquire operation _ v
  | eachBonded continues => exact asked_readEachBonded operation continues v
  | bonded address => exact asked_readBonded operation address v
  | isServiceUsed uuid => exact asked_inquire operation _ v
  | createSocket uuid => exact asked_inquire operation _ v
  | write number octets => exact asked_inquire operation _ v

/-! ## What a task may rely on -/

/-- The host is in the state that a condition asks for. -/
def Host.Meets {κ : Type} (h : Host κ) : Condition → Prop
  | .always => True
  | .started => h.started = true
  | .hidStarted => h.started = true ∧ h.hidStarted = true
  | .hidStopped => h.started = true ∧ h.hidStarted = false

/-- The condition that carrying out a task relies on. -/
def Task.condition {κ : Type} : Task κ → Condition
  | .start => .always
  | .startHid _ => .hidStopped
  | .stopHid | .command (.connectHid _) | .command (.disconnectHid _) => .hidStarted
  | _ => .started

/-- Dispatchers come and go with tasks of their own; a task that passes a command on leaves them be. -/
def Task.keepsDispatchers {κ : Type} : Task κ → Bool
  | .command .register | .command .unregister | .command .startHid | .command .stopHid => false
  | _ => true

/-- The slot that an operation fills if it succeeds, and with which callback. -/
def Operation.slot? {κ : Type} : Operation κ → Option (EventKind × κ)
  | .startHidHost callback => some (.hidConnection, callback)
  | .setCallback kind callback => some (kind, callback)
  | _ => none

/-- The slot that a task fills if it succeeds, and with which callback. -/
def Task.slot? {κ : Type} : Task κ → Option (EventKind × κ)
  | .startHid callback => some (.hidConnection, callback)
  | .setCallback kind callback => some (kind, callback)
  | _ => none

/-- The slot that an operation empties if it succeeds, without taking anything down. -/
def Operation.unset? {κ : Type} : Operation κ → Option EventKind
  | .unsetCallback kind => some kind
  | _ => none

/-- The slot that a task empties if it succeeds, without taking anything down. -/
def Task.unset? {κ : Type} : Task κ → Option EventKind
  | .unsetCallback kind => some kind
  | _ => none

/-- Whether an operation takes the host down, or its HID host. -/
def Operation.isTeardown {κ : Type} : Operation κ → Bool
  | .stop | .stopHidHost => true
  | _ => false

/-- Whether a task takes the host down, or its HID host. -/
def Task.isTeardown {κ : Type} : Task κ → Bool
  | .stop | .stopHid => true
  | _ => false

/-- What a task has from the operation it is left of. -/
structure Operation.Yields {κ : Type} (op : Operation κ) (task : Task κ) : Prop where
  condition : task.condition = op.condition
  keepsDispatchers : task.keepsDispatchers = true
  slot : task.slot? = op.slot?
  unset : task.unset? = op.unset?
  isTeardown : task.isTeardown = op.isTeardown

/-- What goes on and succeeds has succeeded first, with a value to go on with. -/
theorem exists_of_bind_eq_ok {ε α β : Type} {x : Except ε α} {f : α → Except ε β} {b : β}
    (hb : x >>= f = .ok b) : ∃ a, x = .ok a ∧ f a = .ok b := by
  cases x with
  | error r => exact absurd hb (by simp [bind, Except.bind])
  | ok a => exact ⟨a, rfl, hb⟩

section Gates

variable {κ : Type} {h : Host κ} {op : Operation κ} {task : Task κ}

/-- **An operation asks for what its task relies on**, leaves the dispatchers to the tasks that are
    about them, has its slot filled, and takes down what its task does. -/
theorem Operation.yields_of_task (ht : op.task = .ok task) : op.Yields task := by
  cases op with
  | start | stop | enableAdapter | disableAdapter | adapterState | adapterAddress | adapterName
  | visibility | startDiscovery | stopDiscovery | isDiscovering | eachBondedDevice | cancelBonding
  | cancelServiceSearch | startHidHost | stopHidHost | setCallback | unsetCallback =>
    -- without arguments there is nothing to check
    obtain rfl := Except.ok.inj ht
    exact ⟨rfl, rfl, rfl, rfl, rfl⟩
  | setAdapterName | setVisibility | bondedDevice | isServiceUsed | createBond | destroyBond
  | setAlias | setAuthorization | startServiceSearch | createSocket | destroySocket
  | listenAndAccept | listen | acceptConnection | rejectConnection | disconnectSocket | sendData
  | connectHid | disconnectHid =>
    obtain ⟨_, -, ha⟩ := exists_of_bind_eq_ok ht
    obtain rfl := Except.ok.inj ha
    exact ⟨rfl, rfl, rfl, rfl, rfl⟩
  | connectSocket =>
    -- the address is checked first, the UUID after it
    obtain ⟨_, -, ha⟩ := exists_of_bind_eq_ok ht
    obtain ⟨_, -, hb⟩ := exists_of_bind_eq_ok ha
    obtain rfl := Except.ok.inj hb
    exact ⟨rfl, rfl, rfl, rfl, rfl⟩
  | serviceMask uuids =>
    simp only [Operation.task] at ht
    split at ht
    · exact absurd ht (by simp)
    · obtain rfl := Except.ok.inj ht
      exact ⟨rfl, rfl, rfl, rfl, rfl⟩

theorem Host.meets_of_checkCondition {c : Condition} (hc : h.checkCondition c = .ok ()) :
    h.Meets c := by
  unfold Host.checkCondition at hc
  unfold Host.Meets
  cases c <;> grind

/-- A task that is left of the checks is the operation's. -/
theorem Host.yields_of_check (hc : h.check op = .ok task) : op.Yields task := by
  unfold Host.check at hc
  split at hc
  · exact absurd hc (by simp)
  · exact Operation.yields_of_task hc

/-- **What is behind the gates.** An operation that passes all checks becomes a task, and the host is in
    the state that the task relies on. -/
theorem Host.meets_of_check (hc : h.check op = .ok task) :
    h.Meets task.condition ∧ task.keepsDispatchers = true := by
  have hyields := Host.yields_of_check hc
  refine ⟨?_, hyields.keepsDispatchers⟩
  unfold Host.check at hc
  split at hc
  · exact absurd hc (by simp)
  · rename_i hcond
    rw [hyields.condition]
    exact Host.meets_of_checkCondition hcond

end Gates

/-! ## Coming up and going down

What the vendor is asked on the way, what is replied, and the host and the vendor that are left. -/

namespace Host

variable {κ : Type} (h : Host κ) (v : Vendor)

/-- A host that is up is not started again. -/
theorem start_of_started {h : Host κ} (hs : h.started = true) :
    h.start v = ⟨unitReply (.ok ()), h, v, [.notice .alreadyStarted]⟩ := by
  simp [start, hs]

theorem exchanges_start {h : Host κ} (hs : h.started = false) :
    Entry.exchanges (h.start v).trace = [(.command .register, v.verdict .register)] := by
  cases hv : (v.verdict .register).outcome with
  | ok u => simp [start, hs, forward_eq, hv]
  | error f => simp [start, hs, forward_eq, hv]

/-- Starting leaves a host that is up if the vendor agrees, and the same host if it does not. -/
theorem host_start {h : Host κ} (hs : h.started = false) :
    (h.start v).host = if v.verdict .register = .success then { h with started := true } else h := by
  cases hv : (v.verdict .register).outcome with
  | ok u =>
    rw [if_pos ((Status.outcome_eq_ok_iff _).mp hv)]
    simp [start, hs, forward_eq, hv]
  | error f =>
    rw [if_neg (Status.ne_success_of_outcome hv)]
    simp [start, hs, forward_eq, hv]

theorem reply_start {h : Host κ} (hs : h.started = false) :
    (h.start v).reply = unitReply (v.verdict .register).outcome := by
  cases hv : (v.verdict .register).outcome with
  | ok u => simp [start, hs, forward_eq, hv]
  | error f => simp [start, hs, forward_eq, hv]

/-- The dispatcher is handed over before the vendor answers. -/
theorem vendor_start {h : Host κ} (hs : h.started = false) :
    (h.start v).vendor = v.linked .register := by
  cases hv : (v.verdict .register).outcome with
  | ok u => simp [start, hs, forward_eq, hv]
  | error f => simp [start, hs, forward_eq, hv]

/-- Stopping takes the HID host down first, if it is up. -/
theorem exchanges_stop :
    Entry.exchanges (h.stop v).trace =
      (if h.hidStarted then [(.command .stopHid, v.verdict .stopHid)] else []) ++
        [(.command .unregister, v.verdict .unregister)] := by
  cases hh : h.hidStarted with
  | true => simp [stop, stopHidFirst, hh, forward_eq, Vendor.command]
  | false => simp [stop, stopHidFirst, hh, Vendor.command]

theorem host_stop :
    (h.stop v).host =
      { h with started := false, hidStarted := false, registry := h.registry.clear } := rfl

/-- What is replied to stopping is what the vendor says to being disconnected from. -/
theorem reply_stop : (h.stop v).reply = unitReply (v.verdict .unregister).outcome := by
  cases hh : h.hidStarted with
  | true => simp [stop, stopHidFirst, hh, forward_eq, Vendor.command, conclude_fst]
  | false => simp [stop, stopHidFirst, hh, Vendor.command, conclude_fst]

theorem vendor_stop :
    (h.stop v).vendor =
      (if h.hidStarted then v.linked .stopHid else v).linked .unregister := by
  cases hh : h.hidStarted with
  | true => simp [stop, stopHidFirst, hh, forward_eq, Vendor.command]
  | false => simp [stop, stopHidFirst, hh, Vendor.command]

theorem exchanges_startHid (number : Nat) (callback : κ) :
    Entry.exchanges (h.startHid number callback v).trace = [(.command .startHid, v.verdict .startHid)] := by
  cases hv : (v.verdict .startHid).outcome with
  | ok u => simp [startHid, forward_eq, hv]
  | error f => simp [startHid, forward_eq, hv]

/-- The HID host comes up, and its callback is registered, only if the vendor agrees. -/
theorem host_startHid (number : Nat) (callback : κ) :
    (h.startHid number callback v).host =
      if v.verdict .startHid = .success then
        { h.register .hidConnection number callback with hidStarted := true }
      else h := by
  cases hv : (v.verdict .startHid).outcome with
  | ok u =>
    rw [if_pos ((Status.outcome_eq_ok_iff _).mp hv)]
    simp [startHid, forward_eq, hv]
  | error f =>
    rw [if_neg (Status.ne_success_of_outcome hv)]
    simp [startHid, forward_eq, hv]

theorem reply_startHid (number : Nat) (callback : κ) :
    (h.startHid number callback v).reply = unitReply (v.verdict .startHid).outcome := by
  cases hv : (v.verdict .startHid).outcome with
  | ok u => simp [startHid, forward_eq, hv]
  | error f => simp [startHid, forward_eq, hv]

theorem vendor_startHid (number : Nat) (callback : κ) :
    (h.startHid number callback v).vendor = v.linked .startHid := by
  cases hv : (v.verdict .startHid).outcome with
  | ok u => simp [startHid, forward_eq, hv]
  | error f => simp [startHid, forward_eq, hv]

theorem exchanges_stopHid :
    Entry.exchanges (h.stopHid v).trace = [(.command .stopHid, v.verdict .stopHid)] := by
  simp [stopHid, forward_eq]

theorem host_stopHid :
    (h.stopHid v).host = { h.release .hidConnection with hidStarted := false } := rfl

theorem reply_stopHid : (h.stopHid v).reply = unitReply (v.verdict .stopHid).outcome := by
  simp [stopHid, forward_eq]

theorem vendor_stopHid : (h.stopHid v).vendor = v.linked .stopHid := rfl

/-- A host that is up can be stopped. -/
theorem perform_stop {h : Host κ} (hs : h.started = true) (number : Nat) :
    h.perform number .stop v = h.stop v := by
  have hpassed : h.check .stop = .ok .stop := by
    simp [check, checkCondition, Operation.condition, Operation.task, hs]
  rw [perform_of_task hpassed]
  rfl

/-- A HID host that is up can be stopped. -/
theorem perform_stopHid {h : Host κ} (hs : h.started = true) (hh : h.hidStarted = true) (number : Nat) :
    h.perform number .stopHidHost v = h.stopHid v := by
  have hpassed : h.check .stopHidHost = .ok .stopHid := by
    simp [check, checkCondition, Operation.condition, Operation.task, hs, hh]
  rw [perform_of_task hpassed]
  rfl

end Host

/-! ## The slots

A slot is filled or emptied by an operation that succeeds, and emptied by whatever disconnects from the
vendor: that is seen from the calls of the vendor. -/

section Slots

variable {κ : Type}

/-- What the slots hold after an entry: none holds anything once the vendor has been disconnected from, and
    that of the HID host holds nothing once this has been stopped. -/
def Entry.slots (get : EventKind → Option (Registration κ)) : Entry → EventKind → Option (Registration κ)
  | .call (.command .unregister) _ => fun _ => none
  | .call (.command .stopHid) _ => fun k => if k = .hidConnection then none else get k
  | _ => get

/-- What the slots hold after an operation has been answered: if it has succeeded, its slot holds its
    callback, under this number, or nothing. -/
def Operation.slots (op : Operation κ) (number : Nat) (reply : Reply)
    (get : EventKind → Option (Registration κ)) (k : EventKind) : Option (Registration κ) :=
  match reply.result, op.slot?, op.unset? with
  | .ok _, some (kind, callback), _ => if k = kind then some ⟨number, kind, callback⟩ else get k
  | .ok _, none, some kind => if k = kind then none else get k
  | _, _, _ => get k

variable {get : EventKind → Option (Registration κ)} {k : EventKind} {x : Registration κ}

/-- Entries that empty no slot leave them all as they are. -/
theorem Entry.foldl_slots_of_keeps {t : List Entry} (ht : ∀ e ∈ t, slots get e = get) :
    t.foldl slots get = get := by
  induction t with
  | nil => rfl
  | cons e rest ih =>
    rw [List.foldl_cons, ht e List.mem_cons_self]
    exact ih fun x hx => ht x (List.mem_cons_of_mem e hx)

@[simp] theorem Entry.foldl_slots_notices (ns : List Notice) : (ns.map .notice).foldl slots get = get := by
  refine foldl_slots_of_keeps fun e he => ?_
  obtain ⟨n, -, rfl⟩ := List.mem_map.mp he
  rfl

theorem Entry.foldl_slots_queries {t : List Entry} (ht : Queries t) : t.foldl slots get = get := by
  refine foldl_slots_of_keeps fun e he => ?_
  have hq := ht e he
  cases e with
  | call c s =>
    cases c with
    | command command => exact absurd rfl (hq command)
    | bondedDevices | bondedDevice | createSocket | write => rfl
  | notice => rfl
  | registered | released | releasedAll | handled => exact hq.elim

/-- A command empties no slot but on the way down. -/
theorem Entry.foldl_slots_forward {c : Command} (hc : (Task.command c : Task κ).keepsDispatchers = true)
    (operation : String) (v : Vendor) : (forward operation c v).2.2.foldl slots get = get := by
  rw [forward_eq, List.foldl_cons, foldl_slots_notices]
  cases c with
  | register | unregister | startHid | stopHid => exact absurd hc nofun
  | _ => rfl

theorem Operation.slots_of_error {op : Operation κ} {number : Nat} {reply : Reply} {f : Fault}
    (hf : reply.result = .error f) : op.slots number reply get = get := by
  funext k
  simp [slots, hf]

theorem Operation.slots_of_none {op : Operation κ} (hs : op.slot? = none) (hu : op.unset? = none)
    (number : Nat) (reply : Reply) : op.slots number reply get = get := by
  funext k
  unfold slots
  rw [hs, hu]
  cases reply.result <;> rfl

/-- A slot holds what it held before, or the callback of the operation, which has succeeded, under the
    new number. -/
theorem Operation.eq_of_slots {op : Operation κ} {number : Nat} {reply : Reply}
    (hx : op.slots number reply get k = some x) :
    get k = some x ∨ (x.kind = k ∧ x.number = number ∧ op.slot? = some (x.kind, x.callback) ∧
      ∃ value, reply.result = .ok value) := by
  cases hok : reply.result with
  | error f =>
    rw [slots_of_error hok] at hx
    exact .inl hx
  | ok value =>
    cases hslot : op.slot? with
    | some filled =>
      obtain ⟨kind, callback⟩ := filled
      simp only [slots, hok, hslot] at hx
      split at hx
      · rename_i hk
        obtain rfl := Option.some.inj hx
        exact .inr ⟨hk.symm, rfl, rfl, value, rfl⟩
      · exact .inl hx
    | none =>
      cases hunset : op.unset? with
      | some kind =>
        simp only [slots, hok, hslot, hunset] at hx
        split at hx
        · exact absurd hx nofun
        · exact .inl hx
      | none =>
        rw [slots_of_none hslot hunset] at hx
        exact .inl hx

/-- Entries fill no slot. -/
theorem Entry.eq_of_slots {e : Entry} (hx : slots get e k = some x) : get k = some x := by
  unfold slots at hx
  split at hx
  · exact absurd hx nofun
  · split at hx
    · exact absurd hx nofun
    · exact hx
  · exact hx

theorem Entry.eq_of_foldl_slots {t : List Entry} (hx : t.foldl slots get k = some x) :
    get k = some x := by
  induction t generalizing get with
  | nil => exact hx
  | cons e rest ih => exact eq_of_slots (ih hx)

end Slots

section Frames

variable {κ : Type} {h : Host κ} {op : Operation κ} {task : Task κ}

/-- Carrying out a task changes the slots as its calls of the vendor and its reply say, and makes no call
    due. -/
theorem Host.slots_carryOut (hyields : op.Yields task) (operation : String) (number : Nat) (v : Vendor) :
    (h.carryOut operation number v task).host.registry.get =
        op.slots number (h.carryOut operation number v task).reply
          ((h.carryOut operation number v task).trace.foldl Entry.slots h.registry.get) ∧
      (h.carryOut operation number v task).host.pending = h.pending := by
  have hslot := hyields.slot
  have hunset := hyields.unset
  cases task with
  -- a task that is about no slot of its own changes none, however it is answered
  | start =>
    rw [Operation.slots_of_none hslot.symm hunset.symm]
    show (h.start v).host.registry.get = (h.start v).trace.foldl Entry.slots h.registry.get ∧
      (h.start v).host.pending = h.pending
    cases hs : h.started with
    | true =>
      rw [Host.start_of_started v hs]
      exact ⟨rfl, rfl⟩
    | false =>
      cases hv : (v.verdict .register).outcome <;> simp [Host.start, hs, forward_eq, hv, Entry.slots]
  | stop =>
    rw [Operation.slots_of_none hslot.symm hunset.symm]
    refine ⟨?_, rfl⟩
    show h.registry.clear.get = (h.stop v).trace.foldl Entry.slots h.registry.get
    simp [Host.stop, Entry.slots, Registry.clear, Registry.empty]
  | stopHid =>
    rw [Operation.slots_of_none hslot.symm hunset.symm]
    refine ⟨?_, rfl⟩
    show (h.registry.unset .hidConnection).get = (h.stopHid v).trace.foldl Entry.slots h.registry.get
    simp [Host.stopHid, forward_eq, Entry.slots, Registry.unset]
  | command c =>
    rw [Operation.slots_of_none hslot.symm hunset.symm]
    exact ⟨(Entry.foldl_slots_forward hyields.keepsDispatchers operation v).symm, rfl⟩
  | read r =>
    rw [Operation.slots_of_none hslot.symm hunset.symm]
    exact ⟨(Entry.foldl_slots_queries (asked_run operation r v).queries).symm, rfl⟩
  | serviceMask uuids =>
    rw [Operation.slots_of_none hslot.symm hunset.symm]
    refine ⟨(Entry.foldl_slots_of_keeps fun e he => ?_).symm, rfl⟩
    obtain ⟨uuid, -, rfl⟩ := List.mem_map.mp he
    rfl
  | startHid callback =>
    have hop : op.slot? = some (.hidConnection, callback) := hslot.symm
    show (h.startHid number callback v).host.registry.get = Operation.slots _ _ _ _ ∧
      (h.startHid number callback v).host.pending = h.pending
    cases hv : (v.verdict .startHid).outcome with
    | ok u =>
      refine ⟨funext fun k => ?_, ?_⟩
      · simp [Host.carryOut, Host.startHid, forward_eq, hv, Entry.slots, Operation.slots, hop,
          Host.unitReply, Except.map, Host.register, Registry.set]
      · simp [Host.startHid, forward_eq, hv, Host.register]
    | error f =>
      rw [Operation.slots_of_error (f := f)]
      · simp [Host.carryOut, Host.startHid, forward_eq, hv, Entry.slots]
      · simp [Host.carryOut, Host.startHid, forward_eq, hv, Host.unitReply, Except.map]
  | setCallback kind callback =>
    refine ⟨funext fun k => ?_, rfl⟩
    have hop : op.slot? = some (kind.1, callback) := hslot.symm
    simp [Host.carryOut, Operation.slots, hop, Entry.slots, Host.register, Registry.set]
  | unsetCallback kind =>
    refine ⟨funext fun k => ?_, rfl⟩
    have hop : op.slot? = none := hslot.symm
    have hop' : op.unset? = some kind.1 := hunset.symm
    simp [Host.carryOut, Operation.slots, hop, hop', Entry.slots, Host.release, Registry.unset]

/-- **The slots after an operation** are as its calls of the vendor and its reply say. -/
theorem Host.slots_perform (h : Host κ) (number : Nat) (op : Operation κ) (v : Vendor) :
    (h.perform number op v).host.registry.get =
      op.slots number (h.perform number op v).reply
        ((h.perform number op v).trace.foldl Entry.slots h.registry.get) := by
  cases hc : h.check op with
  | error refusal =>
    -- a refusal is no success, so no slot changes
    rw [Host.perform_of_refused hc, Operation.slots_of_error rfl]
    rfl
  | ok task =>
    rw [Host.perform_of_task hc]
    exact (Host.slots_carryOut (Host.yields_of_check hc) op.name number v).1

/-- No operation makes a call due, or makes one that is. -/
theorem Host.pending_perform (h : Host κ) (number : Nat) (op : Operation κ) (v : Vendor) :
    (h.perform number op v).host.pending = h.pending := by
  cases hc : h.check op with
  | error refusal => rw [Host.perform_of_refused hc]
  | ok task =>
    rw [Host.perform_of_task hc]
    exact (Host.slots_carryOut (Host.yields_of_check hc) op.name number v).2

/-- No operation handles an event. -/
theorem Host.unhandled_perform (h : Host κ) (number : Nat) (op : Operation κ) (v : Vendor)
    (e : Event) : Entry.handled e ∉ (h.perform number op v).trace := by
  cases hc : h.check op with
  | error refusal => simp [Host.perform_of_refused hc]
  | ok task =>
    rw [Host.perform_of_task hc]
    cases task with
    | start =>
      show Entry.handled e ∉ (h.start v).trace
      cases hs : h.started with
      | true => simp [Host.start_of_started v hs]
      | false => cases hv : (v.verdict .register).outcome <;> simp [Host.start, hs, forward_eq, hv]
    | stop =>
      show Entry.handled e ∉ (h.stop v).trace
      cases hh : h.hidStarted <;> simp [Host.stop, Host.stopHidFirst, hh, forward_eq]
    | startHid callback =>
      show Entry.handled e ∉ (h.startHid number callback v).trace
      cases hv : (v.verdict .startHid).outcome <;> simp [Host.startHid, forward_eq, hv]
    | stopHid =>
      show Entry.handled e ∉ (h.stopHid v).trace
      simp [Host.stopHid, forward_eq]
    | setCallback kind callback => simp [Host.carryOut]
    | unsetCallback kind => simp [Host.carryOut]
    | command c =>
      show Entry.handled e ∉ (forward op.name c v).2.2
      simp [forward_eq]
    | read r => exact fun he => (asked_run op.name r v).queries _ he
    | serviceMask uuids => simp [Host.carryOut]

/-- What a slot holds after an operation it held before, or it is the callback of the operation, under the
    new number. -/
theorem Host.get_perform {number : Nat} {v : Vendor} {k : EventKind} {x : Registration κ}
    (hx : (h.perform number op v).host.registry.get k = some x) :
    h.registry.get k = some x ∨
      (x.kind = k ∧ x.number = number ∧ op.slot? = some (x.kind, x.callback)) := by
  rw [Host.slots_perform] at hx
  rcases Operation.eq_of_slots hx with hold | ⟨hkind, hnumber, hslot, -⟩
  · exact .inl (Entry.eq_of_foldl_slots hold)
  · exact .inr ⟨hkind, hnumber, hslot⟩

end Frames

end BluetoothHost
