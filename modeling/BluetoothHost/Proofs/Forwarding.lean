import BluetoothHost.Proofs.Preconditions
import BluetoothHost.Proofs.Visits

/-!
# `Proofs.Forwarding` — what passes the checks is asked once, and its answer translated once

Two tables say what an operation comes to when it passes the checks: the calls of the vendor that belong to
it (`Host.calls`), with the arguments it was given and the address that is written in its text; and what the
vendor has to say to it (`Host.Answers`). The vendor gets these calls and no others, and the result is the
answer, translated (`Translates`): the value that was answered, the fault of the status that explains a
failure, or `operationFailed` where nothing explains it (`forwarded_once`).

An operation is a task once its arguments have been checked, so both tables are tables of tasks as well
(`Task.calls`, `Task.Answers`), and what is proved of the nine tasks holds of all operations.

## Contents
- `Answer`, `translation` and `Translates`.
- `Vendor.hears`: the calls that reach the vendor; `Reading.FailsWith` and `Reading.Answers`: what it has to
  say to someone who finds something out.
- `Operation.Names`; `Host.calls`, `Host.Answers`: the tables.
- `Task.calls`, `Task.Answers`, `Operation.tables_of_task`: the tables of tasks are those of operations.
- `inquire_eq`, `ReadResult.Reports`, `Reading.reports_run`: a reading makes its calls and says what was
  answered.
- `Host.calls_carryOut`, `Host.answered_carryOut`: so does every task.
- `Host.forwarded_once`.
-/

namespace BluetoothHost

/-! ## Answers and results -/

/-- What the vendor has to say to an operation: a value, a record that gives none, or the status of a
    failure. -/
abbrev Answer := Except Status (Option Value)

/-- The result that an answer is translated into. -/
def translation : Answer → Except Fault Value
  | .ok (some value) => .ok value
  | .ok none => .error .operationFailed
  | .error s => .error (s.fault?.getD .operationFailed)

/-- A result says what an answer says: it succeeds with the value that was answered and no other, and it
    fails with the fault of the status that the vendor fails with. A failure that the vendor gives success
    as the reason for, and a record that gives no value, are failures without a closer reason. -/
structure Translates (answer : Answer) (result : Except Fault Value) : Prop where
  ok_iff : ∀ value, result = .ok value ↔ answer = .ok (some value)
  failed : ∀ s f, answer = .error s → s.fault? = some f → result = .error f
  unreasoned : answer = .error .success → result = .error .operationFailed
  unconverted : answer = .ok none → result = .error .operationFailed

theorem translates_translation (answer : Answer) : Translates answer (translation answer) := by
  constructor
  · intro value
    rcases answer with s | value? | answered <;> simp [translation]
  · rintro s f rfl hf
    simp [translation, hf]
  · rintro rfl
    rfl
  · rintro rfl
    rfl

/-! ## What the vendor has to say -/

/-- What the vendor answers to a command. -/
def Vendor.tell (v : Vendor) (c : Command) : Answer :=
  if v.verdict c = .success then .ok (some .unit) else .error (v.verdict c)

/-- What the vendor has to say to someone who makes these calls for their effect: what it answers to the
    last command, and nothing against someone who gives none. -/
def Vendor.tellLast (v : Vendor) (calls : List Call) : Answer :=
  match calls.getLast? with
  | some (.command c) => v.tell c
  | _ => .ok (some .unit)

/-- Whether a call reaches the vendor. A query does not while queries fail ahead of it. -/
def Vendor.hears (v : Vendor) : Call → Bool
  | .command _ => true
  | _ => v.barrier.isNone

/-- A status that ends a reading: a query of it is answered with this status and no value. The vendor is
    asked for the time left only if the scan mode is limited in time. -/
def Reading.FailsWith (v : Vendor) (s : Status) : Reading → Prop
  | .power => False
  | .address => (v.ask .localAddress).1 = .error s
  | .name => (v.ask .localName).1 = .error s
  | .visibility => (v.ask .scanMode).1 = .error s ∨
    (v.ask .scanMode).1 = .ok .timeLimitedDiscoverable ∧ (v.ask .scanTimeout).1 = .error s
  | .isDiscovering => (v.ask .isDiscovering).1 = .error s
  | .eachBonded _ => (v.ask .bondedDevices).1 = .error s
  | .bonded a => (v.ask (.bondedDevice a)).1 = .error s
  | .isServiceUsed uuid => (v.ask (.isServiceUsed uuid)).1 = .error s
  | .createSocket uuid => (v.ask (.createSocket uuid)).1 = .error s
  | .write number octets => (v.ask (.write number octets)).1 = .error s

/-- What the vendor has to say to someone who finds something out. Of bonded devices it gives records; one
    that is broken gives no value, and neither does a visit that reaches one. -/
inductive Reading.Answers (v : Vendor) : Reading → Answer → Prop
  | failed {r : Reading} {s : Status} (fails : r.FailsWith v s) : Answers v r (.error s)
  | poweredOn (power : v.power = .on) : Answers v .power (.ok (some (.adapterState .enabled)))
  | poweredOff (power : v.power = .off) : Answers v .power (.ok (some (.adapterState .disabled)))
  | address {a : Address} {text : String} (told : (v.ask .localAddress).1 = .ok a)
      (canonical : a.Canonical text) : Answers v .address (.ok (some (.text text)))
  | name {name : String} (told : (v.ask .localName).1 = .ok name) :
      Answers v .name (.ok (some (.text name)))
  | nonDiscoverable (told : (v.ask .scanMode).1 = .ok .connectable) :
      Answers v .visibility (.ok (some (.visibility .nonDiscoverable 0)))
  | generalDiscoverable (told : (v.ask .scanMode).1 = .ok .generalDiscoverable) :
      Answers v .visibility (.ok (some (.visibility .generalDiscoverable 0)))
  | limitedDiscoverable {seconds : Int32} (told : (v.ask .scanMode).1 = .ok .timeLimitedDiscoverable)
      (left : (v.ask .scanTimeout).1 = .ok seconds) :
      Answers v .visibility (.ok (some (.visibility .limitedDiscoverable seconds)))
  | isDiscovering {flag : Bool} (told : (v.ask .isDiscovering).1 = .ok flag) :
      Answers v .isDiscovering (.ok (some (.flag flag)))
  | visited {continues : List Device → Bool} {records : List DeviceRecord}
      (told : (v.ask .bondedDevices).1 = .ok records) (whole : ¬ ReachesBroken continues records) :
      Answers v (.eachBonded continues) (.ok (some .unit))
  | unvisited {continues : List Device → Bool} {records : List DeviceRecord}
      (told : (v.ask .bondedDevices).1 = .ok records) (broken : ReachesBroken continues records) :
      Answers v (.eachBonded continues) (.ok none)
  | bonded {a : Address} {record : DeviceRecord} {d : Device}
      (told : (v.ask (.bondedDevice a)).1 = .ok record) (gives : record.Gives d) :
      Answers v (.bonded a) (.ok (some (.device d)))
  | unconverted {a : Address} {record : DeviceRecord} (told : (v.ask (.bondedDevice a)).1 = .ok record)
      (broken : record.Broken) : Answers v (.bonded a) (.ok none)
  | isServiceUsed {uuid : String} {flag : Bool} (told : (v.ask (.isServiceUsed uuid)).1 = .ok flag) :
      Answers v (.isServiceUsed uuid) (.ok (some (.flag flag)))
  | createSocket {uuid : String} {number : Int32} (told : (v.ask (.createSocket uuid)).1 = .ok number) :
      Answers v (.createSocket uuid) (.ok (some (.descriptor number)))
  | write {number : Int32} {octets : List UInt8} {count : Nat}
      (told : (v.ask (.write number octets)).1 = .ok count) :
      Answers v (.write number octets) (.ok (some (.count count)))

/-! ## The tables -/

section Tables

variable {κ : Type}

/-- The text that an operation names a device by. -/
def Operation.addressText? : Operation κ → Option String
  | .bondedDevice text | .createBond text | .destroyBond text | .setAlias text _
  | .setAuthorization text _ | .startServiceSearch text | .connectSocket text _ | .connectHid text
  | .disconnectHid text => some text
  | _ => none

/-- An operation that names a device names the one whose address is written in its text. To one that names
    none it makes no difference. -/
def Operation.Names (op : Operation κ) (a : Address) : Prop :=
  ∀ text, op.addressText? = some text → Address.Written text.toList a.octets

/-- **The calls of the vendor that belong to an operation** that names the device at an address. Most
    operations are one call; the vendor keeps no record of most queries. -/
def Host.calls (h : Host κ) (a : Address) : Operation κ → List Call
  | .start => if h.started then [] else [.command .register]
  | .stop => (if h.hidStarted then [.command .stopHid] else []) ++ [.command .unregister]
  | .enableAdapter => [.command .enableAdapter]
  | .disableAdapter => [.command .disableAdapter]
  | .adapterState | .adapterAddress | .adapterName | .visibility | .isDiscovering
  | .isServiceUsed _ => []
  | .setAdapterName name => [.command (.setName name)]
  | .setVisibility .nonDiscoverable _ => [.command (.setScanMode .connectable 0)]
  | .setVisibility .generalDiscoverable _ => [.command (.setScanMode .generalDiscoverable 0)]
  | .setVisibility .limitedDiscoverable timeout =>
    [.command (.setScanMode .timeLimitedDiscoverable timeout)]
  | .startDiscovery => [.command .startDiscovery]
  | .stopDiscovery => [.command .cancelDiscovery]
  | .eachBondedDevice _ => [.bondedDevices]
  | .bondedDevice _ => [.bondedDevice a]
  | .createBond _ => [.command (.bond a)]
  | .cancelBonding => [.command .cancelBonding]
  | .destroyBond _ => [.command (.unbond a)]
  | .setAlias _ nickname => [.command (.setAlias a nickname)]
  | .setAuthorization _ .authorized => [.command (.authorize a true)]
  | .setAuthorization _ .unauthorized => [.command (.authorize a false)]
  | .startServiceSearch _ => [.command (.searchServices a)]
  | .cancelServiceSearch => [.command .cancelServiceSearch]
  | .serviceMask _ | .setCallback .. | .unsetCallback _ => []
  | .createSocket uuid => [.createSocket uuid]
  | .destroySocket number => [.command (.removeSocket number)]
  | .listenAndAccept number backlog => [.command (.listenAndAccept number backlog)]
  | .listen number backlog => [.command (.listen number backlog)]
  | .acceptConnection number => [.command (.acceptConnection number)]
  | .rejectConnection number => [.command (.rejectConnection number)]
  | .connectSocket _ uuid => [.command (.connectSocket a uuid)]
  | .disconnectSocket number => [.command (.disconnectSocket number)]
  | .sendData number octets => [.write number octets]
  | .startHidHost _ => [.command .startHid]
  | .stopHidHost => [.command .stopHid]
  | .connectHid _ => [.command (.connectHid a)]
  | .disconnectHid _ => [.command (.disconnectHid a)]

/-- **What the vendor has to say to an operation** that names the device at an address. -/
def Host.Answers (h : Host κ) (v : Vendor) (a : Address) (answer : Answer) : Operation κ → Prop
  | .adapterState => Reading.power.Answers v answer
  | .adapterAddress => Reading.address.Answers v answer
  | .adapterName => Reading.name.Answers v answer
  | .visibility => Reading.visibility.Answers v answer
  | .isDiscovering => Reading.isDiscovering.Answers v answer
  | .eachBondedDevice continues => (Reading.eachBonded continues).Answers v answer
  | .bondedDevice _ => (Reading.bonded a).Answers v answer
  | .isServiceUsed uuid => (Reading.isServiceUsed uuid).Answers v answer
  | .serviceMask uuids => answer = .ok (some (.services (ServiceMask.ofUuids uuids)))
  | .createSocket uuid => (Reading.createSocket uuid).Answers v answer
  | .sendData number octets => (Reading.write number octets).Answers v answer
  | op => answer = v.tellLast (h.calls a op)

/-! ## The same of tasks -/

/-- The calls of the vendor that belong to a reading. -/
def Reading.calls : Reading → List Call
  | .eachBonded _ => [.bondedDevices]
  | .bonded a => [.bondedDevice a]
  | .createSocket uuid => [.createSocket uuid]
  | .write number octets => [.write number octets]
  | _ => []

/-- The calls of the vendor that belong to a task of a host. -/
def Task.calls (h : Host κ) : Task κ → List Call
  | .start => if h.started then [] else [.command .register]
  | .stop => (if h.hidStarted then [.command .stopHid] else []) ++ [.command .unregister]
  | .startHid _ => [.command .startHid]
  | .stopHid => [.command .stopHid]
  | .command c => [.command c]
  | .read r => r.calls
  | .setCallback .. | .unsetCallback _ | .serviceMask _ => []

/-- What the vendor has to say to a task. -/
def Task.Answers (h : Host κ) (v : Vendor) (answer : Answer) : Task κ → Prop
  | .read r => r.Answers v answer
  | .serviceMask uuids => answer = .ok (some (.services (ServiceMask.ofUuids uuids)))
  | task => answer = v.tellLast (task.calls h)

/-- What a check lets through it does not change. -/
theorem eq_of_guard {α : Type} {p : Prop} [Decidable p] {r : Refusal} {a b : α}
    (hc : (if p then Except.error r else Except.ok a) = .ok b) : b = a := by
  split at hc
  · exact absurd hc nofun
  · exact (Except.ok.inj hc).symm

theorem eq_of_checkDescriptor {number n : Int32} (hc : checkDescriptor number = .ok n) : n = number :=
  eq_of_guard hc

theorem eq_of_checkUuid {uuid u : String} (hc : checkUuid uuid = .ok u) : u = uuid :=
  eq_of_guard hc

theorem eq_of_checkName {name n : String} (hc : checkName name = .ok n) : n = name :=
  eq_of_guard hc

/-- The timeout of a limited visibility is passed on, that of any other makes no difference. -/
theorem eq_of_checkTimeout {wanted : Visibility} {timeout t : Int32}
    (hc : checkTimeout wanted timeout = .ok t) :
    t = if wanted = .limitedDiscoverable then timeout else 0 := by
  cases wanted with
  | limitedDiscoverable =>
    rw [if_pos rfl]
    exact eq_of_guard hc
  | nonDiscoverable | generalDiscoverable => exact (Except.ok.inj hc).symm

theorem Operation.names_of_ofText? {op : Operation κ} {text : String} {a : Address}
    (hop : op.addressText? = some text) (ha : Address.ofText? text = some a) : op.Names a := by
  intro text' htext'
  obtain rfl := Option.some.inj (hop.symm.trans htext')
  exact Address.ofText?_eq_some_iff.mp ha

/-- An operation that names no device fits any address. -/
theorem Operation.names_of_eq_none {op : Operation κ} (hop : op.addressText? = none) (a : Address) :
    op.Names a := by
  intro text htext
  rw [hop] at htext
  exact absurd htext (by simp)

/-- **The tables of operations are those of their tasks.** -/
theorem Operation.tables_of_task {op : Operation κ} {task : Task κ} (ht : op.task = .ok task)
    (h : Host κ) (v : Vendor) :
    ∃ a, op.Names a ∧ h.calls a op = task.calls h ∧
      ∀ answer, task.Answers h v answer → h.Answers v a answer op := by
  cases op with
  | start | stop | enableAdapter | disableAdapter | adapterState | adapterAddress | adapterName
  | visibility | startDiscovery | stopDiscovery | isDiscovering | eachBondedDevice | cancelBonding
  | cancelServiceSearch | startHidHost | stopHidHost | setCallback | unsetCallback =>
    obtain rfl := Except.ok.inj ht
    exact ⟨.zero, names_of_eq_none rfl _, rfl, fun _ hanswer => hanswer⟩
  | bondedDevice | createBond | destroyBond | setAlias | startServiceSearch | connectHid
  | disconnectHid =>
    obtain ⟨a, ha, hb⟩ := exists_of_bind_eq_ok ht
    obtain rfl := Except.ok.inj hb
    have hread := Address.checkAddress_eq_ok_iff.mp ha
    exact ⟨a, names_of_ofText? rfl hread, rfl, fun _ hanswer => hanswer⟩
  | setAuthorization text authorization =>
    obtain ⟨a, ha, hb⟩ := exists_of_bind_eq_ok ht
    obtain rfl := Except.ok.inj hb
    have hread := Address.checkAddress_eq_ok_iff.mp ha
    refine ⟨a, names_of_ofText? rfl hread, ?_⟩
    cases authorization with
    | authorized | unauthorized => exact ⟨rfl, fun _ hanswer => hanswer⟩
  | isServiceUsed | createSocket =>
    obtain ⟨u, hu, hb⟩ := exists_of_bind_eq_ok ht
    obtain rfl := Except.ok.inj hb
    obtain rfl := eq_of_checkUuid hu
    exact ⟨.zero, names_of_eq_none rfl _, rfl, fun _ hanswer => hanswer⟩
  | destroySocket | listenAndAccept | listen | acceptConnection | rejectConnection | disconnectSocket
  | sendData =>
    obtain ⟨n, hn, hb⟩ := exists_of_bind_eq_ok ht
    obtain rfl := Except.ok.inj hb
    obtain rfl := eq_of_checkDescriptor hn
    exact ⟨.zero, names_of_eq_none rfl _, rfl, fun _ hanswer => hanswer⟩
  | setAdapterName name =>
    obtain ⟨n, hn, hb⟩ := exists_of_bind_eq_ok ht
    obtain rfl := Except.ok.inj hb
    obtain rfl := eq_of_checkName hn
    exact ⟨.zero, names_of_eq_none rfl _, rfl, fun _ hanswer => hanswer⟩
  | setVisibility wanted timeout =>
    obtain ⟨t, htimeout, hb⟩ := exists_of_bind_eq_ok ht
    obtain rfl := Except.ok.inj hb
    obtain rfl := eq_of_checkTimeout htimeout
    refine ⟨.zero, names_of_eq_none rfl _, ?_⟩
    cases wanted with
    | nonDiscoverable | generalDiscoverable | limitedDiscoverable =>
      exact ⟨rfl, fun _ hanswer => hanswer⟩
  | connectSocket text uuid =>
    -- the address is checked first, the UUID after it
    obtain ⟨a, ha, hb⟩ := exists_of_bind_eq_ok ht
    obtain ⟨u, hu, hc⟩ := exists_of_bind_eq_ok hb
    obtain rfl := Except.ok.inj hc
    obtain rfl := eq_of_checkUuid hu
    have hread := Address.checkAddress_eq_ok_iff.mp ha
    exact ⟨a, names_of_ofText? rfl hread, rfl, fun _ hanswer => hanswer⟩
  | serviceMask uuids =>
    simp only [Operation.task] at ht
    split at ht
    · exact absurd ht (by simp)
    · obtain rfl := Except.ok.inj ht
      exact ⟨.zero, names_of_eq_none rfl _, rfl, fun _ hanswer => hanswer⟩

end Tables

/-! ## Calls that are made -/

namespace Entry

/-- The calls of the vendor among some entries. -/
def calls (t : List Entry) : List Call := (exchanges t).map Prod.fst

@[simp] theorem calls_append (s t : List Entry) : calls (s ++ t) = calls s ++ calls t := by
  simp [calls]

@[simp] theorem calls_map_notice (ns : List Notice) : calls (ns.map .notice) = [] := by
  simp [calls]

end Entry

/-- The vendor records a query if it reaches the vendor. -/
theorem Vendor.calls_ask_eq {α : Type} (v : Vendor) (q : Query α) :
    (v.ask q).2.2 = q.calls.filter v.hears := by
  unfold Vendor.ask
  cases hbarrier : v.barrier with
  | some s =>
    -- no query is a command, and nothing else gets past the barrier
    show [] = q.calls.filter v.hears
    symm
    rw [List.filter_eq_nil_iff]
    intro c hc
    cases c with
    | command command => exact absurd rfl (Query.ne_command_of_mem_calls hc command)
    | bondedDevices | bondedDevice | createSocket | write => simp [hears, hbarrier]
  | none =>
    have hall : q.calls.filter v.hears = q.calls := by
      rw [List.filter_eq_self]
      intro c _
      cases c <;> simp [hears, hbarrier]
    rw [hall]
    dsimp only
    split <;> rfl

/-- What the caller of a query learns of its answer. -/
def learned {α : Type} : Except Status α → Except Fault α
  | .ok a => .ok a
  | .error s => .error (s.fault?.getD .operationFailed)

/-- A query is asked once, as far as it reaches the vendor, and its answer is learned. -/
theorem inquire_eq {α : Type} (operation : String) (q : Query α) (v : Vendor) :
    ∃ t, inquire operation q v = (learned (v.ask q).1, (v.ask q).2.1, t) ∧
      Entry.calls t = q.calls.filter v.hears := by
  have hlearned : (concludeAnswer operation (v.ask q).1).1 = learned (v.ask q).1 := by
    unfold concludeAnswer learned
    cases (v.ask q).1 with
    | ok a => rfl
    | error s => cases hf : s.fault? <;> simp [hf]
  have hcalls : ∀ cs : List Call, ∀ s : Status, Entry.calls (cs.map (Entry.call · s)) = cs := by
    intro cs s
    induction cs with
    | nil => rfl
    | cons c rest ih => exact congrArg (c :: ·) ih
  refine ⟨_, congrArg (·, (v.ask q).2.1, _) hlearned, ?_⟩
  rw [← v.calls_ask_eq q]
  show Entry.calls ((v.ask q).2.2.map (Entry.call · _) ++ _) = (v.ask q).2.2
  rw [Entry.calls_append, hcalls, Entry.calls_map_notice, List.append_nil]

/-- A result translates what the vendor has to say. -/
def Answered (answers : Answer → Prop) (result : Except Fault Value) : Prop :=
  ∃ answer, answers answer ∧ result = translation answer

/-- What a reading comes to: the calls that belong to it, as far as they reach the vendor, and a result that
    translates what the vendor has to say to it. -/
structure ReadResult.Reports (v : Vendor) (r : Reading) (x : ReadResult) : Prop where
  calls : Entry.calls x.2.2 = r.calls.filter v.hears
  answered : Answered (r.Answers v) x.1.result

/-- A reading that is one query reports what the vendor answers to it. -/
theorem reports_readValue {α : Type} (operation : String) (v : Vendor) (r : Reading) (q : Query α)
    (toValue : α → Value) (hcalls : r.calls = q.calls)
    (hfailed : ∀ s, (v.ask q).1 = .error s → r.FailsWith v s)
    (htold : ∀ a, (v.ask q).1 = .ok a → r.Answers v (.ok (some (toValue a)))) :
    ReadResult.Reports v r (readValue operation q toValue v) := by
  obtain ⟨t, hq, ht⟩ := inquire_eq operation q v
  unfold readValue
  rw [hq]
  refine ⟨ht.trans (congrArg _ hcalls.symm), ?_⟩
  cases hanswer : (v.ask q).1 with
  | error s => exact ⟨_, .failed (hfailed s hanswer), rfl⟩
  | ok a => exact ⟨_, htold a hanswer, rfl⟩

theorem reports_readVisibility (operation : String) (v : Vendor) :
    ReadResult.Reports v .visibility (readVisibility operation v) := by
  obtain ⟨t, hq, hcalls⟩ := inquire_eq operation .scanMode v
  -- the vendor is asked for the time left as it was before it was asked for the mode
  have hsame : (v.ask .scanMode).2.1 = v := Vendor.ask_frame rfl
  unfold readVisibility
  rw [hq, hsame]
  cases hmode : (v.ask .scanMode).1 with
  | error s => exact ⟨hcalls, _, .failed (Or.inl hmode), rfl⟩
  | ok mode =>
    cases mode with
    | connectable => exact ⟨hcalls, _, .nonDiscoverable hmode, rfl⟩
    | generalDiscoverable => exact ⟨hcalls, _, .generalDiscoverable hmode, rfl⟩
    | timeLimitedDiscoverable =>
      have htime : ReadResult.Reports v .visibility
          (readValue operation .scanTimeout (.visibility .limitedDiscoverable) v) :=
        reports_readValue operation v .visibility .scanTimeout _ rfl (fun _ hs => .inr ⟨hmode, hs⟩)
          fun _ hleft => .limitedDiscoverable hmode hleft
      dsimp only [learned]
      generalize readValue operation .scanTimeout (.visibility .limitedDiscoverable) v = x at htime ⊢
      obtain ⟨reply, final, u⟩ := x
      refine ⟨?_, htime.answered⟩
      show Entry.calls (t ++ u) = []
      rw [Entry.calls_append, hcalls, htime.calls]
      rfl

theorem reports_readEachBonded (operation : String) (continues : List Device → Bool) (v : Vendor) :
    ReadResult.Reports v (.eachBonded continues) (readEachBonded operation continues v) := by
  obtain ⟨t, hq, hcalls⟩ := inquire_eq operation .bondedDevices v
  unfold readEachBonded
  rw [hq]
  cases htold : (v.ask .bondedDevices).1 with
  | error s => exact ⟨hcalls, _, .failed htold, rfl⟩
  | ok records =>
    dsimp only [learned]
    have hfails : visitResult (visitBonded continues [] records).1 = .error .operationFailed ↔
        ReachesBroken continues records := visitResult_eq_error_iff
    generalize visitBonded continues [] records = x at hfails ⊢
    obtain ⟨s | u, visited⟩ := x
    · refine ⟨?_, _, .unvisited htold (hfails.mp rfl), rfl⟩
      rw [Entry.calls_append, hcalls]
      exact List.append_nil _
    · exact ⟨hcalls, _, .visited htold fun hbroken => absurd (hfails.mpr hbroken) nofun, rfl⟩

theorem reports_readBonded (operation : String) (a : Address) (v : Vendor) :
    ReadResult.Reports v (.bonded a) (readBonded operation a v) := by
  obtain ⟨t, hq, hcalls⟩ := inquire_eq operation (.bondedDevice a) v
  unfold readBonded
  rw [hq]
  cases htold : (v.ask (.bondedDevice a)).1 with
  | error s => exact ⟨hcalls, _, .failed htold, rfl⟩
  | ok record =>
    dsimp only [learned]
    cases hconvert : Device.ofRecord record with
    | error s =>
      refine ⟨?_, _, .unconverted htold (DeviceRecord.broken_of_ofRecord_eq_error hconvert), rfl⟩
      rw [Entry.calls_append, hcalls]
      exact List.append_nil _
    | ok d => exact ⟨hcalls, _, .bonded htold hconvert, rfl⟩

/-- **A reading makes the calls that belong to it**, and its result translates the answer. -/
theorem Reading.reports_run (operation : String) (r : Reading) (v : Vendor) :
    ReadResult.Reports v r (r.run operation v) := by
  cases r with
  | power =>
    refine ⟨rfl, ?_⟩
    show Answered _ (.ok (.adapterState v.power.adapterState))
    cases hpower : v.power with
    | on => exact ⟨_, .poweredOn hpower, rfl⟩
    | off => exact ⟨_, .poweredOff hpower, rfl⟩
  | visibility => exact reports_readVisibility operation v
  | eachBonded continues => exact reports_readEachBonded operation continues v
  | bonded a => exact reports_readBonded operation a v
  | address =>
    exact reports_readValue operation v .address .localAddress _ rfl (fun _ h => h) fun a h =>
      .address h a.canonical_text
  | name =>
    exact reports_readValue operation v .name .localName _ rfl (fun _ h => h) fun _ h => .name h
  | isDiscovering =>
    exact reports_readValue operation v .isDiscovering .isDiscovering _ rfl (fun _ h => h) fun _ h =>
      .isDiscovering h
  | isServiceUsed uuid =>
    exact reports_readValue operation v (.isServiceUsed uuid) (.isServiceUsed uuid) _ rfl (fun _ h => h)
      fun _ h => .isServiceUsed h
  | createSocket uuid =>
    exact reports_readValue operation v (.createSocket uuid) (.createSocket uuid) _ rfl (fun _ h => h)
      fun _ h => .createSocket h
  | write number octets =>
    exact reports_readValue operation v (.write number octets) (.write number octets) _ rfl
      (fun _ h => h) fun _ h => .write h

/-! ## Tasks and operations -/

/-- The outcome of a command is what the vendor answers to it, translated. -/
theorem result_unitReply_verdict (v : Vendor) (c : Command) :
    (Host.unitReply (v.verdict c).outcome).result = translation (v.tell c) := by
  unfold Vendor.tell
  by_cases hs : v.verdict c = .success
  · rw [if_pos hs, hs]
    rfl
  · rw [if_neg hs]
    unfold Status.outcome
    cases hf : (v.verdict c).fault? with
    | none => exact absurd ((Status.fault?_eq_none_iff _).mp hf) hs
    | some f => simp [Host.unitReply, Except.map, translation, hf]

namespace Host

variable {κ : Type} (h : Host κ) (operation : String) (number : Nat) (v : Vendor)

/-- **A task makes the calls that belong to it**, as far as they reach the vendor. -/
theorem calls_carryOut (task : Task κ) :
    Entry.calls (h.carryOut operation number v task).trace = (task.calls h).filter v.hears := by
  cases task with
  | start =>
    show Entry.calls (h.start v).trace = List.filter v.hears (if h.started then _ else _)
    cases hs : h.started with
    | true => rw [start_of_started v hs]; rfl
    | false => rw [Entry.calls, exchanges_start v hs]; rfl
  | stop =>
    show Entry.calls (h.stop v).trace = List.filter v.hears ((if h.hidStarted then _ else _) ++ _)
    rw [Entry.calls, exchanges_stop]
    cases h.hidStarted <;> rfl
  | startHid callback =>
    show Entry.calls (h.startHid number callback v).trace = _
    rw [Entry.calls, exchanges_startHid]
    rfl
  | stopHid =>
    show Entry.calls (h.stopHid v).trace = _
    rw [Entry.calls, exchanges_stopHid]
    rfl
  | command c =>
    show Entry.calls (forward operation c v).2.2 = _
    rw [Entry.calls, exchanges_forward]
    rfl
  | read r => exact (r.reports_run operation v).calls
  | setCallback | unsetCallback => rfl
  | serviceMask uuids =>
    show Entry.calls ((ServiceMask.unreadable uuids).map fun uuid => .notice (.unreadableUuid uuid)) = []
    have hnotices := Entry.calls_map_notice ((ServiceMask.unreadable uuids).map .unreadableUuid)
    rw [List.map_map] at hnotices
    exact hnotices

/-- **The result of a task translates what the vendor has to say.** -/
theorem answered_carryOut (task : Task κ) :
    Answered (task.Answers h v) (h.carryOut operation number v task).reply.result := by
  cases task with
  | start =>
    refine ⟨_, rfl, ?_⟩
    show (h.start v).reply.result = translation (v.tellLast (if h.started then _ else _))
    cases hs : h.started with
    | true => rw [start_of_started v hs]; rfl
    | false => rw [reply_start v hs]; exact result_unitReply_verdict v .register
  | stop =>
    refine ⟨_, rfl, ?_⟩
    show (h.stop v).reply.result = translation (v.tellLast ((if h.hidStarted then _ else _) ++ _))
    rw [reply_stop, result_unitReply_verdict]
    cases h.hidStarted <;> rfl
  | startHid callback =>
    refine ⟨_, rfl, ?_⟩
    show (h.startHid number callback v).reply.result = _
    rw [reply_startHid]
    exact result_unitReply_verdict v .startHid
  | stopHid =>
    refine ⟨_, rfl, ?_⟩
    show (h.stopHid v).reply.result = _
    rw [reply_stopHid]
    exact result_unitReply_verdict v .stopHid
  | command c =>
    refine ⟨_, rfl, ?_⟩
    show (unitReply (forward operation c v).1).result = _
    rw [forward_eq]
    exact result_unitReply_verdict v c
  | read r => exact (r.reports_run operation v).answered
  | setCallback | unsetCallback | serviceMask => exact ⟨_, rfl, rfl⟩

section Accepted

variable {κ : Type} {h : Host κ} {op : Operation κ}

/-- An operation that nothing stands in the way of passes the checks. -/
theorem exists_task_of_unobstructed (hpass : op = .start ∨ h.obstacle? op = none) :
    ∃ task, h.check op = .ok task := by
  rcases hpass with rfl | hclear
  · exact ⟨.start, rfl⟩
  · by_cases hop : op = .start
    · exact ⟨.start, by rw [hop]; rfl⟩
    · have hfault := h.fault?_check hop
      rw [hclear] at hfault
      cases hc : h.check op with
      | ok task => exact ⟨task, rfl⟩
      | error refusal => rw [hc] at hfault; exact absurd hfault (by simp [Refusal.fault?])

/-- The task that is left of the checks is the operation's. -/
theorem task_of_check {task : Task κ} (hc : h.check op = .ok task) : op.task = .ok task := by
  unfold check at hc
  split at hc
  · exact absurd hc (by simp)
  · exact hc

/-- **What passes the checks is forwarded once, and its answer translated once.** Whatever the vendor is
    like, an operation that nothing stands in the way of names a device by its address, if it names one; it
    makes the calls that belong to it, as far as they reach the vendor, and no others; and its result is what
    the vendor has to say to it, translated. -/
theorem forwarded_once (hpass : op = .start ∨ h.obstacle? op = none) (number : Nat) (v : Vendor) :
    ∃ a, op.Names a ∧
      Entry.calls (h.perform number op v).trace = (h.calls a op).filter v.hears ∧
      ∃ answer, h.Answers v a answer op ∧ Translates answer (h.perform number op v).reply.result := by
  obtain ⟨task, hc⟩ := exists_task_of_unobstructed hpass
  obtain ⟨a, hnames, hcalls, hanswers⟩ := Operation.tables_of_task (task_of_check hc) h v
  obtain ⟨answer, hanswer, hresult⟩ := h.answered_carryOut op.name number v task
  rw [perform_of_task hc]
  refine ⟨a, hnames, ?_, answer, hanswers answer hanswer, ?_⟩
  · rw [hcalls]
    exact h.calls_carryOut op.name number v task
  · rw [hresult]
    exact translates_translation answer

/-- The device at `00:1A:7D:DA:71:13`. -/
def headset : Address := ⟨[0x00, 0x1a, 0x7d, 0xda, 0x71, 0x13], rfl⟩

/-- The address of a connection is read from its text, and the timeout that the vendor fails with is
    translated; a host whose HID host is up disconnects from both, and learns what comes of the second; a
    query that fails with success for a reason fails all the same, and is not recorded. A limited visibility
    is passed on with its timeout; an adapter with power is enabled; and a visit of bonded devices fails at a
    record that counts a service it does not have. -/
theorem forwarded_once_connecting :
    (∀ number, Entry.calls (({ started := true } : Host Unit).perform number
          (.connectSocket "00:1a:7d:DA:71:13" "1101") { status := .timeout }).trace =
        [.command (.connectSocket headset "1101")] ∧
      (({ started := true } : Host Unit).perform number
          (.connectSocket "00:1a:7d:DA:71:13" "1101") { status := .timeout }).reply.result =
        .error .timedOut) ∧
    (∀ number, Entry.calls (({ started := true, hidStarted := true } : Host Unit).perform number
          .stop {}).trace = [.command .stopHid, .command .unregister]) ∧
    (∀ number, Entry.calls (({ started := true } : Host Unit).perform number
          (.createSocket "1101") { barrier := some .success }).trace = [] ∧
      (({ started := true } : Host Unit).perform number
          (.createSocket "1101") { barrier := some .success }).reply.result =
        .error .operationFailed) ∧
    (∀ number, Entry.calls (({ started := true } : Host Unit).perform number
          (.setVisibility .limitedDiscoverable 30) {}).trace =
        [.command (.setScanMode .timeLimitedDiscoverable 30)]) ∧
    (∀ number, (({ started := true } : Host Unit).perform number
          .adapterState { power := .on }).reply.result = .ok (.adapterState .enabled)) ∧
    ∀ number, (({ started := true } : Host Unit).perform number
          (.eachBondedDevice fun _ => true)
          { bonded := [{ address := headset, serviceCount := 1 }] }).reply.result =
        .error .operationFailed := by
  refine ⟨fun number => ?_, fun number => ?_, fun number => ?_, fun number => ?_, fun number => ?_,
    fun number => ?_⟩
  · have hpass : ({ started := true } : Host Unit).obstacle?
        (.connectSocket "00:1a:7d:DA:71:13" "1101") = none := rfl
    obtain ⟨a, hnames, hcalls, answer, rfl, htranslates⟩ :=
      forwarded_once (.inr hpass) number { status := .timeout }
    have hread : Address.ofText? "00:1a:7d:DA:71:13" = some a :=
      Address.ofText?_eq_some_iff.mpr (hnames _ rfl)
    obtain rfl : headset = a := Option.some.inj hread
    exact ⟨hcalls, htranslates.failed .timeout .timedOut rfl rfl⟩
  · have hpass : ({ started := true, hidStarted := true } : Host Unit).obstacle? .stop = none := rfl
    obtain ⟨a, -, hcalls, -⟩ := forwarded_once (.inr hpass) number {}
    exact hcalls
  · have hpass : ({ started := true } : Host Unit).obstacle? (.createSocket "1101") = none := rfl
    obtain ⟨a, -, hcalls, answer, hanswer, htranslates⟩ :=
      forwarded_once (.inr hpass) number { barrier := some .success }
    refine ⟨hcalls, ?_⟩
    cases hanswer with
    | failed hfails =>
      obtain rfl := Except.error.inj hfails
      exact htranslates.unreasoned rfl
    | createSocket htold => exact absurd htold nofun
  · have hpass : ({ started := true } : Host Unit).obstacle?
        (.setVisibility .limitedDiscoverable 30) = none := rfl
    obtain ⟨a, -, hcalls, -⟩ := forwarded_once (.inr hpass) number {}
    exact hcalls
  · have hpass : ({ started := true } : Host Unit).obstacle? .adapterState = none := rfl
    obtain ⟨a, -, -, answer, hanswer, htranslates⟩ := forwarded_once (.inr hpass) number { power := .on }
    cases hanswer with
    | failed hfails => exact absurd hfails id
    | poweredOn => exact (htranslates.ok_iff _).mpr rfl
    | poweredOff hpower => exact absurd hpower nofun
  · have hpass : ({ started := true } : Host Unit).obstacle? (.eachBondedDevice fun _ => true) = none := rfl
    obtain ⟨a, -, -, answer, hanswer, htranslates⟩ :=
      forwarded_once (.inr hpass) number { bonded := [{ address := headset, serviceCount := 1 }] }
    cases hanswer with
    | failed hfails => exact absurd hfails nofun
    | unvisited => exact htranslates.unconverted rfl
    | visited htold hwhole =>
      obtain rfl := Except.ok.inj htold
      exact absurd ⟨[], _, [], [], rfl, Nat.zero_lt_one, .nil, goesOn_nil⟩ hwhole

end Accepted

end Host

end BluetoothHost
