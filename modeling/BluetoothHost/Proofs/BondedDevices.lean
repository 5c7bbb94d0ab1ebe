import BluetoothHost.Proofs.Forwarding
import BluetoothHost.Proofs.LetterCase
import BluetoothHost.Proofs.Visits
import BluetoothHost.Proofs.Writing

/-!
# `Proofs.BondedDevices` — bonded devices in turn, and one of them

There are two ways to the bonded devices. A visit goes through the records of the vendor in order and hands the
device of each to a callback, up to the end that its records and its callback give it
(`Host.visits_right_prefix`).

A look-up asks the vendor for one address instead, and never sees the other records. The vendor compares
octets, while whoever has visited the devices compares texts; that both find the same device
(`Host.lookup_agrees_with_visit`) is due to the text of an address, which no other address has.

## Contents
- `Host.perform_eachBondedDevice`, `Host.visits_right_prefix`.
- `First`, with `first_cons` and `exists_first_of_forall₂`: the first of a list that fits.
- `lookup`, with `Host.reply_bondedDevice`: what looking up an address comes to.
- `Address.uppercase_of_written` and `Host.gives_of_visit`: the texts that are compared, and the devices.
- `Host.lookup_agrees_with_visit`.
-/

namespace BluetoothHost

/-! ## The operation that visits -/

/-- A query that the vendor has an answer to. -/
theorem inquire_of_ask {α : Type} {v : Vendor} {q : Query α} {a : α} (h : (v.ask q).1 = .ok a)
    (operation : String) :
    inquire operation q v = (.ok a, v.answered q, q.calls.map (.call · .success)) := by
  unfold Vendor.ask at h
  split at h
  · exact absurd h nofun
  · rename_i hclear
    split at h
    · rename_i hready
      exact inquire_ok hclear hready h operation
    · exact absurd h nofun

namespace Host

section Visiting

variable {κ : Type} {h : Host κ} {v : Vendor} {records : List DeviceRecord}

theorem perform_eachBondedDevice (hup : h.started = true) (hrecords : (v.ask .bondedDevices).1 = .ok records)
    (continues : List Device → Bool) (number : Nat) :
    (h.perform number (.eachBondedDevice continues) v).reply =
        ⟨visitResult (visitBonded continues [] records).1, (visitBonded continues [] records).2⟩ ∧
      Entry.exchanges (h.perform number (.eachBondedDevice continues) v).trace =
        [(.bondedDevices, .success)] := by
  have hcheck : h.check (.eachBondedDevice continues) = .ok (.read (.eachBonded continues)) := by
    simp [check, checkCondition, Operation.condition, Operation.task, hup]
  have hrun : ∀ operation, (Reading.eachBonded continues).run operation v =
      readEachBonded operation continues v := fun _ => rfl
  rw [perform_of_task hcheck, carryOut, hrun]
  unfold readEachBonded
  rw [inquire_of_ask hrecords]
  dsimp only
  generalize visitBonded continues [] records = visit
  obtain ⟨result, visited⟩ := visit
  cases result with
  | ok u => exact ⟨rfl, rfl⟩
  | error s => exact ⟨rfl, rfl⟩

/-- **A visit covers exactly the right prefix.** On a host that is up, whose vendor has these records, the vendor
    is asked for them once and for nothing else, and the callback is handed the devices of the first records in
    turn: to the end, or up to the first behind which it does not go on, or up to the first broken record, as
    `VisitEnds` says. The visit fails just if it reaches a broken record, and has succeeded otherwise; so it has
    if the callback stops it at the record before. -/
theorem visits_right_prefix (hup : h.started = true) (hrecords : (v.ask .bondedDevices).1 = .ok records)
    (continues : List Device → Bool) (number : Nat) :
    Entry.exchanges (h.perform number (.eachBondedDevice continues) v).trace = [(.bondedDevices, .success)] ∧
    ∃ result visited, (h.perform number (.eachBondedDevice continues) v).reply = ⟨result, visited⟩ ∧
      (∃ seen left, records = seen ++ left ∧ List.Forall₂ DeviceRecord.Gives seen visited ∧
        VisitEnds continues visited left result) ∧
      (result = .error .operationFailed ↔ ReachesBroken continues records) ∧
      (¬ ReachesBroken continues records → result = .ok .unit) ∧
      ∀ before r after devices d, records = before ++ r :: after →
        List.Forall₂ DeviceRecord.Gives before devices → r.Gives d → GoesOn continues devices →
        continues (devices ++ [d]) = false → result = .ok .unit ∧ visited = devices ++ [d] := by
  obtain ⟨hreply, hexchanges⟩ := perform_eachBondedDevice hup hrecords continues number
  have hstart : GoesOn continues [] := goesOn_nil
  obtain ⟨seen, left, devices, hsplit, hgives, hvisited, hends⟩ := exists_visitEnds hstart records
  rw [List.nil_append] at hvisited hends
  have hsucceeds : ¬ ReachesBroken continues records →
      visitResult (visitBonded continues [] records).1 = .ok .unit := by
    intro hclear
    exact (visitResult_cases _).resolve_right (mt visitResult_eq_error_iff.mp hclear)
  refine ⟨hexchanges, _, devices, hvisited ▸ hreply, ⟨seen, left, hsplit, hgives, hends⟩,
    visitResult_eq_error_iff, hsucceeds, ?_⟩
  rintro before r after passed d rfl hbefore hr hon hstops
  have hstop : visitBonded continues [] (before ++ r :: after) = (.ok (), passed ++ [d]) :=
    visitBonded_of_stops hbefore hr hon hstops
  rw [hstop] at hvisited ⊢
  exact ⟨rfl, hvisited.symm⟩

end Visiting

/-- A device without services, a headset, a broken record and one more device. -/
def paired : List DeviceRecord :=
  [{}, { address := headset, serviceCount := 1, uuids := ["110b"] }, { serviceCount := 1 }, {}]

/-- Goes on until a device with services has been seen. -/
def untilService (visited : List Device) : Bool := visited.all fun d => d.serviceUuids.isEmpty

/-- A callback that wants the headset stops the visit at the record before the broken one; one that never has
    seen enough comes to that and fails. -/
theorem visits_right_prefix_justBefore :
    (∃ first second, (({ started := true } : Host Unit).perform 0 (.eachBondedDevice untilService)
          { bonded := paired }).reply = ⟨.ok .unit, [first, second]⟩ ∧
      first.serviceUuids = [] ∧ second.serviceUuids = ["110B"]) ∧
    (({ started := true } : Host Unit).perform 0 (.eachBondedDevice fun _ => true)
      { bonded := paired }).reply.result = .error .operationFailed := by
  obtain ⟨-, result, visited, hreply, -, -, -, hstops⟩ := visits_right_prefix
    (h := ({ started := true } : Host Unit)) (v := { bonded := paired }) rfl rfl untilService 0
  obtain ⟨-, failure, seen, hfailure, -, hfails, -⟩ := visits_right_prefix
    (h := ({ started := true } : Host Unit)) (v := { bonded := paired }) rfl rfl (fun _ => true) 0
  constructor
  · have hnone : GoesOn untilService [] := goesOn_nil
    obtain ⟨rfl, rfl⟩ := hstops [{}] _ _ _ _ rfl (.cons rfl .nil) rfl
      (goesOn_concat.mpr ⟨hnone, by decide⟩) (by decide)
    exact ⟨_, _, hreply, rfl, by decide⟩
  · rw [hfailure]
    have hbroken : DeviceRecord.Broken { serviceCount := 1 } := by
      unfold DeviceRecord.Broken
      decide
    exact hfails.mpr ⟨paired.take 2, _, _, _, rfl, hbroken, .cons rfl (.cons rfl .nil), fun _ _ _ => rfl⟩

end Host

/-! ## The first that fits -/

/-- The first of a list that something is true of. -/
def First {α : Type} (P : α → Prop) (l : List α) (x : α) : Prop :=
  ∃ before after, l = before ++ x :: after ∧ P x ∧ ∀ y ∈ before, ¬ P y

section First

variable {α β : Type} {P : α → Prop} {Q : β → Prop}

theorem First.mem {l : List α} {x : α} (h : First P l x) : x ∈ l := by
  obtain ⟨before, after, rfl, -, -⟩ := h
  exact List.mem_append_right before List.mem_cons_self

/-- The head of a list is the first that fits, or it does not fit and one behind it is the first. -/
theorem first_cons {z x : α} {l : List α} :
    First P (z :: l) x ↔ (x = z ∧ P z) ∨ (¬ P z ∧ First P l x) := by
  constructor
  · rintro ⟨before, after, hsplit, hx, hbefore⟩
    cases before with
    | nil =>
      obtain ⟨rfl, rfl⟩ := List.cons.inj hsplit
      exact .inl ⟨rfl, hx⟩
    | cons y before =>
      obtain ⟨rfl, rfl⟩ := List.cons.inj hsplit
      refine .inr ⟨hbefore z List.mem_cons_self, before, after, rfl, hx, fun y hy => ?_⟩
      exact hbefore y (List.mem_cons_of_mem z hy)
  · rintro (⟨rfl, hz⟩ | ⟨hz, before, after, rfl, hx, hbefore⟩)
    · exact ⟨[], l, rfl, hz, fun y hy => absurd hy List.not_mem_nil⟩
    · refine ⟨z :: before, after, rfl, hx, ?_⟩
      exact List.forall_mem_cons.mpr ⟨hz, hbefore⟩

theorem find?_eq_some_iff_first [DecidablePred P] {l : List α} {x : α} :
    l.find? (fun y => decide (P y)) = some x ↔ First P l x := by
  rw [List.find?_eq_some_iff_append]
  constructor
  · rintro ⟨hx, before, after, rfl, hbefore⟩
    exact ⟨before, after, rfl, of_decide_eq_true hx, fun y hy => by simpa using hbefore y hy⟩
  · rintro ⟨before, after, rfl, hx, hbefore⟩
    exact ⟨decide_eq_true hx, before, after, rfl, fun y hy => by simpa using hbefore y hy⟩

/-- Of two lists that go together, the first that fits in the one goes with the first that fits in the other. -/
theorem exists_first_of_forall₂ {R : α → β → Prop} {l : List α} {m : List β} (h : List.Forall₂ R l m)
    (hfit : ∀ x y, R x y → (P x ↔ Q y)) {y : β} (hy : First Q m y) : ∃ x, First P l x ∧ R x y := by
  induction h with
  | nil => exact absurd hy.mem List.not_mem_nil
  | @cons x z l m hxz _ ih =>
    rcases first_cons.mp hy with ⟨rfl, hz⟩ | ⟨hz, hbehind⟩
    · exact ⟨x, first_cons.mpr (.inl ⟨rfl, (hfit x y hxz).mpr hz⟩), hxz⟩
    · obtain ⟨x', hx', hR⟩ := ih hbehind
      exact ⟨x', first_cons.mpr (.inr ⟨fun hx => hz ((hfit x z hxz).mp hx), hx'⟩), hR⟩

theorem forall_not_of_forall₂ {R : α → β → Prop} {l : List α} {m : List β} (h : List.Forall₂ R l m)
    (hfit : ∀ x y, R x y → (P x ↔ Q y)) : (∀ x ∈ l, ¬ P x) ↔ ∀ y ∈ m, ¬ Q y := by
  induction h with
  | nil => simp
  | @cons x y l m hxy _ ih => rw [List.forall_mem_cons, List.forall_mem_cons, ih, hfit x y hxy]

end First

/-! ## Looking an address up -/

/-- What looking an address up in some records comes to: the device that the first record with this address
    gives, if there is such a record. -/
def lookup (a : Address) (records : List DeviceRecord) : Except Fault Value :=
  match records.find? fun r => r.address = a with
  | some r => ((Device.ofRecord r).mapError Shortfall.fault).map .device
  | none => .error .remoteDeviceNotBonded

section Lookup

variable {a : Address} {records : List DeviceRecord} {r : DeviceRecord}

theorem lookup_of_first (h : First (fun r => r.address = a) records r) :
    lookup a records = ((Device.ofRecord r).mapError Shortfall.fault).map .device := by
  rw [lookup, find?_eq_some_iff_first.mpr h]

theorem lookup_of_gives {d : Device} (h : First (fun r => r.address = a) records r) (hr : r.Gives d) :
    lookup a records = .ok (.device d) := by
  rw [lookup_of_first h, show Device.ofRecord r = .ok d from hr]
  rfl

theorem lookup_of_broken (h : First (fun r => r.address = a) records r) (hr : r.Broken) :
    lookup a records = .error .operationFailed := by
  obtain ⟨s, hs⟩ := hr.exists_error
  rw [lookup_of_first h, hs]
  rfl

/-- No other failure says that a device is not bonded. -/
theorem lookup_eq_notBonded_iff :
    lookup a records = .error .remoteDeviceNotBonded ↔ ∀ r ∈ records, r.address ≠ a := by
  unfold lookup
  cases hfind : records.find? fun r => r.address = a with
  | none =>
    have hnone := List.find?_eq_none.mp hfind
    exact ⟨fun _ r hr => by simpa using hnone r hr, fun _ => rfl⟩
  | some r =>
    have haddress : r.address = a := by simpa using List.find?_some hfind
    refine ⟨fun h => ?_, fun h => absurd haddress (h r (List.mem_of_find?_eq_some hfind))⟩
    cases hr : Device.ofRecord r with
    | ok d => simp [hr, Except.mapError, Except.map] at h
    | error s => simp [hr, Except.mapError, Except.map, Shortfall.fault] at h

/-- A record with another address makes no difference, broken or not. -/
theorem lookup_append_cons_of_ne (h : r.address ≠ a) (before after : List DeviceRecord) :
    lookup a (before ++ r :: after) = lookup a (before ++ after) := by
  have hskip : (r :: after).find? (fun r => decide (r.address = a)) = after.find? fun r => r.address = a :=
    List.find?_cons_of_neg (by simpa using h)
  rw [lookup, lookup, List.find?_append, List.find?_append, hskip]

end Lookup

namespace Address

/-- A text that an address is written in is ASCII. -/
theorem ascii_of_written {text : List Char} {bs : List UInt8} (h : Written text bs) :
    ∀ c ∈ text, c.toNat < 0x80 := by
  have hdigit : ∀ {c : Char} {v : Nat}, Text.HexDigit c v → c.toNat < 0x80 :=
    fun hc => Text.ascii_of_digitValue? (Text.digitValue?_of_hexDigit hc)
  have hpair : ∀ {high low : Char} {b : UInt8}, Pair high low b → high.toNat < 0x80 ∧ low.toNat < 0x80 := by
    rintro high low b ⟨_, _, hhigh, hlow, -⟩
    exact ⟨hdigit hhigh, hdigit hlow⟩
  induction h with
  | last pair =>
    simp only [List.forall_mem_cons, List.not_mem_nil, false_implies, implies_true, and_true]
    exact hpair pair
  | more pair _ ih =>
    rw [List.forall_mem_cons, List.forall_mem_cons, List.forall_mem_cons]
    exact ⟨(hpair pair).1, (hpair pair).2, by decide, ih⟩

/-- **The upper case of a text that an address is written in is the text of the address.** -/
theorem uppercase_of_written {s : String} {a : Address} (h : Written s.toList a.octets) :
    Text.uppercase s = a.text := by
  apply String.toList_injective
  rw [Text.toList_uppercase_of_isAscii (ascii_of_written h), text_of_ofText? (ofText?_eq_some_iff.mpr h),
    String.toList_map]

end Address

namespace Host

variable {κ : Type} {h : Host κ} {v : Vendor}

theorem reply_bondedDevice (hup : h.started = true) (hclear : v.barrier = none) (hready : v.status = .success)
    {s : String} {a : Address} (hwritten : Address.Written s.toList a.octets) (number : Nat) :
    (h.perform number (.bondedDevice s) v).reply = ⟨lookup a v.bonded, []⟩ := by
  have hread := Address.checkAddress_eq_ok_iff.mpr (Address.ofText?_eq_some_iff.mpr hwritten)
  have hcheck : h.check (.bondedDevice s) = .ok (.read (.bonded a)) := by
    simp [check, checkCondition, Operation.condition, Operation.task, hup, hread, bind, Except.bind, pure,
      Except.pure]
  have hrun : ∀ operation, (Reading.bonded a).run operation v = readBonded operation a v := fun _ => rfl
  have hvalue : v.value (.bondedDevice a) =
      match v.bonded.find? fun r => r.address = a with
      | some r => .ok r
      | none => .error .notPaired := rfl
  rw [perform_of_task hcheck, carryOut, hrun, lookup]
  unfold readBonded
  cases hfind : v.bonded.find? fun r => r.address = a with
  | none =>
    have hask : v.ask (.bondedDevice a) = (.error .notPaired, v, [.bondedDevice a]) := by
      rw [Vendor.ask, hclear, hready, hvalue, hfind]
      rfl
    rw [inquire, hask]
    rfl
  | some r =>
    rw [inquire_ok hclear hready (a := r) (by rw [hvalue, hfind])]
    dsimp only
    cases hr : Device.ofRecord r with
    | ok d => rfl
    | error shortfall => rfl

/-- A visit that nothing ends before the last record has come past all of them. -/
theorem gives_of_visit {records : List DeviceRecord} (hup : h.started = true)
    (hrecords : (v.ask .bondedDevices).1 = .ok records) {number : Nat} {visited : List Device}
    (hvisit : (h.perform number (.eachBondedDevice fun _ => true) v).reply = ⟨.ok .unit, visited⟩) :
    List.Forall₂ DeviceRecord.Gives records visited := by
  have hstart : GoesOn (fun _ => true) [] := goesOn_nil
  obtain ⟨seen, left, devices, hsplit, hgives, hvisited, hends⟩ := exists_visitEnds hstart records
  rw [(perform_eachBondedDevice hup hrecords _ number).1] at hvisit
  obtain ⟨hresult, hdevices⟩ := Reply.mk.inj hvisit
  rw [List.nil_append] at hvisited hends
  rw [hresult] at hends
  obtain rfl : devices = visited := hvisited.symm.trans hdevices
  generalize hok : (Except.ok Value.unit : Except Fault Value) = result at hends
  cases hends with
  | finished =>
    rw [List.append_nil] at hsplit
    rwa [hsplit]
  | stopped _ hstops => exact absurd hstops (by decide)
  | failed => exact absurd hok nofun

/-- **Looking up and visiting agree.** On a host that is up, whose vendor answers, looking up a text that an
    address is written in gives the device of the first record with this address; it fails if that is broken, and
    tells that no such device is bonded just if no record has the address. If a visit that nothing stops succeeds,
    it is the first device visited whose address is this text in upper case that is looked up, or none if there is
    none. Records with other addresses make no difference to a look-up, broken or not. -/
theorem lookup_agrees_with_visit (hup : h.started = true) (hclear : v.barrier = none)
    (hready : v.status = .success) {s : String} {a : Address} (hwritten : Address.Written s.toList a.octets)
    (number : Nat) :
    (∀ r, First (fun r => r.address = a) v.bonded r →
      (∀ d, r.Gives d → (h.perform number (.bondedDevice s) v).reply.result = .ok (.device d)) ∧
      (r.Broken → (h.perform number (.bondedDevice s) v).reply.result = .error .operationFailed)) ∧
    ((h.perform number (.bondedDevice s) v).reply.result = .error .remoteDeviceNotBonded ↔
      ∀ r ∈ v.bonded, r.address ≠ a) ∧
    (∀ other visited, (h.perform other (.eachBondedDevice fun _ => true) v).reply = ⟨.ok .unit, visited⟩ →
      (∀ d, First (fun d => d.remoteAddress = Text.uppercase s) visited d →
        (h.perform number (.bondedDevice s) v).reply.result = .ok (.device d)) ∧
      ((h.perform number (.bondedDevice s) v).reply.result = .error .remoteDeviceNotBonded ↔
        ∀ d ∈ visited, d.remoteAddress ≠ Text.uppercase s)) ∧
    ∀ before r after, v.bonded = before ++ r :: after → r.address ≠ a →
      (h.perform number (.bondedDevice s) v).reply =
        (h.perform number (.bondedDevice s) { v with bonded := before ++ after }).reply := by
  have hreply := reply_bondedDevice hup hclear hready hwritten number
  have hresult : (h.perform number (.bondedDevice s) v).reply.result = lookup a v.bonded := by rw [hreply]
  rw [hresult]
  refine ⟨fun r hr => ⟨fun d => lookup_of_gives hr, lookup_of_broken hr⟩, lookup_eq_notBonded_iff, ?_, ?_⟩
  · intro other visited hvisit
    have hrecords : (v.ask .bondedDevices).1 = .ok v.bonded := by
      rw [Vendor.ask, hclear, hready]
      rfl
    have hgives := gives_of_visit hup hrecords hvisit
    -- the vendor compares octets, the caller texts
    have hfit : ∀ r d, DeviceRecord.Gives r d →
        (r.address = a ↔ d.remoteAddress = Text.uppercase s) := by
      intro r d hrd
      rw [hrd.remoteAddress_eq, Address.uppercase_of_written hwritten, Address.text_injective.eq_iff]
    refine ⟨fun d hd => ?_, lookup_eq_notBonded_iff.trans (forall_not_of_forall₂ hgives hfit)⟩
    obtain ⟨r, hr, hrd⟩ := exists_first_of_forall₂ hgives hfit hd
    exact lookup_of_gives hr hrd
  · intro before r after hsplit hr
    rw [hreply, reply_bondedDevice hup (v := { v with bonded := before ++ after }) hclear hready hwritten, hsplit,
      lookup_append_cons_of_ne hr]

/-- A headset that is bonded twice, first without services. -/
def pairedTwice : List DeviceRecord :=
  [{}, { address := headset, bonded := true }, { address := headset, serviceCount := 1, uuids := ["110b"] }]

/-- Of a device that is bonded twice the first record counts, for a visit as for a look-up; a broken record in
    front of it ends the visit and not the look-up; and nobody else is bonded. -/
theorem lookup_agrees_with_visit_twice :
    (∃ d, (({ started := true } : Host Unit).perform 0 (.bondedDevice "00:1a:7D:da:71:13")
          { bonded := pairedTwice }).reply.result = .ok (.device d) ∧
      d.remoteAddress = "00:1A:7D:DA:71:13" ∧ d.isBonded = true) ∧
    (∃ d, (({ started := true } : Host Unit).perform 0 (.bondedDevice "00:1a:7D:da:71:13")
          { bonded := { serviceCount := 1 } :: pairedTwice }).reply.result = .ok (.device d) ∧
        d.isBonded = true) ∧
    (({ started := true } : Host Unit).perform 0 (.bondedDevice "00:1a:7D:da:71:14")
      { bonded := pairedTwice }).reply.result = .error .remoteDeviceNotBonded := by
  have hheadset : Address.Written "00:1a:7D:da:71:13".toList headset.octets :=
    Address.ofText?_eq_some_iff.mp rfl
  obtain ⟨other, hother⟩ : ∃ a, Address.ofText? "00:1a:7D:da:71:14" = some a := ⟨_, rfl⟩
  obtain ⟨-, -, hvisit, -⟩ := lookup_agrees_with_visit (h := ({ started := true } : Host Unit))
    (v := { bonded := pairedTwice }) rfl rfl rfl hheadset 0
  obtain ⟨-, -, -, hbroken⟩ := lookup_agrees_with_visit (h := ({ started := true } : Host Unit))
    (v := { bonded := { serviceCount := 1 } :: pairedTwice }) rfl rfl rfl hheadset 0
  obtain ⟨-, hnone, -⟩ := lookup_agrees_with_visit (h := ({ started := true } : Host Unit))
    (v := { bonded := pairedTwice }) rfl rfl rfl (Address.ofText?_eq_some_iff.mp hother) 0
  have hfirst := (hvisit 0 _ rfl).1 _ ⟨[_], _, rfl, by decide, by decide⟩
  have hbehind := congrArg Reply.result (hbroken [] _ _ rfl (by decide))
  refine ⟨⟨_, hfirst, by decide, rfl⟩, ⟨_, hbehind.trans hfirst, rfl⟩, hnone.mpr ?_⟩
  obtain rfl := Option.some.inj hother
  decide

end Host

end BluetoothHost
