import BluetoothHost.Proofs.Forwarding
import BluetoothHost.Proofs.Reentrancy
import Mathlib.Data.List.Iterate
import Mathlib.Data.List.Nodup

/-!
# `Proofs.Descriptors` — sockets are numbered one after the other

The vendor names a new socket by a descriptor, which it counts up from ten. It counts on just as it creates a
socket: not as it is asked in vain, not as a socket is destroyed, and not as the host goes down and comes up
again. What one action does to the count (`issues_act`) joins up along a course, and so the sockets of a
session, those that its callbacks create among them, are numbered 10, 11, 12, … in the order in which they are
created (`Session.descriptors_in_turn`).

The count is kept in 32 bits with a sign, and what is said of it along a course is said of a count that may
wrap around. Only the number of sockets created keeps it from that.

## Contents
- `Observation.created`: the sockets created, as far as one can see.
- `Host.perform_createSocket`, `Host.nextDescriptor_perform`: who counts on, and who does not.
- `World.Issues`, with `issues_act` and `Course.issues`: how the count goes on along a course.
- `toInt_counted`, with `nodup_counted`: what the count is, before it wraps around.
- `Operation.descriptor?` and `Descriptor.Passes`: descriptors that are handed back to the host.
- `Session.descriptors_in_turn`.
-/

namespace BluetoothHost

/-! ## Sockets that are created -/

namespace Observation

/-- The value that an operation which is to create a socket succeeds with. -/
def created? : Observation → Option Value
  | .acted (.request (.operation (.createSocket _))) (.reply ⟨.ok value, _⟩) => some value
  | _ => none

/-- The values that creations of sockets succeed with among some observations. -/
def created (t : List Observation) : List Value := t.filterMap created?

@[simp] theorem created_append (s t : List Observation) : created (s ++ t) = created s ++ created t :=
  List.filterMap_append

/-- A socket is created if the reply says so. -/
theorem created_reply {uuid : String} {reply : Reply} :
    created [.acted (.request (.operation (.createSocket uuid))) (.reply reply)] =
      reply.result.toOption.toList := by
  obtain ⟨result, visited⟩ := reply
  cases result with
  | ok value => rfl
  | error f => rfl

/-- Nothing but the reply to an operation that is to create a socket shows one that is created. -/
theorem created_eq_nil {o : Observation}
    (ho : ∀ uuid reply, o ≠ .acted (.request (.operation (.createSocket uuid))) (.reply reply)) :
    created [o] = [] := by
  have hnone : created? o = none := by
    unfold created?
    split
    · exact absurd rfl (ho _ _)
    · rfl
  exact List.filterMap_cons_none hnone

/-- Aside of actions no socket is created. -/
theorem created_of_isAside {t : List Observation} (ht : ∀ o ∈ t, o.isAside = true) : created t = [] := by
  refine List.filterMap_eq_nil_iff.mpr ?_
  intro o ho
  cases o with
  | entry | posted | delivered | called => rfl
  | acted => exact absurd (ht _ ho) (by simp [isAside])

end Observation

/-! ## Who counts on -/

/-- No command has to do with the count. -/
@[simp] theorem Vendor.nextDescriptor_linked (v : Vendor) (c : Command) :
    (v.linked c).nextDescriptor = v.nextDescriptor := by
  cases c <;> rfl

/-- The vendor creates a socket and counts on, or gives a reason not to and leaves it at that. -/
theorem Vendor.ask_createSocket (v : Vendor) (uuid : String) :
    ((v.ask (.createSocket uuid)).1 = .ok v.nextDescriptor ∧
        (v.ask (.createSocket uuid)).2.1 = { v with nextDescriptor := v.nextDescriptor + 1 }) ∨
      ∃ s, (v.ask (.createSocket uuid)).1 = .error s ∧ (v.ask (.createSocket uuid)).2.1 = v := by
  unfold ask
  split
  · rename_i s _
    exact .inr ⟨s, rfl, rfl⟩
  · by_cases hready : v.status = .success
    · rw [if_pos hready]
      exact .inl ⟨rfl, rfl⟩
    · rw [if_neg hready]
      exact .inr ⟨v.status, rfl, rfl⟩

section Readings

variable (operation : String) (v : Vendor)

theorem vendor_readVisibility : (readVisibility operation v).2.1 = v := by
  obtain ⟨t, hq, -⟩ := inquire_eq operation .scanMode v
  have hmode : (v.ask .scanMode).2.1 = v := Vendor.ask_frame rfl
  have htime : (v.ask .scanTimeout).2.1 = v := Vendor.ask_frame rfl
  unfold readVisibility
  rw [hq, hmode]
  cases (v.ask .scanMode).1 with
  | error s => rfl
  | ok mode =>
    cases mode with
    | connectable | generalDiscoverable => rfl
    | timeLimitedDiscoverable => exact htime

theorem vendor_readEachBonded (continues : List Device → Bool) :
    (readEachBonded operation continues v).2.1 = v := by
  obtain ⟨t, hq, -⟩ := inquire_eq operation .bondedDevices v
  have hsame : (v.ask .bondedDevices).2.1 = v := Vendor.ask_frame rfl
  unfold readEachBonded
  rw [hq, hsame]
  cases (v.ask .bondedDevices).1 with
  | error s => rfl
  | ok records =>
    dsimp only [learned]
    rcases visitBonded continues [] records with ⟨s | u, visited⟩
    · rfl
    · rfl

theorem vendor_readBonded (a : Address) : (readBonded operation a v).2.1 = v := by
  obtain ⟨t, hq, -⟩ := inquire_eq operation (.bondedDevice a) v
  have hsame : (v.ask (.bondedDevice a)).2.1 = v := Vendor.ask_frame rfl
  unfold readBonded
  rw [hq, hsame]
  cases (v.ask (.bondedDevice a)).1 with
  | error s => rfl
  | ok record =>
    dsimp only [learned]
    rcases Device.ofRecord record with s | d
    · rfl
    · rfl

/-- **A reading leaves the vendor as it is**, unless it is to create a socket. -/
theorem Reading.vendor_run {r : Reading} (hr : ∀ uuid, r ≠ .createSocket uuid) :
    (r.run operation v).2.1 = v := by
  cases r with
  | power => rfl
  | visibility => exact vendor_readVisibility operation v
  | eachBonded continues => exact vendor_readEachBonded operation v continues
  | bonded a => exact vendor_readBonded operation v a
  | createSocket uuid => exact absurd rfl (hr uuid)
  | address | name | isDiscovering | isServiceUsed | write => exact Vendor.ask_frame rfl

end Readings

section Operations

variable {κ : Type}

/-- Only an operation that is to create a socket becomes a task that is. -/
theorem Operation.eq_createSocket_of_task {op : Operation κ} {uuid : String}
    (ht : op.task = .ok (.read (.createSocket uuid))) : op = .createSocket uuid := by
  cases op with
  | start | stop | enableAdapter | disableAdapter | adapterState | adapterAddress | adapterName
  | visibility | startDiscovery | stopDiscovery | isDiscovering | eachBondedDevice | cancelBonding
  | cancelServiceSearch | startHidHost | stopHidHost | setCallback | unsetCallback =>
    cases ht
  | setAdapterName | setVisibility | bondedDevice | isServiceUsed | createBond | destroyBond
  | setAlias | setAuthorization | startServiceSearch | destroySocket | listenAndAccept | listen
  | acceptConnection | rejectConnection | disconnectSocket | sendData | connectHid | disconnectHid =>
    obtain ⟨_, -, ha⟩ := exists_of_bind_eq_ok ht
    cases ha
  | connectSocket =>
    obtain ⟨_, -, ha⟩ := exists_of_bind_eq_ok ht
    obtain ⟨_, -, hb⟩ := exists_of_bind_eq_ok ha
    cases hb
  | serviceMask uuids =>
    simp only [Operation.task] at ht
    split at ht
    · cases ht
    · cases ht
  | createSocket offered =>
    obtain ⟨u, hu, ha⟩ := exists_of_bind_eq_ok ht
    obtain rfl := eq_of_checkUuid hu
    obtain rfl : u = uuid := Reading.createSocket.inj (Task.read.inj (Except.ok.inj ha))
    rfl

namespace Host

variable (h : Host κ) (number : Nat) (v : Vendor)

/-- **A socket is created**, and the vendor counts on, or this fails, for whatever reason, and the vendor is left
    as it was. -/
theorem perform_createSocket (uuid : String) :
    ((h.perform number (.createSocket uuid) v).reply.result = .ok (.descriptor v.nextDescriptor) ∧
        (h.perform number (.createSocket uuid) v).vendor =
          { v with nextDescriptor := v.nextDescriptor + 1 }) ∨
      ∃ f, (h.perform number (.createSocket uuid) v).reply.result = .error f ∧
        (h.perform number (.createSocket uuid) v).vendor = v := by
  cases hc : h.check (.createSocket uuid) with
  | error refusal =>
    rw [perform_of_refused hc]
    exact .inr ⟨refusal.fault, rfl, rfl⟩
  | ok task =>
    have htask : task = .read (.createSocket uuid) := by
      obtain ⟨u, hu, ha⟩ := exists_of_bind_eq_ok (task_of_check hc)
      obtain rfl := eq_of_checkUuid hu
      exact (Except.ok.inj ha).symm
    subst htask
    rw [perform_of_task hc]
    have hasked : ∀ operation,
        (h.carryOut operation number v (.read (.createSocket uuid))).reply.result =
            (learned (v.ask (.createSocket uuid)).1).map .descriptor ∧
          (h.carryOut operation number v (.read (.createSocket uuid))).vendor =
            (v.ask (.createSocket uuid)).2.1 := by
      intro operation
      obtain ⟨t, hq, -⟩ := inquire_eq operation (.createSocket uuid) v
      exact ⟨congrArg (fun x => x.1.map Value.descriptor) hq, congrArg (fun x => x.2.1) hq⟩
    obtain ⟨hresult, hvendor⟩ := hasked (Operation.createSocket uuid : Operation κ).name
    rw [hresult, hvendor]
    rcases v.ask_createSocket uuid with ⟨hanswer, hafter⟩ | ⟨s, hanswer, hafter⟩
    · rw [hanswer]
      exact .inl ⟨rfl, hafter⟩
    · rw [hanswer]
      exact .inr ⟨_, rfl, hafter⟩

/-- A task that is to create no socket does not count on. -/
theorem nextDescriptor_carryOut (operation : String) {task : Task κ}
    (ht : ∀ uuid, task ≠ .read (.createSocket uuid)) :
    (h.carryOut operation number v task).vendor.nextDescriptor = v.nextDescriptor := by
  cases task with
  | start =>
    show (h.start v).vendor.nextDescriptor = v.nextDescriptor
    cases hs : h.started with
    | true => rw [start_of_started v hs]
    | false => rw [vendor_start v hs, Vendor.nextDescriptor_linked]
  | stop =>
    show (h.stop v).vendor.nextDescriptor = v.nextDescriptor
    rw [vendor_stop, Vendor.nextDescriptor_linked]
    cases h.hidStarted with
    | true => exact v.nextDescriptor_linked .stopHid
    | false => rfl
  | startHid callback =>
    show (h.startHid number callback v).vendor.nextDescriptor = v.nextDescriptor
    rw [vendor_startHid, Vendor.nextDescriptor_linked]
  | stopHid => exact v.nextDescriptor_linked .stopHid
  | command c => exact v.nextDescriptor_linked c
  | read r =>
    have hr : ∀ uuid, r ≠ .createSocket uuid := fun uuid hr => ht uuid (congrArg Task.read hr)
    exact congrArg Vendor.nextDescriptor (r.vendor_run operation v hr)
  | setCallback | unsetCallback | serviceMask => rfl

/-- **Any other operation does not count on**, whatever comes of it. -/
theorem nextDescriptor_perform {op : Operation κ} (hop : ∀ uuid, op ≠ .createSocket uuid) :
    (h.perform number op v).vendor.nextDescriptor = v.nextDescriptor := by
  cases hc : h.check op with
  | error refusal => rw [perform_of_refused hc]
  | ok task =>
    rw [perform_of_task hc]
    apply nextDescriptor_carryOut
    rintro uuid rfl
    exact hop uuid (Operation.eq_createSocket_of_task (task_of_check hc))

end Host

end Operations

/-! ## How the count goes on -/

/-- From `w` to `w'` the sockets created get the descriptors that come next, in turn, and no descriptor is used
    up otherwise. -/
def World.Issues (w : World) (t : List Observation) (w' : World) : Prop :=
  ∃ n, Observation.created t = (List.iterate (· + 1) w.vendor.nextDescriptor n).map .descriptor ∧
    w'.vendor.nextDescriptor = (· + 1)^[n] w.vendor.nextDescriptor

/-- Nothing is created, and nothing used up. -/
theorem World.Issues.none {w w' : World} {t : List Observation} (ht : Observation.created t = [])
    (hv : w'.vendor.nextDescriptor = w.vendor.nextDescriptor) : w.Issues t w' :=
  ⟨0, ht, hv⟩

theorem joins_issues : Joins World.Issues where
  refl _ := .none rfl rfl
  trans := by
    rintro w w' w'' t u ⟨m, hfirst, hnext⟩ ⟨n, hsecond, hlast⟩
    rw [hnext] at hsecond hlast
    refine ⟨m + n, ?_, ?_⟩
    · rw [Observation.created_append, hfirst, hsecond, List.iterate_add, List.map_append]
    · rw [hlast, Nat.add_comm, Function.iterate_add_apply]

/-- **One operation**: a creation counts on by one if it succeeds, and nothing else does. -/
theorem World.issues_perform (w : World) (op : Operation Callback) :
    w.Issues [.acted (.request (.operation op)) (.reply (w.perform op).1)] (w.perform op).2.1 := by
  by_cases hop : ∃ uuid, op = .createSocket uuid
  · obtain ⟨uuid, rfl⟩ := hop
    rcases w.host.perform_createSocket w.nextNumber w.vendor uuid with
      ⟨hreply, hvendor⟩ | ⟨f, hreply, hvendor⟩
    · refine ⟨1, ?_, congrArg Vendor.nextDescriptor hvendor⟩
      exact Observation.created_reply.trans (congrArg (fun x => x.toOption.toList) hreply)
    · refine .none ?_ (congrArg Vendor.nextDescriptor hvendor)
      exact Observation.created_reply.trans (congrArg (fun x => x.toOption.toList) hreply)
  · refine .none (Observation.created_eq_nil ?_) ?_
    · rintro uuid reply heq
      cases heq
      exact hop ⟨uuid, rfl⟩
    · exact w.host.nextDescriptor_perform w.nextNumber w.vendor fun uuid heq => hop ⟨uuid, heq⟩

/-- **One action**: none but operations has to do with the count. -/
theorem World.issues_act (w : World) (locked : Bool) (a : Action Callback) :
    w.Issues ((w.act locked a).2.2 ++ [.acted a (w.act locked a).1]) (w.act locked a).2.1 := by
  have hquiet : Observation.created (w.act locked a).2.2 = [] :=
    Observation.filterMap_effects (fun _ => rfl) (fun _ => rfl) (w.effects_act locked a)
  have hanswer : w.Issues [.acted a (w.act locked a).1] (w.act locked a).2.1 := by
    have heffect := w.effect_act locked a
    generalize w.act locked a = x at heffect ⊢
    cases heffect with
    | vain | posted | dropped | asked | handled => exact .none rfl rfl
    | locked r => exact .none (Observation.created_eq_nil nofun) rfl
    | configured settings => exact .none rfl (w.vendor.configure_frame settings).2.2
    | operated op => exact w.issues_perform op
  exact joins_issues.trans (.none hquiet rfl) hanswer

/-- **All along a course** the sockets created get the descriptors that come next. -/
theorem Course.issues {w w' : World} {t : List Observation} (h : Course w t w') : w.Issues t w' := by
  induction h with
  | done => exact joins_issues.refl _
  | @act w' t locked a _ ih => exact joins_issues.trans ih (w'.issues_act locked a)
  | aside _ ha ih =>
    have hnext := congrArg Vendor.nextDescriptor ha.vendor
    exact joins_issues.trans ih (.none (Observation.created_of_isAside ha.unseen) hnext)

/-! ## What the count is -/

/-- **Counting up from ten**, as long as it does not wrap around. -/
theorem toInt_counted {n : Nat} (hn : 10 + n < 0x80000000) : ((· + 1)^[n] (10 : Int32)).toInt = 10 + n := by
  have hcounted : ∀ m, (· + 1)^[m] (10 : Int32) = Int32.ofNat (10 + m) := by
    intro m
    induction m with
    | zero => rfl
    | succ m ih =>
      rw [Function.iterate_succ_apply', ih, ← Nat.add_assoc, Int32.ofNat_add (10 + m) 1]
      rfl
  rw [hcounted, Int32.toInt_ofNat_of_lt hn]
  omega

section Counted

variable {n : Nat} (hn : n < 0x80000000 - 10)
include hn

/-- The numbers counted from ten are ten more than their places, -/
theorem toInt_of_getElem?_counted {i : Nat} {d : Int32} (hd : (List.iterate (· + 1) 10 n)[i]? = some d) :
    d.toInt = 10 + i := by
  obtain ⟨hi, -⟩ := List.getElem?_eq_some_iff.mp hd
  rw [List.length_iterate] at hi
  rw [List.getElem?_iterate _ _ _ _ hi] at hd
  obtain rfl := Option.some.inj hd
  exact toInt_counted (by omega)

/-- and hence no two of them are the same. -/
theorem nodup_counted : (List.iterate (· + 1) (10 : Int32) n).Nodup := by
  rw [List.nodup_iff_getElem?_ne_getElem?]
  intro i j hij hj heq
  rw [List.getElem?_eq_getElem hj] at heq
  have hfirst := toInt_of_getElem?_counted hn heq
  have hsecond := toInt_of_getElem?_counted hn (List.getElem?_eq_getElem hj)
  omega

end Counted

/-! ## Descriptors that are handed back -/

/-- The socket that an operation is about. -/
def Operation.descriptor? {κ : Type} : Operation κ → Option Int32
  | .destroySocket number | .listenAndAccept number _ | .listen number _ | .acceptConnection number
  | .rejectConnection number | .disconnectSocket number | .sendData number _ => some number
  | _ => none

/-- A number passes the check of every operation on sockets, and on a host that is up this is the only check there
    is. -/
def Descriptor.Passes (number : Int32) : Prop :=
  ∀ op : Operation Callback, op.descriptor? = some number →
    ∃ task, op.task = .ok task ∧ ∀ h : Host Callback, h.started = true → h.check op = .ok task

/-- **Whatever is not negative passes.** -/
theorem Descriptor.passes_of_nonneg {number : Int32} (hn : 0 ≤ number.toInt) : Descriptor.Passes number := by
  have hsign : ¬ number < 0 := by
    rw [Int32.lt_iff_toInt_lt]
    exact Int.not_lt.mpr hn
  have hcheck : checkDescriptor number = .ok number := if_neg hsign
  intro op hop
  have hpassed : op.condition = .started ∧ ∃ task, op.task = .ok task := by
    cases op with
    | destroySocket | listenAndAccept | listen | acceptConnection | rejectConnection | disconnectSocket
    | sendData =>
      obtain rfl := Option.some.inj hop
      refine ⟨rfl, ?_⟩
      simp [Operation.task, hcheck]
    | _ => cases hop
  obtain ⟨hcondition, task, htask⟩ := hpassed
  refine ⟨task, htask, ?_⟩
  intro h hup
  simp [Host.check, Host.checkCondition, hcondition, hup, htask]

namespace Session

open Observation (created)

/-- **Sockets are numbered in turn.** In every session that creates fewer than 2³¹ − 10 sockets, whatever its
    steps and its callbacks do in between, the creations that succeed give the descriptors 10, 11, 12, … in
    this order. So no two of them give the same, and the descriptors pass the checks of all operations on
    sockets. A creation that fails leaves the vendor as it was, with the descriptor for the next one. -/
theorem descriptors_in_turn (looping : Bool) (settings : List Vendor.Setting) (steps : List Step)
    (hfew : (created (history looping (initial settings) steps)).length < 0x80000000 - 10) :
    ∃ descriptors : List Int32,
      created (history looping (initial settings) steps) = descriptors.map .descriptor ∧
      (∀ (i : Nat) (d : Int32), descriptors[i]? = some d → d.toInt = 10 + i) ∧
      descriptors.Nodup ∧
      (∀ d ∈ descriptors, Descriptor.Passes d) ∧
      ∀ (w : World) uuid f, (w.perform (.createSocket uuid)).1.result = .error f →
        (w.perform (.createSocket uuid)).2.1.vendor = w.vendor := by
  obtain ⟨n, hcreated, -⟩ := (course_history looping (initial settings) steps).issues
  have hfirst : (initial settings).vendor.nextDescriptor = 10 :=
    (({} : Vendor).configure_frame settings).2.2
  rw [hfirst] at hcreated
  have hn : n < 0x80000000 - 10 := by
    rw [hcreated, List.length_map, List.length_iterate] at hfew
    exact hfew
  refine ⟨List.iterate (· + 1) 10 n, hcreated, fun i d => toInt_of_getElem?_counted hn, nodup_counted hn,
    ?_, ?_⟩
  · intro d hd
    obtain ⟨i, hi⟩ := List.mem_iff_getElem?.mp hd
    have hvalue := toInt_of_getElem?_counted hn hi
    exact Descriptor.passes_of_nonneg (by omega)
  · intro w uuid f hf
    rcases w.host.perform_createSocket w.nextNumber w.vendor uuid with ⟨hok, -⟩ | ⟨-, -, hvendor⟩
    · exact absurd (hf.symm.trans hok) nofun
    · exact hvendor

/-- A callback that creates a socket as often as it is called. -/
def opener : Callback :=
  { tag := "opener", actions := fun _ => [.request (.operation (.createSocket "1105"))] }

/-- Creations of sockets that fail, as the host is down, for want of a UUID, and by the status of the vendor;
    and others that do not, with a socket destroyed and the host restarted in between. -/
def turnover : List Step :=
  [.act (.request (.operation (.createSocket "1101"))), .act (.request (.operation .start)),
    .act (.request (.operation (.createSocket ""))), .act (.request (.operation (.createSocket "1101"))),
    .act (.configure [.status .timeout]), .act (.request (.operation (.createSocket "1101"))),
    .act (.configure [.status .success]), .act (.request (.operation (.destroySocket 10))),
    .act (.request (.operation .stop)), .act (.request (.operation .start)),
    .act (.request (.operation (.startHidHost opener))), .deliver (.hidConnection .success .zero .connected),
    .act (.request (.operation (.createSocket "1101")))]

/-- Three of its creations succeed, one of them in a callback. -/
theorem descriptors_in_turn_turnover :
    created (history false (initial []) turnover) = [.descriptor 10, .descriptor 11, .descriptor 12] ∧
      ∃ descriptors : List Int32,
        created (history false (initial []) turnover) = descriptors.map .descriptor ∧
          descriptors.Nodup ∧ ∀ d ∈ descriptors, Descriptor.Passes d := by
  have hcreated : created (history false (initial []) turnover) =
      [.descriptor 10, .descriptor 11, .descriptor 12] := rfl
  have hfew : (created (history false (initial []) turnover)).length < 0x80000000 - 10 := by
    rw [hcreated]
    decide
  obtain ⟨descriptors, hall, -, hdistinct, hpass, -⟩ := descriptors_in_turn false [] turnover hfew
  exact ⟨hcreated, descriptors, hall, hdistinct, hpass⟩

end Session

end BluetoothHost
