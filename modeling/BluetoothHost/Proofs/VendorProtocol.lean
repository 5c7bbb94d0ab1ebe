import BluetoothHost.Proofs.Course
import BluetoothHost.Proofs.Histories
import BluetoothHost.Proofs.Operations

/-!
# `Proofs.VendorProtocol` — the vendor is called by the rules

The vendor expects its calls in a certain order: it is registered with before anything else and
unregistered from last, and the HID host comes up and goes down in between. The rules are a machine
over the calls it records and the status of each, `Phase.next?`. The host is always in the phase that
the calls so far lead to: `run?_perform` says so of one operation, and since nothing but operations
calls the vendor, every session is accepted (`calls_follow_protocol`).

## Contents
- `Call.role`, `Phase`, `Phase.next?`, `Phase.run?`: the machine.
- `Registered` and `HidUp`: what happened last; `Phase.run?_down` reads a phase off the calls.
- `Host.phase` and `run?_perform`: an operation moves host and machine alike.
- `calls_follow_protocol`: so does every session.
-/

namespace BluetoothHost

/-! ## The machine -/

/-- What a call means to the order of calls. -/
inductive Call.Role where
  | register
  | unregister
  | startHid
  | stopHid
  /-- Uses the HID host. -/
  | useHid
  /-- Any other call. -/
  | use
  deriving DecidableEq

def Call.role : Call → Role
  | .command .register => .register
  | .command .unregister => .unregister
  | .command .startHid => .startHid
  | .command .stopHid => .stopHid
  | .command (.connectHid _) | .command (.disconnectHid _) => .useHid
  | _ => .use

/-- How far up the vendor is, to go by its calls: not at all, or up without or with the HID host. -/
inductive Phase where
  | down
  | up (hid : Bool)
  deriving DecidableEq

namespace Phase

/-- The phase after a call that is answered with a status, if the call is in order. -/
def next? (p : Phase) (x : Call × Status) : Option Phase :=
  match p, x.1.role with
  | .down, .register => some (if x.2 = .success then .up false else .down)
  | .up false, .unregister => some .down
  | .up false, .startHid => some (.up (x.2 == .success))
  | .up true, .stopHid => some (.up false)
  | .up true, .useHid => some (.up true)
  | .up hid, .use => some (.up hid)
  | _, _ => none

/-- The phase after some calls, if all of them are in order. -/
def run? (p : Phase) (l : List (Call × Status)) : Option Phase := l.foldlM next? p

@[simp] theorem run?_nil (p : Phase) : p.run? [] = some p := rfl

@[simp] theorem run?_cons (p : Phase) (x : Call × Status) (l : List (Call × Status)) :
    p.run? (x :: l) = (p.next? x).bind (·.run? l) := rfl

theorem run?_singleton (p : Phase) (x : Call × Status) : p.run? [x] = p.next? x := by
  rw [run?_cons]
  cases p.next? x <;> rfl

theorem run?_append (p : Phase) (l m : List (Call × Status)) :
    p.run? (l ++ m) = (p.run? l).bind (·.run? m) :=
  List.foldlM_append

/-- Calls that use the vendor and no HID host leave the phase as it is. -/
theorem run?_of_use {hid : Bool} {l : List (Call × Status)} (hl : ∀ x ∈ l, x.1.role = .use) :
    (up hid).run? l = some (.up hid) := by
  induction l with
  | nil => rfl
  | cons x rest ih =>
    have hx : (up hid).next? x = some (.up hid) := by
      simp only [next?, hl x List.mem_cons_self]
    have hrest := ih (fun y hy => hl y (List.mem_cons_of_mem x hy))
    rw [run?_cons, hx]
    exact hrest

end Phase

/-! ## What the calls lead to -/

/-- The last registration was answered with success, and no unregistration came after it. -/
def Registered (l : List (Call × Status)) : Prop :=
  Latest (fun x => x.1.role = .register ∧ x.2 = .success) (fun x => x.1.role = .unregister) l

/-- The last start of the HID host was answered with success, and it was not stopped after it. -/
def HidUp (l : List (Call × Status)) : Prop :=
  Latest (fun x => x.1.role = .startHid ∧ x.2 = .success) (fun x => x.1.role = .stopHid) l

theorem registered_snoc {l : List (Call × Status)} {x : Call × Status} :
    Registered (l ++ [x]) ↔
      (x.1.role = .register ∧ x.2 = .success) ∨ (¬ x.1.role = .unregister ∧ Registered l) :=
  latest_snoc

theorem hidUp_snoc {l : List (Call × Status)} {x : Call × Status} :
    HidUp (l ++ [x]) ↔
      (x.1.role = .startHid ∧ x.2 = .success) ∨ (¬ x.1.role = .stopHid ∧ HidUp l) :=
  latest_snoc

/-- One call that is in order moves the phase as it moves what happened last. -/
theorem Phase.next?_eq_some {p q : Phase} {x : Call × Status} (h : q.next? x = some p) :
    (p ≠ .down ↔
      (x.1.role = .register ∧ x.2 = .success) ∨ (¬ x.1.role = .unregister ∧ q ≠ .down)) ∧
    (p = .up true ↔
      (x.1.role = .startHid ∧ x.2 = .success) ∨ (¬ x.1.role = .stopHid ∧ q = .up true)) := by
  unfold next? at h
  split at h
  · -- a registration: up or not, as the status says
    rename_i hr
    obtain rfl := Option.some.inj h
    by_cases hs : x.2 = .success <;> simp [hr, hs]
  · rename_i hr; obtain rfl := Option.some.inj h; simp [hr]
  · rename_i hr
    obtain rfl := Option.some.inj h
    by_cases hs : x.2 = .success <;> simp [hr, hs]
  · rename_i hr; obtain rfl := Option.some.inj h; simp [hr]
  · rename_i hr; obtain rfl := Option.some.inj h; simp [hr]
  · rename_i hr; obtain rfl := Option.some.inj h; simp [hr]
  · exact absurd h (by simp)

/-- **A phase says what happened last.** If some calls are in order, the phase they lead to is up just
    when the vendor is registered with, and up with the HID host just when that was started. -/
theorem Phase.run?_down {l : List (Call × Status)} {p : Phase} (h : Phase.down.run? l = some p) :
    (p ≠ .down ↔ Registered l) ∧ (p = .up true ↔ HidUp l) := by
  -- from the end: the phase before the last call says what happened last before it
  induction l using List.reverseRecOn generalizing p with
  | nil =>
    obtain rfl := Option.some.inj h
    simp [Registered, HidUp, not_latest_nil]
  | append_singleton l x ih =>
    rw [run?_append] at h
    obtain ⟨q, hq, hx⟩ := Option.bind_eq_some_iff.mp h
    rw [run?_singleton] at hx
    obtain ⟨hreg, hhid⟩ := ih hq
    obtain ⟨hup, htrue⟩ := next?_eq_some hx
    constructor
    · rw [hup, hreg, registered_snoc]
    · rw [htrue, hhid, hidUp_snoc]

/-- A call in the midst of calls in order finds the vendor registered with, unless it registers, and
    the HID host down, if it unregisters. -/
theorem Phase.in_order {l before after : List (Call × Status)} {x : Call × Status} {p : Phase}
    (h : Phase.down.run? l = some p) (hl : l = before ++ x :: after) :
    (x.1.role ≠ .register → Registered before) ∧ (x.1.role = .unregister → ¬ HidUp before) := by
  rw [hl, run?_append] at h
  obtain ⟨q, hq, hrest⟩ := Option.bind_eq_some_iff.mp h
  rw [run?_cons] at hrest
  obtain ⟨r, hr, -⟩ := Option.bind_eq_some_iff.mp hrest
  obtain ⟨hreg, hhid⟩ := run?_down hq
  rw [← hreg, ← hhid]
  constructor
  · rintro hrole rfl
    unfold next? at hr
    split at hr <;> simp_all
  · rintro hrole rfl
    simp [next?, hrole] at hr

/-! ## One operation -/

/-- The phase that a host takes its vendor to be in. -/
def Host.phase {κ : Type} (h : Host κ) : Phase := if h.started then .up h.hidStarted else .down

/-- The HID host is up in a host that is up, or not at all. -/
def Host.Nested {κ : Type} (h : Host κ) : Prop := h.hidStarted = true → h.started = true

section Operations

variable {κ : Type} {h : Host κ}

theorem Host.phase_of_up (hs : h.started = true) : h.phase = .up h.hidStarted := by
  simp [Host.phase, hs]

theorem Host.phase_of_down (hs : h.started = false) : h.phase = .down := by
  simp [Host.phase, hs]

theorem Host.phase_congr {h' : Host κ} (hs : h'.started = h.started)
    (hh : h'.hidStarted = h.hidStarted) : h'.phase = h.phase := by
  simp [Host.phase, hs, hh]

theorem Host.Nested.congr {h' : Host κ} (hn : h.Nested) (hs : h'.started = h.started)
    (hh : h'.hidStarted = h.hidStarted) : h'.Nested := by
  unfold Host.Nested
  rw [hs, hh]
  exact hn

/-- A call that is no command uses the vendor, and nothing more. -/
theorem Call.role_of_ne_command {c : Call} (hc : ∀ command, c ≠ .command command) :
    c.role = .use := by
  cases c with
  | command command => exact absurd rfl (hc command)
  | bondedDevices | bondedDevice | createSocket | write => rfl

/-- A command that is passed on is in order where its task's condition is met. -/
theorem Host.next?_command {c : Command} (hm : h.Meets (Task.command c : Task κ).condition)
    (hk : (Task.command c : Task κ).keepsDispatchers = true) (s : Status) :
    h.phase.next? (.command c, s) = some h.phase := by
  cases c with
  | register | unregister | startHid | stopHid => exact absurd hk (by simp [Task.keepsDispatchers])
  | connectHid | disconnectHid =>
    obtain ⟨hs, hh⟩ := hm
    rw [Host.phase_of_up hs, hh]
    rfl
  | _ =>
    rw [Host.phase_of_up hm]
    cases h.hidStarted <;> rfl

/-- **Carrying out a task** takes the machine from the phase of the host to that of the host left. -/
theorem run?_carryOut {task : Task κ} (hn : h.Nested) (hm : h.Meets task.condition)
    (hk : task.keepsDispatchers = true) (operation : String) (number : Nat) (v : Vendor) :
    h.phase.run? (Entry.exchanges (h.carryOut operation number v task).trace) =
        some (h.carryOut operation number v task).host.phase ∧
      (h.carryOut operation number v task).host.Nested := by
  cases task with
  | start =>
    show h.phase.run? (Entry.exchanges (h.start v).trace) = some (h.start v).host.phase ∧
      (h.start v).host.Nested
    cases hs : h.started with
    | true =>
      rw [Host.start_of_started v hs]
      exact ⟨rfl, hn⟩
    | false =>
      -- a host that is down has no HID host up, so that it comes up without one
      have hh : h.hidStarted = false :=
        Bool.eq_false_iff.mpr fun hh => absurd (hn hh) (by simp [hs])
      rw [Host.exchanges_start v hs, Host.host_start v hs, Host.phase_of_down hs]
      by_cases hv : v.verdict .register = .success <;>
        simp [Phase.next?, Call.role, hv, Host.phase, Host.Nested, hh, hs]
  | stop =>
    show h.phase.run? (Entry.exchanges (h.stop v).trace) = some (h.stop v).host.phase ∧
      (h.stop v).host.Nested
    rw [Host.exchanges_stop, Host.host_stop, Host.phase_of_up hm]
    cases h.hidStarted <;> simp [Phase.next?, Call.role, Host.phase, Host.Nested]
  | startHid callback =>
    obtain ⟨hs, hh⟩ := hm
    show h.phase.run? (Entry.exchanges (h.startHid number callback v).trace) =
        some (h.startHid number callback v).host.phase ∧
      (h.startHid number callback v).host.Nested
    rw [Host.exchanges_startHid, Host.host_startHid, Host.phase_of_up hs, hh]
    by_cases hv : v.verdict .startHid = .success <;>
      simp [Phase.next?, Call.role, hv, Host.phase, Host.Nested, Host.register, hs, hh]
  | stopHid =>
    obtain ⟨hs, hh⟩ := hm
    show h.phase.run? (Entry.exchanges (h.stopHid v).trace) = some (h.stopHid v).host.phase ∧
      (h.stopHid v).host.Nested
    rw [Host.exchanges_stopHid, Host.host_stopHid, Host.phase_of_up hs, hh]
    simp [Phase.next?, Call.role, Host.phase, Host.Nested, Host.release, hs]
  | setCallback kind callback => exact ⟨rfl, hn⟩
  | unsetCallback kind => exact ⟨rfl, hn⟩
  | command c =>
    refine ⟨?_, hn⟩
    show h.phase.run? (Entry.exchanges (forward operation c v).2.2) = some h.phase
    rw [exchanges_forward, Phase.run?_singleton]
    exact Host.next?_command hm hk (v.verdict c)
  | read r =>
    refine ⟨?_, hn⟩
    show h.phase.run? (Entry.exchanges (r.run operation v).2.2) = some h.phase
    rw [Host.phase_of_up hm]
    exact Phase.run?_of_use fun x hx =>
      Call.role_of_ne_command ((asked_run operation r v).queries.ne_command hx)
  | serviceMask uuids =>
    refine ⟨?_, hn⟩
    have hnone : Entry.exchanges (h.carryOut operation number v (.serviceMask uuids)).trace = [] := by
      rw [← Entry.exchanges_map_notice ((ServiceMask.unreadable uuids).map .unreadableUuid)]
      simp [Host.carryOut, Function.comp_def]
    rw [hnone]
    rfl

/-- **One operation.** Its calls are in order, and lead from the phase of the host to that of the host
    it leaves. -/
theorem run?_perform (hn : h.Nested) (number : Nat) (op : Operation κ) (v : Vendor) :
    h.phase.run? (Entry.exchanges (h.perform number op v).trace) =
        some (h.perform number op v).host.phase ∧
      (h.perform number op v).host.Nested := by
  cases hc : h.check op with
  | error refusal =>
    rw [Host.perform_of_refused hc]
    exact ⟨rfl, hn⟩
  | ok task =>
    rw [Host.perform_of_task hc]
    obtain ⟨hm, hk⟩ := Host.meets_of_check hc
    exact run?_carryOut hn hm hk op.name number v

end Operations

/-! ## Sessions -/

namespace Observation

/-- The calls of the vendor among some observations, with the status of each. -/
def exchanges (t : List Observation) : List (Call × Status) :=
  t.filterMap fun
    | .entry e => e.exchange?
    | _ => none

@[simp] theorem exchanges_append (s t : List Observation) :
    exchanges (s ++ t) = exchanges s ++ exchanges t :=
  List.filterMap_append

@[simp] theorem exchanges_map_entry (t : List Entry) :
    exchanges (t.map .entry) = Entry.exchanges t := by
  unfold exchanges Entry.exchanges
  rw [List.filterMap_map]
  rfl

/-- The calls that the vendor records are these, without what they were answered with. -/
theorem map_fst_exchanges (t : List Observation) : (exchanges t).map Prod.fst = calls t := by
  unfold exchanges calls
  rw [List.map_filterMap]
  congr 1
  funext o
  match o with
  | .entry (.call c s) => rfl
  | .entry (.notice _) | .entry (.registered _ _) | .entry (.released _) | .entry .releasedAll
  | .entry (.handled _) | .posted _ | .delivered _ | .called .. | .acted .. => rfl

/-- No call of the vendor is seen aside of actions. -/
theorem exchanges_of_isAside {t : List Observation} (ht : ∀ o ∈ t, o.isAside = true) :
    exchanges t = [] := by
  unfold exchanges
  rw [List.filterMap_eq_nil_iff]
  intro o ho
  have h := ht o ho
  match o with
  | .entry (.call c s) => exact absurd h (by simp [isAside])
  | .entry (.notice _) | .entry (.registered _ _) | .entry (.released _) | .entry .releasedAll
  | .entry (.handled _) | .posted _ | .delivered _ | .called .. | .acted .. => rfl

end Observation

/-- **One action.** Its calls are in order; only an operation makes any. -/
theorem run?_act {w : World} (hn : w.host.Nested) (locked : Bool) (a : Action Callback) :
    w.host.phase.run? (Observation.exchanges (w.act locked a).2.2) =
        some (w.act locked a).2.1.host.phase ∧
      (w.act locked a).2.1.host.Nested := by
  have heffect := w.effect_act locked a
  generalize w.act locked a = x at heffect ⊢
  cases heffect with
  | vain | posted | dropped | configured | locked | asked => exact ⟨rfl, hn⟩
  | operated op =>
    have h := run?_perform hn w.nextNumber op w.vendor
    rw [← Observation.exchanges_map_entry] at h
    exact h
  | handled e =>
    refine ⟨?_, hn⟩
    show w.host.phase.run? (Observation.exchanges (w.handle e).2) = some w.host.phase
    rw [Observation.exchanges_of_isAside (World.aside_handle w e).unseen]
    rfl

/-- All calls along a course are in order. -/
theorem Course.in_order {w w' : World} {t : List Observation} (h : Course w t w')
    (hn : w.host.Nested) :
    w.host.phase.run? (Observation.exchanges t) = some w'.host.phase ∧ w'.host.Nested := by
  induction h with
  | done => exact ⟨rfl, hn⟩
  | act locked a _ ih =>
    obtain ⟨hrun, hnested⟩ := ih
    obtain ⟨hact, hnext⟩ := run?_act hnested locked a
    refine ⟨?_, hnext⟩
    rw [Observation.exchanges_append, Observation.exchanges_append, Phase.run?_append, hrun]
    simpa [Observation.exchanges] using hact
  | aside _ ha ih =>
    obtain ⟨hrun, hnested⟩ := ih
    refine ⟨?_, hnested.congr ha.started ha.hidStarted⟩
    rw [Observation.exchanges_append, Observation.exchanges_of_isAside ha.unseen, List.append_nil,
      hrun, Host.phase_congr ha.started ha.hidStarted]

namespace Session

/-- The calls in the reports of a session are those in its history. -/
theorem calls_history (looping : Bool) (w : World) (steps : List Step) :
    Observation.calls (history looping w steps) =
      (runFrom looping w steps).2.flatMap (fun r => Observation.calls r.trace) := by
  induction steps generalizing w with
  | nil => rfl
  | cons s rest ih =>
    rw [history_cons, Observation.calls_append, ih]
    show _ = Observation.calls (step looping w s).2.trace ++ _
    congr 1
    cases s with
    | act a => simp [Step.observations, Observation.calls]
    | _ => rfl

/-- The calls of the vendor in a session, with the status of each. -/
def exchanges (looping : Bool) (settings : List Vendor.Setting) (steps : List Step) :
    List (Call × Status) :=
  Observation.exchanges (history looping (initial settings) steps)

/-- **Calls follow the protocol.** Whatever the vendor's settings and the steps of a session, the calls
    in its reports, each with the status it was answered with, are accepted by the machine, which ends
    in the phase of the host. In particular a call that does not register finds the vendor registered
    with, and none unregisters while the HID host is up. -/
theorem calls_follow_protocol (looping : Bool) (settings : List Vendor.Setting) (steps : List Step) :
    (run looping settings steps).flatMap (fun r => Observation.calls r.trace) =
        (exchanges looping settings steps).map Prod.fst ∧
      Phase.down.run? (exchanges looping settings steps) =
        some (runFrom looping (initial settings) steps).1.host.phase ∧
      ∀ before x after, exchanges looping settings steps = before ++ x :: after →
        (x.1.role ≠ .register → Registered before) ∧ (x.1.role = .unregister → ¬ HidUp before) := by
  have hdown : (initial settings).host.Nested := fun h => absurd h (by simp [initial])
  obtain ⟨hrun, -⟩ := (course_history looping (initial settings) steps).in_order hdown
  refine ⟨?_, hrun, fun before x after hl => Phase.in_order hrun hl⟩
  unfold exchanges
  rw [Observation.map_fst_exchanges, calls_history]
  rfl

end Session

end BluetoothHost
