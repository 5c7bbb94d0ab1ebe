import BluetoothHost.Proofs.VendorProtocol

/-!
# `Proofs.Dispatchers` — while events of the vendor are dispatched

The host hands the vendor a dispatcher for base events as it registers, and one for events of input
devices as it starts the HID host; the vendor drops them as it is told to unregister, or to stop the HID
host. It does so whatever status it gives. A start that the vendor refuses hence leaves its dispatcher
behind, although the host stays down, and what the vendor emits from then on is posted
(`event_outruns_refused_start`). No dispatcher is ever left behind in another way
(`dispatched_while_up_or_refused`).

## Contents
- `Source.opening`, `Source.closing`, `Source.linkedAfter`: what becomes of a dispatcher.
- `Source.Installed`, `Opened`, `Refused`, with `installed_iff`: how it was handed over last.
- `isLinked_perform`, `isLinked_act`, `Course.isLinked`: dispatchers follow the calls of the vendor.
- `Course.isUp_iff`, `Course.isLinked_iff`: what that means for a host from its beginning.
- `World.Dispatches`, `dispatched_while_up_or_refused`, and `event_outruns_refused_start`.
-/

namespace BluetoothHost

/-! ## What becomes of a dispatcher -/

namespace Source

/-- The call that hands over the dispatcher for a source. -/
def opening : Source → Call.Role
  | .base => .register
  | .hidHost => .startHid

/-- The call that takes the dispatcher for a source back. -/
def closing : Source → Call.Role
  | .base => .unregister
  | .hidHost => .stopHid

theorem closing_ne_opening (s : Source) : s.closing ≠ s.opening := by cases s <;> decide

/-- Whether the dispatcher for a source is installed after a call, whatever its status. -/
def relink (s : Source) (linked : Bool) (c : Call) : Bool :=
  if c.role = s.opening then true else if c.role = s.closing then false else linked

/-- Whether the dispatcher for a source is installed after some calls. -/
def linkedAfter (s : Source) (linked : Bool) (l : List (Call × Status)) : Bool :=
  l.foldl (fun b x => s.relink b x.1) linked

@[simp] theorem linkedAfter_nil (s : Source) (linked : Bool) : s.linkedAfter linked [] = linked := rfl

@[simp] theorem linkedAfter_cons (s : Source) (linked : Bool) (x : Call × Status)
    (l : List (Call × Status)) :
    s.linkedAfter linked (x :: l) = s.linkedAfter (s.relink linked x.1) l := rfl

@[simp] theorem linkedAfter_append (s : Source) (linked : Bool) (l m : List (Call × Status)) :
    s.linkedAfter linked (l ++ m) = s.linkedAfter (s.linkedAfter linked l) m :=
  List.foldl_append

theorem relink_of_use (s : Source) (linked : Bool) {c : Call} (hc : c.role = .use) :
    s.relink linked c = linked := by
  cases s <;> simp [relink, opening, closing, hc]

/-- Calls that are no commands leave the dispatchers as they are. -/
theorem linkedAfter_of_queries (s : Source) (linked : Bool) {t : List Entry} (ht : Entry.Queries t) :
    s.linkedAfter linked (Entry.exchanges t) = linked := by
  have hall : ∀ x ∈ Entry.exchanges t, x.1.role = .use := fun x hx =>
    Call.role_of_ne_command (ht.ne_command hx)
  generalize Entry.exchanges t = l at hall
  induction l with
  | nil => rfl
  | cons x rest ih =>
    have hx : s.relink linked x.1 = linked := s.relink_of_use linked (hall x List.mem_cons_self)
    rw [linkedAfter_cons, hx]
    exact ih fun y hy => hall y (List.mem_cons_of_mem x hy)

/-! ## How it was handed over last -/

/-- The dispatcher has been handed over, and not taken back since. -/
def Installed (s : Source) (l : List (Call × Status)) : Prop :=
  Latest (fun x => x.1.role = s.opening) (fun x => x.1.role = s.closing) l

/-- The dispatcher has been handed over with success, and not taken back since. -/
def Opened (s : Source) (l : List (Call × Status)) : Prop :=
  Latest (fun x => x.1.role = s.opening ∧ x.2 = .success) (fun x => x.1.role = s.closing) l

/-- The last call that hands the dispatcher over or takes it back hands it over, and fails. -/
def Refused (s : Source) (l : List (Call × Status)) : Prop :=
  Latest (fun x => x.1.role = s.opening ∧ x.2 ≠ .success)
    (fun x => x.1.role = s.opening ∨ x.1.role = s.closing) l

/-- A dispatcher is installed just if it has been handed over, and not taken back since. -/
theorem linkedAfter_iff (s : Source) (l : List (Call × Status)) :
    s.linkedAfter false l = true ↔ s.Installed l := by
  unfold Installed
  -- from the end: the last call decides, unless it is about something else
  induction l using List.reverseRecOn with
  | nil => simp [not_latest_nil]
  | append_singleton l x ih =>
    rw [linkedAfter_append, latest_snoc, ← ih, linkedAfter_cons, linkedAfter_nil]
    unfold relink
    by_cases hopening : x.1.role = s.opening
    · simp [hopening]
    · by_cases hclosing : x.1.role = s.closing
      · rw [if_neg hopening, if_pos hclosing]
        simp [hclosing, s.closing_ne_opening]
      · rw [if_neg hopening, if_neg hclosing]
        simp [hopening, hclosing]

/-- A dispatcher that is installed has been handed over with success, or by a start that failed last. -/
theorem installed_iff (s : Source) (l : List (Call × Status)) :
    s.Installed l ↔ s.Opened l ∨ s.Refused l :=
  latest_split

end Source

/-! ## Dispatchers follow the calls of the vendor -/

/-- A command does to a dispatcher what its call does. -/
theorem Vendor.isLinked_linked (v : Vendor) (c : Command) (s : Source) :
    (v.linked c).isLinked s = s.relink (v.isLinked s) (.command c) := by
  cases s <;> cases c <;> rfl

theorem Vendor.isLinked_configure (v : Vendor) (settings : List Setting) (s : Source) :
    (v.configure settings).isLinked s = v.isLinked s := by
  obtain ⟨hbase, hhid, -⟩ := v.configure_frame settings
  cases s
  · exact hbase
  · exact hhid

section Operations

variable {κ : Type}

/-- **Carrying out a task** does to a dispatcher what its calls of the vendor do. -/
theorem isLinked_carryOut (h : Host κ) (operation : String) (number : Nat) (v : Vendor) (task : Task κ)
    (s : Source) :
    (h.carryOut operation number v task).vendor.isLinked s =
      s.linkedAfter (v.isLinked s) (Entry.exchanges (h.carryOut operation number v task).trace) := by
  cases task with
  | start =>
    show (h.start v).vendor.isLinked s =
      s.linkedAfter (v.isLinked s) (Entry.exchanges (h.start v).trace)
    cases hs : h.started with
    | true =>
      rw [Host.start_of_started v hs]
      rfl
    | false =>
      rw [Host.vendor_start v hs, Host.exchanges_start v hs, Vendor.isLinked_linked]
      rfl
  | stop =>
    show (h.stop v).vendor.isLinked s =
      s.linkedAfter (v.isLinked s) (Entry.exchanges (h.stop v).trace)
    rw [Host.vendor_stop, Host.exchanges_stop, Vendor.isLinked_linked]
    cases h.hidStarted with
    | true =>
      rw [if_pos rfl, if_pos rfl, Vendor.isLinked_linked]
      rfl
    | false => rfl
  | startHid callback =>
    show (h.startHid number callback v).vendor.isLinked s =
      s.linkedAfter (v.isLinked s) (Entry.exchanges (h.startHid number callback v).trace)
    rw [Host.vendor_startHid, Host.exchanges_startHid, Vendor.isLinked_linked]
    rfl
  | stopHid =>
    show (h.stopHid v).vendor.isLinked s =
      s.linkedAfter (v.isLinked s) (Entry.exchanges (h.stopHid v).trace)
    rw [Host.vendor_stopHid, Host.exchanges_stopHid, Vendor.isLinked_linked]
    rfl
  | setCallback kind callback => rfl
  | unsetCallback kind => rfl
  | command c =>
    show (v.linked c).isLinked s =
      s.linkedAfter (v.isLinked s) (Entry.exchanges (forward operation c v).2.2)
    rw [exchanges_forward, Vendor.isLinked_linked]
    rfl
  | read r =>
    have hasked := asked_run operation r v
    show (r.run operation v).2.1.isLinked s =
      s.linkedAfter (v.isLinked s) (Entry.exchanges (r.run operation v).2.2)
    rw [hasked.isLinked, s.linkedAfter_of_queries _ hasked.queries]
  | serviceMask uuids =>
    have hqueries : Entry.Queries (h.carryOut operation number v (.serviceMask uuids)).trace := by
      intro e he
      obtain ⟨uuid, -, rfl⟩ := List.mem_map.mp he
      exact trivial
    exact (s.linkedAfter_of_queries _ hqueries).symm

/-- **One operation** does to a dispatcher what its calls of the vendor do. -/
theorem isLinked_perform (h : Host κ) (number : Nat) (op : Operation κ) (v : Vendor) (s : Source) :
    (h.perform number op v).vendor.isLinked s =
      s.linkedAfter (v.isLinked s) (Entry.exchanges (h.perform number op v).trace) := by
  cases hc : h.check op with
  | error refusal =>
    rw [Host.perform_of_refused hc]
    rfl
  | ok task =>
    rw [Host.perform_of_task hc]
    exact isLinked_carryOut h op.name number v task s

end Operations

/-- **One action.** Whatever is no operation leaves the dispatchers as they are, and calls nobody. -/
theorem isLinked_act (w : World) (locked : Bool) (a : Action Callback) (s : Source) :
    (w.act locked a).2.1.vendor.isLinked s =
      s.linkedAfter (w.vendor.isLinked s) (Observation.exchanges (w.act locked a).2.2) := by
  have heffect := w.effect_act locked a
  generalize w.act locked a = x at heffect ⊢
  cases heffect with
  | vain | posted | dropped | locked | asked => rfl
  | configured settings => exact Vendor.isLinked_configure w.vendor settings s
  | operated op =>
    show (w.perform op).2.1.vendor.isLinked s =
      s.linkedAfter (w.vendor.isLinked s) (Observation.exchanges (w.perform op).2.2)
    have hcalls : Observation.exchanges (w.perform op).2.2 =
        Entry.exchanges (w.host.perform w.nextNumber op w.vendor).trace :=
      Observation.exchanges_map_entry _
    rw [hcalls]
    exact isLinked_perform w.host w.nextNumber op w.vendor s
  | handled e =>
    show w.vendor.isLinked s =
      s.linkedAfter (w.vendor.isLinked s) (Observation.exchanges (w.handle e).2)
    rw [Observation.exchanges_of_isAside (World.aside_handle w e).unseen]
    rfl

/-- All along a course, dispatchers are what the calls of the vendor have made of them. -/
theorem Course.isLinked {w w' : World} {t : List Observation} (h : Course w t w') (s : Source) :
    w'.vendor.isLinked s = s.linkedAfter (w.vendor.isLinked s) (Observation.exchanges t) := by
  induction h with
  | done => rfl
  | @act w' t locked a _ ih =>
    have hact : Observation.exchanges
        ((w'.act locked a).2.2 ++ [.acted a (w'.act locked a).1]) =
          Observation.exchanges (w'.act locked a).2.2 := by
      rw [Observation.exchanges_append]
      exact List.append_nil _
    rw [Observation.exchanges_append, hact, Source.linkedAfter_append, ← ih]
    exact isLinked_act w' locked a s
  | aside _ ha ih =>
    rw [Observation.exchanges_append, Observation.exchanges_of_isAside ha.unseen, List.append_nil,
      ha.vendor]
    exact ih

/-! ## From the beginning -/

/-- Whether the host is up, or its HID host, for whose events a source stands. -/
def Host.isUp {κ : Type} (h : Host κ) : Source → Bool
  | .base => h.started
  | .hidHost => h.hidStarted

section Beginnings

variable {settings : List Vendor.Setting} {t : List Observation} {w : World}

/-- The host is up just if the vendor has been handed the dispatcher with success, and has not been asked
    to give it back since. -/
theorem Course.isUp_iff (h : Course (Session.initial settings) t w) (s : Source) :
    w.host.isUp s = true ↔ s.Opened (Observation.exchanges t) := by
  have hnested : (Session.initial settings).host.Nested := fun hh => absurd hh (by simp [Session.initial])
  obtain ⟨hrun, hkept⟩ := h.in_order hnested
  obtain ⟨hbase, hhid⟩ := Phase.run?_down hrun
  cases s with
  | base =>
    rw [show Source.base.Opened (Observation.exchanges t) ↔ _ from hbase.symm]
    show w.host.started = true ↔ _
    cases hs : w.host.started with
    | true => simp [Host.phase_of_up hs]
    | false => simp [Host.phase_of_down hs]
  | hidHost =>
    rw [show Source.hidHost.Opened (Observation.exchanges t) ↔ _ from hhid.symm]
    show w.host.hidStarted = true ↔ _
    cases hs : w.host.started with
    | true => simp [Host.phase_of_up hs]
    | false =>
      -- no HID host is up in a host that is down
      have hh : w.host.hidStarted = false :=
        Bool.eq_false_iff.mpr fun hh => absurd (hkept hh) (by simp [hs])
      simp [Host.phase_of_down hs, hh]

/-- **A dispatcher is installed** just while the host is up, or if the last start has been refused. -/
theorem Course.isLinked_iff (h : Course (Session.initial settings) t w) (s : Source) :
    w.vendor.isLinked s = true ↔
      w.host.isUp s = true ∨ s.Refused (Observation.exchanges t) := by
  have hnew : (Session.initial settings).vendor.isLinked s = false := by
    show (({} : Vendor).configure settings).isLinked s = false
    rw [Vendor.isLinked_configure]
    cases s <;> rfl
  rw [h.isLinked, hnew, s.linkedAfter_iff, s.installed_iff, h.isUp_iff]

end Beginnings

/-! ## Events that are emitted -/

/-- The vendor is let to dispatch an event: it says whether it has a dispatcher to do so. -/
theorem World.act_fire_fst (w : World) (locked : Bool) (e : Event) :
    (w.act locked (.fire e)).1 = .flag (w.vendor.isLinked e.source) := by
  show Response.flag (w.fire e).1 = _
  unfold fire
  cases w.vendor.isLinked e.source <;> rfl

/-- Without a dispatcher nothing comes of an event. -/
theorem World.act_fire_of_unlinked {w : World} {e : Event} (h : w.vendor.isLinked e.source = false)
    (locked : Bool) : w.act locked (.fire e) = (.flag false, w, []) := by
  show (Response.flag (w.fire e).1, (w.fire e).2.1, (w.fire e).2.2) = _
  have hfire : w.fire e = (false, w, []) := by
    unfold fire
    rw [h]
    rfl
  rw [hfire]

/-- After these calls of the vendor, it dispatches the events of a source just while the host is up, and
    if the last start has been refused. An event emitted at another time comes to nothing: nothing is
    posted, and nothing is left that a callback could be told of. -/
structure World.Dispatches (w : World) (l : List (Call × Status)) (s : Source) : Prop where
  installed : w.vendor.isLinked s = true ↔ w.host.isUp s = true ∨ s.Refused l
  answered : ∀ locked e, e.source = s →
    ((w.act locked (.fire e)).1 = .flag true ↔ w.host.isUp s = true ∨ s.Refused l)
  unposted : ¬ (w.host.isUp s = true ∨ s.Refused l) → ∀ locked e, e.source = s →
    w.act locked (.fire e) = (.flag false, w, [])

theorem Course.dispatches {settings : List Vendor.Setting} {t : List Observation} {w : World}
    (h : Course (Session.initial settings) t w) (s : Source) :
    w.Dispatches (Observation.exchanges t) s := by
  have hinstalled := h.isLinked_iff s
  refine ⟨hinstalled, ?_, ?_⟩
  · rintro locked e rfl
    rw [← hinstalled, w.act_fire_fst, Response.flag.injEq]
  · rintro hdown locked e rfl
    rw [← hinstalled, Bool.not_eq_true] at hdown
    exact World.act_fire_of_unlinked hdown locked

namespace Session

/-- **Events are dispatched while the host is up, and after a start that was refused.** In every world a
    session leads to, and in every world it passes through on the way, in the midst of a callback too, the
    vendor has the dispatcher for base events just if the host is up, or if the last call that registers
    or unregisters is a registration that failed; and so for events of input devices and the HID host. An
    event that is emitted at another time is never posted. -/
theorem dispatched_while_up_or_refused (settings : List Vendor.Setting) (s : Source) :
    (∀ looping steps, (runFrom looping (initial settings) steps).1.Dispatches
      (exchanges looping settings steps) s) ∧
    ∀ t w, Course (initial settings) t w → w.Dispatches (Observation.exchanges t) s := by
  refine ⟨fun looping steps => ?_, fun t w h => h.dispatches s⟩
  exact (course_history looping (initial settings) steps).dispatches s

/-- A callback that does nothing. -/
def bystander : Callback := { tag := "bystander" }

/-- The HID host is refused to start, and the host is stopped after that. -/
def hidRefused : List Step :=
  [.act (.request (.operation .start)), .act (.configure [.status .timeout]),
    .act (.request (.operation (.startHidHost bystander))), .act (.request (.operation .stop))]

/-- The dispatcher for events of input devices outlives even the host. That for base events does not,
    although the vendor fails to take it back. -/
theorem dispatched_while_up_or_refused_hidRefused :
    exchanges false [] hidRefused =
        [(.command .register, .success), (.command .startHid, .timeout),
          (.command .unregister, .timeout)] ∧
      ((runFrom false (initial []) hidRefused).1.act false
        (.fire (.hidConnection .success .zero .connected))).1 = .flag true ∧
      (runFrom false (initial []) hidRefused).1.act false (.fire (.adapterEnabled .success)) =
        (.flag false, (runFrom false (initial []) hidRefused).1, []) := by
  have hcalls : exchanges false [] hidRefused =
      [(.command .register, .success), (.command .startHid, .timeout),
        (.command .unregister, .timeout)] := rfl
  have hbase := (dispatched_while_up_or_refused [] .base).1 false hidRefused
  have hcourse : Course (initial []) (history false (initial []) hidRefused)
      (runFrom false (initial []) hidRefused).1 := course_history false (initial []) hidRefused
  have hhid := (dispatched_while_up_or_refused [] .hidHost).2 _ _ hcourse
  -- the refused start is the last call that is about the dispatcher for input devices
  have hrefused : Source.hidHost.Refused (exchanges false [] hidRefused) :=
    ⟨[_], _, [_], hcalls, by decide, by decide⟩
  refine ⟨hcalls, (hhid.answered false _ rfl).mpr (.inr hrefused), hbase.unposted ?_ false _ rfl⟩
  rw [← hbase.installed]
  decide

/-- The vendor refuses a start, but not the next one. An event is emitted in between. -/
def secondStart : List Step :=
  [.act (.request (.operation .start)), .act (.fire (.discoveryStarted .success)),
    .act (.configure [.status .success]), .act (.request (.operation .start)),
    .act (.request (.operation (.setCallback ⟨.discovery, nofun⟩ bystander))), .receive]

/-- **An event outruns a refused start.** After the first start the host is down, and yet the vendor has
    its dispatcher and posts the event, which reaches a callback that is registered after the second start.
    In the same way the HID host is down after its start, and yet its dispatcher is installed. -/
theorem event_outruns_refused_start :
    (runFrom false (initial [.status .timeout]) (secondStart.take 1)).1.host.started = false ∧
      (runFrom false (initial [.status .timeout]) (secondStart.take 1)).1.vendor.baseLinked = true ∧
      ((runFrom false (initial [.status .timeout]) (secondStart.take 1)).1.act false
        (.fire (.discoveryStarted .success))).1 = .flag true ∧
      Observation.invocations (history false (initial [.status .timeout]) secondStart) =
        [⟨⟨2, .discovery, bystander⟩, .discoveryStarted .success⟩] ∧
      (runFrom false (initial []) (hidRefused.take 3)).1.host.hidStarted = false ∧
      (runFrom false (initial []) (hidRefused.take 3)).1.vendor.hidLinked = true :=
  ⟨rfl, rfl, rfl, rfl, rfl, rfl⟩

end Session

end BluetoothHost
