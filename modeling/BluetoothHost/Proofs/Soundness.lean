import BluetoothHost.Proofs.Forwarding
import BluetoothHost.Proofs.VendorProtocol

/-!
# `Proofs.Soundness` — the vendor is never given an invalid argument

Arguments are checked where an application hands them over, and calls of the vendor are made elsewhere; in
between stand forty operations, any of which could forget a check. None does: whatever is not malformed
makes calls with sound arguments only (`Operation.sound_calls`), and whatever is malformed makes no call
(`Host.mem_calls_perform`). So every call in the history of a session is sound, and every address in it was
spelled by the operation that made the call (`Session.calls_are_sound`).

Which operation that was is read from the history itself. An action is noted down behind what it does, so
that the first action behind a call is the one that made it (`Observation.author?`).

## Contents
- `Call.name?`, `scan?`, `descriptor?`, `uuid?`, `address?`: what a call carries; `Call.Sound`.
- `Operation.sound_calls`, `Host.mem_calls_perform`.
- `Observation.author?` and `Observation.CallsSound`, with `callsSound_append` and `callsSound_act`.
- `Session.calls_are_sound`.
-/

namespace BluetoothHost

/-! ## What a call carries -/

namespace Call

/-- The name that a call carries. -/
def name? : Call → Option String
  | .command (.setName name) => some name
  | _ => none

/-- The scan mode that a call carries, and for how many seconds it is to last. -/
def scan? : Call → Option (ScanMode × Int32)
  | .command (.setScanMode mode seconds) => some (mode, seconds)
  | _ => none

/-- The socket that a call is about. -/
def descriptor? : Call → Option Int32
  | .command (.removeSocket number) | .command (.listenAndAccept number _)
  | .command (.listen number _) | .command (.acceptConnection number)
  | .command (.rejectConnection number) | .command (.disconnectSocket number)
  | .write number _ => some number
  | _ => none

/-- The service that a call is to reach or to offer. -/
def uuid? : Call → Option String
  | .command (.connectSocket _ uuid) | .createSocket uuid => some uuid
  | _ => none

/-- The device that a call is about. -/
def address? : Call → Option Address
  | .command (.bond a) | .command (.unbond a) | .command (.setAlias a _) | .command (.authorize a _)
  | .command (.searchServices a) | .command (.connectSocket a _) | .command (.connectHid a)
  | .command (.disconnectHid a) | .bondedDevice a => some a
  | _ => none

end Call

section Calls

variable {κ : Type}

/-- A call by an operation carries what the vendor can use: a name of 1 to 248 octets, a timeout that is
    not negative, and zero unless the mode is limited in time, descriptors that are not negative, a UUID
    that is not empty, and addresses that the operation has spelled out. -/
structure Call.Sound (op : Operation κ) (c : Call) : Prop where
  name : ∀ name, c.name? = some name → 1 ≤ name.utf8ByteSize ∧ name.utf8ByteSize ≤ 248
  timeout : ∀ mode seconds, c.scan? = some (mode, seconds) →
    0 ≤ seconds ∧ (mode ≠ .timeLimitedDiscoverable → seconds = 0)
  descriptor : ∀ number, c.descriptor? = some number → 0 ≤ number
  uuid : ∀ uuid, c.uuid? = some uuid → uuid ≠ ""
  address : ∀ a, c.address? = some a → ∃ text, op.addressText? = some text ∧ a.SpelledBy text

theorem Operation.Names.exists_spelledBy {op : Operation κ} {a : Address} (hnames : op.Names a)
    {text : String} (htext : op.addressText? = some text) :
    ∃ text, op.addressText? = some text ∧ a.SpelledBy text :=
  ⟨text, htext, Address.spelledBy_of_ofText? (Address.ofText?_eq_some_iff.mpr (hnames text htext))⟩

/-- **An operation that is not malformed makes sound calls only.** -/
theorem Operation.sound_calls {op : Operation κ} {a : Address} (hwell : ¬ op.Malformed)
    (hnames : op.Names a) (h : Host κ) : ∀ c ∈ h.calls a op, c.Sound op := by
  intro c hc
  cases op with
  | start =>
    change c ∈ (if h.started then [] else [Call.command .register]) at hc
    split at hc
    · exact absurd hc List.not_mem_nil
    · obtain rfl := List.mem_singleton.mp hc
      exact ⟨nofun, nofun, nofun, nofun, nofun⟩
  | stop =>
    have hcommands : c = .command .stopHid ∨ c = .command .unregister := by
      rcases List.mem_append.mp hc with hhid | hhost
      · split at hhid
        · exact .inl (List.mem_singleton.mp hhid)
        · exact absurd hhid List.not_mem_nil
      · exact .inr (List.mem_singleton.mp hhost)
    obtain rfl | rfl := hcommands
    · exact ⟨nofun, nofun, nofun, nofun, nofun⟩
    · exact ⟨nofun, nofun, nofun, nofun, nofun⟩
  | startHidHost | stopHidHost | enableAdapter | disableAdapter | startDiscovery | stopDiscovery
  | eachBondedDevice | cancelBonding | cancelServiceSearch =>
    -- calls that carry nothing
    obtain rfl := List.mem_singleton.mp hc
    exact ⟨nofun, nofun, nofun, nofun, nofun⟩
  | adapterState | adapterAddress | adapterName | visibility | isDiscovering | isServiceUsed | serviceMask
  | setCallback | unsetCallback =>
    exact absurd hc List.not_mem_nil
  | setAdapterName name =>
    obtain rfl := List.mem_singleton.mp hc
    refine ⟨fun n hn => ?_, nofun, nofun, nofun, nofun⟩
    obtain rfl := Option.some.inj hn
    obtain ⟨hempty, hlong⟩ := not_or.mp hwell
    rw [← String.utf8ByteSize_eq_zero_iff] at hempty
    omega
  | setVisibility wanted timeout =>
    cases wanted with
    | nonDiscoverable | generalDiscoverable =>
      -- no time is passed on
      obtain rfl := List.mem_singleton.mp hc
      refine ⟨nofun, fun mode seconds hscan => ?_, nofun, nofun, nofun⟩
      obtain ⟨rfl, rfl⟩ := Prod.mk.inj (Option.some.inj hscan)
      have hzero : (0 : Int32) ≤ 0 := by decide
      exact ⟨hzero, fun _ => rfl⟩
    | limitedDiscoverable =>
      obtain rfl := List.mem_singleton.mp hc
      refine ⟨nofun, fun mode seconds hscan => ?_, nofun, nofun, nofun⟩
      obtain ⟨rfl, rfl⟩ := Prod.mk.inj (Option.some.inj hscan)
      have hsign : ¬ timeout < 0 := fun hlt => hwell ⟨rfl, hlt⟩
      exact ⟨Int32.not_lt.mp hsign, fun hmode => absurd rfl hmode⟩
  | bondedDevice | createBond | destroyBond | setAlias | startServiceSearch | connectHid
  | disconnectHid =>
    obtain rfl := List.mem_singleton.mp hc
    refine ⟨nofun, nofun, nofun, nofun, fun b hb => ?_⟩
    obtain rfl := Option.some.inj hb
    exact hnames.exists_spelledBy rfl
  | setAuthorization text authorization =>
    cases authorization with
    | authorized | unauthorized =>
      obtain rfl := List.mem_singleton.mp hc
      refine ⟨nofun, nofun, nofun, nofun, fun b hb => ?_⟩
      obtain rfl := Option.some.inj hb
      exact hnames.exists_spelledBy rfl
  | connectSocket text uuid =>
    obtain rfl := List.mem_singleton.mp hc
    refine ⟨nofun, nofun, nofun, fun u hu => ?_, fun b hb => ?_⟩
    · obtain rfl := Option.some.inj hu
      exact (not_or.mp hwell).2
    · obtain rfl := Option.some.inj hb
      exact hnames.exists_spelledBy rfl
  | createSocket uuid =>
    obtain rfl := List.mem_singleton.mp hc
    refine ⟨nofun, nofun, nofun, fun u hu => ?_, nofun⟩
    obtain rfl := Option.some.inj hu
    exact hwell
  | destroySocket | listenAndAccept | listen | acceptConnection | rejectConnection | disconnectSocket
  | sendData =>
    obtain rfl := List.mem_singleton.mp hc
    refine ⟨nofun, nofun, fun number hnumber => ?_, nofun, nofun⟩
    obtain rfl := Option.some.inj hnumber
    exact Int32.not_lt.mp hwell

/-- An operation makes no call but those that belong to it, and none at all if it is malformed. -/
theorem Host.mem_calls_perform {h : Host κ} {op : Operation κ} {number : Nat} {v : Vendor} {c : Call}
    (hc : c ∈ Entry.calls (h.perform number op v).trace) :
    ¬ op.Malformed ∧ ∃ a, op.Names a ∧ c ∈ h.calls a op := by
  cases hcheck : h.check op with
  | error refusal =>
    rw [perform_of_refused hcheck] at hc
    exact absurd hc List.not_mem_nil
  | ok task =>
    rw [perform_of_task hcheck, h.calls_carryOut] at hc
    have htask := task_of_check hcheck
    constructor
    · intro hmalformed
      have hfault := op.fault?_task
      rw [htask, if_pos hmalformed] at hfault
      exact absurd hfault nofun
    · obtain ⟨a, hnames, hcalls, -⟩ := Operation.tables_of_task htask h v
      refine ⟨a, hnames, ?_⟩
      rw [hcalls]
      exact (List.mem_filter.mp hc).1

end Calls

/-! ## Who makes a call -/

namespace Observation

/-- The operation that the first of some actions is, if it is one. -/
def author? : List Observation → Option (Operation Callback)
  | [] => none
  | .acted (.request (.operation op)) _ :: _ => some op
  | .acted _ _ :: _ => none
  | _ :: rest => author? rest

/-- Every call among some observations is made by an operation, the first action behind it, to which it
    belongs and for which it is sound. -/
def CallsSound (t : List Observation) : Prop :=
  ∀ before c s behind, t = before ++ .entry (.call c s) :: behind →
    ∃ op, author? behind = some op ∧
      (∃ (h : Host Callback) (a : Address), op.Names a ∧ c ∈ h.calls a op) ∧ c.Sound op

/-- Whatever comes later makes no difference to who acts first. -/
theorem author?_append {t : List Observation} {op : Operation Callback} (ht : author? t = some op)
    (u : List Observation) : author? (t ++ u) = some op := by
  induction t with
  | nil => exact absurd ht (by simp [author?])
  | cons o rest ih =>
    cases o with
    | acted action response =>
      cases action with
      | request r => cases r <;> exact ht
      | fire | configure => exact ht
    | entry | posted | delivered | called => exact ih ht

/-- Nothing is to be shown where no call is made. -/
theorem callsSound_of_calls_eq_nil {t : List Observation} (ht : calls t = []) : CallsSound t := by
  rintro before c s behind rfl
  rw [calls_append] at ht
  exact absurd (List.append_eq_nil_iff.mp ht).2 (by simp [calls])

theorem callsSound_append {t u : List Observation} (ht : CallsSound t) (hu : CallsSound u) :
    CallsSound (t ++ u) := by
  intro before c s behind hsplit
  rcases List.append_eq_append_iff.mp hsplit with ⟨middle, rfl, rfl⟩ | ⟨middle, rfl, hmiddle⟩
  · exact hu middle c s behind rfl
  · cases middle with
    | nil => exact hu [] c s behind hmiddle.symm
    | cons o rest =>
      -- the call is the last of the first part, or before that
      obtain ⟨rfl, rfl⟩ := List.cons.inj hmiddle
      obtain ⟨op, hauthor, hsound⟩ := ht before c s rest rfl
      exact ⟨op, author?_append hauthor u, hsound⟩

/-- An operation that acts is the author of what it did. -/
theorem author?_map_entry (t : List Entry) (op : Operation Callback) (response : Response) :
    author? (t.map .entry ++ [.acted (.request (.operation op)) response]) = some op := by
  induction t with
  | nil => rfl
  | cons e rest ih => exact ih

theorem callsSound_operated {t : List Entry} {op : Operation Callback} (response : Response)
    (ht : ∀ c ∈ Entry.calls t,
      (∃ (h : Host Callback) (a : Address), op.Names a ∧ c ∈ h.calls a op) ∧ c.Sound op) :
    CallsSound (t.map .entry ++ [.acted (.request (.operation op)) response]) := by
  induction t with
  | nil => exact callsSound_of_calls_eq_nil rfl
  | cons e rest ih =>
    intro before c s behind hsplit
    cases before with
    | nil =>
      obtain ⟨hcall, rfl⟩ := List.cons.inj hsplit
      obtain rfl : e = .call c s := Observation.entry.inj hcall
      exact ⟨op, author?_map_entry rest op response, ht c List.mem_cons_self⟩
    | cons o before =>
      obtain ⟨-, hrest⟩ := List.cons.inj hsplit
      have hlater : ∀ c ∈ Entry.calls rest,
          (∃ (h : Host Callback) (a : Address), op.Names a ∧ c ∈ h.calls a op) ∧ c.Sound op := by
        intro c hc
        refine ht c ?_
        rw [← List.singleton_append, Entry.calls_append]
        exact List.mem_append_right _ hc
      exact ih hlater before c s behind hrest

end Observation

/-- **One action** makes sound calls only. -/
theorem callsSound_act (locked : Bool) (w : World) (a : Action Callback) :
    Observation.CallsSound ((w.act locked a).2.2 ++ [.acted a (w.act locked a).1]) := by
  have heffect := w.effect_act locked a
  generalize w.act locked a = x at heffect ⊢
  cases heffect with
  | vain | posted | dropped | configured | locked | asked =>
    exact Observation.callsSound_of_calls_eq_nil rfl
  | operated op =>
    refine Observation.callsSound_operated _ fun c hc => ?_
    obtain ⟨hwell, a, hnames, hbelongs⟩ := Host.mem_calls_perform hc
    exact ⟨⟨w.host, a, hnames, hbelongs⟩, Operation.sound_calls hwell hnames w.host c hbelongs⟩
  | handled e =>
    refine Observation.callsSound_of_calls_eq_nil ?_
    rw [Observation.calls_append, Observation.calls_of_isAside (w.aside_handle e).unseen]
    rfl

theorem Course.callsSound {w w' : World} {t : List Observation} (h : Course w t w') :
    Observation.CallsSound t := by
  induction h with
  | done => exact Observation.callsSound_of_calls_eq_nil rfl
  | act locked a _ ih => exact Observation.callsSound_append ih (callsSound_act locked _ a)
  | aside _ ha ih =>
    have hnone := Observation.calls_of_isAside ha.unseen
    exact Observation.callsSound_append ih (Observation.callsSound_of_calls_eq_nil hnone)

namespace Session

/-- **The vendor is never given an invalid argument.** Whatever a session does, at the top level and inside
    its callbacks, and whatever the vendor answers: each call in its history is made by an operation, the
    first action behind the call, to which it belongs, and it carries sound arguments only, with addresses
    that this operation has spelled out. -/
theorem calls_are_sound (looping : Bool) (settings : List Vendor.Setting) (steps : List Step) :
    ∀ before c s behind,
      history looping (initial settings) steps = before ++ .entry (.call c s) :: behind →
        ∃ op, Observation.author? behind = some op ∧
          (∃ (h : Host Callback) (a : Address), op.Names a ∧ c ∈ h.calls a op) ∧ c.Sound op :=
  (course_history looping (initial settings) steps).callsSound

/-- Whoever is told of a device connects to a service of the headset. -/
def connector : Callback where
  tag := "connector"
  actions := fun _ => [.request (.operation (.connectSocket "00:1a:7d:DA:71:13" "1101"))]

/-- All that is seen when the headset is there and `connector` is told. -/
def connecting : List Observation :=
  history false (initial []) [.act (.request (.operation .start)),
    .act (.request (.operation (.setCallback ⟨.deviceConnection, nofun⟩ connector))),
    .act (.fire (.deviceConnected .success Host.headset)), .receive]

/-- The connection is one to the address that the callback has spelled, in either case of digits. -/
theorem calls_are_sound_connecting :
    ∃ before s behind,
      connecting =
          before ++ .entry (.call (.command (.connectSocket Host.headset "1101")) s) :: behind ∧
        Host.headset.SpelledBy "00:1a:7d:DA:71:13" := by
  have hcall : connecting = connecting.take 10 ++
      .entry (.call (.command (.connectSocket Host.headset "1101")) .success) ::
        connecting.drop 11 := rfl
  obtain ⟨op, hauthor, -, hsound⟩ := calls_are_sound false [] _ _ _ _ _ hcall
  have hop : op = .connectSocket "00:1a:7d:DA:71:13" "1101" := (Option.some.inj hauthor).symm
  obtain ⟨text, htext, hspelled⟩ := hsound.address Host.headset rfl
  rw [hop] at htext
  obtain rfl := Option.some.inj htext
  exact ⟨_, _, _, hcall, hspelled⟩

end Session

end BluetoothHost
