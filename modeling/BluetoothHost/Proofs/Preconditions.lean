import BluetoothHost.Proofs.Operations
import BluetoothHost.Proofs.Spelling

/-!
# `Proofs.Preconditions` — what fails before the vendor is asked, and in which order

An operation is refused if the host is down, if the HID host is down or up when it should not be, or if an
argument cannot be right; of several reasons the first counts. `Host.obstacle?` says which fault comes of
this, from the operation and the flags alone. It is exactly what the checks come to (`fault?_check`), and
whoever is refused has not asked the vendor for anything (`refused_unasked`).

Which arguments cannot be right is said without the checks: a text names a device if the octets of an address
are written in it, however it is read.

## Contents
- `Address.Illegible`, with `illegible_iff`: a text that no address is written in.
- `Operation.needsHid`, `startsHid`, `Malformed`: what an operation can be refused for.
- `Host.obstacle?`: the fault it is refused with.
- `Refusal.fault?`: the fault that a check ends in, for each check of an argument (`fault?_checkAddress` and
  its like), for all of an operation's arguments (`fault?_task`) and for the flags (`fault?_checkCondition`).
- `Host.fault?_check`, and `Host.refused_unasked`.
-/

namespace BluetoothHost

/-! ## What an operation can be refused for -/

namespace Address

/-- A text that no address is written in. -/
def Illegible (text : String) : Prop := ∀ a : Address, ¬ Written text.toList a.octets

theorem illegible_iff {text : String} : Illegible text ↔ ofText? text = none := by
  rw [Option.eq_none_iff_forall_ne_some]
  exact forall_congr' fun a => not_congr ofText?_eq_some_iff.symm

instance (text : String) : Decidable (Illegible text) := decidable_of_iff _ illegible_iff.symm

end Address

namespace Operation

variable {κ : Type}

/-- Whether an operation needs the HID host to be up. -/
def needsHid : Operation κ → Bool
  | .stopHidHost | .connectHid _ | .disconnectHid _ => true
  | _ => false

/-- Whether an operation starts the HID host, which must be down for that. -/
def startsHid : Operation κ → Bool
  | .startHidHost _ => true
  | _ => false

/-- An argument of an operation cannot be right: a text in which no address is written, a UUID or a list of
    UUIDs that is empty, a negative descriptor, a name that is empty or longer than 248 octets, a negative
    timeout of a limited visibility. -/
def Malformed : Operation κ → Prop
  | .bondedDevice address | .createBond address | .destroyBond address | .setAlias address _
  | .setAuthorization address _ | .startServiceSearch address | .connectHid address
  | .disconnectHid address => Address.Illegible address
  | .isServiceUsed uuid | .createSocket uuid => uuid = ""
  | .connectSocket address uuid => Address.Illegible address ∨ uuid = ""
  | .serviceMask uuids => uuids = []
  | .destroySocket number | .listenAndAccept number _ | .listen number _ | .acceptConnection number
  | .rejectConnection number | .disconnectSocket number | .sendData number _ => number < 0
  | .setAdapterName name => name = "" ∨ 248 < name.utf8ByteSize
  | .setVisibility wanted timeout => wanted = .limitedDiscoverable ∧ timeout < 0
  | _ => False

instance Malformed.decidable : (op : Operation κ) → Decidable op.Malformed
  | .bondedDevice address | .createBond address | .destroyBond address | .setAlias address _
  | .setAuthorization address _ | .startServiceSearch address | .connectHid address
  | .disconnectHid address => inferInstanceAs (Decidable (Address.Illegible address))
  | .isServiceUsed uuid | .createSocket uuid => inferInstanceAs (Decidable (uuid = ""))
  | .connectSocket address uuid => inferInstanceAs (Decidable (Address.Illegible address ∨ uuid = ""))
  | .serviceMask uuids => inferInstanceAs (Decidable (uuids = []))
  | .destroySocket number | .listenAndAccept number _ | .listen number _ | .acceptConnection number
  | .rejectConnection number | .disconnectSocket number | .sendData number _ =>
    inferInstanceAs (Decidable (number < 0))
  | .setAdapterName name => inferInstanceAs (Decidable (name = "" ∨ 248 < name.utf8ByteSize))
  | .setVisibility wanted timeout =>
    inferInstanceAs (Decidable (wanted = .limitedDiscoverable ∧ timeout < 0))
  | .start | .stop | .enableAdapter | .disableAdapter | .adapterState | .adapterAddress | .adapterName
  | .visibility | .startDiscovery | .stopDiscovery | .isDiscovering | .eachBondedDevice _ | .cancelBonding
  | .cancelServiceSearch | .startHidHost _ | .stopHidHost | .setCallback .. | .unsetCallback _ =>
    inferInstanceAs (Decidable False)

end Operation

/-- The fault that an operation other than `start` is refused with, if it is: the first in this order. -/
def Host.obstacle? {κ : Type} (h : Host κ) (op : Operation κ) : Option Fault :=
  if h.started = false then some .notInitialized
  else if op.needsHid ∧ h.hidStarted = false then some .notInitialized
  else if op.startsHid ∧ h.hidStarted = true then some .alreadyDone
  else if op.Malformed then some .invalidParameter
  else none

/-! ## What a check ends in -/

/-- The fault that a check ends in, unless it passes. -/
def Refusal.fault? {α : Type} : Except Refusal α → Option Fault
  | .error r => some r.fault
  | .ok _ => none

namespace Refusal

variable {α β : Type}

/-- What is made of a value that has passed a check makes no difference. -/
theorem fault?_bind_pure (x : Except Refusal α) (g : α → β) :
    fault? (x >>= fun a => pure (g a)) = fault? x := by
  cases x <;> rfl

/-- Of two checks the first that fails counts. -/
theorem fault?_bind {x : Except Refusal α} {g : α → Except Refusal β} {f? : Option Fault}
    (hg : ∀ a, fault? (g a) = f?) : fault? (x >>= g) = (fault? x).or f? := by
  cases x with
  | error r => rfl
  | ok a => exact hg a

theorem fault?_checkAddress (text : String) :
    fault? (checkAddress text) = if Address.Illegible text then some .invalidParameter else none := by
  unfold checkAddress
  cases hread : Address.ofText? text with
  | none => rw [if_pos (Address.illegible_iff.mpr hread)]; rfl
  | some a =>
    have hlegible : ¬ Address.Illegible text := by
      rw [Address.illegible_iff, hread]
      exact Option.some_ne_none a
    rw [if_neg hlegible]
    rfl

theorem fault?_checkUuid (uuid : String) :
    fault? (checkUuid uuid) = if uuid = "" then some .invalidParameter else none := by
  unfold checkUuid
  simp only [String.isEmpty_iff]
  split <;> rfl

theorem fault?_checkDescriptor (number : Int32) :
    fault? (checkDescriptor number) = if number < 0 then some .invalidParameter else none := by
  unfold checkDescriptor
  split <;> rfl

theorem fault?_checkName (name : String) :
    fault? (checkName name) =
      if name = "" ∨ 248 < name.utf8ByteSize then some .invalidParameter else none := by
  unfold checkName maxNameLength
  simp only [String.utf8ByteSize_eq_zero_iff]
  split <;> rfl

theorem fault?_checkTimeout (visibility : Visibility) (timeout : Int32) :
    fault? (checkTimeout visibility timeout) =
      if visibility = .limitedDiscoverable ∧ timeout < 0 then some .invalidParameter else none := by
  cases visibility with
  | limitedDiscoverable =>
    simp only [checkTimeout, true_and]
    split <;> rfl
  | nonDiscoverable | generalDiscoverable => rfl

end Refusal

/-- Of two reasons for the same fault one is enough. -/
theorem or_ite_some_none {α : Type} {p q : Prop} [Decidable p] [Decidable q] {a : α} :
    (if p then some a else none).or (if q then some a else none) = if p ∨ q then some a else none := by
  by_cases hp : p
  · rw [if_pos hp, if_pos (Or.inl hp : p ∨ q), Option.some_or]
  · by_cases hq : q
    · rw [if_neg hp, if_pos hq, if_pos (Or.inr hq : p ∨ q), Option.none_or]
    · rw [if_neg hp, if_neg hq, if_neg (not_or.mpr ⟨hp, hq⟩), Option.none_or]

section Checks

variable {κ : Type} {h : Host κ} {op : Operation κ}

/-- **The arguments are refused just if they are malformed.** -/
theorem Operation.fault?_task (op : Operation κ) :
    Refusal.fault? op.task = if op.Malformed then some .invalidParameter else none := by
  cases op with
  | start | stop | enableAdapter | disableAdapter | adapterState | adapterAddress | adapterName
  | visibility | startDiscovery | stopDiscovery | isDiscovering | eachBondedDevice | cancelBonding
  | cancelServiceSearch | startHidHost | stopHidHost | setCallback | unsetCallback =>
    -- without arguments there is nothing to check
    rfl
  | bondedDevice | createBond | destroyBond | setAlias | setAuthorization | startServiceSearch
  | connectHid | disconnectHid =>
    exact (Refusal.fault?_bind_pure _ _).trans (Refusal.fault?_checkAddress _)
  | isServiceUsed | createSocket =>
    exact (Refusal.fault?_bind_pure _ _).trans (Refusal.fault?_checkUuid _)
  | destroySocket | listenAndAccept | listen | acceptConnection | rejectConnection | disconnectSocket
  | sendData =>
    exact (Refusal.fault?_bind_pure _ _).trans (Refusal.fault?_checkDescriptor _)
  | setAdapterName name => exact (Refusal.fault?_bind_pure _ _).trans (Refusal.fault?_checkName name)
  | setVisibility wanted timeout =>
    exact (Refusal.fault?_bind_pure _ _).trans (Refusal.fault?_checkTimeout wanted timeout)
  | connectSocket address uuid =>
    -- the address is checked first, the UUID after it
    have huuid : ∀ a : Address, Refusal.fault?
        (do return Task.command (.connectSocket a (← checkUuid uuid)) : Except Refusal (Task κ)) =
          if uuid = "" then some .invalidParameter else none := fun a =>
      (Refusal.fault?_bind_pure _ _).trans (Refusal.fault?_checkUuid uuid)
    refine (Refusal.fault?_bind huuid).trans ?_
    rw [Refusal.fault?_checkAddress]
    exact or_ite_some_none
  | serviceMask uuids => cases uuids <;> rfl

/-- What an operation other than `start` asks of the flags. -/
theorem Operation.condition_of_ne_start (hop : op ≠ .start) :
    op.condition =
      if op.needsHid then .hidStarted else if op.startsHid then .hidStopped else .started := by
  cases op with
  | start => exact absurd rfl hop
  | _ => rfl

theorem Operation.not_startsHid_of_needsHid (hn : op.needsHid = true) : op.startsHid = false := by
  cases op <;> simp_all [needsHid, startsHid]

/-- The flags come first. -/
theorem Host.fault?_checkCondition (h : Host κ) (hop : op ≠ .start) :
    Refusal.fault? (h.checkCondition op.condition) =
      if h.started = false then some .notInitialized
      else if op.needsHid ∧ h.hidStarted = false then some .notInitialized
      else if op.startsHid ∧ h.hidStarted = true then some .alreadyDone
      else none := by
  rw [Operation.condition_of_ne_start hop]
  unfold checkCondition
  cases hneeds : op.needsHid with
  | true =>
    rw [Operation.not_startsHid_of_needsHid hneeds]
    cases h.started <;> cases h.hidStarted <;> rfl
  | false => cases op.startsHid <;> cases h.started <;> cases h.hidStarted <;> rfl

/-- **The checks come to the obstacle**, or to none if there is none. -/
theorem Host.fault?_check (h : Host κ) (hop : op ≠ .start) :
    Refusal.fault? (h.check op) = h.obstacle? op := by
  have hbind : h.check op = h.checkCondition op.condition >>= fun () => op.task := by
    unfold check
    cases h.checkCondition op.condition <;> rfl
  rw [hbind, Refusal.fault?_bind fun () => Operation.fault?_task op, h.fault?_checkCondition hop]
  unfold obstacle?
  repeat' split
  all_goals rfl

/-! ## Nothing is asked of the vendor -/

/-- **Whoever is refused has asked nothing.** If there is an obstacle, an operation other than `start` fails
    with it whatever the vendor is like, leaves host and vendor as they were and has made no call; if there
    is none, the operation passes the checks. -/
theorem Host.refused_unasked (h : Host κ) (hop : op ≠ .start) :
    (∀ f, h.obstacle? op = some f → ∀ (number : Nat) (v : Vendor),
      (h.perform number op v).reply = ⟨.error f, []⟩ ∧
        (h.perform number op v).host = h ∧
        (h.perform number op v).vendor = v ∧
        Entry.exchanges (h.perform number op v).trace = []) ∧
    (h.obstacle? op = none → ∃ task, h.check op = .ok task) := by
  rw [← h.fault?_check hop]
  cases hcheck : h.check op with
  | error r =>
    constructor
    · intro f hf number v
      obtain rfl := Option.some.inj hf
      rw [perform_of_refused hcheck]
      exact ⟨rfl, rfl, rfl, rfl⟩
    · intro hnone
      exact absurd hnone (Option.some_ne_none _)
  | ok task =>
    constructor
    · intro f hf
      exact absurd hf.symm (Option.some_ne_none f)
    · intro _
      exact ⟨task, rfl⟩

/-- Of several reasons the first counts: a host that is down is not asked about the address, nor is a HID
    host that is, and one that is up is not started again. -/
theorem Host.refused_unasked_manyReasons :
    (∀ (number : Nat) (v : Vendor),
      (({} : Host Unit).perform number (.connectSocket "00:11" "") v).reply =
        ⟨.error .notInitialized, []⟩) ∧
    (∀ (number : Nat) (v : Vendor),
      (({ started := true } : Host Unit).perform number (.connectHid "00:11") v).reply =
        ⟨.error .notInitialized, []⟩) ∧
    (∀ (number : Nat) (v : Vendor),
      (({ started := true, hidStarted := true } : Host Unit).perform number (.startHidHost ()) v).reply =
        ⟨.error .alreadyDone, []⟩) ∧
    (∀ (number : Nat) (v : Vendor),
      (({ started := true } : Host Unit).perform number (.connectSocket "00:11" "") v).reply =
          ⟨.error .invalidParameter, []⟩ ∧
        (({ started := true } : Host Unit).perform number (.connectSocket "00:11" "") v).vendor = v) := by
  have hconnect : (.connectSocket "00:11" "" : Operation Unit) ≠ .start := nofun
  have hhid : (.connectHid "00:11" : Operation Unit) ≠ .start := nofun
  have hstart : (.startHidHost () : Operation Unit) ≠ .start := nofun
  refine ⟨fun number v => ?_, fun number v => ?_, fun number v => ?_, fun number v => ?_⟩
  · exact ((refused_unasked {} hconnect).1 .notInitialized rfl number v).1
  · exact ((refused_unasked { started := true } hhid).1 .notInitialized rfl number v).1
  · exact ((refused_unasked { started := true, hidStarted := true } hstart).1
      .alreadyDone rfl number v).1
  · obtain ⟨hreply, -, hvendor, -⟩ :=
      (refused_unasked { started := true } hconnect).1 .invalidParameter rfl number v
    exact ⟨hreply, hvendor⟩

end Checks

end BluetoothHost
