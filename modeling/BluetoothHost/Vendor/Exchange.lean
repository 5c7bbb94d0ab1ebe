import BluetoothHost.Notice
import BluetoothHost.Vendor

/-!
# `Vendor.Exchange` — asking the vendor on behalf of an operation

A command or a query is given to the vendor once, its answer is put into the words of the public
interface, and a failure is logged under the name of the operation that asked.

## Contents
- `Entry`: what can be seen while an operation runs.
- `conclude`, `concludeAnswer`: what the caller learns of a status or an answer.
- `forward` and `inquire`: a command and a query, with all that is seen of them; `inquire_ok`.
-/

namespace BluetoothHost

/-! ## What can be seen -/

/-- Something that happens while an operation runs or an event is handled. -/
inductive Entry where
  /-- The vendor is called, and answers with a status. -/
  | call (call : Call) (status : Status)
  | notice (notice : Notice)
  /-- A callback is registered, under a number of its own. -/
  | registered (kind : EventKind) (number : Nat)
  /-- The slot of a kind is emptied. -/
  | released (kind : EventKind)
  /-- Every slot is emptied. -/
  | releasedAll
  | handled (event : Event)

/-! ## Answers -/

/-- The status an answer comes with. -/
def answerStatus {α : Type} : Except Status α → Status
  | .ok _ => .success
  | .error s => s

/-- What the caller of a command learns of its status, and what is logged. -/
def conclude (operation : String) (s : Status) : Outcome × List Notice :=
  match s.fault? with
  | none => (.ok (), [])
  | some f => (.error f, [.failed operation f s])

/-- What the caller of a query learns of its answer, and what is logged. A failure for which the
    vendor gives success as the reason is a failure all the same. -/
def concludeAnswer {α : Type} (operation : String) :
    Except Status α → Except Fault α × List Notice
  | .ok a => (.ok a, [])
  | .error s =>
    match s.fault? with
    | some f => (.error f, [.failed operation f s])
    | none => (.error .operationFailed, [.failedWithoutReason operation])

/-- The caller of a command learns what the status means. -/
theorem conclude_fst (operation : String) (s : Status) :
    (conclude operation s).1 = s.outcome := by
  unfold conclude Status.outcome
  cases s.fault? <;> rfl

/-! ## Exchanges -/

/-- Gives the vendor a command. -/
def forward (operation : String) (c : Command) (v : Vendor) : Outcome × Vendor × List Entry :=
  let (status, after) := v.command c
  let (outcome, notices) := conclude operation status
  (outcome, after, .call (.command c) status :: notices.map .notice)

/-- Asks the vendor a query. -/
def inquire {α : Type} (operation : String) (q : Query α) (v : Vendor) :
    Except Fault α × Vendor × List Entry :=
  let (answer, after, calls) := v.ask q
  let (result, notices) := concludeAnswer operation answer
  (result, after, calls.map (.call · (answerStatus answer)) ++ notices.map .notice)

/-- A query answered by a vendor that does not fail. -/
theorem inquire_ok {α : Type} {v : Vendor} (clear : v.barrier = none) (ready : v.status = .success)
    {q : Query α} {a : α} (h : v.value q = .ok a) (operation : String) :
    inquire operation q v = (.ok a, v.answered q, q.calls.map (.call · .success)) := by
  simp [inquire, Vendor.ask, clear, ready, h, concludeAnswer, answerStatus]

end BluetoothHost
