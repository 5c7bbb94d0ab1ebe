import BluetoothHost.Fault

/-!
# `Refusal` — operations refused without asking the vendor

An operation is refused if the stack is not up, or if an argument cannot be right whatever the
vendor would say to it.

## Contents
- `Refusal`, with `Refusal.fault`.
-/

namespace BluetoothHost

/-- Why an operation is refused before the vendor is asked. -/
inductive Refusal where
  | notStarted
  | hidNotStarted
  | hidAlreadyStarted
  | malformedAddress (given : String)
  | emptyUuid
  | emptyUuidList
  | nameLength (octets : Nat)
  | visibilityTimeout (seconds : Int32)
  | descriptor (number : Int32)
  deriving DecidableEq

/-- The fault a refused operation fails with. -/
def Refusal.fault : Refusal → Fault
  | .notStarted | .hidNotStarted => .notInitialized
  | .hidAlreadyStarted => .alreadyDone
  | _ => .invalidParameter

end BluetoothHost
