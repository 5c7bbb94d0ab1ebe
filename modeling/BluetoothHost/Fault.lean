import BluetoothHost.Status
import BluetoothHost.Text.Hex

/-!
# `Fault` — why an operation failed

The public operations fail with a fault. Its code is the number the platform reports; codes
between -1000 and 0 are system error numbers, the others count up within a range of their own. The
failures of the vendor stack fall together into fewer faults.

## Contents
- `Fault`, with codes, names and messages.
- `Status.outcome`: what a vendor status means for the caller, with `outcome_eq_ok_iff` and
  `outcome_eq_error_iff`.
- `Status.fault?`: the fault of a failing status.
-/

namespace BluetoothHost

/-- Why a public operation failed. -/
inductive Fault where
  | cancelled
  | invalidParameter
  | outOfMemory
  | resourceBusy
  | timedOut
  | nowInProgress
  | notSupported
  | permissionDenied
  | quotaExceeded
  | noData
  | notInitialized
  | notEnabled
  | alreadyDone
  | operationFailed
  | notInProgress
  | remoteDeviceNotBonded
  | authRejected
  | authFailed
  | remoteDeviceNotFound
  | serviceSearchFailed
  | remoteDeviceNotConnected
  | again
  | serviceNotFound
  deriving DecidableEq, Inhabited

namespace Fault

/-- The code, the name and the message of a fault. -/
def entry : Fault → Int × String × String
  | .cancelled => (-125, "Cancelled", "Operation cancelled")
  | .invalidParameter => (-22, "InvalidParameter", "Invalid parameter")
  | .outOfMemory => (-12, "OutOfMemory", "Out of memory")
  | .resourceBusy => (-16, "ResourceBusy", "Device or resource busy")
  | .timedOut => (-1073741823, "TimedOut", "Timeout error")
  | .nowInProgress => (-115, "NowInProgress", "Operation now in progress")
  | .notSupported => (-1073741822, "NotSupported", "Not supported")
  | .permissionDenied => (-13, "PermissionDenied", "Permission denied")
  | .quotaExceeded => (-122, "QuotaExceeded", "Quota exceeded")
  | .noData => (-61, "NoData", "No data available")
  | .notInitialized => (-29359871, "NotInitialized", "Local adapter not initialized")
  | .notEnabled => (-29359870, "NotEnabled", "Local adapter not enabled")
  | .alreadyDone => (-29359869, "AlreadyDone", "Operation already done")
  | .operationFailed => (-29359868, "OperationFailed", "Operation failed")
  | .notInProgress => (-29359867, "NotInProgress", "Operation not in progress")
  | .remoteDeviceNotBonded => (-29359866, "RemoteDeviceNotBonded", "Remote device not bonded")
  | .authRejected => (-29359865, "AuthRejected", "Authentication rejected")
  | .authFailed => (-29359864, "AuthFailed", "Authentication failed")
  | .remoteDeviceNotFound => (-29359863, "RemoteDeviceNotFound", "Remote device not found")
  | .serviceSearchFailed => (-29359862, "ServiceSearchFailed", "Service search failed")
  | .remoteDeviceNotConnected =>
    (-29359861, "RemoteDeviceNotConnected", "Remote device is not connected")
  | .again => (-29359860, "Again", "Resource temporarily unavailable")
  | .serviceNotFound => (-29359859, "ServiceNotFound", "Service not found")

instance : Coded Fault where
  values := [
    .cancelled, .invalidParameter, .outOfMemory, .resourceBusy, .timedOut, .nowInProgress,
    .notSupported, .permissionDenied, .quotaExceeded, .noData, .notInitialized, .notEnabled,
    .alreadyDone, .operationFailed, .notInProgress, .remoteDeviceNotBonded, .authRejected,
    .authFailed, .remoteDeviceNotFound, .serviceSearchFailed, .remoteDeviceNotConnected,
    .again, .serviceNotFound]
  code f := f.entry.1
  name f := f.entry.2.1

/-- The number the platform reports for a fault. -/
def code (f : Fault) : Int := Coded.code f

/-- The sentence shown for a fault. -/
def message (f : Fault) : String := f.entry.2.2

/-- The code as log records show it: the 32-bit word, in hexadecimal. -/
def codeText (f : Fault) : String := "0x" ++ Text.wordText (BitVec.ofInt 32 f.code)

/-- Every fault has a code of its own. -/
theorem ofCode?_code (f : Fault) : Coded.ofCode? f.code = some f := by cases f <;> rfl

theorem code_neg (f : Fault) : f.code < 0 := by cases f <;> decide

end Fault

/-! ## Outcomes -/

/-- What an operation, or the event that completes it, ends with. -/
abbrev Outcome := Except Fault Unit

/-- The number reported for an outcome: zero for success. -/
def Outcome.code : Outcome → Int
  | .ok () => 0
  | .error f => f.code

namespace Status

/-- The fault of a failing status. A failure without a fault of its own is `operationFailed`. -/
def fault? : Status → Option Fault
  | .success => none
  | .cancel | .cancelByUser => some .cancelled
  | .invalidParam | .invalidData | .invalidCallback => some .invalidParameter
  | .memoryAllocation | .outOfMemory => some .outOfMemory
  | .timeout => some .timedOut
  | .deviceNotEnabled => some .notEnabled
  | .deviceAlreadyEnabled | .alreadyInitialized | .agentDoesNotExist | .alreadyDeactivated
  | .alreadyConnect => some .alreadyDone
  | .notPaired => some .remoteDeviceNotBonded
  | .notInOperation => some .notInProgress
  | .inProgress => some .nowInProgress
  | .deviceBusy => some .resourceBusy
  | .authenticationFailed | .authorizationRejected => some .authFailed
  | .authenticationRejected => some .authRejected
  | .hostDown | .serviceSearchError => some .serviceSearchFailed
  | .permissionDenied | .accessDenied => some .permissionDenied
  | .serviceNotFound => some .serviceNotFound
  | .notInitialized => some .notInitialized
  | .noData => some .noData
  | .notConnected => some .remoteDeviceNotConnected
  | .notFound => some .remoteDeviceNotFound
  | .notSupport => some .notSupported
  | .again => some .again
  | _ => some .operationFailed

/-- What a status means for the caller. -/
def outcome (s : Status) : Outcome :=
  match s.fault? with
  | none => .ok ()
  | some f => .error f

theorem fault?_eq_none_iff (s : Status) : s.fault? = none ↔ s = .success := by
  cases s <;> simp [fault?]

/-- Only success counts as success. -/
theorem outcome_eq_ok_iff (s : Status) : s.outcome = .ok () ↔ s = .success := by
  cases s <;> simp [outcome, fault?]

theorem outcome_eq_error_iff (s : Status) (f : Fault) : s.outcome = .error f ↔ s.fault? = some f := by
  unfold outcome
  cases s.fault? <;> simp

end Status

end BluetoothHost
