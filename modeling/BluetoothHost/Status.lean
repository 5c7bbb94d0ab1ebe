import BluetoothHost.Coded

/-!
# `Status` — the vendor's verdict on a request

Every request to the vendor stack and every event from it carries a status: success, or one of the
failures the vendor distinguishes. Codes are zero or negative; a code without a status of its own
stands for `unknown`.

## Contents
- `Status`, with codes and names; `Status.ofCode`, total.
- `ofCode_code`: every status is found by its code.
-/

namespace BluetoothHost

/-- The verdict of the vendor stack on a request, or on what an event reports. -/
inductive Status where
  | success
  | cancel
  | invalidCallback
  | invalidParam
  | invalidData
  | memoryAllocation
  | outOfMemory
  | timeout
  | noResources
  | internal
  | notSupport
  | deviceNotEnabled
  | deviceAlreadyEnabled
  | deviceBusy
  | accessDenied
  | maxClient
  | notFound
  | serviceSearchError
  | pairingFailed
  | notPaired
  | serviceNotFound
  | notConnected
  | alreadyConnect
  | connectionBusy
  | connectionError
  | maxConnection
  | notInOperation
  | cancelByUser
  | registrationFailed
  | inProgress
  | authenticationFailed
  | hostDown
  | endOfDeviceList
  | agentAlreadyExist
  | agentDoesNotExist
  | alreadyInitialized
  | permissionDenied
  | alreadyDeactivated
  | notInitialized
  | authenticationRejected
  | authorizationRejected
  | noData
  | again
  | unknown
  deriving DecidableEq, Inhabited

namespace Status

/-- The code and the name of a status. -/
def entry : Status → Int × String
  | .success => (0, "Success")
  | .cancel => (-1, "Cancel")
  | .invalidCallback => (-2, "InvalidCallback")
  | .invalidParam => (-3, "InvalidParam")
  | .invalidData => (-4, "InvalidData")
  | .memoryAllocation => (-5, "MemoryAllocation")
  | .outOfMemory => (-6, "OutOfMemory")
  | .timeout => (-7, "Timeout")
  | .noResources => (-8, "NoResources")
  | .internal => (-9, "Internal")
  | .notSupport => (-10, "NotSupport")
  | .deviceNotEnabled => (-11, "DeviceNotEnabled")
  | .deviceAlreadyEnabled => (-12, "DeviceAlreadyEnabled")
  | .deviceBusy => (-13, "DeviceBusy")
  | .accessDenied => (-14, "AccessDenied")
  | .maxClient => (-15, "MaxClient")
  | .notFound => (-16, "NotFound")
  | .serviceSearchError => (-17, "ServiceSearchError")
  | .pairingFailed => (-18, "PairingFailed")
  | .notPaired => (-19, "NotPaired")
  | .serviceNotFound => (-20, "ServiceNotFound")
  | .notConnected => (-21, "NotConnected")
  | .alreadyConnect => (-22, "AlreadyConnect")
  | .connectionBusy => (-23, "ConnectionBusy")
  | .connectionError => (-24, "ConnectionError")
  | .maxConnection => (-25, "MaxConnection")
  | .notInOperation => (-26, "NotInOperation")
  | .cancelByUser => (-27, "CancelByUser")
  | .registrationFailed => (-28, "RegistrationFailed")
  | .inProgress => (-29, "InProgress")
  | .authenticationFailed => (-30, "AuthenticationFailed")
  | .hostDown => (-31, "HostDown")
  | .endOfDeviceList => (-32, "EndOfDeviceList")
  | .agentAlreadyExist => (-33, "AgentAlreadyExist")
  | .agentDoesNotExist => (-34, "AgentDoesNotExist")
  | .alreadyInitialized => (-35, "AlreadyInitialized")
  | .permissionDenied => (-36, "PermissionDenied")
  | .alreadyDeactivated => (-37, "AlreadyDeactivated")
  | .notInitialized => (-38, "NotInitialized")
  | .authenticationRejected => (-39, "AuthenticationRejected")
  | .authorizationRejected => (-40, "AuthorizationRejected")
  | .noData => (-41, "NoData")
  | .again => (-42, "Again")
  | .unknown => (-255, "Unknown")

instance : Coded Status where
  values := [
    .success, .cancel, .invalidCallback, .invalidParam, .invalidData, .memoryAllocation,
    .outOfMemory, .timeout, .noResources, .internal, .notSupport, .deviceNotEnabled,
    .deviceAlreadyEnabled, .deviceBusy, .accessDenied, .maxClient, .notFound,
    .serviceSearchError, .pairingFailed, .notPaired, .serviceNotFound, .notConnected,
    .alreadyConnect, .connectionBusy, .connectionError, .maxConnection, .notInOperation,
    .cancelByUser, .registrationFailed, .inProgress, .authenticationFailed, .hostDown,
    .endOfDeviceList, .agentAlreadyExist, .agentDoesNotExist, .alreadyInitialized,
    .permissionDenied, .alreadyDeactivated, .notInitialized, .authenticationRejected,
    .authorizationRejected, .noData, .again, .unknown]
  code s := s.entry.1
  name s := s.entry.2

/-- The number a status travels as. -/
def code (s : Status) : Int := Coded.code s

/-- The name log records use. -/
def name (s : Status) : String := Coded.name s

/-- The status of a code; a code without one stands for `unknown`. -/
def ofCode (n : Int) : Status := (Coded.ofCode? n).getD .unknown

/-- Every status is found by its code. -/
theorem ofCode_code (s : Status) : ofCode s.code = s := by cases s <;> rfl

/-- Only zero is the code of success. -/
theorem ofCode_eq_success_iff (n : Int) : ofCode n = .success ↔ n = 0 := by
  constructor
  · intro h
    unfold ofCode at h
    cases e : (Coded.ofCode? n : Option Status) with
    | none => simp [e] at h
    | some s =>
      have := Coded.code_of_ofCode? e
      simp only [e, Option.getD_some] at h
      subst h
      exact this.symm
  · rintro rfl
    rfl

end Status

end BluetoothHost
