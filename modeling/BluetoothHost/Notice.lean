import BluetoothHost.Event.Shown
import BluetoothHost.EventKind
import BluetoothHost.Payload
import BluetoothHost.Refusal
import BluetoothHost.Settings.Grammar
import BluetoothHost.Verbosity

/-!
# `Notice` — what is written to the log

Everything the library logs is one of these notices. Each has a severity and a text, and is
written as the one followed by the other.

## Contents
- `Notice`, with `Notice.severity` and `Notice.text`.
- `Notice.line`: the record as it is written.
- `Notice.isAlarm`: records that tell of a failure.
-/

namespace BluetoothHost

/-- What is written to the log. -/
inductive Notice where
  | started
  | alreadyStarted
  | stopped
  | refused (refusal : Refusal)
  /-- The vendor failed an operation. -/
  | failed (operation : String) (fault : Fault) (status : Status)
  /-- The vendor failed an operation and gave success for a reason. -/
  | failedWithoutReason (operation : String)
  | shortfall (shortfall : Shortfall)
  | unreadableUuid (uuid : String)
  | nameChangeStatus (status : Status)
  | droppedData (descriptor : Int32) (status : Status)
  | passingHidState (address : Address) (state : HidState)
  /-- An event was handed to a desk that does not know it. -/
  | unhandled (event : Event)
  | receiverGone (event : Event)
  | contextPoisoned (event : Event)
  | callbackPoisoned (kind : EventKind)
  | settingsUnavailable (path reason : String)
  | settingsMalformed (defect : Settings.Defect)
  | unknownVerbosity (name : String)

/-- How severe a refusal is: a malformed address is an error, all others are warnings. -/
def Refusal.severity : Refusal → Severity
  | .malformedAddress _ => .error
  | _ => .warn

/-- The text that describes a refusal. -/
def Refusal.text : Refusal → String
  | .notStarted => "Bluetooth is not initialized"
  | .hidNotStarted => "HID host is not initialized"
  | .hidAlreadyStarted => "HID host already initialized"
  | .malformedAddress text => "Malformed address string: " ++ Text.quoted text
  | .emptyUuid => "Empty service uuid"
  | .emptyUuidList => "Empty uuid list"
  | .nameLength octets => "Invalid adapter name length " ++ Nat.repr octets
  | .visibilityTimeout seconds => "Invalid visibility timeout " ++ Int.repr seconds.toInt
  | .descriptor number => "Invalid socket fd " ++ Int.repr number.toInt

namespace Notice

/-- How severe a notice is. -/
def severity : Notice → Severity
  | .refused refusal => refusal.severity
  | .failed .. | .failedWithoutReason _ | .shortfall _ | .contextPoisoned _
  | .callbackPoisoned _ => .error
  | .settingsMalformed _ | .unknownVerbosity _ => .warn
  | .started | .stopped | .settingsUnavailable .. => .info
  | .alreadyStarted | .unreadableUuid _ | .nameChangeStatus _ | .droppedData ..
  | .passingHidState .. | .unhandled _ | .receiverGone _ => .debug

/-- The text of a notice. -/
def text : Notice → String
  | .started => "Bluetooth initialized"
  | .alreadyStarted => "Bluetooth already initialized"
  | .stopped => "Bluetooth deinitialized"
  | .refused refusal => refusal.text
  | .failed operation fault status =>
    operation ++ " failed: " ++ fault.message ++ " (" ++ status.name ++ ", " ++
      fault.codeText ++ ")"
  | .failedWithoutReason operation => operation ++ " failed without a reason"
  | .shortfall s =>
    s.address.text ++ ": service count " ++ Nat.repr s.counted ++ " but only " ++
      Nat.repr s.carried ++ " uuids"
  | .unreadableUuid uuid => "Skipping unparseable uuid " ++ Text.quoted uuid
  | .nameChangeStatus status => "Local name changed with status " ++ status.name
  | .droppedData descriptor status =>
    "Dropping data on socket " ++ Int.repr descriptor.toInt ++ " with status " ++ status.name
  | .passingHidState address state => "HID host " ++ address.text ++ " is " ++ Coded.name state
  | .unhandled event => "Unhandled callback arm " ++ event.bare
  | .receiverGone event => "Dispatch loop is gone, dropping " ++ event.shown
  | .contextPoisoned event => "Bluetooth context poisoned, dropping " ++ event.shown
  | .callbackPoisoned kind => Coded.name kind ++ " callback poisoned"
  | .settingsUnavailable path reason =>
    "No test configuration loaded from " ++ path ++ ": " ++ reason
  | .settingsMalformed defect => "Malformed test configuration: " ++ defect.text
  | .unknownVerbosity name => "Ignoring unknown log level " ++ Text.quoted name

/-- The record as it is written: the severity, then the text. -/
def line (n : Notice) : String := n.severity.name ++ " " ++ n.text

/-- Records that tell of a failure: errors and warnings. -/
def isAlarm (n : Notice) : Bool := n.severity == .error || n.severity == .warn

end Notice

end BluetoothHost
