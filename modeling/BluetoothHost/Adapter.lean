import BluetoothHost.Coded

/-!
# `Adapter` — states and modes of the local adapter

The vendor speaks of power and scan modes, the public interface of an adapter that is enabled and
of its visibility. The two sides correspond one to one.

## Contents
- `Power` and `AdapterState`, with `Power.adapterState`.
- `ScanMode` and `Visibility`, with `ScanMode.visibility` and `Visibility.scanMode`, inverse to
  each other.
- `DiscoveryPhase`: what a discovery event reports.
-/

namespace BluetoothHost

/-! ## Power -/

/-- Power of the adapter, as the vendor reports it. -/
inductive Power where
  | off
  | on
  deriving DecidableEq, Inhabited

instance : Coded Power where
  values := [.off, .on]
  code | .off => 0 | .on => 1
  name | .off => "Off" | .on => "On"

/-- The power state of a code; a code without one stands for `off`. -/
def Power.ofCode (n : Int) : Power := (Coded.ofCode? n).getD .off

/-- State of the adapter in the public interface. -/
inductive AdapterState where
  | disabled
  | enabled
  deriving DecidableEq, Inhabited

instance : Coded AdapterState where
  values := [.disabled, .enabled]
  code | .disabled => 0 | .enabled => 1
  name | .disabled => "Disabled" | .enabled => "Enabled"

/-- An adapter with power is enabled. -/
def Power.adapterState : Power → AdapterState
  | .on => .enabled
  | .off => .disabled

/-! ## Visibility -/

/-- Who may find the adapter, as the vendor reports it. -/
inductive ScanMode where
  /-- Connectable, but not discoverable. -/
  | connectable
  | generalDiscoverable
  | timeLimitedDiscoverable
  deriving DecidableEq, Inhabited

instance : Coded ScanMode where
  values := [.connectable, .generalDiscoverable, .timeLimitedDiscoverable]
  code | .connectable => 0 | .generalDiscoverable => 1 | .timeLimitedDiscoverable => 2
  name
    | .connectable => "Connectable"
    | .generalDiscoverable => "GeneralDiscoverable"
    | .timeLimitedDiscoverable => "TimeLimitedDiscoverable"

/-- The scan mode of a code; a code without one stands for `connectable`. -/
def ScanMode.ofCode (n : Int) : ScanMode := (Coded.ofCode? n).getD .connectable

/-- Who may find the adapter, in the public interface. -/
inductive Visibility where
  | nonDiscoverable
  | generalDiscoverable
  | limitedDiscoverable
  deriving DecidableEq, Inhabited

instance : Coded Visibility where
  values := [.nonDiscoverable, .generalDiscoverable, .limitedDiscoverable]
  code | .nonDiscoverable => 0 | .generalDiscoverable => 1 | .limitedDiscoverable => 2
  name
    | .nonDiscoverable => "NonDiscoverable"
    | .generalDiscoverable => "GeneralDiscoverable"
    | .limitedDiscoverable => "LimitedDiscoverable"

/-- The visibility a scan mode amounts to. -/
def ScanMode.visibility : ScanMode → Visibility
  | .connectable => .nonDiscoverable
  | .generalDiscoverable => .generalDiscoverable
  | .timeLimitedDiscoverable => .limitedDiscoverable

/-- The scan mode that gives a visibility. -/
def Visibility.scanMode : Visibility → ScanMode
  | .nonDiscoverable => .connectable
  | .generalDiscoverable => .generalDiscoverable
  | .limitedDiscoverable => .timeLimitedDiscoverable

@[simp] theorem ScanMode.scanMode_visibility (m : ScanMode) : m.visibility.scanMode = m := by
  cases m <;> rfl

@[simp] theorem Visibility.visibility_scanMode (v : Visibility) : v.scanMode.visibility = v := by
  cases v <;> rfl

/-! ## Discovery -/

/-- What a discovery event reports. -/
inductive DiscoveryPhase where
  | started
  | finished
  | found
  deriving DecidableEq, Inhabited

instance : Coded DiscoveryPhase where
  values := [.started, .finished, .found]
  code | .started => 0 | .finished => 1 | .found => 2
  name | .started => "Started" | .finished => "Finished" | .found => "Found"

end BluetoothHost
