import BluetoothHost.Coded

/-!
# `Verbosity` — how much is logged

A record is logged if it is no less severe than the level in force. The most verbose level lets
everything through, `off` lets nothing through.

## Contents
- `Severity`: how severe a record is.
- `Verbosity`: the level in force; `Verbosity.ofText?` reads it by name, in any case.
-/

namespace BluetoothHost

/-- How severe a log record is. -/
inductive Severity where
  | error
  | warn
  | info
  | debug
  | trace
  deriving DecidableEq, Inhabited

/-- The word a record of this severity starts with. -/
def Severity.name : Severity → String
  | .error => "ERROR"
  | .warn => "WARN"
  | .info => "INFO"
  | .debug => "DEBUG"
  | .trace => "TRACE"

/-- How much is logged. -/
inductive Verbosity where
  | off
  | error
  | warn
  | info
  | debug
  | trace
  deriving DecidableEq, Inhabited

namespace Verbosity

/-- The place and the name of a level. -/
def entry : Verbosity → Int × String
  | .off => (0, "Off")
  | .error => (1, "Error")
  | .warn => (2, "Warn")
  | .info => (3, "Info")
  | .debug => (4, "Debug")
  | .trace => (5, "Trace")

instance : Coded Verbosity where
  values := [.off, .error, .warn, .info, .debug, .trace]
  code v := v.entry.1
  name v := v.entry.2

/-- The more verbose of two levels. -/
def max (a b : Verbosity) : Verbosity := if Coded.code a < Coded.code b then b else a

/-- The level of a name, the case of its letters aside. -/
def ofText? (s : String) : Option Verbosity :=
  Coded.values.find? fun v : Verbosity =>
    (Coded.name v).toList.map Char.toLower == s.toList.map Char.toLower

theorem ofText?_name (v : Verbosity) : ofText? (Coded.name v) = some v := by
  cases v <;> decide

end Verbosity

end BluetoothHost
