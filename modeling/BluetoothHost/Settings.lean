import BluetoothHost.Address
import BluetoothHost.Notice
import BluetoothHost.Text.Utf8

/-!
# `Settings` — the configuration of conformance tests

Settings come from a text, or from a file that holds one. A malformed text and a file that cannot
be read give empty settings and a notice that says why; nothing else fails.

## Contents
- `Settings`: the entries of a text; `Settings.ofText` and `Settings.load` make them.
- `Settings.get?`: the value of a key in the default section, with `get?_eq_some_iff` and
  `get?_eq_none_iff`; `entry?_append`: the last entry of a key is the one that counts.
- `mobileAddress?` and `verbosity?`: the settings with a meaning of their own.
-/

namespace BluetoothHost

/-- The entries of a settings text, in the order of its lines. -/
structure Settings where
  entries : List Settings.Entry := []

namespace Settings

/-! ## Making settings -/

/-- The settings of a text, and what is logged while they are read. -/
def ofText (text : String) : Settings × List Notice :=
  match readEntries text with
  | .ok entries => (⟨entries⟩, [])
  | .error defect => ({}, [.settingsMalformed defect])

/-- Why a file gives no settings. -/
inductive LoadFailure where
  /-- The file cannot be read, for this reason. -/
  | unreadable (reason : String)
  | malformed (defect : Defect)

/-- The settings in a file's octets. -/
def ofOctets (octets : List UInt8) : Except LoadFailure Settings :=
  match Text.Utf8.decode? octets with
  | none => .error (.unreadable "stream did not contain valid UTF-8")
  | some text =>
    match readEntries (String.ofList text) with
    | .ok entries => .ok ⟨entries⟩
    | .error defect => .error (.malformed defect)

/-- The text that describes a failure to load the file at a path. -/
def LoadFailure.text (path : String) : LoadFailure → String
  | .unreadable reason => "couldn't read " ++ path ++ ": " ++ reason
  | .malformed defect => defect.text

/-- The settings of the file at a path, given its octets or the reason why there are none. -/
def load (path : String) (file : Except String (List UInt8)) : Settings × List Notice :=
  match file.mapError .unreadable >>= ofOctets with
  | .ok settings => (settings, [])
  | .error failure => ({}, [.settingsUnavailable path (failure.text path)])

/-- The place settings are loaded from unless another is given. -/
def defaultPath : String := "/opt/home/capi-network-bluetooth/tetware.conf"

/-! ## Looking settings up -/

/-- What the last entry of a key in the default section says, if there is one: its value, or that
    it has none. -/
def entry? (s : Settings) (key : String) : Option (Option (List Char)) :=
  (s.entries.reverse.find? fun e =>
    e.heading == defaultSection && e.key == key.toList).map (·.value?)

/-- The value of a key in the default section. An empty value counts as none. -/
def get? (s : Settings) (key : String) : Option String :=
  match s.entry? key with
  | some (some value) => if value.isEmpty then none else some (String.ofList value)
  | _ => none

/-- The address of the device tests talk to, and what is logged while it is read. -/
def mobileAddress? (s : Settings) : Option Address × List Notice :=
  match s.get? "BT_ADDR_MOBILE" with
  | none => (none, [])
  | some text =>
    match Address.ofText? text with
    | some address => (some address, [])
    | none => (none, [.refused (.malformedAddress text)])

/-- How much to log, and what is logged while it is read. -/
def verbosity? (s : Settings) : Option Verbosity × List Notice :=
  match s.get? "BT_LOG_LEVEL" with
  | none => (none, [])
  | some name =>
    match Verbosity.ofText? name with
    | some verbosity => (some verbosity, [])
    | none => (none, [.unknownVerbosity name])

/-- Entries further down take the place of those in front of them. -/
theorem entry?_append (before after : List Entry) (key : String) :
    entry? ⟨before ++ after⟩ key =
      ( entry? ⟨after⟩ key).or ( entry? ⟨before⟩ key) := by
  unfold entry?
  rw [List.reverse_append, List.find?_append, Option.map_or]

theorem get?_eq_some_iff {s : Settings} {key value : String} :
    s.get? key = some value ↔ s.entry? key = some (some value.toList) ∧ value ≠ "" := by
  unfold get?
  match s.entry? key with
  | none => simp
  | some none => simp
  | some (some cs) =>
    constructor
    · intro h
      cases hcs : cs.isEmpty with
      | true => simp [hcs] at h
      | false =>
        obtain rfl : String.ofList cs = value := by simpa [hcs] using h
        refine ⟨by rw [String.toList_ofList], ?_⟩
        rw [ne_eq, String.ofList_eq_empty_iff]
        simpa using hcs
    · rintro ⟨h, hne⟩
      obtain rfl : cs = value.toList := by simpa using h
      have hcs : value.toList.isEmpty = false := by
        rw [Bool.eq_false_iff, ne_eq, List.isEmpty_iff, String.toList_eq_nil_iff]
        exact hne
      simp [hcs]

theorem get?_eq_none_iff {s : Settings} {key : String} :
    s.get? key = none ↔
      s.entry? key = none ∨ s.entry? key = some none ∨ s.entry? key = some (some []) := by
  unfold get?
  match s.entry? key with
  | none => simp
  | some none => simp
  | some (some []) => simp
  | some (some (c :: cs)) => simp

theorem mobileAddress?_eq_some_iff {s : Settings} {address : Address} :
    s.mobileAddress?.1 = some address ↔
      ∃ value, s.get? "BT_ADDR_MOBILE" = some value ∧ Address.ofText? value = some address := by
  unfold mobileAddress?
  cases s.get? "BT_ADDR_MOBILE" with
  | none => simp
  | some value => cases hread : Address.ofText? value <;> simp [hread]

end Settings

end BluetoothHost
