import BluetoothHost.Settings
import BluetoothHost.Text.Blank

/-!
# `LogFilter` — which records get through

A filter is a list of directives, each setting the level of one module or of all that have none of
their own. The directives come from a level given by the program and from the environment, which
has the last word. The records that get through anywhere are bounded by the most verbose level of
all directives.

## Contents
- `Directive`, read from an item of the environment's text by `Directive.ofText?`.
- `directives`: the directives of a whole text.
- `LogFilter.maxLevel`: the bound, for a level and an environment; `ofSettings` takes the level
  from settings, `ofText` from a settings text.
-/

namespace BluetoothHost.LogFilter

/-- Sets the level of a module, or of all modules without one. -/
structure Directive where
  module? : Option (List Char)
  level : Verbosity

/-- The level a text names, blanks not allowed. -/
def level? (cs : List Char) : Option Verbosity := Verbosity.ofText? (String.ofList cs)

/-- Reads one item: a level, a module (which then logs everything), or both with `=` between. A
    module whose level is left out logs everything too. -/
def Directive.ofText? (item : List Char) : Option Directive :=
  match Text.fields '=' item with
  | [single] =>
    match level? single with
    | some level => some ⟨none, level⟩
    | none => some ⟨some single, .trace⟩
  | [name, given] =>
    let level := Text.trim given
    if level.isEmpty then some ⟨some name, .trace⟩
    else (level? level).map (⟨some name, ·⟩)
  | _ => none

/-- The directives of a text: items between commas, up to a slash. Blank items and items of no
    meaning are passed over, and a text with more than one slash has no directives. -/
def directives (text : String) : List Directive :=
  match Text.fields '/' text.toList with
  | [levels] | [levels, _] =>
    (((Text.fields ',' levels).map Text.trim).filter (!·.isEmpty)).filterMap Directive.ofText?
  | _ => []

/-- Adds a directive; one for the same module gives way to it. -/
def insert (ds : List Directive) (d : Directive) : List Directive :=
  ds.filter (·.module? != d.module?) ++ [d]

/-- The most verbose level of all directives, for the program's level and the environment's text. -/
def maxLevel (level : Verbosity) (environment? : Option String) : Verbosity :=
  let given := (environment?.map directives).getD []
  (given.foldl insert [⟨none, level⟩]).foldl (fun most d => most.max d.level) .off

/-- The bound when the program takes its level from settings; `info` if they name none. -/
def ofSettings (s : Settings) (environment? : Option String) : Verbosity :=
  maxLevel (s.verbosity?.1.getD .info) environment?

/-- The bound when the settings are a text. No filter is in force before the settings are read, so
    what reading them logs is lost. -/
def ofText (text : String) (environment? : Option String) : Verbosity :=
  ofSettings (Settings.ofText text).1 environment?

end BluetoothHost.LogFilter
