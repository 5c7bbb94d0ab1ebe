import BluetoothHost.Text.Blank
import BluetoothHost.Text.Fields

/-!
# `Settings.Grammar` — lines of a settings file

A settings file is read line by line. What follows the first number sign of a line is a comment.
Of what is left, without the blanks around it, a line that opens with a bracket is the header of a
section, any other line is an entry: a key and a value with `=` or `:` between them, whichever
comes first, or a key alone. Entries before any header belong to a section of their own,
`default`.

## Contents
- `Defect`: the two ways a line can be malformed, with the text of each.
- `Line` and `Line.read`: what one line says.
- `Entry` and `readEntries`: the entries of a text with the section each one stands in; the first
  malformed line spoils the text.
-/

namespace BluetoothHost.Settings

/-! ## One line -/

/-- Why a line is malformed. Lines are counted from one. -/
inductive Defect where
  /-- A header without a closing bracket. -/
  | unclosedHeader (line : Nat)
  /-- An entry without a key, whose delimiter therefore stands at the very start. -/
  | emptyKey (line : Nat)
  deriving DecidableEq

/-- The text that describes a defect. -/
def Defect.text : Defect → String
  | .unclosedHeader line =>
    "line " ++ Nat.repr line ++ ": Found opening bracket for section name but no closing bracket"
  | .emptyKey line => "line " ++ Nat.repr line ++ ":0: Key cannot be empty"

/-- What a line says. -/
inductive Line where
  | blank
  | header (name : List Char)
  | entry (key : List Char) (value? : Option (List Char))
  deriving DecidableEq

/-- Between a key and its value. -/
def isDelimiter (c : Char) : Bool := c == '=' || c == ':'

/-- The text of a line that counts: its comment and the blanks around it left out. -/
def significant (cs : List Char) : List Char :=
  Text.trim ((Text.trim cs).takeWhile (· != '#'))

/-- The name in a header: what stands between its first character and its last closing bracket. -/
def headerName? (cs : List Char) : Option (List Char) :=
  match (cs.reverse.dropWhile (· != ']')) with
  | [] => none
  | _ :: before => some (Text.trim (before.reverse.drop 1))

/-- Reads what counts of a line. -/
def Line.readSignificant (number : Nat) (cs : List Char) : Except Defect Line :=
  match cs with
  | [] => .ok .blank
  | '[' :: _ =>
    match headerName? cs with
    | some name => .ok (.header name)
    | none => .error (.unclosedHeader number)
  | _ =>
    let key := Text.trim (cs.takeWhile (!isDelimiter ·))
    match cs.dropWhile (!isDelimiter ·) with
    | [] => .ok (.entry key none)
    | _ :: value =>
      if key.isEmpty then .error (.emptyKey number) else .ok (.entry key (some (Text.trim value)))

/-- Reads a line. -/
def Line.read (number : Nat) (cs : List Char) : Except Defect Line :=
  Line.readSignificant number (significant cs)

/-! ## All lines -/

/-- A key with the name of the section it stands in, and its value if it has one. -/
structure Entry where
  heading : List Char
  key : List Char
  value? : Option (List Char)
  deriving DecidableEq

/-- The section of entries before any header. -/
def defaultSection : List Char := "default".toList

/-- The entries of some lines, the first of which has this number and stands in this section. -/
def readLines (number : Nat) (current : List Char) : List (List Char) → Except Defect (List Entry)
  | [] => .ok []
  | line :: rest =>
    match Line.read number line with
    | .error defect => .error defect
    | .ok .blank => readLines (number + 1) current rest
    | .ok (.header name) => readLines (number + 1) name rest
    | .ok (.entry key value?) =>
      match readLines (number + 1) current rest with
      | .error defect => .error defect
      | .ok entries => .ok (⟨current, key, value?⟩ :: entries)

/-- The entries of a text, in the order of its lines. -/
def readEntries (text : String) : Except Defect (List Entry) :=
  readLines 1 defaultSection (Text.fields '\n' text.toList)

end BluetoothHost.Settings
