import BluetoothHost.Text.Printable

/-!
# `Text.Quoted` — a text between double quotes

Log records show a text between double quotes. The quote and the backslash take a backslash before
them, four controls have a short name, and any other character without a shape of its own is shown
by its number in braces.

## Contents
- `escape`: how one character is shown.
- `quoted`: the whole text between its quotes.
-/

namespace BluetoothHost.Text

/-- A character shown by its number: `\u`, then the number in lower-case hexadecimal in braces. -/
def numbered (c : Char) : List Char :=
  ['\\', 'u', '\x7b'] ++ Nat.toDigits 16 c.toNat ++ ['\x7d']

/-- How a quoted text shows one character. -/
def escape (c : Char) : List Char :=
  match c with
  | '\x00' => ['\\', '0']
  | '\t' => ['\\', 't']
  | '\r' => ['\\', 'r']
  | '\n' => ['\\', 'n']
  | '\\' => ['\\', '\\']
  | '"' => ['\\', '"']
  | c => if isPrintable c then [c] else numbered c

/-- The text between double quotes, every character shown in a readable way. -/
def quoted (s : String) : String := String.ofList ('"' :: s.toList.flatMap escape ++ ['"'])

end BluetoothHost.Text
