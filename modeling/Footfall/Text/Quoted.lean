import Footfall.Text.HiddenTable
import Footfall.Text.Lowercase

/-!
# Quoted text in messages

A message that shows a value from outside puts it between double quotes and escapes what a
terminal or a log would not show: control and other invisible characters appear by their code
point. A single quote needs no escape.
-/

namespace Footfall.Text

/-- Has the character no visible form of its own? -/
def isHidden (c : Char) : Bool := c.toNat < 32 || inRanges hiddenRanges c.toNat

/-- The lower-case hexadecimal digits of a number. -/
def hexDigits (n : Nat) : List Char := Nat.toDigits 16 n

/-- A character as it stands between quotes. -/
def quotedChar (c : Char) : List Char :=
  match c with
  | '"' => ['\\', '"']
  | '\\' => ['\\', '\\']
  | '\n' => ['\\', 'n']
  | '\r' => ['\\', 'r']
  | '\t' => ['\\', 't']
  | '\x00' => ['\\', '0']
  | c => if isHidden c then ['\\', 'u', '\x7b'] ++ hexDigits c.toNat ++ ['\x7d'] else [c]

/-- A text between double quotes, with invisible characters escaped. -/
def quoted (s : String) : String :=
  String.ofList ('"' :: s.toList.flatMap quotedChar ++ ['"'])

end Footfall.Text
