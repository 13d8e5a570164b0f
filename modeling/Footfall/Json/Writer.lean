import Footfall.Decimal.Shortest
import Footfall.Json.Value
import Footfall.Text.Quoted

/-!
# Writing JSON

Two written forms of a value: the compact one, which is stored and sent, and the indented one,
which the command line prints.

* `escaped` writes one character of a string: only quotes, backslashes and control characters
  need an escape.
* `compact` is the form without any blank.
* `indented` puts every item and field on its own line, two spaces deeper than its container.
-/

namespace Footfall.Json

/-- One character of a string as it is written. -/
def escaped (c : Char) : List Char :=
  match c with
  | '"' => ['\\', '"']
  | '\\' => ['\\', '\\']
  | '\n' => ['\\', 'n']
  | '\r' => ['\\', 'r']
  | '\t' => ['\\', 't']
  | '\x08' => ['\\', 'b']
  | '\x0c' => ['\\', 'f']
  | c =>
    if c.toNat < 32 then
      ['\\', 'u', '0', '0', Nat.digitChar (c.toNat / 16), Nat.digitChar (c.toNat % 16)]
    else [c]

/-- A string between its quotes. -/
def quotedString (s : String) : List Char := '"' :: s.toList.flatMap escaped ++ ['"']

/-- The digits of an integer. -/
def integerText (n : Int) : List Char :=
  if n < 0 then '-' :: Nat.toDigits 10 n.natAbs else Nat.toDigits 10 n.natAbs

mutual

/-- The compact form of a value. -/
def compact : Value → List Char
  | .null => ['n', 'u', 'l', 'l']
  | .bool true => ['t', 'r', 'u', 'e']
  | .bool false => ['f', 'a', 'l', 's', 'e']
  | .int n => integerText n
  | .float x => Decimal.floatText x
  | .string s => quotedString s
  | .array items => '[' :: compactItems items
  | .object fields => '\x7b' :: compactFields fields

/-- The items of an array after its bracket, up to and including the closing one. -/
def compactItems : List Value → List Char
  | [] => [']']
  | [v] => compact v ++ [']']
  | v :: w :: r => compact v ++ ',' :: compactItems (w :: r)

/-- The fields of an object after its brace, up to and including the closing one. -/
def compactFields : List (String × Value) → List Char
  | [] => ['\x7d']
  | [(n, v)] => quotedString n ++ ':' :: compact v ++ ['\x7d']
  | (n, v) :: f :: r => quotedString n ++ ':' :: compact v ++ ',' :: compactFields (f :: r)

end

/-- The compact text of a value. -/
def compactText (v : Value) : String := String.ofList (compact v)

/-- A line break and the indentation of a depth. -/
def lineBreak (depth : Nat) : List Char := '\n' :: List.replicate (2 * depth) ' '

mutual

/-- The indented form of a value inside `depth` containers. -/
def indented (depth : Nat) : Value → List Char
  | .array [] => ['[', ']']
  | .array (v :: r) => '[' :: indentedItems (depth + 1) (v :: r) ++ lineBreak depth ++ [']']
  | .object [] => ['\x7b', '\x7d']
  | .object (f :: r) =>
    '\x7b' :: indentedFields (depth + 1) (f :: r) ++ lineBreak depth ++ ['\x7d']
  | .null => ['n', 'u', 'l', 'l']
  | .bool true => ['t', 'r', 'u', 'e']
  | .bool false => ['f', 'a', 'l', 's', 'e']
  | .int n => integerText n
  | .float x => Decimal.floatText x
  | .string s => quotedString s

/-- The items of an array on lines of their own. -/
def indentedItems (depth : Nat) : List Value → List Char
  | [] => []
  | [v] => lineBreak depth ++ indented depth v
  | v :: w :: r => lineBreak depth ++ indented depth v ++ ',' :: indentedItems depth (w :: r)

/-- The fields of an object on lines of their own. -/
def indentedFields (depth : Nat) : List (String × Value) → List Char
  | [] => []
  | [(n, v)] => lineBreak depth ++ quotedString n ++ ':' :: ' ' :: indented depth v
  | (n, v) :: f :: r =>
    lineBreak depth ++ quotedString n ++ ':' :: ' ' :: indented depth v ++
      ',' :: indentedFields depth (f :: r)

end

/-- The indented text of a value. -/
def indentedText (v : Value) : String := String.ofList (indented 0 v)

end Footfall.Json
