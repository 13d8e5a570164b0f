import Footfall.Json.Number
import Footfall.Text.Percent

/-!
# Reading JSON

A reader takes a list of characters and gives what it read together with the rest, or nothing
when the text is malformed.

* `stringBody` reads a string character by character. Escapes of surrogates have to come in pairs.
* `value` reads a value that is nested at most `depth` containers deep.
* `skipValue` passes over a value that nobody looks at. Only its shape is checked: numbers may be
  out of range, escaped surrogates may stand alone, and the depth is not limited.
* `parse` reads a whole text, with blanks around the value and nothing else.

Readers of containers carry an amount of fuel, one unit for each value and separator; the length
of the text is always enough.
-/

namespace Footfall.Json

/-- The characters that may stand between the parts of a text. -/
def isSpace (c : Char) : Bool := c = ' ' || c = '\n' || c = '\t' || c = '\r'

/-- The text without leading blanks. -/
def skipSpace (cs : List Char) : List Char := cs.dropWhile isSpace

/-- Containers nested deeper than this are refused. -/
def maxDepth : Nat := 127

/-! ## Strings -/

/-- The character that a letter after a backslash stands for. -/
def simpleEscape (c : Char) : Option Char :=
  match c with
  | '"' => some '"'
  | '\\' => some '\\'
  | '/' => some '/'
  | 'b' => some '\x08'
  | 'f' => some '\x0c'
  | 'n' => some '\n'
  | 'r' => some '\r'
  | 't' => some '\t'
  | _ => none

/-- Where the reader of a string is: between characters, after a backslash, within the digits of
an escaped unit, or after a leading surrogate, which needs a trailing one. -/
inductive StringState where
  | plain
  | backslash
  /-- `missing` digits of a unit are still to come; `high` is the surrogate before it. -/
  | unit (missing : Nat) (value : Nat) (high : Option Nat)
  | afterHigh (high : Nat)
  | afterHighBackslash (high : Nat)

/-- The state and output after the last digit of an escaped unit. -/
def completeUnit (value : Nat) (high : Option Nat) : Option (StringState × List Char) :=
  match high with
  | none =>
    if 0xDC00 ≤ value ∧ value ≤ 0xDFFF then none
    else if 0xD800 ≤ value ∧ value ≤ 0xDBFF then some (.afterHigh value, [])
    else some (.plain, [Char.ofNat value])
  | some h =>
    if 0xDC00 ≤ value ∧ value ≤ 0xDFFF then
      some (.plain, [Char.ofNat (0x10000 + (h - 0xD800) * 0x400 + (value - 0xDC00))])
    else none

/-- The state and output after one more character, or nothing where it is not allowed. A closing
quote is not handled here. -/
def StringState.step (s : StringState) (c : Char) : Option (StringState × List Char) :=
  match s with
  | .plain =>
    if c = '\\' then some (.backslash, [])
    else if c.toNat < 32 then none
    else some (.plain, [c])
  | .backslash =>
    if c = 'u' then some (.unit 4 0 none, [])
    else (simpleEscape c).map fun c => (.plain, [c])
  | .unit missing v high =>
    match Text.hexValue c with
    | none => none
    | some d =>
      if missing ≤ 1 then completeUnit (v * 16 + d) high
      else some (.unit (missing - 1) (v * 16 + d) high, [])
  | .afterHigh h => if c = '\\' then some (.afterHighBackslash h, []) else none
  | .afterHighBackslash h => if c = 'u' then some (.unit 4 0 (some h), []) else none

/-- Is the reader between characters, where a quote closes the string? -/
def StringState.isPlain : StringState → Bool
  | .plain => true
  | _ => false

/-- Read a string after its opening quote. The characters read so far are given in reverse. -/
def stringBody (s : StringState) (seen : List Char) : List Char → Option (List Char × List Char)
  | [] => none
  | c :: r =>
    if c = '"' && s.isPlain then some (seen.reverse, r)
    else
      match s.step c with
      | none => none
      | some (s, out) => stringBody s (out.reverse ++ seen) r

/-- Read a string with its quotes. -/
def string : List Char → Option (String × List Char)
  | '"' :: r => (stringBody .plain [] r).map fun (s, r) => (String.ofList s, r)
  | _ => none

/-! ## Values -/

/-- Read a fixed word. -/
def word (w : List Char) (v : Value) (cs : List Char) : Option (Value × List Char) :=
  (Text.strip? w cs).map fun r => (v, r)

mutual

/-- Read a value, with blanks before it, nested at most `depth` containers deep. -/
def value (depth : Nat) : Nat → List Char → Option (Value × List Char)
  | 0, _ => none
  | fuel + 1, cs =>
    match skipSpace cs with
    | [] => none
    | 'n' :: r => word ['u', 'l', 'l'] .null r
    | 't' :: r => word ['r', 'u', 'e'] (.bool true) r
    | 'f' :: r => word ['a', 'l', 's', 'e'] (.bool false) r
    | '"' :: r => (stringBody .plain [] r).map fun (s, r) => (.string (String.ofList s), r)
    | '[' :: r =>
      match depth with
      | 0 => none
      | depth + 1 =>
        match skipSpace r with
        | ']' :: r => some (.array [], r)
        | r => (items depth fuel r).map fun (vs, r) => (.array vs, r)
    | '\x7b' :: r =>
      match depth with
      | 0 => none
      | depth + 1 =>
        match skipSpace r with
        | '\x7d' :: r => some (.object [], r)
        | r => (fields depth fuel [] r).map fun (fs, r) => (.object fs, r)
    | c :: r => do
      let (n, r) ← Numeral.scan (c :: r)
      let v ← n.value
      return (v, r)

/-- Read the items of an array up to its closing bracket; there is at least one. -/
def items (depth : Nat) : Nat → List Char → Option (List Value × List Char)
  | 0, _ => none
  | fuel + 1, cs => do
    let (v, r) ← value depth fuel cs
    match skipSpace r with
    | ',' :: r =>
      let (vs, r) ← items depth fuel r
      return (v :: vs, r)
    | ']' :: r => return ([v], r)
    | _ => none

/-- Read the fields of an object up to its closing brace; there is at least one. -/
def fields (depth : Nat) : Nat → List (String × Value) → List Char →
    Option (List (String × Value) × List Char)
  | 0, _, _ => none
  | fuel + 1, seen, cs => do
    let (name, r) ← string (skipSpace cs)
    match skipSpace r with
    | ':' :: r =>
      let (v, r) ← value depth fuel r
      let seen := insertField name v seen
      match skipSpace r with
      | ',' :: r => fields depth fuel seen r
      | '\x7d' :: r => return (seen, r)
      | _ => none
    | _ => none

end

/-- The rest after a value, if it holds nothing but blanks. -/
def atEnd {α : Type} : Option (α × List Char) → Option α
  | some (v, r) => if (skipSpace r).isEmpty then some v else none
  | none => none

/-- Fuel for reading a text. -/
def fuelFor (cs : List Char) : Nat := 2 * cs.length + 2

/-- Read a whole text as one value. -/
def parse (s : String) : Option Value :=
  atEnd (value maxDepth (fuelFor s.toList) s.toList)

/-! ## Passing over a value -/

/-- Where the passing over of a string is. -/
inductive SkipState where
  | plain
  | backslash
  | digits (missing : Nat)

/-- The rest after a string whose opening quote has been read. -/
def skipString (s : SkipState) : List Char → Option (List Char)
  | [] => none
  | c :: r =>
    match s with
    | .plain =>
      if c = '"' then some r
      else if c = '\\' then skipString .backslash r
      else if c.toNat < 32 then none
      else skipString .plain r
    | .backslash =>
      if c = 'u' then skipString (.digits 4) r
      else if (simpleEscape c).isSome then skipString .plain r
      else none
    | .digits missing =>
      if (Text.hexValue c).isNone then none
      else if missing ≤ 1 then skipString .plain r
      else skipString (.digits (missing - 1)) r

/-- What is expected next while a value is passed over, given whether each enclosing container is
an object, innermost first. -/
inductive SkipPoint where
  /-- A value. -/
  | value
  /-- The first item or the closing bracket. -/
  | firstItem
  /-- The first field or the closing brace. -/
  | firstField
  /-- A field. -/
  | field
  /-- A separator or the end of the innermost container. -/
  | after

/-- Pass over the rest of a value, one part per unit of fuel. -/
def skipFrom : Nat → SkipPoint → List Bool → List Char → Option (List Char)
  | 0, _, _, _ => none
  | fuel + 1, point, enclosing, cs =>
    match point, skipSpace cs, enclosing with
    | .after, _, [] => some cs
    | .after, ',' :: r, object :: _ =>
      skipFrom fuel (if object then .field else .value) enclosing r
    | .after, ']' :: r, false :: outer => skipFrom fuel .after outer r
    | .after, '\x7d' :: r, true :: outer => skipFrom fuel .after outer r
    | .after, _, _ => none
    | .firstItem, ']' :: r, _ :: outer => skipFrom fuel .after outer r
    | .firstItem, cs, _ => skipFrom fuel .value enclosing cs
    | .firstField, '\x7d' :: r, _ :: outer => skipFrom fuel .after outer r
    | .firstField, cs, _ => skipFrom fuel .field enclosing cs
    | .field, '"' :: r, _ =>
      match skipString .plain r with
      | none => none
      | some r =>
        match skipSpace r with
        | ':' :: r => skipFrom fuel .value enclosing r
        | _ => none
    | .field, _, _ => none
    | .value, [], _ => none
    | .value, 'n' :: r, _ =>
      (Text.strip? ['u', 'l', 'l'] r).bind (skipFrom fuel .after enclosing)
    | .value, 't' :: r, _ =>
      (Text.strip? ['r', 'u', 'e'] r).bind (skipFrom fuel .after enclosing)
    | .value, 'f' :: r, _ =>
      (Text.strip? ['a', 'l', 's', 'e'] r).bind (skipFrom fuel .after enclosing)
    | .value, '"' :: r, _ => (skipString .plain r).bind (skipFrom fuel .after enclosing)
    | .value, '[' :: r, _ => skipFrom fuel .firstItem (false :: enclosing) r
    | .value, '\x7b' :: r, _ => skipFrom fuel .firstField (true :: enclosing) r
    | .value, cs, _ =>
      (Numeral.scan cs).bind fun (_, r) => skipFrom fuel .after enclosing r

/-- The rest after a value, whatever it is. -/
def skipValue (cs : List Char) : Option (List Char) := skipFrom (2 * fuelFor cs) .value [] cs

end Footfall.Json
