import Footfall.Net.Name.Composed
import Footfall.Net.Name.DirectionTable

/-!
# Labels

What a label of a host name has to look like, beyond the characters that it is made of. It does
not begin with a mark; the two invisible joiners stand only where they change how the letters
around them are written; and in a name with letters that are written from right to left, no label
is written in both directions.

* `startsWell`, `joinersHold` and `isDirected` are the three rules.
* `isLeftward` says whether the third of them is needed.
-/

namespace Footfall.Net.Name

/-- Is the character a mark? -/
def isMark (c : Char) : Bool :=
  Text.inRanges nonspacingRanges c.toNat || Text.inRanges spacingRanges c.toNat

/-- A label does not begin with a mark. -/
def startsWell : List Char → Bool
  | [] => true
  | c :: _ => !isMark c

/-! ## Joiners -/

/-- Is the character passed over between letters that join each other? -/
def isTransparent (c : Char) : Bool :=
  Text.inRanges nonspacingRanges c.toNat || c.toNat == 0x1E94B

/-- Is the next character that is not passed over one of a class of joining letters? -/
def joins (ranges : List (Nat × Nat)) (cs : List Char) : Bool :=
  match cs.dropWhile isTransparent with
  | [] => false
  | c :: _ => Text.inRanges ranges c.toNat

/-- Does a text, given in reverse, end with a mark that takes the vowel from its letter? -/
def endsVowelless : List Char → Bool
  | [] => false
  | c :: _ => combiningClass c == 9

/-- A joiner follows a mark that takes the vowel from its letter; the one that keeps letters apart
may also stand between two letters that would join. What stands before is given in reverse. -/
def joinersHold (before : List Char) : List Char → Bool
  | [] => true
  | c :: r =>
    (if c = '\u200c' then
        endsVowelless before || (joins joiningAfterRanges before && joins joiningBeforeRanges r)
      else if c = '\u200d' then endsVowelless before
      else true) &&
      joinersHold (c :: before) r

/-! ## Direction -/

/-- What a character means for the direction of writing. -/
inductive Direction where
  | rightward
  | leftward
  | arabicNumber
  | digit
  | neutral
  | mark
  deriving DecidableEq, Repr

/-- The direction of a character. -/
def Direction.ofChar (c : Char) : Direction :=
  let n := c.toNat
  if Text.inRanges leftwardRanges n then .leftward
  else if Text.inRanges arabicNumberRanges n then .arabicNumber
  else if Text.inRanges digitRanges n then .digit
  else if directedMarks.contains n then .rightward
  else if Text.inRanges nonspacingRanges n then .mark
  else if Text.inRanges neutralRanges n then .neutral
  else .rightward

/-- Does the label hold anything that is written from right to left? -/
def isLeftward (label : List Char) : Bool :=
  label.any fun c => [.leftward, .arabicNumber].contains (Direction.ofChar c)

/-- The last direction that is not that of a mark is one of a list. -/
def endsIn (allowed ds : List Direction) : Bool :=
  match ds.reverse.dropWhile (· == .mark) with
  | [] => false
  | d :: _ => allowed.contains d

/-- A label begins with a letter, and the direction of that is the direction of the label: it
holds no letter of the other direction and ends in a letter or a digit. From right to left, it
does not hold both kinds of digits. -/
def isDirected (label : List Char) : Bool :=
  let ds := label.map Direction.ofChar
  match ds with
  | [] => true
  | .rightward :: _ =>
    ds.all (fun d => d != .leftward && d != .arabicNumber) && endsIn [.rightward, .digit] ds
  | .leftward :: _ =>
    !ds.contains .rightward && endsIn [.leftward, .digit, .arabicNumber] ds &&
      !(ds.contains .digit && ds.contains .arabicNumber)
  | _ => false

end Footfall.Net.Name
