import Footfall.Text.CaseTable

/-!
# Lower-casing

The lower-case form of a text in every script. Two rules go beyond a table of letters: the capital
I with a dot becomes two characters, and a capital sigma becomes the final form `ς` at the end of
a word, that is, when a letter stands before it and none after it, other marks being passed over.

* `lowerSimple` maps one letter by the table.
* `lowercase` maps a whole text with both rules.
* `lowercaseAscii` touches the letters `A` to `Z` only.
-/

namespace Footfall.Text

/-- Is the number in one of the inclusive ranges? -/
def inRanges (ranges : List (Nat × Nat)) (n : Nat) : Bool :=
  ranges.any fun (lo, hi) => lo ≤ n && n ≤ hi

/-- Is the code point one of the run? -/
def CaseRun.covers (r : CaseRun) (n : Nat) : Bool :=
  r.first ≤ n && n ≤ r.last && (n - r.first) % r.step == 0

/-- The lower-case letter of a letter, and any other character itself. -/
def lowerSimple (c : Char) : Char :=
  if c.toNat < 128 then c.toLower
  else
    match lowerRuns.find? (·.covers c.toNat) with
    | some r => Char.ofNat (Int.toNat (c.toNat + r.shift))
    | none => c

/-- Does the character count as a letter of a word? -/
def isCased (c : Char) : Bool := inRanges casedRanges c.toNat

/-- Is the character passed over around a sigma? -/
def isIgnorable (c : Char) : Bool := inRanges ignorableRanges c.toNat

/-- Is the first character that is not passed over a letter of a word? -/
def nextIsCased (cs : List Char) : Bool :=
  match cs.dropWhile isIgnorable with
  | [] => false
  | c :: _ => isCased c

/-- The lower-case form of the text that follows `seen`, which is given in reverse. -/
def lowercaseAfter (seen : List Char) : List Char → List Char
  | [] => []
  | c :: r =>
    let image :=
      if c = 'Σ' then [if nextIsCased seen && !nextIsCased r then 'ς' else 'σ']
      else if c = 'İ' then ['i', '\u0307']
      else [lowerSimple c]
    image ++ lowercaseAfter (c :: seen) r

/-- The lower-case form of a text. -/
def lowercase (s : String) : String := String.ofList (lowercaseAfter [] s.toList)

/-- A text with the letters `A` to `Z` in lower case and all else as it was. -/
def lowercaseAscii (s : String) : String := String.ofList (s.toList.map Char.toLower)

/-- Are two texts equal but for the case of the letters `A` to `Z`? -/
def equalIgnoringAsciiCase (s t : String) : Bool := lowercaseAscii s == lowercaseAscii t

end Footfall.Text
