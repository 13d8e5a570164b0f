import Footfall.Net.Name.MarkTable
import Footfall.Text.Lowercase

/-!
# Composed form

A letter with marks can be written in several ways: some letters exist with their marks as one
character, and marks that do not touch each other may come in any order. In composed form marks
are ordered by their combining class and joined with their letter as far as possible. The same
goes for the letters that make up a Korean syllable.

* `decompose` takes a character apart, `inOrder` orders marks, `join?` joins two characters.
* `composed` is the composed form of a text.
-/

namespace Footfall.Net.Name

/-- The combining class of a character: zero for letters, positive for marks that can be ordered. -/
def combiningClass (c : Char) : Nat :=
  match combiningRuns.find? fun (lo, hi, _) => lo ≤ c.toNat && c.toNat ≤ hi with
  | some (_, _, k) => k
  | none => 0

/-- The pairs of neighbours at even places. -/
def evenPairs : List Char → List (Char × Char)
  | a :: b :: r => (a, b) :: evenPairs r
  | _ => []

/-! ## Korean syllables -/

/-- The first syllable; there are 19 × 21 × 28 of them, the first of 28 being without a tail. -/
def firstSyllable : Nat := 0xAC00

/-- The letters of a syllable, if it is one. -/
def syllableLetters (c : Char) : Option (List Char) :=
  let n := c.toNat - firstSyllable
  if firstSyllable ≤ c.toNat ∧ n < 19 * 21 * 28 then
    let head := [Char.ofNat (0x1100 + n / 588), Char.ofNat (0x1161 + n % 588 / 28)]
    some (if n % 28 = 0 then head else head ++ [Char.ofNat (0x11A7 + n % 28)])
  else none

/-- The syllable of a head and a vowel, or of a syllable without a tail and a tail. -/
def joinSyllable? (a b : Char) : Option Char :=
  let l := a.toNat - 0x1100
  let v := b.toNat - 0x1161
  let s := a.toNat - firstSyllable
  let t := b.toNat - 0x11A7
  if 0x1100 ≤ a.toNat ∧ l < 19 ∧ 0x1161 ≤ b.toNat ∧ v < 21 then
    some (Char.ofNat (firstSyllable + (l * 21 + v) * 28))
  else if firstSyllable ≤ a.toNat ∧ s < 19 * 21 * 28 ∧ s % 28 = 0 ∧ 0x11A7 < b.toNat ∧ t < 28 then
    some (Char.ofNat (a.toNat + t))
  else none

/-! ## Decomposition -/

/-- The two characters that make up a character. -/
def parts? (c : Char) : Option (Char × Char) :=
  compositions.findSome? fun (second, pairs) =>
    ((evenPairs pairs.toList).find? fun p => p.2 == c).map fun p => (p.1, Char.ofNat second)

/-- The characters of which a character is made whose first part is taken apart `depth` times at
most. -/
def decomposeTimes : Nat → Char → List Char
  | 0, c => [c]
  | depth + 1, c =>
    match parts? c with
    | some (a, b) => decomposeTimes depth a ++ [b]
    | none => [c]

/-- The letters and marks that make up a character. -/
def decompose (c : Char) : List Char :=
  if c.toNat < 128 then [c]
  else
    match syllableLetters c with
    | some cs => cs
    | none => decomposeTimes 4 c

/-- Put a mark behind a text, which is given in reverse, in its place among the last marks. -/
def insertMark (c : Char) : List Char → List Char
  | [] => [c]
  | d :: r =>
    if combiningClass c ≠ 0 ∧ combiningClass c < combiningClass d then d :: insertMark c r
    else c :: d :: r

/-- The text with neighbouring marks in the order of their classes. -/
def inOrder (cs : List Char) : List Char := (cs.foldl (fun seen c => insertMark c seen) []).reverse

/-! ## Composition -/

/-- The character that two characters make together. -/
def join? (a b : Char) : Option Char :=
  joinSyllable? a b <|>
    compositions.findSome? fun (second, pairs) =>
      if second = b.toNat then
        ((evenPairs pairs.toList).find? fun p => p.1 == a).map (·.2)
      else none

/-- Can a mark pass the marks before it, of which the last is given? -/
def passes (c : Char) : List Char → Bool
  | [] => true
  | m :: _ => combiningClass m < combiningClass c

/-- Join what follows with a letter and the marks, given in reverse, that could not be joined. -/
def composeFrom (letter : Char) (marks : List Char) : List Char → List Char
  | [] => letter :: marks.reverse
  | c :: r =>
    match if passes c marks then join? letter c else none with
    | some d => composeFrom d marks r
    | none =>
      if combiningClass c = 0 then letter :: marks.reverse ++ composeFrom c [] r
      else composeFrom letter (c :: marks) r

/-- Join letters and marks as far as possible. -/
def compose : List Char → List Char
  | [] => []
  | c :: r => if combiningClass c = 0 then composeFrom c [] r else c :: compose r

/-- The composed form of a text. -/
def composed (cs : List Char) : List Char := compose (inOrder (cs.flatMap decompose))

end Footfall.Net.Name
