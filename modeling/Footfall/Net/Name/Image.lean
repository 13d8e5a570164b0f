import Footfall.Net.Name.ImageTable
import Footfall.Text.Lowercase
import Footfall.Text.Split

/-!
# Images of names

Two spellings of a host name mean the same host when their images are equal. The image of a
character is mostly the character itself, and in lower case if it has one; what the tables list
goes beyond that.

* `image` is the image of one character, absent for a character that no name may have.
* `images` is the image of a text.
-/

namespace Footfall.Net.Name

/-- The most code points that an entry of a table covers. -/
def entryLength : Nat := 32

/-- The image of a code point in a table whose entries are cut into images of their own. -/
def imageIn (table : List (Nat × String)) (cut : List Char → List (List Char)) (n : Nat) :
    Option (List Char) :=
  table.findSome? fun (first, images) =>
    if first ≤ n ∧ n < first + entryLength then (cut images.toList)[n - first]? else none

/-- The image that the tables list for a code point. -/
def listedImage (n : Nat) : Option (List Char) :=
  match imageRuns.find? (·.covers n) with
  | some r => some [Char.ofNat (Int.toNat (n + r.shift))]
  | none =>
    imageIn imageBlocks (·.map fun c => [c]) n <|> imageIn imageTexts (Text.splitBy (· == '|')) n

/-- Is it one of the Cherokee letters? Their images are the capital letters. -/
def isCherokee (c : Char) : Bool := 0x13A0 ≤ c.toNat && c.toNat ≤ 0x13F5

/-- The image of a character, absent for one that no name may have. -/
def image (c : Char) : Option (List Char) :=
  if c.toNat < 128 then some [c.toLower]
  else
    match listedImage c.toNat with
    | some cs => some cs
    | none =>
      if Text.inRanges ignoredRanges c.toNat then some []
      else if !isCherokee c && Text.lowerSimple c != c then some [Text.lowerSimple c]
      else if Text.inRanges refusedRanges c.toNat then none
      else some [c]

/-- The image of a text, absent when a character has none. -/
def images (cs : List Char) : Option (List Char) := (cs.mapM image).map List.flatten

end Footfall.Net.Name
