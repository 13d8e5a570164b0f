/-!
# Blank characters and trimming

Field values arrive from browsers with stray blanks around them. This module says which
characters are blank, removes them from both ends of a text, and turns a text that holds nothing
else into an absent value.

* `isBlank` is the class of blank characters.
* `trim` removes blanks from both ends (`trimmed`, on lists of characters).
* `present` trims an optional text and drops it when nothing is left.
-/

namespace Footfall.Text

/-- The characters that Unicode counts as white space. -/
def isBlank (c : Char) : Bool :=
  let n := c.toNat
  (9 ≤ n && n ≤ 13) || n == 0x20 || n == 0x85 || n == 0xA0 || n == 0x1680 ||
    (0x2000 ≤ n && n ≤ 0x200A) || n == 0x2028 || n == 0x2029 || n == 0x202F || n == 0x205F ||
    n == 0x3000

/-- A list of characters without the blanks at its two ends. -/
def trimmed (cs : List Char) : List Char :=
  ((cs.dropWhile isBlank).reverse.dropWhile isBlank).reverse

/-- A text without the blanks at its two ends. -/
def trim (s : String) : String := String.ofList (trimmed s.toList)

/-- Does a text hold nothing but blanks? -/
def isBlankText (s : String) : Bool := s.toList.all isBlank

/-- The trimmed text, absent when only blanks were given. -/
def nonBlank (s : String) : Option String :=
  let t := trim s
  if t.isEmpty then none else some t

/-- An optional text, trimmed, and absent when nothing is left of it. -/
def present (s : Option String) : Option String := s.bind nonBlank

end Footfall.Text
