import Footfall.Text.AlphanumericTable
import Footfall.Text.Lowercase

/-!
# Letters and numbers of all scripts

* `isAlphanumeric` is the class of characters that Unicode counts as alphabetic or as numbers.
-/

namespace Footfall.Text

/-- Is the character a letter or a number of some script? -/
def isAlphanumeric (c : Char) : Bool :=
  c.isAlphanum || (128 ≤ c.toNat && inRanges alphanumericRanges c.toNat)

end Footfall.Text
