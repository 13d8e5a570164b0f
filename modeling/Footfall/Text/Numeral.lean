import Footfall.Text.Blank

/-!
# Whole numbers in settings

A setting that holds a whole number is trimmed and then read digit by digit; a leading plus sign
is allowed. The first thing that goes wrong from the left is the one reported.
-/

namespace Footfall.Text

/-- Why a text is no whole number within the bound. -/
inductive NumeralError
  | empty
  | invalidDigit
  | tooLarge
  deriving DecidableEq, Repr

/-- The wording of a numeral error. -/
def NumeralError.message : NumeralError → String
  | .empty => "cannot parse integer from empty string"
  | .invalidDigit => "invalid digit found in string"
  | .tooLarge => "number too large to fit in target type"

/-- The value of a decimal digit. -/
def digitValue (c : Char) : Option Nat :=
  if '0' ≤ c ∧ c ≤ '9' then some (c.toNat - 48) else none

/-- Continue a number with further digits, up to and including `bound`. -/
def readDigits (bound : Nat) (value : Nat) : List Char → Except NumeralError Nat
  | [] => .ok value
  | c :: r =>
    match digitValue c with
    | none => .error .invalidDigit
    | some d =>
      if value * 10 + d ≤ bound then readDigits bound (value * 10 + d) r else .error .tooLarge

/-- The whole number that a list of characters writes, at most `bound`. -/
def readNatural (bound : Nat) (cs : List Char) : Except NumeralError Nat :=
  match cs with
  | [] => .error .empty
  | '+' :: [] => .error .invalidDigit
  | '+' :: r => readDigits bound 0 r
  | cs => readDigits bound 0 cs

/-- The whole number that a setting holds, at most `bound`. -/
def readSetting (bound : Nat) (s : String) : Except NumeralError Nat :=
  readNatural bound (trimmed s.toList)

end Footfall.Text
