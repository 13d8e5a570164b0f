/-!
# Errors of the domain

What can be wrong with a configuration, an event or a request for figures. `DomainError.message` is
the one place that words them; modules that know the cause more closely supply the detail.
-/

namespace Footfall

/-- An error of the domain. -/
inductive DomainError where
  /-- A value could not be written. -/
  | serialization (detail : String)
  /-- The server salt has fewer characters than it must have. -/
  | saltTooShort (least actual : Nat)
  /-- A setting has a value that it cannot have. -/
  | invalidSetting (name detail : String)
  | invalidEvent (detail : String)
  | invalidFilter (detail : String)
  | notFound (what : String)
  deriving DecidableEq, Repr

/-- The wording of an error. -/
def DomainError.message : DomainError → String
  | .serialization detail => "serialization error: " ++ detail
  | .saltTooShort least actual =>
    "salt must be at least " ++ toString least ++ " characters (got " ++ toString actual ++ ")"
  | .invalidSetting name detail => "invalid configuration value for " ++ name ++ ": " ++ detail
  | .invalidEvent detail => "invalid event: " ++ detail
  | .invalidFilter detail => "invalid filter: " ++ detail
  | .notFound what => what ++ " not found"

end Footfall
