import Footfall.Json.Value

/-!
# Projects

A project is a site whose visits are counted. Its API key admits events to it and opens its
figures.
-/

namespace Footfall

/-- A project. -/
structure Project where
  id : String
  name : String
  domain : String
  apiKey : String
  /-- Where the report is mailed to, if anywhere. -/
  reportEmail : Option String
  createdAt : String
  deriving DecidableEq, Repr

/-- A project as JSON. -/
def Project.toJson (p : Project) : Json.Value :=
  .ofFields
    [ ("id", .string p.id),
      ("name", .string p.name),
      ("domain", .string p.domain),
      ("api_key", .string p.apiKey),
      ("report_email", .ofText? p.reportEmail),
      ("created_at", .string p.createdAt) ]

end Footfall
