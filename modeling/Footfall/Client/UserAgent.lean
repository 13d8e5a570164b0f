import Footfall.Text.Split

/-!
# User agents

Browsers describe themselves in a header. A classifier tells what program a description is of, what
system it runs on and which category of device that is; of the categories only the kind of device
is kept.

* `Classifier` is a way to classify descriptions. Whatever enriches events takes one, and nothing is
  asked of it.
* `Classifier.byTokens` is the one that a service is started with. It knows few tokens, and gives up
  without one of a browser and one of a system.
* `UserAgent.parse` is the user agent that a description tells of.
-/

namespace Footfall

/-- A browser with the system and the kind of device it runs on. -/
structure UserAgent where
  browser : String
  os : String
  device : String
  deriving DecidableEq, Repr

/-- What a classifier tells of a description. -/
structure AgentClass where
  name : String
  os : String
  category : String
  deriving DecidableEq, Repr

/-- A way to classify descriptions. -/
abbrev Classifier := String → Option AgentClass

namespace Classifier

/-- Tokens of browsers. Those that other browsers put into their descriptions come last. -/
def browserTokens : List (String × String) :=
  [("Firefox/", "Firefox"), ("Chrome/", "Chrome"), ("Safari/", "Safari")]

/-- Tokens of systems, with the category of device. -/
def systemTokens : List (String × String × String) :=
  [ ("iPhone", "iPhone", "smartphone"),
    ("iPad", "iPad", "smartphone"),
    ("Android", "Android", "smartphone"),
    ("Windows NT 10.0", "Windows 10", "pc"),
    ("Linux", "Linux", "pc") ]

/-- What the first token that occurs stands for. -/
def firstToken {α : Type} (description : List Char) (tokens : List (String × α)) : Option α :=
  (tokens.find? fun t => Text.occurs t.1.toList description).map (·.2)

/-- The classifier that looks for tokens. -/
def byTokens : Classifier := fun description => do
  let cs := description.toList
  let name ← firstToken cs browserTokens
  let (os, category) ← firstToken cs systemTokens
  return ⟨name, os, category⟩

end Classifier

namespace UserAgent

/-- The kind of device of a category. -/
def deviceOf (category : String) : String :=
  if category = "smartphone" ∨ category = "mobilephone" then "mobile"
  else if category = "tablet" then "tablet"
  else "desktop"

/-- The user agent that a description tells of. An empty description tells of none. -/
def parse (classify : Classifier) (description : String) : Option UserAgent :=
  if description.isEmpty then none
  else (classify description).map fun c => ⟨c.name, c.os, deviceOf c.category⟩

end UserAgent

end Footfall
