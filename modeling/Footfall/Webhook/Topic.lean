import Footfall.Text.Blank
import Footfall.Text.Split

/-!
# Topics

A webhook subscribes to topics. A subscription is stored as the names of its topics with commas
between them; names that mean nothing are passed over when it is read.

* `Topic.name` and `Topic.parse` are the names.
* `Topic.join` writes a subscription, `Topic.parseList` reads one.
-/

namespace Footfall

/-- What a webhook can be told about. -/
inductive Topic where
  /-- A goal was met. -/
  | goalConversion
  /-- The traffic of a project rose sharply. -/
  | trafficSpike
  deriving DecidableEq, Repr

namespace Topic

/-- The name of a topic. -/
def name : Topic → String
  | .goalConversion => "goal_conversion"
  | .trafficSpike => "traffic_spike"

/-- The topic that a text names, blanks around the name being passed over. -/
def parse (raw : String) : Option Topic :=
  let given := Text.trim raw
  if given = "goal_conversion" then some .goalConversion
  else if given = "traffic_spike" then some .trafficSpike
  else none

/-- The topics of a subscription. -/
def parseList (raw : String) : List Topic := (Text.split ',' raw).filterMap parse

/-- A subscription as text. -/
def join (topics : List Topic) : String := Text.join "," (topics.map name)

end Topic

end Footfall
