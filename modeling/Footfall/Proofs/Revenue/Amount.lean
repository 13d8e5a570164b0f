import Footfall.Proofs.Float
import Footfall.Proofs.Json.Fields
import Footfall.Proofs.Json.RoundTrip
import Footfall.Revenue.Basic

/-!
# The revenue of an event

The properties of an event are stored as text, and the revenue is read from that text. If the text
is that of an exact value, the field `revenue` is found by name if the value has one
(`Json.field?_eq_some_iff`), and a whole number of 64 bits is finite (`isFinite_ofInt`). So the
revenue is there exactly if the field is a number (`Event.revenue?_eq_some_iff`).
-/

namespace Footfall

open Json

/-- The number that an exact value stands for is finite. -/
theorem number?_of_exact {depth : ℕ} {v : Value} (h : v.Exact depth) {x : Float} :
    (v.number?.bind fun y => if y.isFinite then some y else none) = some x ↔
      ∃ n, v = .int n ∧ x = Float.ofInt n := by
  cases h with
  | @int _ n hmin hmax =>
    change (if (Float.ofInt n).isFinite then some (Float.ofInt n) else none) = some x ↔ _
    rw [if_pos (isFinite_ofInt hmin hmax)]
    constructor
    · intro hx
      exact ⟨n, rfl, (Option.some.inj hx).symm⟩
    · rintro ⟨m, hm, rfl⟩
      rw [Value.int.inj hm]
  | _ => simp [Value.number?]

namespace Event

variable {e : Event} {t : String} {v : Value}

/-- **The revenue of an event** whose properties are the text of an exact value is the number under
the name `revenue`. -/
theorem revenue?_eq_some_iff {depth : ℕ} (hkind : e.kind = .custom) (ht : e.properties = some t)
    (hparse : Json.parse t = some v) (hv : v.Exact depth) {x : Float} :
    e.revenue? = some x ↔
      ∃ fields n, v = .object fields ∧ ("revenue", .int n) ∈ fields ∧ x = Float.ofInt n := by
  have hrevenue : e.revenue? = (v.field? "revenue").bind fun w =>
      w.number?.bind fun y => if y.isFinite then some y else none := by
    simp only [revenue?, if_pos hkind, ht, Option.bind_eq_bind, Option.bind_some, hparse]
  rw [hrevenue, Option.bind_eq_some_iff]
  cases hv with
  | object hnames hfields =>
    simp only [Json.field?_eq_some_iff hnames]
    constructor
    · rintro ⟨w, hw, hx⟩
      obtain ⟨n, rfl, hn⟩ := (number?_of_exact (hfields _ hw)).1 hx
      exact ⟨_, n, rfl, hw, hn⟩
    · rintro ⟨_, n, hfields', hn, hx⟩
      obtain rfl := Value.object.inj hfields'
      exact ⟨_, hn, (number?_of_exact (hfields _ hn)).2 ⟨n, rfl, hx⟩⟩
  | _ => simp [Value.field?]

end Event

end Footfall
