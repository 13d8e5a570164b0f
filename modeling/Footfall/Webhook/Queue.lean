import Footfall.Webhook.Delivery

/-!
# The delivery queue

Jobs wait in a queue of limited length until a worker delivers them. A job that finds the queue
full is dropped.
-/

namespace Footfall

/-- Jobs that wait, the oldest first. -/
structure JobQueue where
  capacity : Nat
  jobs : List Job := []

namespace JobQueue

/-- An empty queue. It has room for at least one job. -/
def empty (capacity : Nat) : JobQueue := ⟨max capacity 1, []⟩

/-- Put a job at the end, if there is room. -/
def offer (q : JobQueue) (j : Job) : Bool × JobQueue :=
  if q.jobs.length < q.capacity then (true, { q with jobs := q.jobs ++ [j] }) else (false, q)

/-- Offer jobs one after the other, and count those that found room. -/
def offerAll (q : JobQueue) : List Job → Nat × JobQueue
  | [] => (0, q)
  | j :: r =>
    let (accepted, q) := q.offer j
    let (n, q) := q.offerAll r
    (if accepted then n + 1 else n, q)

end JobQueue

end Footfall
