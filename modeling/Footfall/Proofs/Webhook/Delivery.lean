import Mathlib.Algebra.Order.Ring.Nat
import Mathlib.Data.Nat.Find
import Footfall.Proofs.Webhook.Truncation

/-!
# The attempts of a delivery

A job is posted until a receiver answers with success (`Reply.IsSuccess`), and no more than three
times. Which attempt is the last one depends on the replies alone (`Job.IsLast`), and from its
number follows all that the job does (`Job.deliverFrom_eq`): every attempt is a post and the row of
that attempt, and between an attempt and the next one lies a wait that grows with the number of the
attempt. `Job.Delivers` says so of a whole run, and `Job.deliver_delivers` that it is so whatever
becomes of the rows.
-/

namespace Footfall

namespace Reply

/-- The receiver answered with one of the statuses of success, 200 to 299. -/
def IsSuccess (r : Reply) : Prop :=
  ∃ status body, r = .answered status body ∧ 200 ≤ status ∧ status ≤ 299

variable {r : Reply}

theorem accepted_iff : r.accepted = true ↔ r.IsSuccess := by
  cases r <;> simp [accepted, IsSuccess, Nat.lt_succ_iff]

theorem accepted_eq_false_iff : r.accepted = false ↔ ¬r.IsSuccess := by
  rw [← accepted_iff, Bool.not_eq_true]

instance : Decidable r.IsSuccess := decidable_of_iff _ accepted_iff

end Reply

namespace Job

variable {σ ε : Type} {j : Job} {step : ℕ} {reply : ℕ → Reply}

/-! ## Attempts -/

/-- The number of the last attempt: the first that is answered with success, or the third. -/
structure IsLast (reply : ℕ → Reply) (k : ℕ) : Prop where
  one_le : 1 ≤ k
  le_three : k ≤ 3
  refused : ∀ n, 1 ≤ n → n < k → ¬(reply n).IsSuccess
  ends : (reply k).IsSuccess ∨ k = 3

theorem existsUnique_isLast (reply : ℕ → Reply) : ∃! k, IsLast reply k := by
  have hthree : ∃ n, 1 ≤ n ∧ ((reply n).IsSuccess ∨ n = 3) := ⟨3, by decide, Or.inr rfl⟩
  obtain ⟨hone, hends⟩ := Nat.find_spec hthree
  refine ⟨Nat.find hthree, ⟨hone, Nat.find_min' hthree ⟨by decide, Or.inr rfl⟩, ?_, hends⟩, ?_⟩
  · intro n hn hlt
    have hearlier := Nat.find_min hthree hlt
    rw [not_and_or, not_or] at hearlier
    exact (hearlier.resolve_left (not_not.2 hn)).1
  · intro k hk
    refine ((Nat.find_eq_iff hthree).2 ⟨⟨hk.one_le, hk.ends⟩, fun n hlt hn => ?_⟩).symm
    rcases hn.2 with hsuccess | rfl
    · exact hk.refused n hn.1 hlt hsuccess
    · exact absurd hk.le_three (not_le.2 hlt)

/-- What a job does in an attempt: the post, the row, and a wait if the attempt is not the last. -/
def turn (j : Job) (step : ℕ) (reply : ℕ → Reply) (last n : ℕ) : List Act :=
  [.sent j.request, .offered (j.delivery n (reply n))] ++
    if n < last then [.waited (n * step)] else []

@[simp] theorem success_delivery (j : Job) (n : ℕ) (r : Reply) :
    (j.delivery n r).success = r.accepted := by
  cases r <;> rfl

/-- **The loop over the attempts**, from one of them on, given the number of the last. -/
theorem deliverFrom_eq (j : Job) (step : ℕ) (write : σ → Delivery → Except ε Unit × σ)
    {left first last : ℕ} (audit : σ) (hfirst : first ≤ last) (hlast : last < first + left)
    (hrefused : ∀ n, first ≤ n → n < last → (reply n).accepted = false)
    (hends : (reply last).accepted = true ∨ last + 1 = first + left) :
    j.deliverFrom step reply write left first audit =
      { acts := (List.range' first (last + 1 - first)).flatMap (j.turn step reply last)
        delivered := (reply last).accepted
        audit := (List.range' first (last + 1 - first)).foldl
          (fun a n => (write a (j.delivery n (reply n))).2) audit } := by
  induction left generalizing first audit with
  | zero => omega
  | succ left ih =>
    rw [deliverFrom]
    rcases hfirst.eq_or_lt with rfl | hlt
    · -- the last attempt: nothing comes after it, whether it was accepted or not
      have hone : first + 1 - first = 1 := by omega
      rcases haccepted : (reply first).accepted with _ | _
      · have hleft : left = 0 := by simpa [haccepted] using hends
        simp [haccepted, hleft, hone, turn]
      · simp [haccepted, hone, turn]
    · have hmore : last + 1 - first = last + 1 - (first + 1) + 1 := by omega
      have hleft : left ≠ 0 := by omega
      simp only [success_delivery, hrefused first le_rfl hlt, hleft, if_false, Bool.false_eq_true]
      rw [ih _ hlt (by omega) (fun n hn => hrefused n (by omega)) (hends.imp_right (by omega)),
        hmore, List.range'_succ, List.flatMap_cons, List.foldl_cons]
      simp [turn, hlt]

/-! ## The run -/

/-- The row of an attempt: its number, whether it was answered with success, and the receiver's
answer with a body of at most 1024 bytes, or else what went wrong. -/
structure IsRowOf (j : Job) (n : ℕ) (r : Reply) (row : Delivery) : Prop where
  webhookId : row.webhookId = j.webhookId
  topic : row.topic = j.topic
  attempt : row.attempt = n
  success : row.success = true ↔ r.IsSuccess
  answered : ∀ status body, r = .answered status body → row.code = some status ∧ row.error = none ∧
    ∃ kept, row.body = some kept ∧ Text.IsLongestStart 1024 body kept
  failed : ∀ reason, r = .failed reason → row.code = none ∧ row.body = none ∧
    row.error = some reason

theorem isRowOf_delivery (j : Job) (n : ℕ) (r : Reply) : j.IsRowOf n r (j.delivery n r) := by
  have hsuccess : (j.delivery n r).success = true ↔ r.IsSuccess := by
    rw [success_delivery, Reply.accepted_iff]
  cases r with
  | answered status body =>
    refine ⟨rfl, rfl, rfl, hsuccess, ?_, nofun⟩
    rintro _ _ ⟨⟩
    exact ⟨rfl, rfl, _, rfl, isLongestStart_truncateBody body⟩
  | failed reason =>
    refine ⟨rfl, rfl, rfl, hsuccess, nofun, ?_⟩
    rintro _ ⟨⟩
    exact ⟨rfl, rfl, rfl⟩

/-- The run of a job in which the attempt with a given number is the last. -/
structure Delivers (j : Job) (step : ℕ) (reply : ℕ → Reply)
    (write : σ → Delivery → Except ε Unit × σ) (audit : σ) (last : ℕ) (run : DeliveryRun σ) :
    Prop where
  /-- The attempts are made in turn. -/
  acts : run.acts = (List.range' 1 last).flatMap (j.turn step reply last)
  delivered_iff : run.delivered = true ↔ ∃ n, 1 ≤ n ∧ n ≤ last ∧ (reply n).IsSuccess
  /-- The rows are handed over in turn, whether or not those before could be written. -/
  audit : run.audit = (List.range' 1 last).foldl
    (fun state n => (write state (j.delivery n (reply n))).2) audit

theorem delivers_of_isLast (j : Job) (step : ℕ) (write : σ → Delivery → Except ε Unit × σ)
    (audit : σ) {last : ℕ} (h : IsLast reply last) :
    Delivers j step reply write audit last (j.deliver step reply write audit) := by
  have hlast : last < 1 + maxAttempts := by
    have hle := h.le_three
    rw [maxAttempts]
    omega
  have hrefused : ∀ n, 1 ≤ n → n < last → (reply n).accepted = false :=
    fun n hn hlt => Reply.accepted_eq_false_iff.2 (h.refused n hn hlt)
  have hends : (reply last).accepted = true ∨ last + 1 = 1 + maxAttempts :=
    h.ends.imp Reply.accepted_iff.2 fun hthree => by rw [hthree, maxAttempts]
  have hrun := deliverFrom_eq j step write audit h.one_le hlast hrefused hends
  rw [Nat.add_sub_cancel] at hrun
  rw [deliver, hrun]
  refine ⟨rfl, Reply.accepted_iff.trans ⟨fun hsuccess => ⟨last, h.one_le, le_rfl, hsuccess⟩, ?_⟩,
    rfl⟩
  rintro ⟨n, hn, hle, hsuccess⟩
  rcases hle.eq_or_lt with rfl | hlt
  · exact hsuccess
  · exact absurd hsuccess (h.refused n hn hlt)

/-- **A job is posted until it is answered with success, three times at most.** For every job, every
length of a step, every course of replies and every way in which rows are written or lost:

* there is exactly one number of a last attempt, the first that is answered with a status from 200
  to 299 if it is among the first three and otherwise three;
* the run is made of the attempts up to that number, each the same post and then its row, with waits
  of one and two steps between them; it ends with success exactly if an attempt was answered so;
* a row says which attempt it is, whether that was answered with success, and what came of it;
* acts and success are the same for any other way in which rows are written. -/
theorem deliver_delivers (j : Job) (step : ℕ) (reply : ℕ → Reply)
    (write : σ → Delivery → Except ε Unit × σ) (audit : σ) :
    (∃! last, IsLast reply last) ∧
      (∀ last, IsLast reply last →
        Delivers j step reply write audit last (j.deliver step reply write audit)) ∧
      (∀ n, j.IsRowOf n (reply n) (j.delivery n (reply n))) ∧
      ∀ {σ' ε' : Type} (write' : σ' → Delivery → Except ε' Unit × σ') (audit' : σ'),
        (j.deliver step reply write' audit').acts = (j.deliver step reply write audit).acts ∧
        (j.deliver step reply write' audit').delivered =
          (j.deliver step reply write audit).delivered := by
  refine ⟨existsUnique_isLast reply, fun _ => delivers_of_isLast j step write audit,
    fun n => isRowOf_delivery j n (reply n), fun write' audit' => ?_⟩
  obtain ⟨last, hlast, -⟩ := existsUnique_isLast reply
  have hrun := delivers_of_isLast j step write audit hlast
  have hrun' := delivers_of_isLast j step write' audit' hlast
  refine ⟨hrun'.acts.trans hrun.acts.symm, ?_⟩
  rw [Bool.eq_iff_iff, hrun'.delivered_iff, hrun.delivered_iff]

end Job

end Footfall
