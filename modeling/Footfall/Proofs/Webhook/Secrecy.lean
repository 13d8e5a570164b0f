import Mathlib.Tactic.SplitIfs
import Footfall.Admin.Run
import Footfall.Proofs.Cache.Map
import Footfall.Proofs.Settings
import Footfall.Service.Basic

/-!
# Nothing tells the secret of a webhook

The secret of a webhook goes into the signature of what is sent to it, and nowhere else. Taking the
secrets out of a state (`withoutSecrets`) and the signatures out of what is sent (`Post.unsigned`)
leaves what everybody may see. Every operation can be carried out on what is left, with the same
outcome: for the detection this is `Watcher.offersAt_withoutSecrets`, for the queue
`JobQueue.offerAll_withoutSecrets`, for the attempts of a job `Job.deliverFrom_withoutSecrets` and
for an administrative command `Admin.Command.apply_withoutSecrets`.

So it is with one turn of a service (`Service.turn_withoutSecrets`), and by induction with any
number of them (`Service.runTurns_withoutSecrets`). Two states that differ in secrets only can
therefore not be told apart, which is what `secrets_untold` says.
-/

namespace Footfall

/-! ## What is left without the secrets -/

/-- A webhook without its secret. -/
def Webhook.withoutSecrets (w : Webhook) : Webhook := { w with secret := "" }

/-- A job without the secret of its webhook. -/
def Job.withoutSecrets (j : Job) : Job := { j with secret := "" }

/-- Jobs that wait, without their secrets. -/
def JobQueue.withoutSecrets (q : JobQueue) : JobQueue :=
  { q with jobs := q.jobs.map Job.withoutSecrets }

/-- A store without the secrets of its webhooks. -/
def Store.withoutSecrets (s : Store) : Store :=
  { s with webhooks := s.webhooks.map Webhook.withoutSecrets }

/-- Lookups that find webhooks without their secrets. -/
def Lookup.withoutSecrets (l : Lookup) : Lookup :=
  { l with webhooks := fun p => (l.webhooks p).map (List.map Webhook.withoutSecrets) }

/-- A watcher that has read webhooks without their secrets. -/
def Watcher.withoutSecrets (w : Watcher) : Watcher :=
  { w with webhooks := w.webhooks.map (List.map Webhook.withoutSecrets) }

/-- A service without the secrets of its webhooks. -/
def Service.withoutSecrets (s : Service) : Service :=
  { s with
    store := s.store.withoutSecrets
    watcher := s.watcher.withoutSecrets
    queue := s.queue.withoutSecrets }

/-- A post without its signature. -/
def Post.unsigned (p : Post) : Post := { p with signature := "" }

/-- An act of a job without the signature of what is sent. -/
def Job.Act.unsigned : Job.Act → Job.Act
  | .sent post => .sent post.unsigned
  | .offered row => .offered row
  | .waited time => .waited time

/-- What everybody may see of a run, the state of the audit being seen through `view`. -/
def DeliveryRun.unsigned {σ τ : Type} (view : σ → τ) (run : DeliveryRun σ) : DeliveryRun τ :=
  ⟨run.acts.map Job.Act.unsigned, run.delivered, view run.audit⟩

/-! ## Detection -/

section Jobs

variable (stamp : Stamp) (hooks : List Webhook) (e : Sighting)

theorem Webhook.subscribers_withoutSecrets (topic : Topic) :
    subscribers (hooks.map withoutSecrets) topic =
      (subscribers hooks topic).map withoutSecrets := by
  rw [subscribers, subscribers, List.filter_map]
  rfl

theorem goalJobs_withoutSecrets (goals : List Goal) :
    goalJobs stamp (hooks.map Webhook.withoutSecrets) goals e =
      (goalJobs stamp hooks goals e).map Job.withoutSecrets := by
  simp only [goalJobs, List.map_flatMap, List.map_map]
  rfl

theorem spikeJobs_withoutSecrets (n : Nat) (spike : Traffic.Spike Float) :
    spikeJobs stamp n (hooks.map Webhook.withoutSecrets) spike =
      (spikeJobs stamp n hooks spike).map Job.withoutSecrets := by
  simp only [spikeJobs, List.map_map]
  rfl

end Jobs

namespace Watcher

variable (w : Watcher) (lookup : Lookup) (stamp : Stamp) (hooks : List Webhook) (e : Sighting)
  (clock now : Moment)

theorem activeWebhooks_withoutSecrets (p : String) :
    w.withoutSecrets.activeWebhooks lookup.withoutSecrets p clock =
      ((w.activeWebhooks lookup p clock).1.map (List.map Webhook.withoutSecrets),
        (w.activeWebhooks lookup p clock).2.withoutSecrets) := by
  have hread := Cache.getOrCompute_map (List.map Webhook.withoutSecrets) w.webhooks p clock
    fun _ => lookup.webhooks p
  simp only [activeWebhooks, withoutSecrets, Lookup.withoutSecrets, hread]
  rcases w.webhooks.getOrCompute p (fun _ => lookup.webhooks p) clock with ⟨_ | _, _⟩ <;> rfl

theorem activeGoals_withoutSecrets (p : String) :
    w.withoutSecrets.activeGoals lookup.withoutSecrets p clock =
      ((w.activeGoals lookup p clock).1, (w.activeGoals lookup p clock).2.withoutSecrets) := rfl

theorem goalOffers_withoutSecrets :
    w.withoutSecrets.goalOffers lookup.withoutSecrets stamp
        (hooks.map Webhook.withoutSecrets) e clock =
      ((w.goalOffers lookup stamp hooks e clock).1.map Job.withoutSecrets,
        (w.goalOffers lookup stamp hooks e clock).2.withoutSecrets) := by
  simp only [goalOffers, Webhook.subscribers_withoutSecrets, List.isEmpty_map]
  split_ifs
  · rfl
  · rw [activeGoals_withoutSecrets]
    rcases w.activeGoals lookup e.projectId clock with ⟨_ | goals, w'⟩
    · rfl
    · simp only [goalJobs_withoutSecrets]

theorem spikeOffers_withoutSecrets (n : Nat) :
    w.withoutSecrets.spikeOffers stamp n (hooks.map Webhook.withoutSecrets) e clock now =
      ((w.spikeOffers stamp n hooks e clock now).1.map Job.withoutSecrets,
        (w.spikeOffers stamp n hooks e clock now).2.withoutSecrets) := by
  simp only [spikeOffers, Webhook.subscribers_withoutSecrets, List.isEmpty_map]
  split_ifs
  · rfl
  · rw [show w.withoutSecrets.spikes = w.spikes from rfl]
    rcases w.spikes.record e.projectId clock now with ⟨_ | spike, spikes⟩
    · rfl
    · simp only [spikeJobs_withoutSecrets]
      rfl

/-- **The detection** does not look at the secrets. -/
theorem offersAt_withoutSecrets :
    w.withoutSecrets.offersAt lookup.withoutSecrets stamp e clock now =
      ((w.offersAt lookup stamp e clock now).1.map Job.withoutSecrets,
        (w.offersAt lookup stamp e clock now).2.withoutSecrets) := by
  rw [offersAt, offersAt, activeWebhooks_withoutSecrets]
  rcases w.activeWebhooks lookup e.projectId clock with ⟨_ | hooks, w'⟩
  · rfl
  · simp only [Except.map, goalOffers_withoutSecrets, List.length_map,
      spikeOffers_withoutSecrets, List.map_append]

end Watcher

/-- **The queue** takes as many jobs as it does with their secrets. -/
theorem JobQueue.offerAll_withoutSecrets (q : JobQueue) (jobs : List Job) :
    q.withoutSecrets.offerAll (jobs.map Job.withoutSecrets) =
      ((q.offerAll jobs).1, (q.offerAll jobs).2.withoutSecrets) := by
  induction jobs generalizing q with
  | nil => rfl
  | cons j r ih =>
    have hoffer : q.withoutSecrets.offer j.withoutSecrets =
        ((q.offer j).1, (q.offer j).2.withoutSecrets) := by
      simp only [offer, withoutSecrets, List.length_map]
      split_ifs
      · simp only [List.map_append, List.map_cons, List.map_nil]
      · rfl
    simp only [List.map_cons, offerAll, hoffer, ih]

/-! ## Delivery -/

namespace Job

variable (j : Job) (step : Nat) (reply : Nat → Reply)

theorem unsigned_request : j.withoutSecrets.request.unsigned = j.request.unsigned := by
  simp only [request, Post.unsigned, withoutSecrets]

theorem delivery_withoutSecrets (n : Nat) (r : Reply) :
    j.withoutSecrets.delivery n r = j.delivery n r := by
  cases r <;> rfl

/-- **The attempts of a job** do not look at its secret but to sign. The audit may be seen through
any view that rows are written to as they are to the audit itself. -/
theorem deliverFrom_withoutSecrets {σ τ ε : Type} {view : σ → τ}
    {write : σ → Delivery → Except ε Unit × σ} {write' : τ → Delivery → Except ε Unit × τ}
    (hwrite : ∀ audit row, (write' (view audit) row).2 = view (write audit row).2)
    (left n : Nat) (audit : σ) :
    (j.withoutSecrets.deliverFrom step reply write' left n (view audit)).unsigned id =
      (j.deliverFrom step reply write left n audit).unsigned view := by
  induction left generalizing n audit with
  | zero => rfl
  | succ left ih =>
    have hsent : Act.unsigned (.sent j.withoutSecrets.request) = .unsigned (.sent j.request) :=
      congrArg Act.sent j.unsigned_request
    simp only [deliverFrom, delivery_withoutSecrets, hwrite]
    split_ifs
    · simp only [DeliveryRun.unsigned, List.map_cons, hsent, id]
    · simp only [DeliveryRun.unsigned, List.map_cons, hsent, id]
    · have hrest := ih (n + 1) (write audit (j.delivery n (reply n))).2
      simp only [DeliveryRun.unsigned, DeliveryRun.mk.injEq] at hrest ⊢
      obtain ⟨hacts, hdelivered, haudit⟩ := hrest
      simp only [List.map_cons, hacts, hsent]
      exact ⟨trivial, hdelivered, haudit⟩

/-- **Two jobs with different secrets** send the same but for the signature, write the same rows,
wait as long and end alike. -/
theorem deliver_alike {σ ε : Type} {j j' : Job} (h : j.withoutSecrets = j'.withoutSecrets)
    (step : Nat) (reply : Nat → Reply) (write : σ → Delivery → Except ε Unit × σ) (audit : σ) :
    (j.deliver step reply write audit).unsigned id =
      (j'.deliver step reply write audit).unsigned id := by
  have hview : ∀ audit row, (write (id audit) row).2 = id (write audit row).2 := fun _ _ => rfl
  have hbare : ∀ j : Job, (j.withoutSecrets.deliver step reply write audit).unsigned id =
      (j.deliver step reply write audit).unsigned id := fun j =>
    j.deliverFrom_withoutSecrets step reply hview maxAttempts 1 audit
  rw [← hbare j, h, hbare j']

end Job

/-! ## The store -/

namespace Store

variable (s : Store)

theorem lookup_withoutSecrets : s.withoutSecrets.lookup = s.lookup.withoutSecrets := by
  have hwebhooks : ∀ p, s.withoutSecrets.activeWebhooks p =
      (s.activeWebhooks p).map (List.map Webhook.withoutSecrets) := by
    intro p
    simp only [activeWebhooks, guarded, withoutSecrets, List.filter_map]
    split_ifs <;> rfl
  simp only [lookup, Lookup.withoutSecrets, funext hwebhooks]
  rfl

/-- An operation on a part of the store shows and leaves the same. -/
theorem modifying_withoutSecrets {α β : Type} (part : StorePart) (shown : α → β) {value value' : α}
    {next next' : Store} (hvalue : shown value' = shown value)
    (hnext : next' = next.withoutSecrets) :
    ((s.withoutSecrets.modifying part value' next').1.map shown,
        (s.withoutSecrets.modifying part value' next').2) =
      ((s.modifying part value next).1.map shown,
        (s.modifying part value next).2.withoutSecrets) := by
  rw [modifying, modifying, show s.withoutSecrets.failing = s.failing from rfl]
  by_cases hfailing : s.failing.contains part = true
  · rw [if_pos hfailing, if_pos hfailing]
  · rw [if_neg hfailing, if_neg hfailing, hnext]
    exact congrArg (fun b => (Except.ok b, next.withoutSecrets)) hvalue

theorem recordDelivery_withoutSecrets (row : Delivery) :
    (s.withoutSecrets.recordDelivery row).2 = (s.recordDelivery row).2.withoutSecrets := by
  let r : DeliveryRecord := ⟨nextId "dlv" s.deliveries.length, row, creationTime⟩
  let next : Store := { s with deliveries := s.deliveries ++ [r] }
  have hwritten := s.modifying_withoutSecrets .deliveries id (Eq.refl ())
    (Eq.refl next.withoutSecrets)
  exact (Prod.mk.inj hwritten).2

end Store

/-! ## Administrative commands -/

namespace Admin.Command

/-- A command without the secret that it gives to a new webhook. -/
def withoutSecrets : Command → Command
  | .createWebhook projectId url _ topics => .createWebhook projectId url "" topics
  | c => c

/-- **An administrative command** prints the same without the secrets. -/
theorem apply_withoutSecrets (c : Command) (s : Store) :
    c.withoutSecrets.apply s.withoutSecrets =
      ((c.apply s).1, (c.apply s).2.withoutSecrets) := by
  cases c with
  | createProject name domain reportEmail =>
    exact s.modifying_withoutSecrets .projects Project.toJson rfl rfl
  | listProjects => rfl
  | createGoal projectId name goalType matchValue =>
    exact s.modifying_withoutSecrets .goals Goal.toJson rfl rfl
  | createFunnel projectId name steps =>
    exact s.modifying_withoutSecrets .funnels Funnel.toJson rfl rfl
  | createWebhook projectId url secret topics =>
    -- the identifier comes from the number of webhooks, whatever their secrets
    simp only [withoutSecrets, apply, Store.createWebhook]
    exact s.modifying_withoutSecrets .webhooks webhookJson
      (by simp [webhookJson, Store.withoutSecrets, Webhook.topicsJson])
      (by simp [Store.withoutSecrets, Webhook.withoutSecrets])

theorem run_withoutSecrets (c : Command) (s : Store) :
    c.withoutSecrets.run s.withoutSecrets = ((c.run s).1, (c.run s).2.withoutSecrets) := by
  rw [run, run, apply_withoutSecrets]

end Admin.Command

/-! ## Turns of a service -/

namespace Service

theorem observeAt_withoutSecrets (s : Service) (o : Occasion) (now : Moment) (e : Sighting) :
    s.withoutSecrets.observeAt o now e =
      ((s.observeAt o now e).1, (s.observeAt o now e).2.withoutSecrets) := by
  have hoffers := s.watcher.offersAt_withoutSecrets s.store.lookup o.stamp e o.clock now
  rw [← Store.lookup_withoutSecrets] at hoffers
  simp only [observeAt, withoutSecrets, hoffers, JobQueue.offerAll_withoutSecrets]

theorem invalidate_withoutSecrets (s : Service) (p : String) :
    s.withoutSecrets.invalidate p = (s.invalidate p).withoutSecrets := by
  simp only [invalidate, Watcher.invalidate, withoutSecrets, Watcher.withoutSecrets,
    Cache.map_invalidate]

/-- Jobs are delivered alike one after the other. -/
theorem deliverAll_withoutSecrets (step : Nat) (reply : Job → Nat → Reply) (store : Store)
    (jobs : List Job) :
    (deliverAll step reply store.withoutSecrets (jobs.map Job.withoutSecrets)).1.map
        (DeliveryRun.unsigned id) =
      (deliverAll step (fun j => reply j.withoutSecrets) store jobs).1.map
        (DeliveryRun.unsigned Store.withoutSecrets) ∧
    (deliverAll step reply store.withoutSecrets (jobs.map Job.withoutSecrets)).2 =
      (deliverAll step (fun j => reply j.withoutSecrets) store jobs).2.withoutSecrets := by
  induction jobs generalizing store with
  | nil => exact ⟨rfl, rfl⟩
  | cons j rest ih =>
    have hrun := j.deliverFrom_withoutSecrets step (reply j.withoutSecrets)
      Store.recordDelivery_withoutSecrets maxAttempts 1 store
    have haudit : (j.withoutSecrets.deliver step (reply j.withoutSecrets) Store.recordDelivery
        store.withoutSecrets).audit =
        (j.deliver step (reply j.withoutSecrets) Store.recordDelivery store).audit.withoutSecrets :=
      congrArg DeliveryRun.audit hrun
    obtain ⟨hruns, hstore⟩ :=
      ih (j.deliver step (reply j.withoutSecrets) Store.recordDelivery store).audit
    simp only [List.map_cons, deliverAll, haudit]
    exact ⟨congrArg₂ List.cons hrun hruns, hstore⟩

/-- What can happen to a service and its store. -/
inductive Turn where
  /-- An event was stored. -/
  | observed (o : Occasion) (now : Moment) (e : Sighting)
  | invalidated (projectId : String)
  /-- The jobs that wait are delivered, given what the receivers answer. -/
  | drained (step : Nat) (reply : Job → Nat → Reply)
  | administered (c : Admin.Command)

/-- What is seen of a turn. -/
inductive Shown where
  | nothing
  | queued (jobs : Nat)
  | delivered (runs : List (List Job.Act × Bool))
  | printed (text : Except StoreFailure String)

/-- A turn without the secret that a command gives to a new webhook. -/
def Turn.withoutSecrets : Turn → Turn
  | .observed o now e => .observed o now e
  | .invalidated p => .invalidated p
  | .drained step reply => .drained step reply
  | .administered c => .administered c.withoutSecrets

/-- What is seen of a turn but for signatures. -/
def Shown.unsigned : Shown → Shown
  | .nothing => .nothing
  | .queued jobs => .queued jobs
  | .delivered runs => .delivered (runs.map fun r => (r.1.map Job.Act.unsigned, r.2))
  | .printed text => .printed text

/-- One turn of a service. The receivers are given no secrets to answer by. -/
def turn (s : Service) : Turn → Shown × Service
  | .observed o now e => (.queued (s.observeAt o now e).1, (s.observeAt o now e).2)
  | .invalidated p => (.nothing, s.invalidate p)
  | .drained step reply =>
    let (runs, s) := s.drain step fun j => reply j.withoutSecrets
    (.delivered (runs.map fun r => (r.acts, r.delivered)), s)
  | .administered c => (.printed (c.run s.store).1, { s with store := (c.run s.store).2 })

/-- The turns of a service one after the other. -/
def runTurns (s : Service) : List Turn → List Shown × Service
  | [] => ([], s)
  | t :: ts => ((s.turn t).1 :: ((s.turn t).2.runTurns ts).1, ((s.turn t).2.runTurns ts).2)

/-- **One turn** is seen alike without the secrets. -/
theorem turn_withoutSecrets (s : Service) (t : Turn) :
    (s.withoutSecrets.turn t.withoutSecrets).1.unsigned = (s.turn t).1.unsigned ∧
      (s.withoutSecrets.turn t.withoutSecrets).2 = (s.turn t).2.withoutSecrets := by
  cases t with
  | observed o now e =>
    simp only [Turn.withoutSecrets, turn, observeAt_withoutSecrets]
    exact ⟨trivial, trivial⟩
  | invalidated p =>
    exact ⟨rfl, s.invalidate_withoutSecrets p⟩
  | drained step reply =>
    obtain ⟨hruns, hstore⟩ :=
      deliverAll_withoutSecrets step (fun j => reply j.withoutSecrets) s.store s.queue.jobs
    have hshown := congrArg (List.map fun r => (r.acts, r.delivered)) hruns
    simp only [List.map_map, Function.comp_def, DeliveryRun.unsigned] at hshown
    simp only [Turn.withoutSecrets, turn, drain, Shown.unsigned, List.map_map, Function.comp_def]
    let drained (store : Store) : Service :=
      { s.withoutSecrets with store, queue := { s.withoutSecrets.queue with jobs := [] } }
    exact ⟨congrArg Shown.delivered hshown, congrArg drained hstore⟩
  | administered c =>
    have hrun := c.run_withoutSecrets s.store
    simp only [Turn.withoutSecrets, turn, withoutSecrets, hrun]
    exact ⟨trivial, trivial⟩

/-- **Any number of turns** are seen alike without the secrets. -/
theorem runTurns_withoutSecrets (s : Service) (turns : List Turn) :
    (s.withoutSecrets.runTurns (turns.map Turn.withoutSecrets)).1.map Shown.unsigned =
        (s.runTurns turns).1.map Shown.unsigned ∧
      (s.withoutSecrets.runTurns (turns.map Turn.withoutSecrets)).2 =
        (s.runTurns turns).2.withoutSecrets := by
  induction turns generalizing s with
  | nil => exact ⟨rfl, rfl⟩
  | cons t ts ih =>
    obtain ⟨hshown, hnext⟩ := s.turn_withoutSecrets t
    obtain ⟨hrest, hlast⟩ := ih (s.turn t).2
    simp only [List.map_cons, runTurns, hnext]
    exact ⟨congrArg₂ List.cons hshown hrest, hlast⟩

end Service

/-! ## Two states with different secrets -/

/-- What an event gives rise to differs in secrets only. -/
theorem Watcher.offersAt_alike {w w' : Watcher} {lookup lookup' : Lookup}
    (hw : w.withoutSecrets = w'.withoutSecrets)
    (hlookup : lookup.withoutSecrets = lookup'.withoutSecrets) (stamp : Stamp) (e : Sighting)
    (clock now : Moment) :
    (w.offersAt lookup stamp e clock now).1.map Job.withoutSecrets =
        (w'.offersAt lookup' stamp e clock now).1.map Job.withoutSecrets ∧
      (w.offersAt lookup stamp e clock now).2.withoutSecrets =
        (w'.offersAt lookup' stamp e clock now).2.withoutSecrets := by
  have hoffers := w.offersAt_withoutSecrets lookup stamp e clock now
  rw [hw, hlookup, offersAt_withoutSecrets] at hoffers
  exact Prod.mk.inj hoffers.symm

/-- The queue takes as many jobs, and they differ in secrets only. -/
theorem JobQueue.offerAll_alike {q q' : JobQueue} {jobs jobs' : List Job}
    (hq : q.withoutSecrets = q'.withoutSecrets)
    (hjobs : jobs.map Job.withoutSecrets = jobs'.map Job.withoutSecrets) :
    (q.offerAll jobs).1 = (q'.offerAll jobs').1 ∧
      (q.offerAll jobs).2.withoutSecrets = (q'.offerAll jobs').2.withoutSecrets := by
  have hoffer := q.offerAll_withoutSecrets jobs
  rw [hq, hjobs, offerAll_withoutSecrets] at hoffer
  exact Prod.mk.inj hoffer.symm

/-- What is shown of a webhook does not have the secret. -/
theorem Webhook.toJson_alike {w w' : Webhook} (h : w.withoutSecrets = w'.withoutSecrets) :
    w.toJson = w'.toJson := by
  have hbare : ∀ w : Webhook, w.withoutSecrets.toJson = w.toJson := fun _ => rfl
  rw [← hbare w, h, hbare w']

/-- Two administrative commands that differ in secrets only print the same. -/
theorem Admin.Command.run_alike {c c' : Command} {s s' : Store}
    (hc : c.withoutSecrets = c'.withoutSecrets) (hs : s.withoutSecrets = s'.withoutSecrets) :
    (c.run s).1 = (c'.run s').1 ∧ (c.run s).2.withoutSecrets = (c'.run s').2.withoutSecrets := by
  have hrun := c.run_withoutSecrets s
  rw [hc, hs, run_withoutSecrets] at hrun
  exact Prod.mk.inj hrun.symm

/-- Two services and their turns that differ in secrets only show the same. -/
theorem Service.runTurns_alike {s s' : Service} {turns turns' : List Turn}
    (hs : s.withoutSecrets = s'.withoutSecrets)
    (hturns : turns.map Turn.withoutSecrets = turns'.map Turn.withoutSecrets) :
    (s.runTurns turns).1.map Shown.unsigned = (s'.runTurns turns').1.map Shown.unsigned ∧
      (s.runTurns turns).2.withoutSecrets = (s'.runTurns turns').2.withoutSecrets := by
  obtain ⟨hshown, hlast⟩ := s.runTurns_withoutSecrets turns
  obtain ⟨hshown', hlast'⟩ := s'.runTurns_withoutSecrets turns'
  rw [hs, hturns] at hshown hlast
  exact ⟨hshown.symm.trans hshown', hlast.symm.trans hlast'⟩

/-- **Nobody is told the secret of a webhook.** Let two states differ in nothing but the secrets of
their webhooks.

* An event gives rise to the same jobs but for their secrets, whatever goals, spikes and webhooks
  are read, and the queue takes as many of them.
* For the same replies, two such jobs are sent to the same address with the same body and topic, so
  that only the signature differs; they write the same rows, wait as long and end alike.
* The webhooks are shown alike, and a command that creates one prints the same whatever the secret.
* So it goes on: whatever events are observed, jobs delivered and commands run, the two states show
  the same, but for signatures, and differ in nothing but secrets afterwards. -/
theorem secrets_untold :
    (∀ {w w' : Watcher} {lookup lookup' : Lookup}, w.withoutSecrets = w'.withoutSecrets →
      lookup.withoutSecrets = lookup'.withoutSecrets → ∀ stamp e clock now,
        (w.offersAt lookup stamp e clock now).1.map Job.withoutSecrets =
            (w'.offersAt lookup' stamp e clock now).1.map Job.withoutSecrets ∧
          (w.offersAt lookup stamp e clock now).2.withoutSecrets =
            (w'.offersAt lookup' stamp e clock now).2.withoutSecrets) ∧
    (∀ {q q' : JobQueue} {jobs jobs' : List Job}, q.withoutSecrets = q'.withoutSecrets →
      jobs.map Job.withoutSecrets = jobs'.map Job.withoutSecrets →
        (q.offerAll jobs).1 = (q'.offerAll jobs').1 ∧
          (q.offerAll jobs).2.withoutSecrets = (q'.offerAll jobs').2.withoutSecrets) ∧
    (∀ {j j' : Job}, j.withoutSecrets = j'.withoutSecrets → ∀ {σ ε : Type} (step : Nat)
      (reply : Nat → Reply) (write : σ → Delivery → Except ε Unit × σ) (audit : σ),
        (j.deliver step reply write audit).unsigned id =
          (j'.deliver step reply write audit).unsigned id) ∧
    (∀ {w w' : Webhook}, w.withoutSecrets = w'.withoutSecrets → w.toJson = w'.toJson) ∧
    (∀ {s s' : Store}, s.withoutSecrets = s'.withoutSecrets →
      ∀ projectId url secret secret' topics,
        ((Admin.Command.createWebhook projectId url secret topics).run s).1 =
            ((Admin.Command.createWebhook projectId url secret' topics).run s').1 ∧
          ((Admin.Command.createWebhook projectId url secret topics).run s).2.withoutSecrets =
            ((Admin.Command.createWebhook projectId url secret' topics).run s').2.withoutSecrets) ∧
    ∀ {s s' : Service} {turns turns' : List Service.Turn},
      s.withoutSecrets = s'.withoutSecrets →
      turns.map Service.Turn.withoutSecrets = turns'.map Service.Turn.withoutSecrets →
        (s.runTurns turns).1.map Service.Shown.unsigned =
            (s'.runTurns turns').1.map Service.Shown.unsigned ∧
          (s.runTurns turns).2.withoutSecrets = (s'.runTurns turns').2.withoutSecrets :=
  ⟨Watcher.offersAt_alike, JobQueue.offerAll_alike, fun h => Job.deliver_alike h,
    Webhook.toJson_alike, fun hs _ _ _ _ _ => Admin.Command.run_alike rfl hs,
    Service.runTurns_alike⟩

/-- A webhook with one secret or another is told of a signup, and a second webhook is created. -/
theorem secrets_untold_two_keys :
    let hook (secret : String) : Webhook :=
      ⟨"hook_1", "shop", "http://localhost/hook", secret, [.goalConversion], true⟩
    let store (secret : String) : Store :=
      { webhooks := [hook secret], goals := [⟨"g", "shop", "Signup", "event", "signup", true⟩] }
    let stamp : Stamp := ⟨default, fun _ => ""⟩
    let e : Sighting := ⟨"shop", .custom, some "signup", "/"⟩
    let jobs (secret : String) := (Watcher.new.offersAt (store secret).lookup stamp e 0 0).1
    let job (secret : String) : Job :=
      (hook secret).job .goalConversion (envelope stamp 0 .goalConversion .null)
    let run (secret : String) := (job secret).deliver 5 (fun _ => .answered 503 "")
      (fun rows row => ((.ok () : Except Unit Unit), rows ++ [row])) []
    let create (secret : String) :=
      Admin.Command.createWebhook "shop" "http://localhost/other" secret [.trafficSpike]
    let turns (secret : String) : List Service.Turn :=
      [.observed ⟨0, stamp⟩ 0 e, .administered (create secret),
        .drained 5 fun _ _ => .answered 503 ""]
    (jobs "one").map Job.secret = ["one"] ∧ (jobs "other").map Job.secret = ["other"] ∧
      (jobs "one").map Job.withoutSecrets = (jobs "other").map Job.withoutSecrets ∧
      ((JobQueue.empty 8).offerAll (jobs "one")).1 =
        ((JobQueue.empty 8).offerAll (jobs "other")).1 ∧
      (run "one").unsigned id = (run "other").unsigned id ∧
      (hook "one").toJson = (hook "other").toJson ∧
      ((create "one").run (store "one")).1 = ((create "other").run (store "other")).1 ∧
      ∃ s s', Service.withQueue (Settings.ofSalt "0123456789abcdef0123456789abcdef") Locator.blind
          (fun _ => none) (store "one") 8 = .ok s ∧
        Service.withQueue (Settings.ofSalt "0123456789abcdef0123456789abcdef") Locator.blind
          (fun _ => none) (store "other") 8 = .ok s' ∧
        (s.runTurns (turns "one")).1.map Service.Shown.unsigned =
          (s'.runTurns (turns "other")).1.map Service.Shown.unsigned := by
  intro hook store stamp e jobs job run create turns
  obtain ⟨hoffers, hqueue, hdeliver, hshown, hcreate, hrun⟩ := secrets_untold
  have hstore : (store "one").withoutSecrets = (store "other").withoutSecrets := rfl
  have hlookup : (store "one").lookup.withoutSecrets = (store "other").lookup.withoutSecrets := by
    rw [← Store.lookup_withoutSecrets, hstore, Store.lookup_withoutSecrets]
  obtain ⟨s, s', hs, hs', hservice⟩ : ∃ s s',
      Service.withQueue (Settings.ofSalt "0123456789abcdef0123456789abcdef") Locator.blind
        (fun _ => none) (store "one") 8 = .ok s ∧
      Service.withQueue (Settings.ofSalt "0123456789abcdef0123456789abcdef") Locator.blind
        (fun _ => none) (store "other") 8 = .ok s' ∧ s.withoutSecrets = s'.withoutSecrets :=
    ⟨_, _, rfl, rfl, rfl⟩
  have hjobs := (hoffers (Eq.refl Watcher.new.withoutSecrets) hlookup stamp e 0 0).1
  have htaken := (hqueue (Eq.refl (JobQueue.empty 8).withoutSecrets) hjobs).1
  have hjob : (job "one").withoutSecrets = (job "other").withoutSecrets := rfl
  have hdelivered : (run "one").unsigned id = (run "other").unsigned id := hdeliver hjob 5 _ _ _
  have hcreated := (hcreate hstore "shop" "http://localhost/other" "one" "other" [.trafficSpike]).1
  have hturns : (turns "one").map Service.Turn.withoutSecrets =
      (turns "other").map Service.Turn.withoutSecrets := rfl
  exact ⟨rfl, rfl, hjobs, htaken, hdelivered, hshown rfl, hcreated, s, s', hs, hs',
    (hrun hservice hturns).1⟩

end Footfall
