import Mathlib.Tactic.SplitIfs
import Footfall.Proofs.Json.Fields
import Footfall.Service.Basic

/-!
# What the webhooks of a project are told

An event is told goal by goal to the webhooks that subscribe to goals, one job for each of them with
a common payload (`GoalJobs`), and then to those that subscribe to spikes, if it completes one
(`SpikeJobs`). What a payload tells is read back from its fields (`AboutGoal`, `AboutSpike`).

* `goalJobs_told` and `spikeJobs_told` say that the jobs are these.
* `JobQueue.offerAll_eq` says what the queue takes of the jobs that it is offered.
* `Watcher.offersAt_fanOut` goes through the reads of webhooks and goals, each of which can fail,
  and says when the event is counted.

`Service.observeAt_fanOut` puts this together for a whole event: the jobs that are offered do not
depend on the queue, and a job that it refuses changes nothing but the count.
-/

namespace Footfall

/-! ## What a payload tells -/

/-- A field of the data of a payload. -/
def dataField? (payload : Json.Value) (name : String) : Option Json.Value :=
  (payload.field? "data").bind fun data => data.field? name

/-- What payloads about a topic have in common. -/
structure IsEnvelope (stamp : Stamp) (topic : Topic) (payload : Json.Value) : Prop where
  id : ∃ n, payload.field? "id" = some (.string (stamp.payloadId n))
  event : payload.field? "event" = some (.string topic.name)
  createdAt : payload.field? "created_at" = some (.string stamp.wall.withOffset)

/-- A payload tells that an event met a goal by a criterion. -/
structure AboutGoal (stamp : Stamp) (e : Sighting) (g : Goal) (c : Criterion)
    (payload : Json.Value) : Prop extends IsEnvelope stamp .goalConversion payload where
  projectId : dataField? payload "project_id" = some (.string e.projectId)
  goalId : dataField? payload "goal_id" = some (.string g.id)
  goalName : dataField? payload "goal_name" = some (.string g.name)
  goalType : dataField? payload "goal_type" = some (.string c.name)
  seen : match c with
    | .url => dataField? payload "path" = some (.string e.path)
    | .event => dataField? payload "event_name" = some (.ofText? e.eventName)

/-- A payload tells of a spike. -/
structure AboutSpike (stamp : Stamp) (spike : Traffic.Spike Float) (payload : Json.Value) :
    Prop extends IsEnvelope stamp .trafficSpike payload where
  projectId : dataField? payload "project_id" = some (.string spike.projectId)
  currentRate : dataField? payload "current_rate" = some (.ofFloat spike.currentRate)
  baselineRate : dataField? payload "baseline_rate" = some (.ofFloat spike.baselineRate)
  eventCount : dataField? payload "event_count" = some (.int spike.eventCount)
  windowSeconds : dataField? payload "window_seconds" = some (.int spike.windowSeconds)

section Payload

variable (stamp : Stamp) (n : Nat)

theorem isEnvelope_envelope (topic : Topic) (data : Json.Value) :
    IsEnvelope stamp topic (envelope stamp n topic data) where
  id := ⟨n, by simp [envelope, Json.field?_ofFields]⟩
  event := by simp [envelope, Json.field?_ofFields]
  createdAt := by simp [envelope, Json.field?_ofFields]

theorem dataField?_envelope (topic : Topic) (data : Json.Value) (name : String) :
    dataField? (envelope stamp n topic data) name = data.field? name := by
  simp [dataField?, envelope, Json.field?_ofFields]

theorem aboutGoal_goalData (e : Sighting) (g : Goal) (c : Criterion) :
    AboutGoal stamp e g c (envelope stamp n .goalConversion (goalData g c e)) := by
  refine ⟨isEnvelope_envelope stamp n _ _, ?_, ?_, ?_, ?_, ?_⟩ <;>
    cases c <;> simp [dataField?_envelope, goalData, Json.field?_ofFields]

theorem aboutSpike_spikeData (spike : Traffic.Spike Float) :
    AboutSpike stamp spike (envelope stamp n .trafficSpike (spikeData spike)) := by
  refine ⟨isEnvelope_envelope stamp n _ _, ?_, ?_, ?_, ?_, ?_⟩ <;>
    simp [dataField?_envelope, spikeData, Json.field?_ofFields]

end Payload

/-! ## Jobs -/

/-- One job for each webhook that is active and subscribes to a topic, in order, all with the same
payload. -/
def jobsFor (hooks : List Webhook) (topic : Topic) (payload : Json.Value) : List Job :=
  (hooks.filter fun w => w.active && w.topics.contains topic).map fun w =>
    { webhookId := w.id, url := w.url, secret := w.secret, topic, payload }

/-- The jobs that tell an event to some webhooks goal by goal, in the order of the goals. A goal
whose type names no criterion, or that the event does not meet, gives no job. -/
inductive GoalJobs (stamp : Stamp) (hooks : List Webhook) (e : Sighting) :
    List Goal → List Job → Prop where
  | nil : GoalJobs stamp hooks e [] []
  | untyped {g : Goal} {goals : List Goal} {jobs : List Job}
      (htype : Criterion.parse g.goalType = none) (rest : GoalJobs stamp hooks e goals jobs) :
      GoalJobs stamp hooks e (g :: goals) jobs
  | unmet {g : Goal} {c : Criterion} {goals : List Goal} {jobs : List Job}
      (htype : Criterion.parse g.goalType = some c)
      (hunmet : c.accepts e.kind e.eventName e.path g.matchValue = false)
      (rest : GoalJobs stamp hooks e goals jobs) : GoalJobs stamp hooks e (g :: goals) jobs
  | met {g : Goal} {c : Criterion} {payload : Json.Value} {goals : List Goal} {jobs : List Job}
      (htype : Criterion.parse g.goalType = some c)
      (hmet : c.accepts e.kind e.eventName e.path g.matchValue = true)
      (about : AboutGoal stamp e g c payload) (rest : GoalJobs stamp hooks e goals jobs) :
      GoalJobs stamp hooks e (g :: goals) (jobsFor hooks .goalConversion payload ++ jobs)

/-- The jobs that tell a spike, if there is one, to some webhooks. -/
inductive SpikeJobs (stamp : Stamp) (hooks : List Webhook) :
    Option (Traffic.Spike Float) → List Job → Prop where
  | quiet : SpikeJobs stamp hooks none []
  | fired {spike : Traffic.Spike Float} {payload : Json.Value}
      (about : AboutSpike stamp spike payload) :
      SpikeJobs stamp hooks (some spike) (jobsFor hooks .trafficSpike payload)

section Jobs

variable (stamp : Stamp) (hooks : List Webhook) (e : Sighting)

theorem map_job_subscribers (topic : Topic) (payload : Json.Value) :
    (Webhook.subscribers hooks topic).map (fun w => w.job topic payload) =
      jobsFor hooks topic payload := rfl

theorem goalJobs_told (goals : List Goal) :
    GoalJobs stamp hooks e goals
      (goalJobs stamp (Webhook.subscribers hooks .goalConversion) goals e) := by
  -- the payloads of the goals that are left are numbered from any number on
  have hfrom : ∀ n, GoalJobs stamp hooks e goals
      (((goals.filterMap fun g => (g.metBy e).map fun c => goalData g c e).zipIdx n).flatMap
        fun p => (Webhook.subscribers hooks .goalConversion).map fun w =>
          w.job .goalConversion (envelope stamp p.2 .goalConversion p.1)) := by
    induction goals with
    | nil => exact fun _ => .nil
    | cons g goals ih =>
      intro n
      cases htype : Criterion.parse g.goalType with
      | none =>
        have hmet : g.metBy e = none := by simp [Goal.metBy, Goal.criterion, htype]
        rw [List.filterMap_cons, hmet]
        exact .untyped htype (ih n)
      | some c =>
        cases haccepts : c.accepts e.kind e.eventName e.path g.matchValue with
        | false =>
          have hmet : g.metBy e = none := by
            simp [Goal.metBy, Goal.criterion, htype, Sighting.meets, haccepts]
          rw [List.filterMap_cons, hmet]
          exact .unmet htype haccepts (ih n)
        | true =>
          have hmet : g.metBy e = some c := by
            simp [Goal.metBy, Goal.criterion, htype, Sighting.meets, haccepts]
          rw [List.filterMap_cons, hmet, Option.map_some, List.zipIdx_cons, List.flatMap_cons,
            map_job_subscribers]
          exact .met htype haccepts (aboutGoal_goalData stamp n e g c) (ih (n + 1))
  exact hfrom 0

theorem spikeJobs_told (n : Nat) (spike : Traffic.Spike Float) :
    SpikeJobs stamp hooks (some spike)
      (spikeJobs stamp n (Webhook.subscribers hooks .trafficSpike) spike) :=
  .fired (aboutSpike_spikeData stamp n spike)

end Jobs

/-- The queue takes jobs in order as long as there is room, and counts those that it takes. -/
theorem JobQueue.offerAll_eq (q : JobQueue) (jobs : List Job) :
    q.offerAll jobs =
      ((jobs.take (q.capacity - q.jobs.length)).length,
        { q with jobs := q.jobs ++ jobs.take (q.capacity - q.jobs.length) }) := by
  induction jobs generalizing q with
  | nil => simp [offerAll]
  | cons j r ih =>
    rw [offerAll, offer]
    split_ifs with hroom
    · obtain ⟨room, hroom'⟩ : ∃ room, q.capacity - q.jobs.length = room + 1 :=
        ⟨q.capacity - q.jobs.length - 1, by omega⟩
      have hrest : q.capacity - (q.jobs.length + 1) = room := by omega
      simp [ih, hroom', hrest]
    · have hfull : q.capacity - q.jobs.length = 0 := by omega
      simp [ih, hfull]

/-! ## The watcher -/

namespace Watcher

variable (w : Watcher) (lookup : Lookup) (stamp : Stamp) (e : Sighting) (clock now : Moment)

@[simp] theorem spikes_activeWebhooks (p : String) :
    (w.activeWebhooks lookup p clock).2.spikes = w.spikes := rfl

@[simp] theorem spikes_activeGoals (p : String) :
    (w.activeGoals lookup p clock).2.spikes = w.spikes := rfl

/-- Reading the webhooks of a project does not change what is read of its goals. -/
theorem activeGoals_activeWebhooks (p : String) :
    ((w.activeWebhooks lookup p clock).2.activeGoals lookup p clock).1 =
      (w.activeGoals lookup p clock).1 := rfl

/-- What an event gives rise to when the webhooks of its project are known. -/
structure FansOut (hooks : List Webhook) (goalJobs spikeJobs : List Job)
    (spikes : Traffic.Detector Float) : Prop where
  /-- The goals cost their jobs when they cannot be read, and nothing else. -/
  goals : match (w.activeGoals lookup e.projectId clock).1 with
    | .error _ => goalJobs = []
    | .ok goals => GoalJobs stamp hooks e goals goalJobs
  /-- The event is counted exactly if a webhook is to be told about spikes. -/
  spikes : if hooks.any fun w => w.active && w.topics.contains .trafficSpike then
      SpikeJobs stamp hooks (w.spikes.record e.projectId clock now).1 spikeJobs ∧
        spikes = (w.spikes.record e.projectId clock now).2
    else spikeJobs = [] ∧ spikes = w.spikes

theorem goalOffers_fst (hooks : List Webhook) :
    (w.goalOffers lookup stamp hooks e clock).1 =
      match (w.activeGoals lookup e.projectId clock).1 with
      | .error _ => []
      | .ok goals =>
        Footfall.goalJobs stamp (Webhook.subscribers hooks .goalConversion) goals e := by
  rw [goalOffers]
  cases hsubscribers : Webhook.subscribers hooks .goalConversion with
  | nil =>
    -- nobody is to be told: there are no jobs, whatever the goals are
    cases (w.activeGoals lookup e.projectId clock).1 <;> simp [Footfall.goalJobs]
  | cons h r => rcases w.activeGoals lookup e.projectId clock with ⟨_ | goals, w'⟩ <;> rfl

theorem spikes_goalOffers (hooks : List Webhook) :
    (w.goalOffers lookup stamp hooks e clock).2.spikes = w.spikes := by
  have hspikes := w.spikes_activeGoals lookup clock e.projectId
  rw [goalOffers]
  split_ifs
  · rfl
  · rcases hgoals : w.activeGoals lookup e.projectId clock with ⟨_ | goals, w'⟩ <;>
      simpa [hgoals] using hspikes

theorem isEmpty_subscribers (hooks : List Webhook) (topic : Topic) :
    (Webhook.subscribers hooks topic).isEmpty =
      !(hooks.any fun w => w.active && w.topics.contains topic) := by
  rw [Bool.eq_iff_iff]
  simp [Webhook.subscribers, Webhook.subscribesTo]

/-- The spike subscribers get their jobs when the event is counted and completes a spike. -/
theorem spikeOffers_told (n : Nat) (hooks : List Webhook) :
    if hooks.any fun w => w.active && w.topics.contains .trafficSpike then
      SpikeJobs stamp hooks (w.spikes.record e.projectId clock now).1
          (w.spikeOffers stamp n hooks e clock now).1 ∧
        (w.spikeOffers stamp n hooks e clock now).2.spikes =
          (w.spikes.record e.projectId clock now).2
    else
      (w.spikeOffers stamp n hooks e clock now).1 = [] ∧
        (w.spikeOffers stamp n hooks e clock now).2.spikes = w.spikes := by
  rw [spikeOffers, isEmpty_subscribers]
  cases hooks.any fun w => w.active && w.topics.contains .trafficSpike with
  | false => exact ⟨rfl, rfl⟩
  | true =>
    rcases w.spikes.record e.projectId clock now with ⟨_ | spike, d⟩
    · exact ⟨.quiet, rfl⟩
    · exact ⟨spikeJobs_told stamp hooks n spike, rfl⟩

/-- **An event is told as the webhooks and goals that are read say.** It gives rise to no job and is
not counted if the webhooks cannot be read. -/
theorem offersAt_fanOut :
    match (w.activeWebhooks lookup e.projectId clock).1 with
    | .error _ =>
      (w.offersAt lookup stamp e clock now).1 = [] ∧
        (w.offersAt lookup stamp e clock now).2.spikes = w.spikes
    | .ok hooks => ∃ goalJobs spikeJobs,
      (w.offersAt lookup stamp e clock now).1 = goalJobs ++ spikeJobs ∧
        w.FansOut lookup stamp e clock now hooks goalJobs spikeJobs
          (w.offersAt lookup stamp e clock now).2.spikes := by
  have hspikes := w.spikes_activeWebhooks lookup clock e.projectId
  have hread := w.activeGoals_activeWebhooks lookup clock e.projectId
  rw [offersAt]
  rcases hhooks : w.activeWebhooks lookup e.projectId clock with ⟨f | hooks, w'⟩
  · rw [hhooks] at hspikes
    exact ⟨rfl, hspikes⟩
  · rw [hhooks] at hspikes hread
    have hgoals := w'.goalOffers_fst lookup stamp e clock hooks
    have hspikes' := w'.spikes_goalOffers lookup stamp e clock hooks
    rcases hoffers : w'.goalOffers lookup stamp hooks e clock with ⟨goalJobs, w''⟩
    rw [hoffers] at hgoals hspikes'
    have htold := w''.spikeOffers_told stamp e clock now goalJobs.length hooks
    rw [show w''.spikes = w.spikes from hspikes'.trans hspikes] at htold
    simp only [hoffers]
    refine ⟨goalJobs, _, rfl, ?_, htold⟩
    rw [← hread]
    cases hlist : (w'.activeGoals lookup e.projectId clock).1 with
    | error f => simpa [hlist] using hgoals
    | ok goals =>
      have hjobs : goalJobs =
          Footfall.goalJobs stamp (Webhook.subscribers hooks .goalConversion) goals e := by
        simpa [hlist] using hgoals
      rw [hjobs]
      exact goalJobs_told stamp hooks e goals

end Watcher

namespace Service

/-- **What an event is told to whom.** Let the webhooks of the project and its goals be what is read
through the caches at that moment.

* If the webhooks cannot be read, no job is offered and the event is not counted.
* Otherwise the jobs that are offered are those of the goals, in the order of the goals, and then
  those of the spike, in the order of the webhooks (`Watcher.FansOut`). Goals that cannot be read
  cost their jobs only. The event is counted exactly if an active webhook subscribes to spikes.
* Whatever the queue is, it takes the first of the jobs that it has room for, and their number is
  the result. The jobs are the same for every queue, and so is the rest of the service. -/
theorem observeAt_fanOut (s : Service) (o : Occasion) (now : Moment) (e : Sighting) :
    ∃ jobs,
      (match (s.watcher.activeWebhooks s.store.lookup e.projectId o.clock).1 with
        | .error _ => jobs = [] ∧ (s.observeAt o now e).2.watcher.spikes = s.watcher.spikes
        | .ok hooks => ∃ goalJobs spikeJobs, jobs = goalJobs ++ spikeJobs ∧
          s.watcher.FansOut s.store.lookup o.stamp e o.clock now hooks goalJobs spikeJobs
            (s.observeAt o now e).2.watcher.spikes) ∧
      ∀ q : JobQueue, ({ s with queue := q } : Service).observeAt o now e =
        ((jobs.take (q.capacity - q.jobs.length)).length,
          { (s.observeAt o now e).2 with
            queue := { q with jobs := q.jobs ++ jobs.take (q.capacity - q.jobs.length) } }) := by
  refine ⟨(s.watcher.offersAt s.store.lookup o.stamp e o.clock now).1,
    s.watcher.offersAt_fanOut s.store.lookup o.stamp e o.clock now, fun q => ?_⟩
  simp only [observeAt, JobQueue.offerAll_eq]

end Service

end Footfall
