import Footfall.Proofs.Settings
import Footfall.Proofs.Store
import Footfall.Proofs.Text.Blank
import Footfall.Service.Handle

/-!
# Who is given the figures of a project, and what they depend on

A figure is computed only for a request that presents the key of the project
(`Service.admits_of_figure`), and from the rows of that project alone: two stores with the same rows
of it (`Store.SameRows`) give the same events, counts and funnels, so the service gives the same
answer to every inquiry (`Service.SameProject.answer_eq`). Before the key is checked, nothing is
read but the record of the project (`Service.figure_eq_of_not_admits`).

`handle_figure` states this of the responses to a request.
-/

namespace Footfall

theorem Setback.eq_of_ofQuery {α : Type} {x : Except Http.QueryError α} {a : α}
    (h : ofQuery x = .ok a) : x = .ok a := by
  cases x with
  | error e => cases h
  | ok b => exact congrArg Except.ok (Except.ok.inj h)

/-- A request that is set back is not answered with success. -/
theorem Setback.status_response_ne {e : Setback} {response : Http.Response}
    (h : e.response = some response) : response.status ≠ 200 := by
  cases e with
  | refused cause =>
    obtain rfl := Option.some.inj h
    cases cause <;> simp [ServiceError.response, ServiceError.status, Http.Response.json,
      Http.Response.withHeaders]
  | unreadable message =>
    obtain rfl := Option.some.inj h
    simp [Http.Response.text]
  | outOfRange => cases h

/-! ## Figures -/

namespace Service

/-- What two services have in common in which a project is the same: its rows and, of the settings,
the interval of heartbeats. -/
structure SameProject (p : String) (s t : Service) : Prop where
  rows : s.store.SameRows p t.store
  heartbeat : s.settings.heartbeatSeconds = t.settings.heartbeatSeconds

namespace SameProject

variable {p : String} {s t : Service} (h : SameProject p s t)

include h

theorem eventsIn_eq (range : Timestamp × Timestamp) : s.eventsIn p range = t.eventsIn p range := by
  rw [eventsIn, eventsIn, h.rows.select_eq]

theorem report_eq (range : Timestamp × Timestamp) : s.report p range = t.report p range := by
  rw [report, report, h.eventsIn_eq, h.heartbeat]

theorem timeSeries_eq (filter : String) (now : Timestamp) :
    s.timeSeries p filter now = t.timeSeries p filter now := by
  simp only [timeSeries, h.rows.groupCount_eq]

theorem calendar_eq (today : Date) : s.calendar p today = t.calendar p today := by
  simp only [calendar, h.rows.groupCount_eq]

theorem funnel_eq (id : String) (range : Timestamp × Timestamp) :
    s.funnel p id range = t.funnel p id range := by
  simp only [funnel, h.rows.funnel?_eq, h.eventsIn_eq]

theorem goalConversions_eq (goalType matchValue : String) (range : Timestamp × Timestamp) :
    s.goalConversions p goalType matchValue range =
      t.goalConversions p goalType matchValue range := by
  simp only [goalConversions, h.eventsIn_eq]

theorem revenue_eq (range : Timestamp × Timestamp) : s.revenue p range = t.revenue p range := by
  simp only [revenue, h.eventsIn_eq]

/-- **What a project is told does not depend on others.** Every inquiry about a project has the same
answer in two services in which the project is the same. -/
theorem answer_eq (now : Timestamp) (inquiry : Inquiry) :
    s.answer p now inquiry = t.answer p now inquiry := by
  cases inquiry with
  | report range => simp only [answer, h.report_eq]
  | timeSeries filter => simp only [answer, h.timeSeries_eq]
  | calendar => simp only [answer, h.calendar_eq]
  | funnel id range => simp only [answer, h.funnel_eq]
  | goalConversions goalType matchValue range => simp only [answer, h.goalConversions_eq]
  | revenue range => simp only [answer, h.revenue_eq]
  | revenueByEvent range => simp only [answer, h.eventsIn_eq]
  | revenueBySource range => simp only [answer, h.eventsIn_eq]

end SameProject

/-! ## Keys -/

/-- The API key that a request presents, without the blanks around it: that of its header if it is
readable, and otherwise that of its query. -/
def presentedKey (r : Http.Request) : Option String :=
  (r.header? "x-api-key" <|> (r.parameters.optional keyParameter).toOption.join).map Text.trim

/-- There is a project with an identifier, and a request presents its API key. A blank key opens
nothing. -/
def Admits (s : Service) (p : String) (r : Http.Request) : Prop :=
  ∃ project, s.store.project? p = .ok (some project) ∧
    presentedKey r = some project.apiKey ∧ project.apiKey ≠ ""

variable {s t : Service} {p : String} {r : Http.Request} {segment : List Char} {f : Figure}

theorem authorize_eq_ok_iff {key : Option String} {project : Project} :
    s.authorize p key = .ok project ↔
      s.store.project? p = .ok (some project) ∧ key = some project.apiKey := by
  rw [authorize]
  cases hread : s.store.project? p with
  | error e => simp [Setback.ofStore, bind, Except.bind]
  | ok found =>
    cases found with
    | none => simp [Setback.ofStore, bind, Except.bind]
    | some q =>
      simp only [Setback.ofStore, bind, Except.bind, Except.ok.injEq, Option.some.injEq]
      split_ifs with hown
      · simp only [Except.ok.injEq]
        constructor
        · rintro rfl
          exact ⟨rfl, hown⟩
        · exact fun h => h.1
      · simp only [false_iff, not_and]
        rintro rfl
        exact hown

/-- The check of the key succeeds exactly for a request that is admitted. -/
theorem admits_iff {key : Option String} (hkey : r.parameters.optional keyParameter = .ok key) :
    s.Admits p r ↔ ∃ project, s.authorize p (apiKey r key) = .ok project := by
  have hpresented : presentedKey r = (r.header? "x-api-key" <|> key).map Text.trim := by
    rw [presentedKey, hkey]
    rfl
  simp only [Admits, authorize_eq_ok_iff, apiKey, Text.present_eq_some_iff, hpresented]

/-- Before the check of the key, nothing is read but the record of the project: without its key, the
outcome depends on nothing else. -/
theorem figure_eq_of_not_admits
    (hproject : ∀ id, readSegment segment = .ok id → s.store.project? id = t.store.project? id)
    (hnot : ∀ id, readSegment segment = .ok id → ¬ s.Admits id r) (now now' : Timestamp) :
    s.figure now r segment f = t.figure now' r segment f := by
  rw [figure, figure]
  refine bind_congr_ok fun id hid => bind_congr_ok fun key hkey => bind_congr_ok fun inquiry _ => ?_
  have hcheck : s.authorize id (apiKey r key) = t.authorize id (apiKey r key) := by
    rw [authorize, authorize, hproject id hid]
  rw [← hcheck]
  exact bind_congr_ok fun project hauthorize =>
    absurd ((admits_iff (Setback.eq_of_ofQuery hkey)).2 ⟨project, hauthorize⟩) (hnot id hid)

/-- A figure is computed only for a request that presents the key of the project. -/
theorem admits_of_figure {now : Timestamp} {v : Json.Value}
    (h : s.figure now r segment f = .ok v) :
    ∃ id, readSegment segment = .ok id ∧ s.Admits id r := by
  simp only [figure, bind_eq_ok_iff] at h
  obtain ⟨id, hid, key, hkey, inquiry, -, project, hproject, -⟩ := h
  exact ⟨id, hid, (admits_iff (Setback.eq_of_ofQuery hkey)).2 ⟨project, hproject⟩⟩

/-- A request that is admitted and whose query can be read is given the figure. -/
theorem figure_of_admits {now : Timestamp} {id : String} {key : Option String} {inquiry : Inquiry}
    (hid : readSegment segment = .ok id) (hkey : r.parameters.optional keyParameter = .ok key)
    (hinquiry : Inquiry.read f r.parameters = .ok inquiry) (h : s.Admits id r) :
    s.figure now r segment f = s.answer id now inquiry := by
  obtain ⟨project, hproject⟩ := (admits_iff hkey).1 h
  rw [figure, hid, hkey, hinquiry]
  simp only [Setback.ofQuery, bind, Except.bind, hproject]

/-- The same request for a figure has the same outcome at the same instant in two services in which
the project is the same. -/
theorem figure_eq_of_sameProject (h : ∀ id, readSegment segment = .ok id → SameProject id s t)
    (now : Timestamp) : s.figure now r segment f = t.figure now r segment f := by
  rw [figure, figure]
  refine bind_congr_ok fun id hid => bind_congr_ok fun key _ => bind_congr_ok fun inquiry _ => ?_
  have hsame := h id hid
  rw [authorize, authorize, hsame.rows.project, hsame.answer_eq]

/-! ## Responses -/

/-- The response to a request for a figure, apart from cross-origin access, by the outcome. -/
def figureResponse (r : Http.Request) (target : Route) (outcome : Except Setback Json.Value) :
    Option Http.Response :=
  if target.answers r.method then
    let response :=
      match outcome with
      | .ok v => some (.json 200 v)
      | .error e => e.response
    if r.method == "HEAD" then response.map withoutBody else response
  else some ((Http.Response.bare 405).withHeaders [("allow", target.methods)])

theorem handle_of_figure {policy : Http.OriginPolicy} {o : Occasion}
    (hmethod : r.method ≠ "OPTIONS") (hroute : Route.ofPath r.path = some (.figure segment f)) :
    (s.handle policy o r).1 =
      (figureResponse r (.figure segment f) (s.figure o.wall r segment f)).map fun a =>
        a.withHeaders (policy.headers (r.rawHeader? "origin")) := by
  have hserve : (s.serve o r (.figure segment f)).1 =
      match s.figure o.wall r segment f with
      | .ok v => some (.json 200 v)
      | .error e => e.response := by
    rw [serve]
    cases s.figure o.wall r segment f <;> rfl
  simp only [handle, beq_iff_eq, hmethod, if_false, route, hroute, figureResponse, ← hserve]
  split_ifs <;> rfl

/-- Only a figure is answered with success. -/
theorem exists_of_figureResponse {target : Route} {outcome : Except Setback Json.Value}
    {response : Http.Response} (h : figureResponse r target outcome = some response)
    (hstatus : response.status = 200) : ∃ v, outcome = .ok v := by
  cases outcome with
  | ok v => exact ⟨v, rfl⟩
  | error e =>
    exfalso
    simp only [figureResponse] at h
    split_ifs at h with hanswers hhead
    · obtain ⟨full, hfull, rfl⟩ := Option.map_eq_some_iff.1 h
      exact Setback.status_response_ne hfull hstatus
    · exact Setback.status_response_ne h hstatus
    · obtain rfl := Option.some.inj h
      simp [Http.Response.bare, Http.Response.withHeaders] at hstatus

/-- **Who is given the figures of a project, and what they depend on.** A request for any of the
figures, at the path of a project, is answered by any service as follows, unless it only asks
beforehand what it may send.

* The answer is a success only if there is a project with the identifier that the path gives, and
  the request presents its API key: that of its header if it is readable, and otherwise that of its
  query, without the blanks around it.
* If it does, and its query can be read, the answer is the figure that it asks for.
* If it does not, the answer is the same at any instant and in any other service that has the same
  record of the project, whatever events and funnels, and whatever else, are in it.
* The answer is the same at the same instant in any other service in which the project is the same:
  its record, its funnels, its events and the interval of heartbeats, whatever other projects
  contain. -/
theorem handle_figure {r : Http.Request} {segment : List Char} {f : Figure}
    (hmethod : r.method ≠ "OPTIONS") (hroute : Route.ofPath r.path = some (.figure segment f))
    (policy : Http.OriginPolicy) (s : Service) (o : Occasion) :
    (∀ response, (s.handle policy o r).1 = some response → response.status = 200 →
      ∃ id, readSegment segment = .ok id ∧ s.Admits id r) ∧
    (∀ id key inquiry, readSegment segment = .ok id →
      r.parameters.optional keyParameter = .ok key → Inquiry.read f r.parameters = .ok inquiry →
      s.Admits id r →
      (s.handle policy o r).1 =
        (figureResponse r (.figure segment f) (s.answer id o.wall inquiry)).map fun a =>
          a.withHeaders (policy.headers (r.rawHeader? "origin"))) ∧
    (∀ (t : Service) (o' : Occasion),
      (∀ id, readSegment segment = .ok id →
        s.store.project? id = t.store.project? id ∧ ¬ s.Admits id r) →
      (t.handle policy o' r).1 = (s.handle policy o r).1) ∧
    (∀ (t : Service) (o' : Occasion), o'.wall = o.wall →
      (∀ id, readSegment segment = .ok id → SameProject id s t) →
      (t.handle policy o' r).1 = (s.handle policy o r).1) := by
  simp only [handle_of_figure hmethod hroute]
  refine ⟨fun response hresponse hstatus => ?_, fun id key inquiry hid hkey hinquiry hadmits => ?_,
    fun t o' h => ?_, fun t o' hwall h => ?_⟩
  · obtain ⟨bare, hbare, rfl⟩ := Option.map_eq_some_iff.1 hresponse
    obtain ⟨v, hv⟩ := exists_of_figureResponse hbare hstatus
    exact admits_of_figure hv
  · rw [figure_of_admits hid hkey hinquiry hadmits]
  · rw [figure_eq_of_not_admits (fun id hid => (h id hid).1) (fun id hid => (h id hid).2)]
  · rw [hwall, figure_eq_of_sameProject h]

/-- The key of a project, with a blank before it, opens its report, which counts its one page view;
another key does not. Neither answer changes when another project is there with a funnel and an
event. -/
theorem handle_figure_right_and_wrong_key :
    let asking (key : String) : Http.Request :=
      { target := ⟨"/api/projects/p/report".toList, []⟩, headers := [("x-api-key", key)] }
    let view (projectId : String) : Event :=
      .bare projectId .pageview "/" "session" "visitor" ⟨0, 0⟩
    ∃ (s t : Service) (o : Occasion) (report : Report Float),
      s.store.projects = [⟨"p", "Site", "example.com", "k", none, ""⟩] ∧
      s.store.events = [view "p"] ∧
      t.store =
        { s.store with
          projects := s.store.projects ++ [⟨"q", "Shop", "example.org", "other", none, ""⟩]
          funnels := [⟨"f", "q", "Checkout", []⟩]
          events := s.store.events ++ [view "q"] } ∧
      report.totalEvents = 1 ∧ report.pageviews = 1 ∧
      (∃ response, (s.handle .any o (asking " k")).1 = some response ∧ response.status = 200 ∧
        response.body = .json report.toJson ∧ s.Admits "p" (asking " k") ∧
        (t.handle .any o (asking " k")).1 = some response) ∧
      ¬ s.Admits "p" (asking "other") ∧
        (t.handle .any o (asking "other")).1 = (s.handle .any o (asking "other")).1 := by
  intro asking view
  let store : Store :=
    { projects := [⟨"p", "Site", "example.com", "k", none, ""⟩], events := [view "p"] }
  obtain ⟨s, -, hstore⟩ : ∃ s : Service,
      withQueue (Settings.ofSalt "0123456789abcdef0123456789abcdef") Locator.blind (fun _ => none)
        store 8 = .ok s ∧ s.store = store := ⟨_, rfl, rfl⟩
  let t : Service :=
    { s with
      store :=
        { s.store with
          projects := s.store.projects ++ [⟨"q", "Shop", "example.org", "other", none, ""⟩]
          funnels := [⟨"f", "q", "Checkout", []⟩]
          events := s.store.events ++ [view "q"] } }
  have hsame : SameProject "p" s t :=
    ⟨⟨by simp [t, store, Store.project?, Store.guarded, hstore], by simp [t, store, hstore],
      by simp [t, view, Event.bare], Iff.rfl⟩, rfl⟩
  have hproject : s.store.project? "p" =
      .ok (some ⟨"p", "Site", "example.com", "k", none, ""⟩) := by
    rw [hstore]
    rfl
  have hadmits : s.Admits "p" (asking " k") := ⟨_, hproject, by decide +kernel, by decide⟩
  have hwrong : ¬ s.Admits "p" (asking "other") := by
    rintro ⟨project, hfound, hkey, -⟩
    obtain rfl := Option.some.inj (Except.ok.inj (hproject.symm.trans hfound))
    revert hkey
    decide +kernel
  have hsegment : readSegment ['p'] = .ok "p" := by
    rw [readSegment, show Text.decodePath ['p'] = some "p" by decide +kernel]
  have honly : ∀ id, readSegment ['p'] = .ok id → id = "p" :=
    fun id hid => (Except.ok.inj (hsegment.symm.trans hid)).symm
  have hroute : ∀ key, Route.ofPath (asking key).path = some (.figure ['p'] .report) :=
    fun key => show Route.ofPath "/api/projects/p/report".toList = _ by decide +kernel
  have hinquiry : Inquiry.read .report (asking " k").parameters = .ok (.report ⟨none, none⟩) := by
    rw [show (asking " k").parameters = [] by decide +kernel]
    rfl
  have hrange : TimeRange.resolve ⟨none, none⟩ ⟨0, 0⟩ = .ok (⟨-604800, 0⟩, ⟨0, 0⟩) := by
    decide +kernel
  have hevents : s.eventsIn "p" (⟨-604800, 0⟩, ⟨0, 0⟩) = .ok [view "p"] := by
    have hrows : s.store.rowsBetween "p" ⟨-604800, 0⟩ ⟨0, 0⟩ = [view "p"] := by
      rw [hstore]
      exact List.filter_cons_of_pos (by decide +kernel)
    have hperm := s.store.eventsBetween_perm "p" ⟨-604800, 0⟩ ⟨0, 0⟩
    rw [hrows] at hperm
    rw [eventsIn, Store.select, hperm.eq_singleton,
      Store.guarded_of_notMem (by simp [hstore, store])]
    rfl
  let report : Report Float :=
    .build "p" ⟨-604800, 0⟩ ⟨0, 0⟩ [view "p"] s.settings.heartbeatSeconds
  have hanswer : s.answer "p" ⟨0, 0⟩ (.report ⟨none, none⟩) = .ok report.toJson := by
    simp only [answer, hrange, Service.report, hevents, bind, Except.bind, pure, Except.pure,
      report]
  have hright := handle_figure (by decide) (hroute " k") .any s ⟨0, ⟨⟨0, 0⟩, fun _ => ""⟩⟩
  refine ⟨s, t, ⟨0, ⟨⟨0, 0⟩, fun _ => ""⟩⟩, report, by rw [hstore], by rw [hstore], rfl, rfl, rfl,
    ?_, hwrong, ?_⟩
  · have hresponse := hright.2.1 "p" none _ hsegment (by decide +kernel) hinquiry hadmits
    rw [show Occasion.wall _ = ⟨0, 0⟩ from rfl, hanswer] at hresponse
    have hother := hright.2.2.2 t _ rfl fun id hid => honly id hid ▸ hsame
    exact ⟨_, hresponse, rfl, rfl, hadmits, hother.trans hresponse⟩
  · exact (handle_figure (by decide) (hroute "other") .any s _).2.2.1 t _ fun id hid =>
      honly id hid ▸ ⟨hsame.rows.project, hwrong⟩

end Service

end Footfall
