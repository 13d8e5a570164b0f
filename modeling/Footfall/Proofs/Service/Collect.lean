import Mathlib.Data.List.Basic
import Footfall.Proofs.Settings
import Footfall.Proofs.Store
import Footfall.Service.Handle

/-!
# The gates of collecting

A request to collect is answered by the first gate that is closed for it: the limits of its client
and its key, the project of the key, the length of its body, and what the body says
(`Service.gates`). Only a request that passes all of them is stored.

* `status_accept` and `status_collect` say which answer a request gets.
* `admission_collect` says that the admission control decides once about a request with a key, and
  never about one without.
* `accept_cases` says what can happen behind the admission. `Frame` is what collecting does to the
  store, and `frame_collect` derives it.
* `SameFront.collect_fst` says what an answer depends on. What the service knows of webhooks and
  goals, and the jobs that wait, do not occur in it.

`handle_collect` states this of the responses that the service gives.
-/

namespace Footfall

/-! ## The store -/

namespace Store

variable {s : Store}

theorem projectOfKey?_of_notMem (h : StorePart.projects ∉ s.failing) (key : String) :
    s.projectOfKey? key = .ok (s.projects.find? fun p => p.apiKey == key) :=
  guarded_of_notMem h _

theorem find?_of_projectOfKey? {key : String} {o : Option Project}
    (h : s.projectOfKey? key = .ok o) : (s.projects.find? fun p => p.apiKey == key) = o :=
  eq_of_guarded h

/-- Storing an event adds it under the next number, or changes nothing. -/
theorem insert_eq (s : Store) (e : Event) :
    s.insert e =
      if StorePart.events ∈ s.failing then (.error ⟨⟩, s)
      else (.ok (s.latestId + 1 : Nat), s.addEvent e) := by
  simp [insert]

end Store

/-! ## Answers -/

/-- The status of the answer to a request to collect. -/
def collectStatus : Except ServiceError Unit → Nat
  | .ok () => 202
  | .error e => e.status

/-- The answer to a request to collect. -/
def collectResponse : Except ServiceError Unit → Http.Response
  | .ok () => accepted
  | .error e => e.response

theorem status_collectResponse (a : Except ServiceError Unit) :
    (collectResponse a).status = collectStatus a := by
  cases a <;> rfl

/-- Only a request that is accepted has the status of accepted ones. -/
theorem collectStatus_eq_iff {a : Except ServiceError Unit} :
    collectStatus a = 202 ↔ a = .ok () := by
  rcases a with e | ⟨⟩
  · cases e <;> simp [collectStatus, ServiceError.status]
  · simp [collectStatus]

namespace Http.Request

/-- Is this a request to collect an event? -/
def IsCollect (r : Http.Request) : Prop := r.method = "POST" ∧ r.path = "/api/collect".toList

/-- A posted body with a key in the header. -/
def posted (key body : String) : Http.Request :=
  { method := "POST"
    target := ⟨"/api/collect".toList, []⟩
    headers := [("x-api-key", key)]
    body }

theorem isCollect_posted (key body : String) : (posted key body).IsCollect := ⟨rfl, rfl⟩

end Http.Request

namespace Service

variable {s t : Service} {o : Occasion} {r : Http.Request} {key : String}

theorem serve_collect :
    s.serve o r .collect = (some (collectResponse (s.collect o r).1), (s.collect o r).2) := by
  rw [serve]
  rcases s.collect o r with ⟨e | ⟨⟩, t⟩ <;> rfl

theorem route_of_isCollect (h : r.IsCollect) : s.route o r = s.serve o r .collect := by
  have hroute : Route.ofPath r.path = some .collect := by
    rw [h.2]
    decide
  simp [route, hroute, h.1, Route.answers]

/-- A request to collect is answered by collecting, apart from the headers for other origins. -/
theorem handle_of_isCollect (h : r.IsCollect) (policy : Http.OriginPolicy) :
    s.handle policy o r =
      (some ((collectResponse (s.collect o r).1).withHeaders
        (policy.headers (r.rawHeader? "origin"))), (s.collect o r).2) := by
  simp [handle, h.1, route_of_isCollect h, serve_collect]

/-! ## Gates -/

/-- Can a body be read as a valid payload? -/
def isReadable (body : String) : Bool := (Payload.parse body).any fun p => p.validate.isOk

/-- The gates for a request with a key, in order: whether one is closed, and the status of the
answer in that case. -/
def gates (s : Service) (o : Occasion) (r : Http.Request) (key : String) : List (Bool × Nat) :=
  [ (decide ((s.admission.check (clientAddress r) key o.clock).1 ≠ .allowed), 429),
    (s.store.projects.all fun p => p.apiKey != key, 401),
    (decide (maxBodyBytes < Text.byteLength r.body), 413),
    (!isReadable r.body, 400) ]

/-- The status at the first closed gate, and that of an accepted request if all are open. -/
def firstClosed (gates : List (Bool × Nat)) : Nat := ((gates.find? (·.1)).map (·.2)).getD 202

theorem firstClosed_cons (closed : Bool) (status : Nat) (gates : List (Bool × Nat)) :
    firstClosed ((closed, status) :: gates) = if closed then status else firstClosed gates := by
  cases closed <;> rfl

/-! ## Behind the admission -/

/-- A body that cannot be accepted is refused for its length before it is read. -/
theorem status_readPayload (body : String) :
    (match readPayload body with
      | .ok _ => 202
      | .error e => e.status) =
      firstClosed
        [(decide (maxBodyBytes < Text.byteLength body), 413), (!isReadable body, 400)] := by
  rw [readPayload, firstClosed_cons, firstClosed_cons, isReadable]
  by_cases hlong : maxBodyBytes < Text.byteLength body
  · simp [hlong, ServiceError.status]
  · cases hparse : Payload.parse body with
    | none => simp [hlong, ServiceError.status]
    | some p =>
      cases hvalid : p.validate with
      | error e =>
        simp [hlong, hvalid, Except.isOk, Except.toBool, ServiceError.ofPayload,
          ServiceError.ofDomain, ServiceError.status]
      | ok u => simp [hlong, hvalid, Except.isOk, Except.toBool, firstClosed]

theorem record_eq (s : Service) (o : Occasion) (e : Event) :
    s.record o e =
      if StorePart.events ∈ s.store.failing then (.error (.ofStore ⟨⟩), s)
      else (.ok (),
        (({ s with store := s.store.addEvent e } : Service).observe o e.sighting).2) := by
  rw [record, Store.insert_eq]
  split_ifs <;> rfl

/-- What collecting does to the store: an event of the project that the key belongs to is added if
the request is accepted, and nothing is changed if it is not. -/
structure Frame (s t : Service) (key : String) (a : Except ServiceError Unit) : Prop where
  accepted : a = .ok () → ∃ project e,
    (s.store.projects.find? fun p => p.apiKey == key) = some project ∧
      e.projectId = project.id ∧
      t.store =
        { s.store with events := s.store.events ++ [e], latestId := s.store.latestId + 1 }
  refused : a ≠ .ok () → t.store = s.store

theorem Frame.of_error (s : Service) (key : String) (e : ServiceError) :
    Frame s s key (.error e) :=
  ⟨fun h => by simp at h, fun _ => rfl⟩

/-- Behind the admission a request is refused and changes nothing, or an event of the project that
the key belongs to is stored and the detection runs for it. -/
theorem accept_cases (s : Service) (o : Occasion) (r : Http.Request) (key : String) :
    (∃ e, s.accept o r key = (.error e, s)) ∨
      ∃ project e, s.store.projectOfKey? key = .ok (some project) ∧ e.projectId = project.id ∧
        s.accept o r key = (.ok (),
          (({ s with store := s.store.addEvent e } : Service).observe o e.sighting).2) := by
  rw [accept]
  cases s.store.projectOfKey? key with
  | error f => exact .inl ⟨_, rfl⟩
  | ok found =>
    cases found with
    | none => exact .inl ⟨_, rfl⟩
    | some project =>
      cases readPayload r.body with
      | error e => exact .inl ⟨e, rfl⟩
      | ok p =>
        simp only [record_eq]
        split_ifs
        · exact .inl ⟨_, rfl⟩
        · exact .inr ⟨project, _, rfl, rfl, rfl⟩

theorem frame_accept : Frame s (s.accept o r key).2 key (s.accept o r key).1 := by
  obtain ⟨e, h⟩ | ⟨project, e, hproject, hown, h⟩ := s.accept_cases o r key
  · rw [h]
    exact Frame.of_error ..
  · rw [h]
    exact ⟨fun _ => ⟨project, { e with id := s.store.latestId + 1 },
        Store.find?_of_projectOfKey? hproject, hown, rfl⟩,
      fun hne => absurd rfl hne⟩

theorem admission_accept : (s.accept o r key).2.admission = s.admission := by
  obtain ⟨e, h⟩ | ⟨project, e, -, -, h⟩ := s.accept_cases o r key
  · rw [h]
  · rw [h]
    rfl

/-- A request behind the admission is answered by the first closed gate that is left. -/
theorem status_accept (hprojects : StorePart.projects ∉ s.store.failing)
    (hevents : StorePart.events ∉ s.store.failing) :
    collectStatus (s.accept o r key).1 =
      firstClosed
        [(s.store.projects.all fun p => p.apiKey != key, 401),
          (decide (maxBodyBytes < Text.byteLength r.body), 413), (!isReadable r.body, 400)] := by
  rw [accept, Store.projectOfKey?_of_notMem hprojects, firstClosed_cons, ← status_readPayload]
  cases hfind : s.store.projects.find? fun p => p.apiKey == key with
  | none =>
    have hall : (s.store.projects.all fun p => p.apiKey != key) = true := by
      simpa using hfind
    rw [hall]
    rfl
  | some project =>
    have hall : (s.store.projects.all fun p => p.apiKey != key) = false := by
      rw [List.all_eq_false]
      exact ⟨project, List.mem_of_find?_eq_some hfind, by simpa using List.find?_some hfind⟩
    rw [hall]
    cases hbody : readPayload r.body with
    | error e => rfl
    | ok p => simp [record_eq, hevents, collectStatus]

/-! ## The whole of collecting -/

theorem collect_of_keyless (h : collectKey r = none) :
    s.collect o r = (.error .unauthorized, s) := by
  rw [collect, h]

/-- The service after the admission control decided about a request under a key. -/
def admitting (s : Service) (o : Occasion) (r : Http.Request) (key : String) : Service :=
  { s with admission := (s.admission.check (clientAddress r) key o.clock).2 }

theorem collect_of_key (hkey : collectKey r = some key) :
    s.collect o r =
      match (s.admission.check (clientAddress r) key o.clock).1 with
      | .exceeded kind _ limit => (.error (.rateLimited kind limit), s.admitting o r key)
      | .allowed => (s.admitting o r key).accept o r key := by
  simp only [collect, hkey, admitting]
  rcases s.admission.check (clientAddress r) key o.clock with ⟨_ | ⟨kind, i, limit⟩, c⟩ <;> rfl

/-- The admission control decides once about a request with a key. -/
theorem admission_collect (hkey : collectKey r = some key) :
    (s.collect o r).2.admission = (s.admission.check (clientAddress r) key o.clock).2 := by
  rw [collect_of_key hkey]
  split
  · rfl
  · rw [admission_accept]
    rfl

theorem frame_collect (hkey : collectKey r = some key) :
    Frame s (s.collect o r).2 key (s.collect o r).1 := by
  rw [collect_of_key hkey]
  split
  · exact ⟨fun hok => by simp at hok, fun _ => rfl⟩
  · have hframe : Frame (s.admitting o r key) _ key _ := frame_accept (o := o) (r := r)
    exact ⟨hframe.accepted, hframe.refused⟩

/-- A request with a key is answered by the first closed gate. -/
theorem status_collect (hkey : collectKey r = some key)
    (hprojects : StorePart.projects ∉ s.store.failing)
    (hevents : StorePart.events ∉ s.store.failing) :
    collectStatus (s.collect o r).1 = firstClosed (s.gates o r key) := by
  have hrest : collectStatus ((s.admitting o r key).accept o r key).1 = _ :=
    status_accept hprojects hevents
  rw [gates, firstClosed_cons, collect_of_key hkey]
  cases (s.admission.check (clientAddress r) key o.clock).1 with
  | exceeded kind i limit => rfl
  | allowed => exact hrest

/-! ## What an answer depends on -/

/-- Two services that are the same to a request to collect: in their admission control and projects,
and in whether they can read projects and store events. -/
structure SameFront (s t : Service) : Prop where
  admission : s.admission = t.admission
  projects : s.store.projects = t.store.projects
  projects_fail : StorePart.projects ∈ s.store.failing ↔ StorePart.projects ∈ t.store.failing
  events_fail : StorePart.events ∈ s.store.failing ↔ StorePart.events ∈ t.store.failing

theorem SameFront.projectOfKey?_eq (h : SameFront s t) (key : String) :
    s.store.projectOfKey? key = t.store.projectOfKey? key := by
  simp [Store.projectOfKey?, Store.guarded, h.projects, h.projects_fail]

theorem SameFront.accept_fst (h : SameFront s t) : (s.accept o r key).1 = (t.accept o r key).1 := by
  rw [accept, accept, h.projectOfKey?_eq]
  cases t.store.projectOfKey? key with
  | error f => rfl
  | ok found =>
    cases found with
    | none => rfl
    | some project =>
      cases readPayload r.body with
      | error e => rfl
      | ok p =>
        simp only [record_eq, h.events_fail]
        split_ifs <;> rfl

theorem SameFront.collect_fst (h : SameFront s t) : (s.collect o r).1 = (t.collect o r).1 := by
  cases hkey : collectKey r with
  | none => rw [collect_of_keyless hkey, collect_of_keyless hkey]
  | some key =>
    have hadmitting : SameFront (s.admitting o r key) (t.admitting o r key) :=
      ⟨by rw [admitting, admitting, h.admission], h.projects, h.projects_fail, h.events_fail⟩
    rw [collect_of_key hkey, collect_of_key hkey, h.admission]
    split
    · rfl
    · exact hadmitting.accept_fst

/-! ## Responses -/

/-- **The gates of collecting.** The service gives a response to every request to collect. Without a
key it is 401, and the admission control and the store stay as they are. With a key the admission
control decides once, and unless the store fails, the response is the one of the first closed gate.
A response 202 means that the store has one event more, which belongs to the project of the key; any
other response, that the store is as it was. All services that are the same to a request to collect
respond alike. -/
theorem handle_collect (h : r.IsCollect) (policy : Http.OriginPolicy) (s : Service) (o : Occasion) :
    ∃ response, (s.handle policy o r).1 = some response ∧
      (collectKey r = none →
        response.status = 401 ∧ (s.handle policy o r).2.admission = s.admission ∧
          (s.handle policy o r).2.store = s.store) ∧
      (∀ key, collectKey r = some key →
        (s.handle policy o r).2.admission =
            (s.admission.check (clientAddress r) key o.clock).2 ∧
          (StorePart.projects ∉ s.store.failing → StorePart.events ∉ s.store.failing →
            response.status = firstClosed (s.gates o r key))) ∧
      (response.status = 202 → ∃ key project e, collectKey r = some key ∧
        (s.store.projects.find? fun p => p.apiKey == key) = some project ∧
        e.projectId = project.id ∧
        (s.handle policy o r).2.store =
          { s.store with events := s.store.events ++ [e], latestId := s.store.latestId + 1 }) ∧
      (response.status ≠ 202 → (s.handle policy o r).2.store = s.store) ∧
      ∀ t : Service, SameFront s t → (t.handle policy o r).1 = some response := by
  rw [handle_of_isCollect h]
  refine ⟨_, rfl, ?_⟩
  rw [Http.Response.withHeaders, status_collectResponse, collectStatus_eq_iff, ne_eq,
    collectStatus_eq_iff]
  refine ⟨fun hkey => ?_, fun key hkey => ⟨admission_collect hkey, status_collect hkey⟩,
    fun hok => ?_, fun hne => ?_, fun t ht => ?_⟩
  · rw [collect_of_keyless hkey]
    exact ⟨rfl, rfl, rfl⟩
  · cases hkey : collectKey r with
    | none =>
      rw [collect_of_keyless hkey] at hok
      simp at hok
    | some key =>
      obtain ⟨project, e, hproject, hown, hstore⟩ := (frame_collect hkey).accepted hok
      exact ⟨key, project, e, rfl, hproject, hown, hstore⟩
  · cases hkey : collectKey r with
    | none => rw [collect_of_keyless hkey]
    | some key => exact (frame_collect hkey).refused hne
  · rw [handle_of_isCollect h, ht.collect_fst, ← status_collectResponse]
    rfl

/-- A service with one project accepts a page view under the key of the project, also when the
webhooks and goals cannot be looked up. A body that cannot be read is refused for its key if that is
unknown. -/
theorem handle_collect_known_and_unknown_key :
    ∃ (s : Service) (o : Occasion) (view unread : Http.Request),
      withQueue (Settings.ofSalt "0123456789abcdef0123456789abcdef") Locator.blind
          (fun _ => none) { projects := [⟨"p", "Site", "example.com", "k", none, ""⟩] } 8 = .ok s ∧
        view = .posted "k" "\x7b\"type\":\"pageview\",\"path\":\"/\",\"sessionId\":\"s\"\x7d" ∧
        unread = .posted "unknown" "page" ∧
        (∃ response e, (s.handle .any o view).1 = some response ∧ response.status = 202 ∧
          e.projectId = "p" ∧
          (s.handle .any o view).2.store = { s.store with events := [e], latestId := 1 } ∧
          (({ s with store := { s.store with failing := [.webhooks, .goals] } } : Service).handle
            .any o view).1 = some response) ∧
        ∃ response, (s.handle .any o unread).1 = some response ∧ response.status = 401 ∧
          (s.handle .any o unread).2.store = s.store := by
  obtain ⟨s, hnew, hstore, hadmission⟩ : ∃ s : Service,
      withQueue (Settings.ofSalt "0123456789abcdef0123456789abcdef") Locator.blind
          (fun _ => none) { projects := [⟨"p", "Site", "example.com", "k", none, ""⟩] } 8 = .ok s ∧
        s.store = { projects := [⟨"p", "Site", "example.com", "k", none, ""⟩] } ∧
        s.admission = .new 100 1000 := ⟨_, rfl, rfl, rfl⟩
  have hprojects : StorePart.projects ∉ s.store.failing := by simp [hstore]
  have hevents : StorePart.events ∉ s.store.failing := by simp [hstore]
  refine ⟨s, ⟨0, ⟨⟨0, 0⟩, fun _ => ""⟩⟩, _, _, hnew, rfl, rfl, ?_, ?_⟩
  · have hkey : collectKey (.posted "k"
        "\x7b\"type\":\"pageview\",\"path\":\"/\",\"sessionId\":\"s\"\x7d") = some "k" := by
      decide +kernel
    obtain ⟨response, hresponse, -, hgates, hadded, -, hsame⟩ := handle_collect
      (Http.Request.isCollect_posted "k"
        "\x7b\"type\":\"pageview\",\"path\":\"/\",\"sessionId\":\"s\"\x7d")
      .any s ⟨0, ⟨⟨0, 0⟩, fun _ => ""⟩⟩
    have hstatus : response.status = 202 := by
      rw [(hgates "k" hkey).2 hprojects hevents, gates, hstore, hadmission]
      decide +kernel
    obtain ⟨key, project, e, hkey', hproject, hown, hadd⟩ := hadded hstatus
    obtain rfl := Option.some.inj (hkey.symm.trans hkey')
    rw [hstore] at hproject
    obtain rfl := Option.some.inj hproject
    exact ⟨response, e, hresponse, hstatus, hown, by simpa [hstore] using hadd,
      hsame _ ⟨rfl, rfl, by simp [hstore], by simp [hstore]⟩⟩
  · obtain ⟨response, hresponse, -, hgates, -, hsame, -⟩ := handle_collect
      (Http.Request.isCollect_posted "unknown" "page") .any s ⟨0, ⟨⟨0, 0⟩, fun _ => ""⟩⟩
    have hstatus : response.status = 401 := by
      rw [(hgates "unknown" (by decide +kernel)).2 hprojects hevents, gates, hstore, hadmission]
      decide +kernel
    exact ⟨response, hresponse, hstatus, hsame (by simp [hstatus])⟩

end Service

end Footfall
