import Meridian.Api.Chat
import Meridian.Api.SessionTable
import Meridian.Autonomy.Polls

/-!
# Chat requests

`post_chat` of `backend/app/api/routes/chat.py` with all that it stores: the session is saved up to
three times, and a request for a background refresh creates a job, prepares its result and starts
it. The checkpoint file that `seed_autonomy_run` writes is left out.

## Main definitions

* `Meridian.Api.Chat.Post`: a request with all that it depends on.
* `Meridian.Api.Chat.admission`: the checks of the identity and of the session.
* `Meridian.Api.Chat.postChat`: the request.
* `Meridian.Api.Chat.LeavesNoTrace`: a request that raises leaves no trace.

## Main results

* `Meridian.Api.Chat.view_postChat`: an admitted request is a step of the sessions.
* `Meridian.Api.Chat.leaves_no_trace_iff`: exactly when a request leaves no trace.
* `Meridian.Api.Chat.failed_request_leaves_job`: a request that does.
-/

namespace Meridian.Api

open Foundations Db Tools Responses Jobs Autonomy

/-! ### The identity -/

/-- What stands for the identity in the state of a request. -/
inductive StateIdentity
  | none
  | trusted (identity : TrustedIdentity)
  | dict (fields : List (String × PyValue))
  | other

/-- `identity_from_request_state`. -/
def identityFromRequestState (py : Python) :
    StateIdentity → Except Failure (Option TrustedIdentity)
  | .none => .ok none
  | .trusted identity => .ok (some identity)
  | .dict fields =>
    let brokerId := (fields.lookup "broker_id").getD .none
    let officeId := (fields.lookup "office_id").getD .none
    let role := (fields.lookup "role").getD .none
    if brokerId.truthy && officeId.truthy && role.truthy then
      .ok (some ⟨brokerId.toText py, officeId.toText py, role.toText py⟩)
    else .error (.http 503 "server auth context unavailable")
  | .other => .error (.http 503 "server auth context unavailable")

namespace Chat

/-- What the job store reads of an envelope. -/
def envelopeReader : PayloadReader Json where
  responseId envelope := (envelope.get? "response_id").map Json.toStr
  summary envelope := ((envelope.get? "summary").map Json.toStr).getD
    "Background refresh completed for Memphis exceptions."

/-- The settings of the application and its parameters. -/
structure App where
  py : Python
  sql : Sqlite
  /-- `app_env`, stripped and in lower case. -/
  appEnv : String
  memphisOfficeId : String
  service : ServiceConfig
  runningAutonomyMaxSteps : ℤ
  completionRefreshPolls : ℤ

/-- The job store of the application. -/
def App.jobs (app : App) : Config Json := ⟨envelopeReader, app.completionRefreshPolls⟩

/-- The times of the writes. -/
structure WriteTimes where
  saved : String
  created : String
  seeded : String
  prepared : String
  pendingSaved : String
  bound : String
  started : String
  finalized : String

/-- A request with all that it depends on: what stands for its identity, the brokers of an office
with the role `broker`, the database that it reads, and what it draws and reads from the clock. -/
structure Post where
  request : ChatRequest
  currentModule : String
  stateIdentity : StateIdentity
  identityHeaders : List (Option String)
  brokersForOffice : String → List BrokerRow
  db : Database
  now : UtcTime
  token : AccessToken
  readNow : UtcTime
  draws : Draws
  times : WriteTimes

/-- `_validated_trusted_identity`. -/
def validatedTrustedIdentity (brokersForOffice : String → List BrokerRow)
    (identity : TrustedIdentity) : Except Failure TrustedIdentity := do
  require (identity.role = "broker") 403 "unsupported actor role"
  require (identity.brokerId ∈ (brokersForOffice identity.officeId).map BrokerRow.brokerId) 403
    "unknown auth context"
  return identity

/-- `_trusted_chat_identity`. -/
def trustedChatIdentity (app : App) (post : Post) : Except Failure TrustedIdentity := do
  match ← identityFromRequestState app.py post.stateIdentity with
  | some identity => validatedTrustedIdentity post.brokersForOffice identity
  | none =>
    require (post.identityHeaders.all Option.isNone) 403 "untrusted auth context"
    require (app.appEnv ∈ ["development", "dev", "local", "test", "testing"]) 503
      "server auth context unavailable"
    match post.brokersForOffice app.memphisOfficeId with
    | [broker] =>
      validatedTrustedIdentity post.brokersForOffice ⟨broker.brokerId, broker.officeId, broker.role⟩
    | _ => .error (.http 503 "server auth context unavailable")

/-! ### The stores -/

/-- How a request raises: an `HTTPException` or the `ValueError` of the builder, an error of a read,
or the error of an `INSERT` whose key is taken. -/
inductive ChatError
  | failure (failure : Failure)
  | read (error : ReadError)
  | integrity

/-- The sessions, the counters of session ids by date, and the jobs. -/
structure Stores (F : Type) where
  sessions : SessionTable
  counters : String → ℕ
  jobs : JobTable Json (Loaded F)

variable {F : Type}

/-- The stores as far as `_session_state_for_request` reads them. -/
def Stores.view (stores : Stores F) : SessionStore where
  sessions id := (stores.sessions.lookup id).map (·.toSessionState)
  counters := stores.counters

/-- `get_session`. -/
def Stores.getSession (stores : Stores F) (sessionId : String) : Option ChatSession :=
  (stores.sessions.lookup sessionId).map (·.toChatSession)

/-- `save_session`. -/
def Stores.save (stores : Stores F) (session : ChatSession) (now : String) : Stores F :=
  { stores with sessions := saveSession stores.sessions session now }

/-- `next_session_id`, if the request asks for it. -/
def Stores.count (stores : Stores F) (post : Post) : Stores F :=
  if post.request.sessionId.isNone then
    { stores with
      counters := Function.update stores.counters (stamp post.now)
        (stores.counters (stamp post.now) + 1) }
  else stores

/-- A call of the job store. -/
def Stores.call (app : App) (stores : Stores F) (now : String) (call : JobCall Json (Loaded F)) :
    Stores F :=
  { stores with jobs := (callJob app.jobs stores.jobs now call).1 }

/-! ### The parts of a request -/

/-- The checks of the identity and of the session, up to the session to save. -/
def admission (app : App) (stores : Stores F) (post : Post) :
    Except Failure (TrustedIdentity × ChatSession) := do
  let identity ← trustedChatIdentity app post
  let existing := post.request.sessionId.bind stores.getSession
  let session ← orRaise
    (sessionStateForRequest app.py.lower stores.view post.request identity post.now post.token) 404
    "unknown session"
  return (identity,
    { session with
      currentModule := post.currentModule
      lastResponseId := existing.bind ChatSession.lastResponseId
      lastJobId := existing.bind ChatSession.lastJobId })

/-- The arguments of `create_job`. -/
def newJob (session : ChatSession) : NewJob where
  sessionId := session.sessionId
  brokerId := session.brokerId
  officeId := session.officeId
  progressMessage := "Background refresh queued for Memphis exceptions."
  retryAllowed := true

/-- `seed_autonomy_run`, if `is_eligible_for_autonomy`. -/
def seedAutonomyRun (app : App) (post : Post) : Option AutonomyJobMetadata :=
  if app.service.isEnabled &&
      !mentions ["book", "confirm", "approve", "reject"] (app.py.lower post.request.prompt) then
    some
      { mode := .pollDriven
        taskKind := .asyncReadRefresh
        checkpointId := post.draws.jobId ++ ":seed"
        stepIndex := 0
        stepBudget := app.runningAutonomyMaxSteps
        lastControllerAction := "seed" }
  else none

/-- `build_response_envelope`. -/
def build (payload : List (String × Json)) : Except ChatError Json :=
  (buildResponseEnvelope payload).mapError fun message => .failure (.valueError message)

/-- What is read for the request. -/
def Post.read (app : App) (post : Post) (identity : TrustedIdentity) (session : ChatSession) :
    Except ReadError Json :=
  readResultForRequest ⟨app.py, app.sql, post.readNow⟩ post.db post.request.prompt
    session.toSessionState identity

/-- The envelope of the result of a read. -/
def buildReadResult (app : App) (post : Post) (identity : TrustedIdentity) (session : ChatSession)
    (jobId : Option String) (readings : Readings) : Except ChatError Json := do
  let readResult ← (post.read app identity session).mapError .read
  build (readResultPayload session.toSessionState readResult jobId readings)

/-- `built_payload["response_id"]`. -/
def responseIdOf (envelope : Json) : String := (envelope.getD "response_id").toStr

/-- `built_payload.get("job_id")`, if it is not empty. -/
def jobIdOf (envelope : Json) : Option String :=
  (envelope.getD "job_id").toStr?.filter (· ≠ "")

/-- The session that a request saves last. -/
def finalized (stored : ChatSession) (envelope : Json) : ChatSession :=
  { stored with
    lastResponseId := some (responseIdOf envelope)
    lastJobId := (jobIdOf envelope).or stored.lastJobId }

/-- What a request does once it has its answer: it binds and starts its job, if it has one, and
saves the session. -/
def finish (app : App) (stores : Stores F) (post : Post) (session : ChatSession) (envelope : Json) :
    Stores F :=
  let stores :=
    match jobIdOf envelope with
    | none => stores
    | some jobId =>
      (stores.call app post.times.bound
        (.bindPendingResponse jobId (responseIdOf envelope))).call app post.times.started
          (.operate jobId (.startJob "Background refresh running for Memphis exceptions."))
  stores.save (finalized ((stores.getSession session.sessionId).getD session) envelope)
    post.times.finalized

/-! ### Requests -/

/-- What a request does after its first save if it is not for a background refresh. -/
def postRead (app : App) (stores : Stores F) (post : Post) (identity : TrustedIdentity)
    (session : ChatSession) : Except ChatError Json × Stores F :=
  match buildReadResult app post identity session none post.draws.answer with
  | .error error => (.error error, stores)
  | .ok envelope => (.ok envelope, finish app stores post session envelope)

/-- A new job with the metadata of its autonomy run, if it has one. -/
def seeded (app : App) (stores : Stores F) (post : Post) : Stores F :=
  match seedAutonomyRun app post with
  | none => stores
  | some metadata =>
    stores.call app post.times.seeded
      (.updateAutonomyMetadata post.draws.jobId metadata.toDict false)

/-- What a request for a background refresh does once its job is there. -/
def postCreated (app : App) (stores : Stores F) (post : Post) (identity : TrustedIdentity)
    (session : ChatSession) : Except ChatError Json × Stores F :=
  let jobId := post.draws.jobId
  match buildReadResult app post identity session (some jobId) post.draws.prepared with
  | .error error => (.error error, stores)
  | .ok prepared =>
    let stores := stores.call app post.times.prepared (.prepareResult jobId prepared)
    let session := { session with lastJobId := some jobId }
    let stores := stores.save session post.times.pendingSaved
    match build (pendingPayload session.toSessionState jobId post.draws.jobPollToken
      post.draws.answer) with
    | .error error => (.error error, stores)
    | .ok envelope => (.ok envelope, finish app stores post session envelope)

/-- What a request for a background refresh does after its first save. -/
def postRefresh (app : App) (stores : Stores F) (post : Post) (identity : TrustedIdentity)
    (session : ChatSession) : Except ChatError Json × Stores F :=
  match callJob app.jobs stores.jobs post.times.created
      (.createJob post.draws.jobId post.draws.jobPollToken (newJob session)) with
  | (_, .raised) => (.error .integrity, stores)
  | (jobs, _) =>
    postCreated app (seeded app { stores with jobs := jobs } post) post identity session

/-- `post_chat`: what it returns or raises, and the stores that it leaves. -/
def postChat (app : App) (stores : Stores F) (post : Post) : Except ChatError Json × Stores F :=
  match admission app stores post with
  | .error failure => (.error (.failure failure), stores)
  | .ok (identity, session) =>
    let stores := (stores.count post).save session post.times.saved
    if isAsyncRefreshRequest app.py.lower post.request.prompt then
      postRefresh app stores post identity session
    else postRead app stores post identity session

/-! ### The property and the condition -/

/-- The row of the named session, the set of sessions and the set of jobs are the same. -/
structure SameTables (request : ChatRequest) (stores stores' : Stores F) : Prop where
  row : ∀ id ∈ request.sessionId, stores'.sessions.lookup id = stores.sessions.lookup id
  sessions : stores'.sessions.keys = stores.sessions.keys
  jobs : stores'.jobs.keys = stores.jobs.keys

/-- If the request raises, it leaves no trace. -/
def LeavesNoTrace (app : App) (stores : Stores F) (post : Post) : Prop :=
  ∀ error, (postChat app stores post).1 = .error error →
    SameTables post.request stores (postChat app stores post).2

/-- The read returns, and the contract takes the session and what is shown. -/
structure Answerable (app : App) (post : Post) (identity : TrustedIdentity)
    (session : ChatSession) : Prop where
  read : ∃ readResult, post.read app identity session = .ok readResult
  fits : session.FitsContract
  shown : Shown ⟨app.py, app.sql, post.readNow⟩ post.db post.request.prompt session.toSessionState
    identity

/-- The request creates a job. -/
def CreatesJob (app : App) (stores : Stores F) (post : Post) : Prop :=
  isAsyncRefreshRequest app.py.lower post.request.prompt = true ∧
    stores.jobs.lookup post.draws.jobId = none

/-- The id drawn for the job, if the request is for a background refresh, is new. -/
def JobIdNew (app : App) (stores : Stores F) (post : Post) : Prop :=
  isAsyncRefreshRequest app.py.lower post.request.prompt = true →
    stores.jobs.lookup post.draws.jobId = none

/-- The first save overwrites a session, and the one that the request names by what is stored. -/
def SavesNothing (stores : Stores F) (post : Post) (session : ChatSession) : Prop :=
  ∃ row, stores.sessions.lookup session.sessionId = some row ∧
    (post.request.sessionId.isSome = true →
      savedRow stores.sessions session post.times.saved = row)

variable {app : App} {stores : Stores F} {post : Post} {identity : TrustedIdentity}
  {session : ChatSession} {envelope : Json} {now : String} {jobId : Option String}
  {readings : Readings}

/-! ### Tables after a request -/

@[simp] theorem Stores.sessions_call {call : JobCall Json (Loaded F)} :
    (stores.call app now call).sessions = stores.sessions := rfl

@[simp] theorem Stores.jobs_save : (stores.save session now).jobs = stores.jobs := rfl

@[simp] theorem Stores.sessions_count : (stores.count post).sessions = stores.sessions := by
  rw [count]
  split <;> rfl

@[simp] theorem Stores.jobs_count : (stores.count post).jobs = stores.jobs := by
  rw [count]
  split <;> rfl

theorem Stores.keys_jobs_call {call : JobCall Json (Loaded F)}
    (h : ∀ id token new, call ≠ .createJob id token new) :
    (stores.call app now call).jobs.keys = stores.jobs.keys :=
  keys_callJob h

theorem keys_jobs_finish :
    (finish app stores post session envelope).jobs.keys = stores.jobs.keys := by
  simp only [finish, Stores.jobs_save]
  split
  · rfl
  · exact (Stores.keys_jobs_call (by nofun)).trans (Stores.keys_jobs_call (by nofun))

/-! ### When a request is answered -/

/-- The result of a read becomes an envelope exactly if the request is answerable. -/
theorem exists_buildReadResult_iff (hjob : ∀ id ∈ jobId, wordAfter "job_" id = true) :
    (∃ envelope, buildReadResult app post identity session jobId readings = .ok envelope) ↔
      Answerable app post identity session := by
  cases hread : post.read app identity session with
  | error error =>
    rw [buildReadResult, hread]
    exact iff_of_false nofun fun h => by
      obtain ⟨result, hresult⟩ := h.read
      cases hread.symm.trans hresult
  | ok result =>
    have hbuild : (∃ envelope, buildReadResult app post identity session jobId readings =
        .ok envelope) ↔ ∃ envelope, buildResponseEnvelope
          (readResultPayload session.toSessionState result jobId readings) = .ok envelope := by
      rw [buildReadResult, hread]
      exact exists_congr fun envelope => mapError_eq_ok
    refine hbuild.trans ((readPayload_accepted_iff hread hjob).trans ?_)
    exact ⟨fun h => ⟨⟨result, hread⟩, h.1, h.2⟩, fun h => ⟨h.fits, h.shown⟩⟩

theorem exists_postRead_iff :
    (∃ envelope, (postRead app stores post identity session).1 = .ok envelope) ↔
      Answerable app post identity session := by
  have hiff : (∃ envelope, buildReadResult app post identity session none post.draws.answer =
      .ok envelope) ↔ Answerable app post identity session :=
    exists_buildReadResult_iff fun _ => nofun
  rw [← hiff, postRead]
  cases buildReadResult app post identity session none post.draws.answer with
  | error error => exact iff_of_false nofun nofun
  | ok envelope => exact iff_of_true ⟨envelope, rfl⟩ ⟨envelope, rfl⟩

/-- A read that raises leaves the stores alone. -/
theorem postRead_error {error : ChatError}
    (h : (postRead app stores post identity session).1 = .error error) :
    (postRead app stores post identity session).2 = stores := by
  rw [postRead] at h ⊢
  split at h
  · rfl
  · cases h

/-! ### Requests for a background refresh -/

theorem keys_jobs_seeded : (seeded app stores post).jobs.keys = stores.jobs.keys := by
  rw [seeded]
  split
  · rfl
  · exact Stores.keys_jobs_call (by nofun)

theorem keys_jobs_postCreated :
    (postCreated app stores post identity session).2.jobs.keys = stores.jobs.keys := by
  rw [postCreated]
  split
  · rfl
  · dsimp only
    split
    · exact Stores.keys_jobs_call (by nofun)
    · exact keys_jobs_finish.trans (Stores.keys_jobs_call (by nofun))

/-- Once the result of the read is an envelope, so is the answer that the job is pending. -/
theorem exists_postCreated_iff :
    (∃ envelope, (postCreated app stores post identity session).1 = .ok envelope) ↔
      Answerable app post identity session := by
  have hjob := wordAfter_jobId post.draws
  have hiff : (∃ envelope, buildReadResult app post identity session (some post.draws.jobId)
      post.draws.prepared = .ok envelope) ↔ Answerable app post identity session :=
    exists_buildReadResult_iff (by simpa using hjob)
  rw [postCreated]
  constructor
  · rintro ⟨envelope, h⟩
    split at h
    · cases h
    · next prepared hprepared => exact hiff.mp ⟨prepared, hprepared⟩
  · intro h
    obtain ⟨prepared, hprepared⟩ := hiff.mpr h
    obtain ⟨envelope, henvelope⟩ : ∃ envelope, buildResponseEnvelope (pendingPayload
        session.toSessionState post.draws.jobId post.draws.jobPollToken post.draws.answer) =
          .ok envelope := (pendingPayload_accepted_iff hjob).mpr h.fits
    have hbuild : build (pendingPayload session.toSessionState post.draws.jobId
        post.draws.jobPollToken post.draws.answer) = .ok envelope := mapError_eq_ok.mpr henvelope
    refine ⟨envelope, ?_⟩
    simp only [hprepared, hbuild]

theorem postRefresh_of_taken {job : GenerationJob Json (Loaded F)}
    (h : stores.jobs.lookup post.draws.jobId = some job) :
    postRefresh app stores post identity session = (.error .integrity, stores) := by
  have hinsert : stores.jobs.insert? ((newJob session).row post.draws.jobId
      post.draws.jobPollToken post.times.created) = none := KeyedTable.insert?_eq_none.mpr ⟨job, h⟩
  simp only [postRefresh, callJob, hinsert]

/-- A request with a new id for its job creates the job and goes on. -/
theorem postRefresh_of_new (h : stores.jobs.lookup post.draws.jobId = none) :
    ∃ stores' : Stores F, stores'.jobs.keys = stores.jobs.keys ++ [post.draws.jobId] ∧
      postRefresh app stores post identity session =
        postCreated app stores' post identity session := by
  obtain ⟨jobs, hinsert⟩ : ∃ jobs, stores.jobs.insert? ((newJob session).row post.draws.jobId
      post.draws.jobPollToken post.times.created) = some jobs := by
    rw [← Option.ne_none_iff_exists', ne_eq, KeyedTable.insert?_eq_none]
    rintro ⟨job, hjob⟩
    cases h.symm.trans hjob
  have hkeys : jobs.keys = stores.jobs.keys ++ [post.draws.jobId] := by
    rw [KeyedTable.keys, (KeyedTable.insert?_eq_some hinsert).2, List.map_append]
    rfl
  refine ⟨seeded app { stores with jobs := jobs } post, keys_jobs_seeded.trans hkeys, ?_⟩
  simp only [postRefresh, callJob, hinsert]

/-! ### Requests as steps of the sessions -/

/-- An admitted request has a trusted identity and goes on with what the store has. -/
theorem admission_eq_ok (h : admission app stores post = .ok (identity, session)) :
    trustedChatIdentity app post = .ok identity ∧
      sessionStateForRequest app.py.lower stores.view post.request identity post.now post.token =
        some session.toSessionState ∧
      session.lastResponseId =
        (post.request.sessionId.bind stores.getSession).bind ChatSession.lastResponseId := by
  rw [admission] at h
  simp only [bind_eq_ok] at h
  obtain ⟨identity', hidentity, state, hstate, h⟩ := h
  obtain ⟨rfl, rfl⟩ := Prod.mk.inj (Except.ok.inj h)
  refine ⟨hidentity, ?_, rfl⟩
  cases hsome : sessionStateForRequest app.py.lower stores.view post.request identity' post.now
      post.token with
  | none =>
    rw [hsome] at hstate
    cases hstate
  | some session =>
    rw [hsome] at hstate
    cases hstate
    rfl

/-- The session of a request that names one is that session. -/
theorem exists_row_of_admission (h : admission app stores post = .ok (identity, session))
    {id : String} (hid : post.request.sessionId = some id) :
    session.sessionId = id ∧ ∃ row, stores.sessions.lookup id = some row := by
  obtain ⟨existing, hexisting, hsession⟩ := exists_existing_of_named hid (admission_eq_ok h).2.1
  obtain ⟨row, hrow, rfl⟩ := Option.map_eq_some_iff.mp hexisting
  exact ⟨hsession.trans (sessionId_of_lookup hrow), row, hrow⟩

/-- A request that names no session gets the next id. -/
theorem sessionId_of_new (h : admission app stores post = .ok (identity, session))
    (hnew : post.request.sessionId = none) :
    session.sessionId = sessionIdAt post.now (stores.counters (stamp post.now) + 1) := by
  obtain ⟨-, hstate, -⟩ := admission_eq_ok h
  simp only [sessionStateForRequest, hnew, Option.some.injEq] at hstate
  exact (congrArg SessionState.sessionId hstate).symm

/-- A trusted identity is a broker of its office. -/
theorem trustedChatIdentity_eq_ok (h : trustedChatIdentity app post = .ok identity) :
    identity.role = "broker" ∧
      identity.brokerId ∈ (post.brokersForOffice identity.officeId).map BrokerRow.brokerId := by
  have hvalidated {candidate : TrustedIdentity}
      (h : validatedTrustedIdentity post.brokersForOffice candidate = .ok identity) :
      identity.role = "broker" ∧
        identity.brokerId ∈ (post.brokersForOffice identity.officeId).map BrokerRow.brokerId := by
    simp only [validatedTrustedIdentity, bind_eq_ok, require_eq_ok] at h
    obtain ⟨-, hrole, -, hbroker, ⟨⟩⟩ := h
    exact ⟨hrole, hbroker⟩
  rw [trustedChatIdentity] at h
  obtain ⟨candidate, -, h⟩ := bind_eq_ok.mp h
  cases candidate with
  | some candidate => exact hvalidated h
  | none =>
    obtain ⟨-, -, h⟩ := bind_eq_ok.mp h
    obtain ⟨-, -, h⟩ := bind_eq_ok.mp h
    split at h
    · exact hvalidated h
    · cases h

@[simp] theorem Stores.view_call {call : JobCall Json (Loaded F)} :
    (stores.call app now call).view = stores.view := rfl

/-- A save of what the sessions already have. -/
theorem Stores.view_save_eq
    (h : stores.view.sessions session.sessionId = some session.toSessionState) :
    (stores.save session now).view = stores.view := by
  simp only [view, save, SessionStore.mk.injEq, and_true]
  funext id
  rw [lookup_saveSession]
  split_ifs with hid
  · rw [hid]
    exact h.symm
  · rfl

theorem view_seeded : (seeded app stores post).view = stores.view := by
  rw [seeded]
  split <;> rfl

theorem view_finish (h : stores.view.sessions session.sessionId = some session.toSessionState) :
    (finish app stores post session envelope).view = stores.view := by
  rw [finish]
  set started := match jobIdOf envelope with
    | none => stores
    | some jobId =>
      (stores.call app post.times.bound
        (.bindPendingResponse jobId (responseIdOf envelope))).call app post.times.started
          (.operate jobId (.startJob "Background refresh running for Memphis exceptions."))
    with hstarted
  have hview : started.view = stores.view := by
    rw [hstarted]
    split <;> rfl
  obtain ⟨row, hrow, hstate⟩ := Option.map_eq_some_iff.mp
    (show started.view.sessions session.sessionId = some session.toSessionState by rw [hview, h])
  have hget : started.getSession session.sessionId = some row.toChatSession :=
    congrArg (Option.map _) hrow
  rw [hget, Option.getD_some, Stores.view_save_eq, hview]
  have hid : row.sessionId = session.sessionId := congrArg SessionState.sessionId hstate
  simpa only [finalized, hid, hview, hstate] using h

theorem view_postRead (h : stores.view.sessions session.sessionId = some session.toSessionState) :
    (postRead app stores post identity session).2.view = stores.view := by
  rw [postRead]
  split
  · rfl
  · exact view_finish h

theorem view_postCreated
    (h : stores.view.sessions session.sessionId = some session.toSessionState) :
    (postCreated app stores post identity session).2.view = stores.view := by
  have hsaved {now now' : String} {call : JobCall Json (Loaded F)} :
      ((stores.call app now call).save { session with lastJobId := some post.draws.jobId }
        now').view = stores.view := Stores.view_save_eq h
  rw [postCreated]
  split
  · rfl
  · dsimp only
    split
    · exact hsaved
    · rw [view_finish, hsaved]
      rw [hsaved]
      exact h

theorem view_postRefresh
    (h : stores.view.sessions session.sessionId = some session.toSessionState) :
    (postRefresh app stores post identity session).2.view = stores.view := by
  rw [postRefresh]
  split
  · rfl
  · exact (view_postCreated (by rwa [view_seeded])).trans view_seeded

/-- **An admitted request is a step of the sessions.** What it stores of the session beyond its
first save is its module, its last response and its last job. -/
theorem view_postChat (h : admission app stores post = .ok (identity, session)) :
    Api.postChat app.py.lower (fun office => (post.brokersForOffice office).map BrokerRow.brokerId)
        stores.view ⟨post.request, identity, post.now, post.token⟩ =
      some (postChat app stores post).2.view := by
  obtain ⟨hidentity, hstate, -⟩ := admission_eq_ok h
  set saved := (stores.count post).save session post.times.saved with hsaved
  have hsession : saved.view.sessions session.sessionId = some session.toSessionState := by
    simp only [hsaved, Stores.view, Stores.save, lookup_saveSession, if_true]
    rfl
  have hpost : (postChat app stores post).2.view = saved.view := by
    rw [postChat, h]
    dsimp only
    rw [← hsaved]
    split
    · exact view_postRefresh hsession
    · exact view_postRead hsession
  rw [hpost, Api.postChat, if_pos (trustedChatIdentity_eq_ok hidentity), hstate, Option.map_some,
    Option.some.injEq, hsaved]
  simp only [Stores.view, Stores.save, Stores.sessions_count, SessionStore.mk.injEq]
  constructor
  · funext id
    rw [lookup_saveSession, Function.update_apply]
    split_ifs
    · rfl
    · rfl
  · rw [Stores.count]
    split_ifs <;> rfl

/-! ### The exact condition -/

/-- The first save keeps the sessions exactly if it saves nothing. -/
theorem sameTables_save_iff (h : admission app stores post = .ok (identity, session)) :
    SameTables post.request stores ((stores.count post).save session post.times.saved) ↔
      SavesNothing stores post session := by
  have hlookup (id : String) :
      ((stores.count post).save session post.times.saved).sessions.lookup id =
        if id = session.sessionId then some (savedRow stores.sessions session post.times.saved)
        else stores.sessions.lookup id := by
    simp only [Stores.save, Stores.sessions_count, lookup_saveSession]
  have hkeys : ((stores.count post).save session post.times.saved).sessions.keys =
      stores.sessions.keys ↔ ∃ row, stores.sessions.lookup session.sessionId = some row := by
    simp only [Stores.save, Stores.sessions_count, keys_saveSession]
  constructor
  · intro hsame
    obtain ⟨row, hrow⟩ := hkeys.mp hsame.sessions
    refine ⟨row, hrow, fun hnamed => ?_⟩
    obtain ⟨id, hid⟩ := Option.isSome_iff_exists.mp hnamed
    have hsaved := hsame.row id hid
    rw [hlookup, (exists_row_of_admission h hid).1, if_pos rfl,
      ← (exists_row_of_admission h hid).1, hrow] at hsaved
    exact Option.some.inj hsaved
  · rintro ⟨row, hrow, hsaved⟩
    refine ⟨fun id hid => ?_, hkeys.mpr ⟨row, hrow⟩, by simp⟩
    obtain rfl := (exists_row_of_admission h hid).1
    rw [hlookup, if_pos rfl, hrow, hsaved (Option.isSome_of_mem hid)]

theorem eq_error_or_exists_ok {ε α β : Type*} (r : Except ε α × β) :
    (∃ error, r.1 = .error error) ∨ ∃ a, r.1 = .ok a := by
  cases h : r.1 with
  | error error => exact .inl ⟨error, rfl⟩
  | ok a => exact .inr ⟨a, rfl⟩

/-- A request that is not for a background refresh. -/
theorem leavesNoTrace_read_iff (h : admission app stores post = .ok (identity, session))
    (hasync : isAsyncRefreshRequest app.py.lower post.request.prompt = false) :
    LeavesNoTrace app stores post ↔
      Answerable app post identity session ∨ SavesNothing stores post session := by
  rw [LeavesNoTrace]
  simp only [postChat, h, hasync, Bool.false_eq_true, if_false]
  set saved := (stores.count post).save session post.times.saved with hsaved
  have hanswerable : (∃ envelope, (postRead app saved post identity session).1 = .ok envelope) ↔
      Answerable app post identity session := exists_postRead_iff
  rw [← sameTables_save_iff h, ← hsaved, ← hanswerable]
  obtain ⟨error, herror⟩ | ⟨envelope, henvelope⟩ :=
    eq_error_or_exists_ok (postRead app saved post identity session)
  · rw [postRead_error herror, herror]
    constructor
    · exact fun hall => .inr (hall error rfl)
    · rintro (⟨envelope, ⟨⟩⟩ | hsame) _ -
      exact hsame
  · rw [henvelope]
    exact iff_of_true nofun (.inl ⟨envelope, rfl⟩)

/-- A request for a background refresh. -/
theorem leavesNoTrace_refresh_iff (h : admission app stores post = .ok (identity, session))
    (hasync : isAsyncRefreshRequest app.py.lower post.request.prompt = true) :
    LeavesNoTrace app stores post ↔
      if stores.jobs.lookup post.draws.jobId = none then Answerable app post identity session
      else SavesNothing stores post session := by
  rw [LeavesNoTrace]
  simp only [postChat, h, hasync, if_true]
  set saved := (stores.count post).save session post.times.saved with hsaved
  have hjobs : saved.jobs = stores.jobs := by simp [hsaved]
  split_ifs with hnew
  · obtain ⟨created, hkeys, hpost⟩ : ∃ created : Stores F,
        created.jobs.keys = saved.jobs.keys ++ [post.draws.jobId] ∧
          postRefresh app saved post identity session =
            postCreated app created post identity session :=
      postRefresh_of_new (by rwa [hjobs])
    have hanswerable :
        (∃ envelope, (postCreated app created post identity session).1 = .ok envelope) ↔
          Answerable app post identity session := exists_postCreated_iff
    rw [hpost, ← hanswerable]
    obtain ⟨error, herror⟩ | ⟨envelope, henvelope⟩ :=
      eq_error_or_exists_ok (postCreated app created post identity session)
    · rw [herror]
      -- The job stays, so the set of jobs is not the same.
      refine iff_of_false (fun hall => ?_) fun h => by simp at h
      have hsame := (hall error rfl).jobs
      rw [keys_jobs_postCreated, hkeys, hjobs] at hsame
      simp at hsame
    · rw [henvelope]
      exact iff_of_true (fun _ h => by cases h) ⟨envelope, rfl⟩
  · obtain ⟨job, hjob⟩ := Option.ne_none_iff_exists'.mp hnew
    rw [postRefresh_of_taken (by rw [hjobs, hjob]), ← sameTables_save_iff h]
    exact ⟨fun hall => hall _ rfl, fun hsame _ _ => hsame⟩

/-- **When a failed chat request leaves no trace.** For all stores and every request: exactly if the
request is refused before its session is saved, or is answered, or saves nothing and creates no
job. -/
theorem leaves_no_trace_iff : LeavesNoTrace app stores post ↔
    ∀ identity session, admission app stores post = .ok (identity, session) →
      (JobIdNew app stores post ∧ Answerable app post identity session) ∨
        (SavesNothing stores post session ∧ ¬ CreatesJob app stores post) := by
  cases h : admission app stores post with
  | error failure =>
    refine iff_of_true (fun error _ => ?_) nofun
    rw [postChat, h]
    exact ⟨fun _ _ => rfl, rfl, rfl⟩
  | ok admitted =>
    obtain ⟨identity, session⟩ := admitted
    have hforall (p : TrustedIdentity → ChatSession → Prop) :
        (∀ identity' session', Except.ok (ε := Failure) (identity, session) =
          .ok (identity', session') → p identity' session') ↔ p identity session :=
      ⟨fun hp => hp _ _ rfl, fun hp _ _ heq => by cases heq; exact hp⟩
    rw [hforall]
    cases hasync : isAsyncRefreshRequest app.py.lower post.request.prompt with
    | false => simp [leavesNoTrace_read_iff h hasync, JobIdNew, CreatesJob, hasync]
    | true =>
      rw [leavesNoTrace_refresh_iff h hasync]
      by_cases hnew : stores.jobs.lookup post.draws.jobId = none
      · simp [JobIdNew, CreatesJob, hasync, hnew]
      · simp [JobIdNew, CreatesJob, hasync, hnew]

/-- Whatever the requests, every stored session is well formed. -/
theorem wellFormed_of_posts {posts : List Post} {row : SessionRow} {id : String}
    (h : exec (fun (stores : Stores F) post => some (postChat app stores post).2)
      ⟨.empty, fun _ => 0, .empty⟩ posts = some stores)
    (hrow : stores.sessions.lookup id = some row) : row.WellFormed := by
  refine exec_invariant (fun s : Stores F => ∀ id session, s.view.sessions id = some session →
    session.WellFormed) (fun s post t hs ht => ?_) (fun _ _ => by nofun) h id _
      (congrArg (Option.map _) hrow)
  obtain rfl := Option.some.inj ht
  cases hadmitted : admission app s post with
  | error failure =>
    rw [postChat, hadmitted]
    exact hs
  | ok admitted =>
    obtain ⟨identity, session⟩ := admitted
    exact wellFormed_of_postChat hs (view_postChat hadmitted)

section Memphis

/-! A refresh that fails. -/

def testApp : App where
  py := asciiHost.py
  sql := asciiHost.sql
  appEnv := "test"
  memphisOfficeId := "memphis"
  service := ⟨false, false, false⟩
  runningAutonomyMaxSteps := 3
  completionRefreshPolls := 2

/-- The stores of a new application. -/
def newStores : Stores Empty := ⟨.empty, fun _ => 0, .empty⟩

/-- A request of a broker over a database. -/
def memphisPost (request : ChatRequest) (db : Database) : Post where
  request := request
  currentModule := "chat"
  stateIdentity := .trusted memphisIdentity
  identityHeaders := []
  brokersForOffice office := [⟨"broker-123", office, "Morgan", "broker"⟩]
  db := db
  now := .first
  token := (memphisChat none).token
  readNow := .first
  draws := memphisDraws
  times := ⟨"t1", "t2", "t3", "t4", "t5", "t6", "t7", "t8"⟩

/-- A refresh in a new session over a shipment without events. -/
def failingRefresh : Post :=
  memphisPost ⟨"Start a background refresh of analytics for exceptions", none, none, none⟩
    delayedShipment

end Memphis

/-- **A failed request leaves a session and a job.** The result of the read has an empty timeline,
so the builder raises once the session is saved and the job created. -/
theorem failed_request_leaves_job :
    (∃ error, (postChat testApp newStores failingRefresh).1 = .error error) ∧
      (postChat testApp newStores failingRefresh).2.sessions.keys = ["chat_s_00010101_0001"] ∧
      (postChat testApp newStores failingRefresh).2.jobs.keys = ["job_00010101_000000000000"] ∧
      ¬ LeavesNoTrace testApp newStores failingRefresh := by
  have hrun : (postChat testApp newStores failingRefresh).1.toOption.isSome = false ∧
      (postChat testApp newStores failingRefresh).2.sessions.keys = ["chat_s_00010101_0001"] ∧
      (postChat testApp newStores failingRefresh).2.jobs.keys = ["job_00010101_000000000000"] := by
    decide +kernel
  obtain ⟨hraises, hsessions, hjobs⟩ := hrun
  obtain ⟨error, herror⟩ | ⟨envelope, henvelope⟩ :=
    eq_error_or_exists_ok (postChat testApp newStores failingRefresh)
  · refine ⟨⟨error, herror⟩, hsessions, hjobs, fun h => ?_⟩
    have hsame := (h error herror).sessions
    rw [hsessions] at hsame
    cases hsame
  · rw [henvelope] at hraises
    cases hraises

end Chat

end Meridian.Api
