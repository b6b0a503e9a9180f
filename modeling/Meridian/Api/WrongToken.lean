import Meridian.Api.Binding
import Meridian.Autonomy.Bounds

/-!
# Requests with a wrong token

The endpoints that ask for the token of a session or of a job. A request that does not present the
token of what it names is answered as if that were not there, and changes nothing; what
`post_confirm_action` does once it has its session is a parameter, with the tables it works on.

## Main definitions

* `Meridian.Api.Routes.confirmAction`, `Meridian.Api.Routes.getSession`: two more endpoints.
* `Meridian.Api.Routes.Request`, `Meridian.Api.Routes.handle`: the requests and the endpoints.
* `Meridian.Api.Routes.Guarded`: what holds of the stored tokens.

## Main results

* `Meridian.Api.Routes.guarded_run`: it does, after any requests.
* `Meridian.Api.Routes.handle_of_hidden`: a request without the token of what it names is handled as
  over empty stores.
* `Meridian.Api.Routes.wrong_token_hidden`: a wrong token looks like no such thing.
-/

namespace Meridian.Api.Routes

open Foundations Db Tools Responses Jobs Autonomy Chat Binding

variable {F : Type} {L : Type*}

/-! ### Confirmations -/

/-- The members of a confirmation request, `null` where they are left out. What names a session is a
string. -/
structure ActionPayload where
  actionName : Json
  confirmationToken : Json
  idempotencyKey : Json
  sessionId : String
  sessionAccessToken : Json

/-- The members of a request that has nothing but strings. -/
def ActionPayload.ofRequest (request : ConfirmRequest) : ActionPayload where
  actionName := .strOrNull request.actionName
  confirmationToken := .strOrNull request.confirmationToken
  idempotencyKey := .strOrNull request.idempotencyKey
  sessionId := request.sessionId.getD ""
  sessionAccessToken := .strOrNull request.sessionAccessToken

/-- A confirmation request with what its identity depends on and what it reads for its answer. -/
structure ActionPost where
  payload : ActionPayload
  stateIdentity : StateIdentity
  identityHeaders : List (Option String)
  brokersForOffice : String → List BrokerRow
  readings : Readings

/-- `_trusted_action_identity`. -/
def trustedActionIdentity (app : App) (post : ActionPost) : Except Failure TrustedIdentity := do
  match ← identityFromRequestState app.py post.stateIdentity with
  | some identity => validatedTrustedIdentity post.brokersForOffice identity
  | none =>
    require (post.identityHeaders.all Option.isNone) 403 "untrusted auth context"
    require (app.appEnv ∈ ["development", "dev", "local", "test", "testing"]) 503
      "server auth context unavailable"
    match post.brokersForOffice app.memphisOfficeId with
    | [broker] =>
      validatedTrustedIdentity post.brokersForOffice ⟨broker.brokerId, broker.officeId, broker.role⟩
    | _ => .error (.http 503 "server auth context unavailable")

/-- The checks of `post_confirm_action` for an identity, up to the session. -/
def actionSession (store : SessionStore) (identity : TrustedIdentity) (payload : ActionPayload) :
    Except Failure SessionState := do
  require (truthy payload.actionName) 400 "unsupported action"
  require (payload.actionName.toStr? = some "booking_create_confirmed") 400 "unsupported action"
  require (truthy payload.confirmationToken) 400 "confirmation_token is required"
  require (truthy payload.idempotencyKey) 400 "idempotency_key is required"
  require (payload.sessionId ≠ "") 400 "session_id is required"
  require (truthy payload.sessionAccessToken) 400 "session_access_token is required"
  let session ← orRaise (store.sessions payload.sessionId) 404 "unknown session"
  require (payload.sessionAccessToken.toStr? = some session.sessionAccessToken) 404
    "unknown session"
  require (session.brokerId = identity.brokerId ∧ session.officeId = identity.officeId) 403
    "session identity mismatch"
  return session

/-- What `post_confirm_action` does once it has its session: what it answers, and the tables of the
bookings that it leaves. -/
abbrev Execute (L : Type*) :=
  ActionPost → TrustedIdentity → SessionState → L → Except Failure Json × L

/-- `post_confirm_action`. -/
def confirmAction (app : App) (execute : Execute L) (stores : Stores F) (tables : L)
    (post : ActionPost) : Except Failure Json × L :=
  match trustedActionIdentity app post with
  | .error failure => (.error failure, tables)
  | .ok identity =>
    match actionSession stores.view identity post.payload with
    | .error failure => (.error failure, tables)
    | .ok session => execute post identity session tables

/-- What `post_confirm_action` does with strings and with a gateway that leaves the tables. -/
def executeAction (executeWriteGateway : Gateway.Call → Except String Gateway.BookingResult) :
    Execute L := fun post identity session tables =>
  let actionName := post.payload.actionName.toStr
  let confirmationToken := post.payload.confirmationToken.toStr
  (do
    let result ← (executeWriteGateway (identity.call actionName confirmationToken
      post.payload.idempotencyKey.toStr)).mapError (.http 400)
    (buildResponseEnvelope (confirmPayload session actionName confirmationToken result
      post.readings)).mapError .valueError, tables)

/-! ### Sessions -/

/-- `ChatSessionSummary`. -/
structure ChatSessionSummary where
  sessionId : String
  brokerId : String
  officeId : String
  role : String
  currentModule : String
  conversationScope : String
  contextBindingState : String
  screenSyncState : String
  activeResource : Option ActiveResourceBinding
  lastResponseId : Option String
  lastJobId : Option String

/-- `ChatSessionSummary.model_validate(session.to_summary())`. -/
def chatSessionSummary (session : ChatSession) : Except RouteError ChatSessionSummary :=
  if session.role = "broker" ∧ session.conversationScope ∈ conversationScopes ∧
      session.contextBindingState ∈ ["bound", "partial", "stale", "missing"] ∧
      session.screenSyncState ∈ ["not_applicable", "pending", "applied", "blocked"] then
    .ok
      { sessionId := session.sessionId
        brokerId := session.brokerId
        officeId := session.officeId
        role := session.role
        currentModule := session.currentModule
        conversationScope := session.conversationScope
        contextBindingState := session.contextBindingState
        screenSyncState := session.screenSyncState
        activeResource := session.activeResource
        lastResponseId := session.lastResponseId
        lastJobId := session.lastJobId }
  else .error .validation

/-- `get_session` of the routes. -/
def getSession (stores : Stores F) (sessionId sessionAccessToken : String) :
    Except RouteError ChatSessionSummary :=
  match sessionByAccessToken stores sessionId sessionAccessToken with
  | none => .error unknownSession
  | some session => chatSessionSummary session

/-! ### Requests -/

/-- The requests, with their parameters as they are once they have been checked. -/
inductive Request (F : Type)
  | chat (post : Post)
  | confirm (post : ActionPost)
  | session (sessionId sessionAccessToken : String)
  | job (request : JobRequest F)

/-- What they answer or raise. -/
inductive Answer
  | chat (result : Except ChatError Json)
  | confirm (result : Except Failure Json)
  | session (result : Except RouteError ChatSessionSummary)
  | job (result : Except RouteError JobAnswer)

/-- The stores, and the tables of the bookings. -/
structure Shared (F : Type) (L : Type*) where
  stores : Stores F
  tables : L

/-- The endpoints. -/
def handle (app : App) (py : PythonText F) (execute : Execute L) (shared : Shared F L) :
    Request F → Answer × Shared F L
  | .chat post =>
    (Chat.postChat app shared.stores post).map .chat fun stores => { shared with stores := stores }
  | .confirm post =>
    (confirmAction app execute shared.stores shared.tables post).map .confirm fun tables =>
      { shared with tables := tables }
  | .session sessionId sessionAccessToken =>
    (.session (getSession shared.stores sessionId sessionAccessToken), shared)
  | .job request =>
    (handleJob app py shared.stores request).map .job fun stores => { shared with stores := stores }

/-- What a request can name. -/
inductive Target
  | session (sessionId : String)
  | job (jobId : String)

/-- The `HTTPException` for what is not there. -/
def Target.unknown : Target → RouteError
  | session _ => unknownSession
  | job _ => unknownJob

/-- The access token of a session, or the poll token of a job. -/
def accessToken (stores : Stores F) : Target → Option String
  | .session id => (stores.sessions.lookup id).map fun row => row.sessionAccessToken
  | .job id => (stores.jobs.lookup id).map fun job => job.jobPollToken

/-- The stores without a session or without a job. -/
def without (stores : Stores F) : Target → Stores F
  | .session id => { stores with sessions := stores.sessions.delete fun row => row.sessionId = id }
  | .job id => { stores with jobs := stores.jobs.delete fun job => job.jobId = id }

/-- What a request for jobs names. -/
def JobRequest.target : JobRequest F → Target
  | create request => .session request.sessionId
  | list request => .session request.sessionId
  | get poll | lifecycle poll => .job poll.jobId
  | cancel request => .job request.jobId

/-- The token of a request for jobs. -/
def JobRequest.token : JobRequest F → String
  | create request => request.sessionAccessToken
  | list request => request.sessionAccessToken
  | get poll | lifecycle poll => poll.jobPollToken
  | cancel request => request.jobPollToken

/-- What a request names; a chat request may ask for a new session. -/
def Request.target : Request F → Option Target
  | chat post => post.request.sessionId.map .session
  | confirm post => some (.session post.payload.sessionId)
  | session sessionId _ => some (.session sessionId)
  | job request => some request.target

/-- The token in a request, if there is one. -/
def Request.token : Request F → Option String
  | chat post => post.request.sessionAccessToken
  | confirm post => post.payload.sessionAccessToken.toStr?
  | session _ sessionAccessToken => some sessionAccessToken
  | job request => some request.token

/-- The token that a request presents: an empty one is none. -/
def Request.presented (request : Request F) : Option String := request.token.filter (· ≠ "")

/-- The token in the request is not the one of what it names. -/
def Hidden (stores : Stores F) (request : Request F) : Prop :=
  ∀ target ∈ request.target, ∀ token ∈ accessToken stores target, request.token ≠ some token

variable {app : App} {py : PythonText F} {execute : Execute L} {stores stores' : Stores F}
  {tables : L} {post : Post} {target : Target} {request : Request F} {token : String}

/-! ### Confirmations of strings -/

/-- The check of a member with a string. -/
theorem required_eq (value : Option String) (detail : String) :
    required value detail = do
      require (value.getD "" ≠ "") 400 detail
      return value.getD "" := by
  cases value with
  | none => rfl
  | some text =>
    rw [required, Option.filter_some, Option.getD_some, require]
    split_ifs with h h'
    · rfl
    · exact absurd (of_decide_eq_true h) h'
    · exact absurd (decide_eq_true ‹_›) h
    · rfl

theorem truthy_strOrNull (value : Option String) :
    truthy (.strOrNull value) = true ↔ value.getD "" ≠ "" := by
  cases value with
  | none => exact iff_of_false nofun fun h => h rfl
  | some text => exact decide_eq_true_iff

theorem toStr_strOrNull (value : Option String) : (Json.strOrNull value).toStr = value.getD "" := by
  cases value <;> rfl

theorem getD_eq_iff {value : Option String} {text : String} (h : text ≠ "") :
    value.getD "" = text ↔ value = some text := by
  cases value with
  | none => exact iff_of_false (fun heq => h heq.symm) nofun
  | some value => simp

/-- **With strings and with a gateway that leaves the tables, the endpoint is
`postConfirmAction`.** -/
theorem confirmAction_ofRequest {identity : TrustedIdentity} {post : ActionPost}
    {request : ConfirmRequest} {gateway : Gateway.Call → Except String Gateway.BookingResult}
    (hidentity : trustedActionIdentity app post = .ok identity)
    (hpayload : post.payload = .ofRequest request) :
    confirmAction app (executeAction gateway) stores tables post =
      (postConfirmAction stores.view identity gateway request post.readings, tables) := by
  have hbind : postConfirmAction stores.view identity gateway request post.readings =
      actionSession stores.view identity post.payload >>= fun session =>
        (executeAction gateway post identity session tables).1 := by
    have hname : "booking_create_confirmed" ≠ "" := by decide
    simp only [postConfirmAction, actionSession, executeAction, required_eq, bind_assoc, pure_bind,
      hpayload, ActionPayload.ofRequest, truthy_strOrNull, toStr_strOrNull, Json.toStr?_strOrNull,
      getD_eq_iff hname]
    cases request.sessionAccessToken with
    | none =>
      iterate 5 refine bind_congr fun _ => ?_
      rfl
    | some token => simp only [Option.getD_some, Option.some.injEq, eq_comm]
  rw [confirmAction, hidentity, hbind]
  dsimp only
  cases actionSession stores.view identity post.payload with
  | error failure => rfl
  | ok session => rfl

/-! ### Requests without the token of what they name -/

theorem accessToken_without : accessToken (without stores target) target = none := by
  cases target with
  | session id =>
    rw [accessToken, without, KeyedTable.lookup_delete, Option.map_eq_none_iff,
      Option.filter_eq_none_iff]
    intro row hrow
    simp [sessionId_of_lookup hrow]
  | job id =>
    rw [accessToken, without, KeyedTable.lookup_delete, Option.map_eq_none_iff,
      Option.filter_eq_none_iff]
    intro job hjob
    have hid : job.jobId = id := KeyedTable.key_of_lookup hjob
    simp [hid]

theorem hidden_without (h : request.target = some target) :
    Hidden (without stores target) request := by
  intro named hnamed token htoken
  obtain rfl := Option.some.inj (h.symm.trans hnamed)
  rw [accessToken_without] at htoken
  cases htoken

theorem hidden_emptyStores : Hidden (emptyStores : Stores F) request := by
  intro target _ token htoken
  cases target <;> cases htoken

theorem sessionByAccessToken_eq_none {id : String}
    (h : ∀ token' ∈ accessToken stores (.session id), token ≠ token') :
    sessionByAccessToken stores id token = none := by
  rw [sessionByAccessToken, Stores.getSession, Option.filter_eq_none_iff]
  intro session hsession heq
  obtain ⟨row, hrow, rfl⟩ := Option.map_eq_some_iff.mp hsession
  exact h row.sessionAccessToken (by rw [accessToken, hrow]; rfl) (of_decide_eq_true heq).symm

/-- A chat request is refused before it reads anything else of the stores. -/
theorem postChat_of_hidden (h : Hidden stores (.chat post))
    (hnamed : post.request.sessionId.isSome = true) :
    Chat.postChat app stores post =
      (.error (.failure (match trustedChatIdentity app post with
        | .error failure => failure
        | .ok _ => .http 404 "unknown session")), stores) := by
  obtain ⟨id, hid⟩ := Option.isSome_iff_exists.mp hnamed
  have hstate (identity : TrustedIdentity) : sessionStateForRequest app.py.lower stores.view
      post.request identity post.now post.token = none := by
    simp only [sessionStateForRequest, hid]
    cases hget : stores.view.sessions id with
    | none => rfl
    | some existing =>
      refine if_pos ?_
      obtain ⟨row, hrow, rfl⟩ := Option.map_eq_some_iff.mp hget
      exact h (.session id) (by simp [Request.target, hid]) row.sessionAccessToken
        (by rw [accessToken, hrow]; rfl)
  have hadmission : admission app stores post =
      (trustedChatIdentity app post).bind fun _ => .error (.http 404 "unknown session") := by
    rw [admission]
    refine bind_congr fun identity => ?_
    rw [hstate]
    rfl
  rw [Chat.postChat, hadmission]
  cases trustedChatIdentity app post with
  | error failure => rfl
  | ok identity => rfl

theorem actionSession_of_hidden {post : ActionPost} (h : Hidden stores (.confirm post))
    (identity : TrustedIdentity) :
    actionSession stores.view identity post.payload =
      actionSession (emptyStores : Stores F).view identity post.payload := by
  rw [actionSession, actionSession]
  iterate 6 refine bind_congr fun _ => ?_
  cases hget : stores.view.sessions post.payload.sessionId with
  | none => rfl
  | some session =>
    obtain ⟨row, hrow, rfl⟩ := Option.map_eq_some_iff.mp hget
    have hne : post.payload.sessionAccessToken.toStr? ≠ some row.sessionAccessToken :=
      h (.session post.payload.sessionId) rfl row.sessionAccessToken
        (by rw [accessToken, hrow]; rfl)
    have hraise : require (post.payload.sessionAccessToken.toStr? = some row.sessionAccessToken) 404
        "unknown session" = .error (.http 404 "unknown session") := if_neg hne
    change (require (post.payload.sessionAccessToken.toStr? = some row.sessionAccessToken) 404
      "unknown session" >>= _) = _
    rw [hraise]
    rfl

theorem confirmAction_of_hidden {post : ActionPost} (h : Hidden stores (.confirm post)) :
    confirmAction app execute stores tables post =
      ((confirmAction app execute (emptyStores : Stores F) tables post).1, tables) := by
  rw [confirmAction, confirmAction]
  cases trustedActionIdentity app post with
  | error failure => rfl
  | ok identity =>
    simp only [actionSession_of_hidden h]
    cases hsession : actionSession (emptyStores : Stores F).view identity post.payload with
    | error failure => rfl
    | ok session =>
      simp only [actionSession, bind_eq_ok] at hsession
      obtain ⟨-, -, -, -, -, -, -, -, -, -, -, -, session', hsession', -⟩ := hsession
      cases hsession'

theorem handleJob_of_hidden {request : JobRequest F} (h : Hidden stores (.job request)) :
    handleJob app py stores request =
      (.error request.target.unknown, stores) := by
  have hne : ∀ token ∈ accessToken stores request.target, request.token ≠ token :=
    fun token htoken heq => h request.target rfl token htoken (congrArg some heq)
  have hpoll {jobs : JobTable Json (Loaded F)} {jobId jobPollToken : String}
      (h : ∀ token ∈ (jobs.lookup jobId).map fun job => job.jobPollToken, jobPollToken ≠ token) :
      (jobs.lookup jobId).filter (·.jobPollToken = jobPollToken) = none := by
    rw [Option.filter_eq_none_iff]
    intro job hjob heq
    exact h job.jobPollToken (by rw [hjob]; rfl) (of_decide_eq_true heq).symm
  cases request with
  | create request =>
    have hnone : sessionByAccessToken stores request.sessionId request.sessionAccessToken = none :=
      sessionByAccessToken_eq_none hne
    simp only [handleJob, createJob, hnone]
    rfl
  | list request =>
    have hnone : sessionByAccessToken stores request.sessionId request.sessionAccessToken = none :=
      sessionByAccessToken_eq_none hne
    simp only [handleJob, listJobs, hnone]
    rfl
  | get poll =>
    have hnone : jobByPollToken stores.jobs poll.toPoll = none := hpoll hne
    simp only [handleJob, getJob, hnone]
    rfl
  | lifecycle poll =>
    have hnone : jobByPollToken stores.jobs poll.toPoll = none := hpoll hne
    simp only [handleJob, getJobLifecycle, hnone]
    rfl
  | cancel request =>
    have hnone : (stores.jobs.lookup request.jobId).filter
        (·.jobPollToken = request.jobPollToken) = none := hpoll hne
    simp only [handleJob, cancelJob, hnone]
    rfl

/-- **A request without the token of what it names is handled as over empty stores.** -/
theorem handle_of_hidden (h : Hidden stores request) (hnamed : request.target.isSome = true) :
    handle app py execute ⟨stores, tables⟩ request =
      ((handle app py execute ⟨emptyStores, tables⟩ request).1, ⟨stores, tables⟩) := by
  cases request with
  | chat post =>
    have hid : post.request.sessionId.isSome = true := by simpa [Request.target] using hnamed
    simp only [handle, postChat_of_hidden h hid, postChat_of_hidden hidden_emptyStores hid]
    rfl
  | confirm post =>
    simp only [handle, confirmAction_of_hidden h]
    rfl
  | session id token =>
    have hnone (stores : Stores F) (h : Hidden stores (.session id token)) :
        getSession stores id token = .error unknownSession := by
      rw [getSession, sessionByAccessToken_eq_none fun token' htoken heq =>
        h (.session id) rfl token' htoken (congrArg some heq)]
    simp only [handle, hnone stores h, hnone _ hidden_emptyStores]
  | job request =>
    simp only [handle, handleJob_of_hidden h, handleJob_of_hidden hidden_emptyStores]
    rfl

/-! ### Tokens of the stores -/

/-- No job has an empty token. -/
def PollTokens (jobs : JobTable Json (Loaded F)) : Prop :=
  ∀ id job, jobs.lookup id = some job → job.jobPollToken ≠ ""

/-- A call that creates a job gives it a token. -/
def GivesToken : JobCall Json (Loaded F) → Prop
  | .createJob _ jobPollToken _ => jobPollToken ≠ ""
  | _ => True

/-- The sessions are well formed, so they have tokens, and so do the jobs. -/
structure Guarded (stores : Stores F) : Prop where
  sessions : ∀ id session, stores.view.sessions id = some session → session.WellFormed
  jobs : PollTokens stores.jobs

theorem guarded_emptyStores : Guarded (emptyStores : Stores F) where
  sessions _ _ h := by cases h
  jobs _ _ h := by cases h

theorem accessToken_ne (h : Guarded stores) (htoken : accessToken stores target = some token) :
    token ≠ "" := by
  cases target with
  | session id =>
    obtain ⟨row, hrow, rfl⟩ := Option.map_eq_some_iff.mp htoken
    have hlength :=
      (h.sessions id row.toSessionState (congrArg (Option.map _) hrow)).sessionAccessToken
    rintro hempty
    rw [hempty] at hlength
    cases hlength
  | job id =>
    obtain ⟨job, hjob, rfl⟩ := Option.map_eq_some_iff.mp htoken
    exact h.jobs id job hjob

theorem accessToken_token_ne (token : AccessToken) : (token : String) ≠ "" := by
  intro hempty
  have hlength := token.2
  rw [hempty] at hlength
  cases hlength

variable {jobs : JobTable Json (Loaded F)} {now : String}

theorem PollTokens.modify {id : String}
    {f : GenerationJob Json (Loaded F) → GenerationJob Json (Loaded F)}
    (h : PollTokens jobs) (hf : ∀ job, (f job).jobId = job.jobId)
    (htoken : ∀ job, (f job).jobPollToken = job.jobPollToken) :
    PollTokens (jobs.modify id f hf) := by
  intro id' job hjob
  rw [KeyedTable.lookup_modify] at hjob
  split_ifs at hjob
  · obtain ⟨job', hjob', rfl⟩ := Option.map_eq_some_iff.mp hjob
    rw [htoken]
    exact h id' job' hjob'
  · exact h id' job hjob

/-- A call of the job store keeps the tokens, and a new job brings its own. -/
theorem PollTokens.callJob {config : Config Json} {call : JobCall Json (Loaded F)}
    (h : PollTokens jobs) (hcall : GivesToken call) :
    PollTokens (Jobs.callJob config jobs now call).1 := by
  cases call with
  | createJob jobId jobPollToken new =>
    rw [Jobs.callJob]
    split
    · next jobs' hinsert =>
      intro id job hjob
      rw [KeyedTable.lookup_insert? hinsert] at hjob
      split_ifs at hjob
      · obtain rfl := Option.some.inj hjob
        exact hcall
      · exact h id job hjob
    · exact h
  | operate jobId op =>
    rw [Jobs.callJob]
    split
    · exact h
    · split
      · exact h
      · dsimp only
        exact h.modify _ fun _ => by rfl
  | prepareResult | bindPendingResponse | updateAutonomyMetadata =>
    dsimp only [Jobs.callJob]
    exact h.modify _ fun _ => by rfl
  | listJobs => exact h

theorem PollTokens.call {call : JobCall Json (Loaded F)} (h : PollTokens stores.jobs)
    (hcall : GivesToken call) : PollTokens (stores.call app now call).jobs :=
  h.callJob hcall

theorem PollTokens.finish {session : ChatSession} {envelope : Json} (h : PollTokens stores.jobs) :
    PollTokens (finish app stores post session envelope).jobs := by
  simp only [Chat.finish, Stores.jobs_save]
  split
  · exact h
  · exact (h.call (by trivial)).call (by trivial)

theorem PollTokens.postCreated {identity : TrustedIdentity} {session : ChatSession}
    (h : PollTokens stores.jobs) :
    PollTokens (postCreated app stores post identity session).2.jobs := by
  rw [Chat.postCreated]
  split
  · exact h
  · next prepared _ =>
    have hprepared : PollTokens (stores.call app post.times.prepared
        (.prepareResult post.draws.jobId prepared)).jobs := h.call (by trivial)
    dsimp only
    split
    · exact hprepared
    · refine PollTokens.finish ?_
      exact hprepared

theorem PollTokens.postChat (h : PollTokens stores.jobs) :
    PollTokens (Chat.postChat app stores post).2.jobs := by
  rw [Chat.postChat]
  split
  · exact h
  · next identity session _ =>
    have hsaved : PollTokens ((stores.count post).save session post.times.saved).jobs := by
      rwa [Stores.jobs_save, Stores.jobs_count]
    dsimp only
    split
    · rw [postRefresh]
      split
      · exact hsaved
      · next jobs _ _ hcall =>
        have hcreated : PollTokens jobs := by
          have hjobs : _ = jobs := congrArg Prod.fst hcall
          rw [← hjobs]
          exact hsaved.callJob (accessToken_token_ne post.draws.jobPollToken)
        refine PollTokens.postCreated ?_
        rw [seeded]
        split
        · exact hcreated
        · exact hcreated.call (by trivial)
    · rw [postRead]
      split
      · exact hsaved
      · exact hsaved.finish

theorem PollTokens.refreshedBy {α : Type} {poll : JobPoll F}
    {answer : GenerationJob Json (Loaded F) → Except RouteError α}
    {after : Stores F → GenerationJob Json (Loaded F) → Stores F} (h : PollTokens stores.jobs)
    (hafter : ∀ stores job, (after stores job).jobs = stores.jobs) :
    PollTokens (refreshedBy app stores poll answer after).2.jobs := by
  rw [Routes.refreshedBy]
  split
  · next jobs job hcall =>
    have hjobs : _ = jobs := congrArg Prod.fst hcall
    dsimp only
    rw [hafter, ← hjobs]
    exact h.callJob (by trivial)
  · exact h
  · exact h

theorem PollTokens.advanced {poll : JobPoll F} {job : GenerationJob Json (Loaded F)}
    (h : PollTokens jobs) : PollTokens (advanced app py jobs poll job) := by
  rw [Routes.advanced]
  split
  · exact h
  · next metadata outcome _ =>
    have hstored : PollTokens (Jobs.callJob app.jobs jobs poll.updatedAt
        (.updateAutonomyMetadata poll.jobId metadata.toDict outcome.completes)).1 :=
      h.callJob (by trivial)
    rw [afterStep]
    split
    · exact hstored
    · split_ifs
      · exact hstored.callJob (by trivial)
      · exact hstored

theorem jobs_promoted {poll : JobPoll F} {job : GenerationJob Json (Loaded F)} :
    (promoted stores poll job).jobs = stores.jobs := by
  rw [promoted]
  split <;> rfl

/-- The routes of jobs keep the tokens. -/
theorem PollTokens.handleJob (h : PollTokens stores.jobs) (request : JobRequest F) :
    PollTokens (handleJob app py stores request).2.jobs := by
  cases request with
  | create request =>
    simp only [Routes.handleJob, Prod.map_snd, id, createJob]
    split
    · exact h
    · split
      · next jobs job hcall =>
        have hjobs : _ = jobs := congrArg Prod.fst hcall
        rw [← hjobs]
        exact h.callJob (accessToken_token_ne request.jobPollToken)
      · exact h
  | list request => exact h
  | get poll =>
    simp only [Routes.handleJob, Prod.map_snd, id, getJob]
    split
    · exact h
    · next job _ =>
      have hadvanced : PollTokens (Routes.advanced app py stores.jobs poll job) := h.advanced
      exact PollTokens.refreshedBy hadvanced fun _ _ => jobs_promoted
  | lifecycle poll =>
    simp only [Routes.handleJob, Prod.map_snd, id, getJobLifecycle]
    split
    · exact h
    · exact h.refreshedBy fun _ _ => rfl
  | cancel request =>
    simp only [Routes.handleJob, Prod.map_snd, id, cancelJob]
    split
    · exact h
    · split_ifs
      · split
        · next jobs job hcall =>
          have hjobs : _ = jobs := congrArg Prod.fst hcall
          rw [← hjobs]
          exact h.callJob (by trivial)
        · exact h
        · exact h
      · exact h

theorem Guarded.next (h : Guarded stores) (event : Event F) :
    Guarded (next app py stores event) := by
  cases event with
  | chat post =>
    refine ⟨?_, h.jobs.postChat⟩
    cases hadmitted : admission app stores post with
    | error failure =>
      rw [Binding.next, Chat.postChat, hadmitted]
      exact h.sessions
    | ok admitted =>
      obtain ⟨identity, session⟩ := admitted
      exact wellFormed_of_postChat h.sessions (view_postChat hadmitted)
  | job request =>
    refine ⟨?_, h.jobs.handleJob request⟩
    have hview : (Binding.next app py stores (.job request)).view = stores.view :=
      view_handleJob request
    rw [hview]
    exact h.sessions

/-- **Every stored token is one.** After any requests, every session and every job has a token that
is not empty. -/
theorem guarded_run (events : List (Event F)) (h : Guarded stores) :
    Guarded (run app py stores events) := by
  induction events generalizing stores with
  | nil => exact h
  | cons event events ih => exact ih (h.next event)

/-! ### Wrong tokens -/

/-- **A wrong token looks like no such thing.** Whatever the requests to a new application have
been, a request that names a session or a job and does not present its token is answered as it is
where that has been removed, and changes neither the sessions, the jobs nor the bookings. -/
theorem wrong_token_hidden (events : List (Event F)) (htarget : request.target = some target)
    (htoken : accessToken (run app py emptyStores events) target = some token)
    (hpresented : request.presented ≠ some token) :
    (handle app py execute ⟨run app py emptyStores events, tables⟩ request).1 =
        (handle app py execute ⟨without (run app py emptyStores events) target, tables⟩
          request).1 ∧
      (handle app py execute ⟨run app py emptyStores events, tables⟩ request).2 =
        ⟨run app py emptyStores events, tables⟩ := by
  have hguarded : Guarded (run app py emptyStores events) := guarded_run events guarded_emptyStores
  have hhidden : Hidden (run app py emptyStores events) request := by
    intro named hnamed token' htoken' hgiven
    obtain rfl := Option.some.inj (htarget.symm.trans hnamed)
    obtain rfl := Option.some.inj (htoken.symm.trans htoken')
    refine hpresented ?_
    rw [Request.presented, hgiven, Option.filter_some,
      if_pos (decide_eq_true (accessToken_ne hguarded htoken))]
  have hnamed : request.target.isSome = true := Option.isSome_of_mem htarget
  have hremoved : Hidden (without (run app py emptyStores events) target) request :=
    hidden_without htarget
  generalize run app py emptyStores events = stores at hhidden hremoved ⊢
  rw [handle_of_hidden hhidden hnamed, handle_of_hidden hremoved hnamed]
  exact ⟨rfl, rfl⟩

section Memphis

/-! A guess. -/

/-- The stores once a broker has asked for a refresh. -/
def afterRefresh : Stores Empty := run testApp plainText emptyStores [.chat failingRefresh]

/-- A request to cancel the job of the refresh with a token that is guessed. -/
def guessedCancel : Request Empty := .job (.cancel ⟨"job_00010101_000000000000", "guess", "t9"⟩)

/-- A gateway that takes nothing. -/
def closedGateway : Execute Unit := executeAction fun _ => .error "closed"

end Memphis

theorem wrong_token_hidden_cancel :
    (handle testApp plainText closedGateway ⟨afterRefresh, ()⟩ guessedCancel).1 =
        (handle testApp plainText closedGateway
          ⟨without afterRefresh (.job "job_00010101_000000000000"), ()⟩ guessedCancel).1 ∧
      (handle testApp plainText closedGateway ⟨afterRefresh, ()⟩ guessedCancel).2 =
        ⟨afterRefresh, ()⟩ := by
  have htoken : accessToken afterRefresh (.job "job_00010101_000000000000") =
      some failingRefresh.draws.jobPollToken := by
    decide +kernel
  exact wrong_token_hidden [.chat failingRefresh] rfl htoken (by decide)

end Meridian.Api.Routes
