import Meridian.Api.Interleaving
import Meridian.Db.Seeding

/-!
# The routes of jobs

The routes of `backend/app/api/routes/jobs.py` over the stores of the application, one request at a
time, with what they answer. Of the parameters only those that a route uses are here, as they are
once they have been checked.

## Main definitions

* `Meridian.Api.Routes.AsyncJobEnvelope`, `Meridian.Api.Routes.JobLifecycleEnvelope`: the answers.
* `Meridian.Api.Routes.JobRequest`: the requests.
* `Meridian.Api.Routes.handleJob`: the routes.

## Main results

* `Meridian.Api.Routes.runs_getJob`: a poll that is alone is `getJob`.
* `Meridian.Api.Routes.view_handleJob`: no route of jobs changes what a chat request reads of the
  sessions.
-/

namespace Meridian.Api.Routes

open Foundations Db Tools Responses Jobs Autonomy Chat

variable {F : Type}

/-! ### Answers -/

/-- How a route raises: an `HTTPException`, the `ValidationError` of an answer, or an error of the
store. -/
inductive RouteError
  | http (statusCode : ℕ) (detail : String)
  | validation
  | store
  deriving DecidableEq

/-- `ActiveResourceEnvelope`, or `None`. -/
def activeResourceEnvelope : Schema :=
  [.type [.object, .null], .noAdditionalProperties,
   .required ["resource_type", "resource_id", "resource_fingerprint"],
   .property "resource_type" (stringIn ["shipment", "carrier", "lane", "analytics", "session"]),
   .property "resource_id" [.type [.string]],
   .property "resource_fingerprint" [.type [.string]]]

/-- `ChatResponseEnvelope`. -/
def chatResponseEnvelope : Schema :=
  [.type [.object], .noAdditionalProperties,
   .required
     ["contract_version", "response_id", "request_id", "session_id", "conversation_scope",
      "context_binding_state", "screen_sync_state", "intent_class", "status", "summary",
      "components", "policy", "audit"],
   .property "contract_version" [.type [.string]],
   .property "response_id" [.type [.string]],
   .property "request_id" [.type [.string]],
   .property "trace_id" [.type [.string, .null]],
   .property "session_id" [.type [.string]],
   .property "session_access_token" [.type [.string, .null]],
   .property "conversation_scope" (stringIn conversationScopes),
   .property "context_binding_state" (stringIn ["bound", "partial", "stale", "missing"]),
   .property "screen_sync_state" (stringIn ["not_applicable", "pending", "applied", "blocked"]),
   .property "active_resource" activeResourceEnvelope,
   .property "job_id" [.type [.string, .null]],
   .property "job_poll_token" [.type [.string, .null]],
   .property "intent_class" [.type [.string]],
   .property "status" [.type [.string]],
   .property "summary" [.type [.string]],
   .property "follow_up_prompt" [.type [.string, .null]],
   .property "components" [.type [.array], .items [.type [.object]]],
   .property "actions" [.type [.array], .items [.type [.object]]],
   .property "policy" [.type [.object]],
   .property "audit" [.type [.object]]]

/-- `AsyncJobEnvelope`, or `AsyncJobListEnvelope` where the token is left out. -/
structure AsyncJobEnvelope where
  jobId : String
  sessionId : String
  status : JobStatus
  createdAt : String
  updatedAt : String
  progressMessage : String
  retryAllowed : Bool
  jobPollToken : Option String
  completedResponseId : Option String
  result : Option Json
  errorMessage : Option String
  failedAt : Option String

/-- The literals of `lifecycle_state` that `_map_lifecycle_state` returns. -/
inductive LifecycleState
  | pending
  | active
  | completed
  | failed
  | cancelled
  | expired
  deriving DecidableEq

/-- `JobLifecycleEnvelope`. -/
structure JobLifecycleEnvelope where
  jobId : String
  sessionId : String
  status : JobStatus
  createdAt : String
  updatedAt : String
  completedAt : Option String
  progressMessage : String
  retryAllowed : Bool
  pendingResponseId : Option String
  completedResponseId : Option String
  result : Option Json
  lifecycleState : LifecycleState

/-- `JobListEnvelope`. -/
structure JobListEnvelope where
  jobs : List AsyncJobEnvelope
  total : ℕ
  filtered : ℕ
  offset : ℕ
  limit : ℕ

/-- A result that is shown, unless the model does not take it. -/
def shownResult (result : Option Json) : Except RouteError (Option Json) :=
  match result.filter truthy with
  | none => .ok none
  | some result =>
    if chatResponseEnvelope.accepts result then .ok (some result) else .error .validation

/-- `to_dict` without the metadata of autonomy, with the given token, as the model takes it. -/
def jobEnvelope (job : GenerationJob Json (Loaded F)) (jobPollToken : Option String) :
    Except RouteError AsyncJobEnvelope := do
  let result ← shownResult job.resultPayload
  pure
    { jobId := job.jobId
      sessionId := job.sessionId
      status := job.jobStatus
      createdAt := job.createdAt
      updatedAt := job.updatedAt
      progressMessage := job.progressMessage
      retryAllowed := job.retryAllowed
      jobPollToken := jobPollToken
      completedResponseId := job.completedResponseId.filter (· ≠ "")
      result := result
      errorMessage := job.errorMessage.filter (· ≠ "")
      failedAt := job.failedAt.filter (· ≠ "") }

/-- `AsyncJobEnvelope.model_validate(job.to_api_dict())`. -/
def asyncJobEnvelope (job : GenerationJob Json (Loaded F)) : Except RouteError AsyncJobEnvelope :=
  jobEnvelope job (some job.jobPollToken)

/-- `AsyncJobListEnvelope.model_validate(job.to_dict())`, which takes no metadata of autonomy. -/
def asyncJobListEnvelope (py : PythonText F) (job : GenerationJob Json (Loaded F)) :
    Except RouteError AsyncJobEnvelope :=
  if job.autonomyMetadata.any (Loaded.truthy py) then .error .validation else jobEnvelope job none

/-- `_map_lifecycle_state`. -/
def mapLifecycleState : JobStatus → LifecycleState
  | .pending => .pending
  | .running => .active
  | .succeeded => .completed
  | .failed => .failed
  | .cancelled => .cancelled
  | .expired => .expired

/-- What `get_job_lifecycle` makes of a job. -/
def jobLifecycleEnvelope (job : GenerationJob Json (Loaded F)) :
    Except RouteError JobLifecycleEnvelope := do
  let result ← shownResult job.resultPayload
  pure
    { jobId := job.jobId
      sessionId := job.sessionId
      status := job.jobStatus
      createdAt := job.createdAt
      updatedAt := job.updatedAt
      completedAt :=
        if job.jobStatus.isTerminal then
          if job.jobStatus = .failed then job.failedAt else some job.updatedAt
        else none
      progressMessage := job.progressMessage
      retryAllowed := job.retryAllowed
      pendingResponseId := job.pendingResponseId
      completedResponseId := job.completedResponseId
      result := result
      lifecycleState := mapLifecycleState job.jobStatus }

/-! ### Requests -/

/-- The status that a list is restricted to, where `queued` is the old name of `pending`. -/
inductive StatusQuery
  | queued
  | status (status : JobStatus)

/-- `JobStatusEnum.from_string`. -/
def StatusQuery.toStatus : StatusQuery → JobStatus
  | queued => .pending
  | status s => s

/-- `JobCreateRequest`, with the id and the token that are drawn for the job and the time at which
it is created. The kind of job is not used. -/
structure JobCreateRequest where
  sessionId : String
  sessionAccessToken : String
  progressMessage : String
  retryAllowed : Bool
  jobId : String
  jobPollToken : AccessToken
  createdAt : String

/-- The parameters of `list_jobs`. -/
structure JobListRequest where
  sessionId : String
  sessionAccessToken : String
  status : Option StatusQuery
  offset : ℕ
  limit : ℕ

/-- The parameters of `cancel_job`, with the time at which the job is cancelled. -/
structure JobCancelRequest where
  jobId : String
  jobPollToken : String
  cancelledAt : String

/-- The requests. -/
inductive JobRequest (F : Type)
  | create (request : JobCreateRequest)
  | list (request : JobListRequest)
  | get (poll : JobPoll F)
  | lifecycle (poll : JobPoll F)
  | cancel (request : JobCancelRequest)

/-- The answers. -/
inductive JobAnswer
  | job (envelope : AsyncJobEnvelope)
  | jobs (envelope : JobListEnvelope)
  | lifecycle (envelope : JobLifecycleEnvelope)

/-! ### The routes -/

/-- `get_session_by_access_token`. -/
def sessionByAccessToken (stores : Stores F) (sessionId sessionAccessToken : String) :
    Option ChatSession :=
  (stores.getSession sessionId).filter (·.sessionAccessToken = sessionAccessToken)

/-- The `HTTPException` of a session that is not there. -/
def unknownSession : RouteError := .http 404 "unknown session"

/-- The `HTTPException` of a job that is not there. -/
def unknownJob : RouteError := .http 404 "unknown job"

/-- `create_job`. -/
def createJob (app : App) (stores : Stores F) (request : JobCreateRequest) :
    Except RouteError AsyncJobEnvelope × Stores F :=
  match sessionByAccessToken stores request.sessionId request.sessionAccessToken with
  | none => (.error unknownSession, stores)
  | some session =>
    let new : NewJob :=
      { sessionId := session.sessionId
        brokerId := session.brokerId
        officeId := session.officeId
        progressMessage := request.progressMessage
        retryAllowed := request.retryAllowed }
    match callJob app.jobs stores.jobs request.createdAt
        (.createJob request.jobId request.jobPollToken new) with
    | (jobs, .job (some job)) => (asyncJobEnvelope job, { stores with jobs := jobs })
    | _ => (.error .store, stores)

/-- `list_jobs`. -/
def listJobs (py : PythonText F) (stores : Stores F) (request : JobListRequest) :
    Except RouteError JobListEnvelope := do
  match sessionByAccessToken stores request.sessionId request.sessionAccessToken with
  | none => .error unknownSession
  | some _ =>
    let listed (status : Option JobStatus) : List (GenerationJob Json (Loaded F)) :=
      Jobs.listJobs stores.jobs (some request.sessionId) status 0 10000
    let allJobs := listed (request.status.map StatusQuery.toStatus)
    let items ← ((allJobs.drop request.offset).take request.limit).mapM (asyncJobListEnvelope py)
    pure
      { jobs := items
        total := (listed none).length
        filtered := allJobs.length
        offset := request.offset
        limit := request.limit }

/-- The jobs once a poll has taken its step of the autonomy run, if it takes one. -/
def advanced (app : App) (py : PythonText F) (jobs : JobTable Json (Loaded F)) (poll : JobPoll F)
    (job : GenerationJob Json (Loaded F)) : JobTable Json (Loaded F) :=
  match pollStep app.service py poll.toPoll job with
  | none => jobs
  | some (metadata, outcome) => afterStep app.jobs jobs poll.toPoll metadata outcome

/-- What a poll tells the session store of a job that it has refreshed. -/
def promoted (stores : Stores F) (poll : JobPoll F) (job : GenerationJob Json (Loaded F)) :
    Stores F :=
  match job.completedResponseId, job.pendingResponseId with
  | some completed, some pending =>
    { stores with
      sessions := promoteJobCompletion stores.sessions job.sessionId pending completed job.jobId
        poll.promotedAt }
  | _, _ => stores

/-- A refresh of the job that a poll asks for, and what is made of the job and the stores. -/
def refreshedBy (app : App) (stores : Stores F) (poll : JobPoll F) {α : Type}
    (answer : GenerationJob Json (Loaded F) → Except RouteError α)
    (after : Stores F → GenerationJob Json (Loaded F) → Stores F) :
    Except RouteError α × Stores F :=
  match callJob app.jobs stores.jobs poll.refreshedAt (.operate poll.jobId .refreshJob) with
  | (jobs, .job (some job)) => (answer job, after { stores with jobs := jobs } job)
  | (_, .raised) => (.error .store, stores)
  | _ => (.error unknownJob, stores)

/-- `get_job`. -/
def getJob (app : App) (py : PythonText F) (stores : Stores F) (poll : JobPoll F) :
    Except RouteError AsyncJobEnvelope × Stores F :=
  match jobByPollToken stores.jobs poll.toPoll with
  | none => (.error unknownJob, stores)
  | some job =>
    refreshedBy app { stores with jobs := advanced app py stores.jobs poll job } poll
      asyncJobEnvelope (fun stores job => promoted stores poll job)

/-- `get_job_lifecycle`. -/
def getJobLifecycle (app : App) (stores : Stores F) (poll : JobPoll F) :
    Except RouteError JobLifecycleEnvelope × Stores F :=
  match jobByPollToken stores.jobs poll.toPoll with
  | none => (.error unknownJob, stores)
  | some _ => refreshedBy app stores poll jobLifecycleEnvelope fun stores _ => stores

/-- The text of a status. -/
def statusText : JobStatus → String
  | .pending => "pending"
  | .running => "running"
  | .succeeded => "succeeded"
  | .failed => "failed"
  | .cancelled => "cancelled"
  | .expired => "expired"

/-- `cancel_job`. -/
def cancelJob (app : App) (stores : Stores F) (request : JobCancelRequest) :
    Except RouteError AsyncJobEnvelope × Stores F :=
  match (stores.jobs.lookup request.jobId).filter (·.jobPollToken = request.jobPollToken) with
  | none => (.error unknownJob, stores)
  | some job =>
    if job.jobStatus ∉ [.pending, .running] then
      (.error (.http 409 ("cannot cancel job with status: " ++ statusText job.jobStatus)), stores)
    else
      match callJob app.jobs stores.jobs request.cancelledAt
          (.operate request.jobId (.cancelJob "Job cancelled.")) with
      | (jobs, .job (some job)) => (asyncJobEnvelope job, { stores with jobs := jobs })
      | (_, .raised) => (.error .store, stores)
      | _ => (.error unknownJob, stores)

/-- The routes. -/
def handleJob (app : App) (py : PythonText F) (stores : Stores F) :
    JobRequest F → Except RouteError JobAnswer × Stores F
  | .create request => (createJob app stores request).map (·.map .job) id
  | .list request => ((listJobs py stores request).map .jobs, stores)
  | .get poll => (getJob app py stores poll).map (·.map .job) id
  | .lifecycle poll => (getJobLifecycle app stores poll).map (·.map .lifecycle) id
  | .cancel request => (cancelJob app stores request).map (·.map .job) id

variable {app : App} {py : PythonText F} {stores : Stores F} {poll : JobPoll F}
  {job : GenerationJob Json (Loaded F)}

/-! ### Polls that are alone -/

/-- A step of a poll that is alone. -/
def PollAlone (app : App) (py : PythonText F) (poll : JobPoll F) (s t : Stores F × PollPc) : Prop :=
  pollBlock app py poll s.1 s.2 = some t

/-- How a poll that is alone ends with its refresh. -/
theorem runs_refresh {jobs : JobTable Json (Loaded F)} :
    Relation.ReflTransGen (PollAlone app py poll) ({ stores with jobs := jobs }, .refresh)
      ((refreshedBy app { stores with jobs := jobs } poll asyncJobEnvelope
        fun stores job => promoted stores poll job).2, .done) := by
  have hstep : PollAlone app py poll ({ stores with jobs := jobs }, .refresh)
      ({ stores with
        jobs := (callJob app.jobs jobs poll.refreshedAt (.operate poll.jobId .refreshJob)).1 },
        refreshedPc (callJob app.jobs jobs poll.refreshedAt (.operate poll.jobId .refreshJob)).2) :=
    rfl
  refine .head hstep ?_
  rw [refreshedBy]
  cases hcall : callJob app.jobs jobs poll.refreshedAt (.operate poll.jobId .refreshJob) with
  | mk jobs' reply =>
    have hjobs (h : ∀ job, reply ≠ .job (some job)) : jobs' = jobs := by
      simp only [callJob] at hcall
      split at hcall
      · exact (Prod.mk.inj hcall).1.symm
      · split at hcall
        · exact (Prod.mk.inj hcall).1.symm
        · next job hjob _ _ _ =>
          obtain ⟨-, rfl⟩ := Prod.mk.inj hcall
          rw [KeyedTable.lookup_modify, if_pos rfl, hjob] at h
          exact absurd rfl (h _)
    cases reply with
    | job job =>
      cases job with
      | none =>
        rw [hjobs (by simp)]
        exact .refl
      | some job =>
        simp only [refreshedPc, promoted]
        cases job.completedResponseId with
        | none => exact .refl
        | some completed =>
          cases job.pendingResponseId with
          | none => exact .refl
          | some pending => exact .single rfl
    | _ =>
      rw [hjobs (by simp)]
      exact .refl

/-- **A poll that is alone is `getJob`.** Its steps one after the other leave what it leaves. -/
theorem runs_getJob : Relation.ReflTransGen (PollAlone app py poll) (stores, .load)
    ((getJob app py stores poll).2, .done) := by
  rw [getJob]
  cases hfound : jobByPollToken stores.jobs poll.toPoll with
  | none => exact .single (by simp only [PollAlone, pollBlock, hfound])
  | some job =>
    dsimp only
    cases hstep : pollStep app.service py poll.toPoll job with
    | none =>
      refine .head (by simp only [PollAlone, pollBlock, hfound, hstep]; rfl) ?_
      rw [advanced, hstep]
      exact runs_refresh
    | some step =>
      obtain ⟨metadata, outcome⟩ := step
      have hload : PollAlone app py poll (stores, .load) (stores, .advance metadata outcome) := by
        simp only [PollAlone, pollBlock, hfound, hstep]
      set updated := stores.call app poll.updatedAt
        (.updateAutonomyMetadata poll.jobId metadata.toDict outcome.completes) with hupdated
      refine .head hload (.trans ?_ runs_refresh)
      rw [advanced, hstep]
      dsimp only
      rw [afterStep]
      cases herror : outcome.errorMessage.filter (· ≠ "") with
      | none =>
        have hadvance : PollAlone app py poll (stores, .advance metadata outcome)
            (updated, .reload) := by
          simp only [PollAlone, pollBlock, herror, hupdated]
        exact .head hadvance (.single rfl)
      | some errorMessage =>
        dsimp only
        split_ifs with hterminal
        · have hadvance : PollAlone app py poll (stores, .advance metadata outcome)
              (updated, .fail errorMessage) := by
            simp only [PollAlone, pollBlock, herror, hupdated, hterminal, if_true]
          exact .head hadvance (.head rfl (.single rfl))
        · have hadvance : PollAlone app py poll (stores, .advance metadata outcome)
              (updated, .reload) := by
            simp only [PollAlone, pollBlock, herror, hupdated, hterminal]
            rfl
          exact .head hadvance (.single rfl)

/-! ### Sessions -/

/-- What a poll tells the session store leaves all that a chat request reads of the sessions. -/
@[simp] theorem view_promoted : (promoted stores poll job).view = stores.view := by
  rw [promoted]
  split
  · simp only [Stores.view, SessionStore.mk.injEq, and_true]
    funext id
    rw [lookup_promoteJobCompletion, Option.map_map]
    refine congrArg (Option.map · _) (funext fun row => ?_)
    rw [Function.comp_apply]
    split_ifs
    · rfl
    · rfl
  · rfl

theorem view_refreshedBy {α : Type}
    {answer : GenerationJob Json (Loaded F) → Except RouteError α}
    {after : Stores F → GenerationJob Json (Loaded F) → Stores F}
    (hafter : ∀ stores job, (after stores job).view = stores.view) :
    (refreshedBy app stores poll answer after).2.view = stores.view := by
  rw [refreshedBy]
  split
  · exact hafter _ _
  · rfl
  · rfl

/-- **No route of jobs changes what a chat request reads of the sessions.** -/
theorem view_handleJob (request : JobRequest F) :
    (handleJob app py stores request).2.view = stores.view := by
  cases request with
  | create request =>
    simp only [handleJob, Prod.map_snd, id, createJob]
    split
    · rfl
    · split
      · rfl
      · rfl
  | list request => rfl
  | get poll =>
    simp only [handleJob, Prod.map_snd, id, getJob]
    split
    · rfl
    · exact view_refreshedBy fun _ _ => view_promoted
  | lifecycle poll =>
    simp only [handleJob, Prod.map_snd, id, getJobLifecycle]
    split
    · rfl
    · exact view_refreshedBy fun _ _ => rfl
  | cancel request =>
    simp only [handleJob, Prod.map_snd, id, cancelJob]
    split
    · rfl
    · split_ifs
      · split
        · rfl
        · rfl
        · rfl
      · rfl

end Meridian.Api.Routes
