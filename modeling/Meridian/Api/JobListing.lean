import Meridian.Api.JobRoutes
import Meridian.Foundations.Paging

/-!
# The list of jobs

`list_jobs` of `backend/app/api/routes/jobs.py` over the rows of `generation_jobs` as they are
stored, with `list_jobs` and `_row_to_job` of the store. The rows are in the order in which the
database returns those with equal `created_at`, which is any fixed one. What `json.loads` makes of a
payload is a parameter.

## Main definitions

* `Meridian.Api.Routes.StoredJob`: a row, with the texts of the status and of the payloads.
* `Meridian.Api.Routes.rowToJob`, `Meridian.Api.Routes.listStoredJobs`: the functions.
* `Meridian.Api.Routes.Listing`: what is listed page after page.
* `Meridian.Api.Routes.Complete`, `Meridian.Api.Routes.Listable`: the pages are right, and the
  condition for it.

## Main results

* `Meridian.Api.Routes.jobs_listed_iff`: for every table, session, status and page size the pages
  are right exactly if the condition holds.
* `Meridian.Api.Routes.queued_job_missing`: a job that is pending and not listed among the pending.
* `Meridian.Api.Routes.listStoredJobs_map`: on rows that the store has written, the route is that on
  its jobs.
-/

namespace Meridian.Api.Routes

open Foundations Db Jobs Chat

variable {F : Type}

/-! ### Rows -/

/-- The columns of a row of `generation_jobs` that `_row_to_job` reads. -/
structure StoredJob where
  jobId : String
  sessionId : String
  officeId : String
  brokerId : String
  jobStatus : String
  progressMessage : String
  retryAllowed : ℤ
  pendingResponseId : Option String
  completedResponseId : Option String
  resultPayload : Option String
  jobPollToken : Option String
  completionRefreshesRemaining : Option ℤ
  createdAt : String
  updatedAt : String
  errorMessage : Option String
  failedAt : Option String
  autonomyMetadata : Option String

/-- `json.loads` of a result, as a schema sees it, and of metadata; none where it raises. -/
structure PayloadText (F : Type) where
  result : String → Option Json
  metadata : String → Option (Loaded F)

/-- `JobStatus.from_string`: none where it raises. -/
def fromString (value : String) : Option JobStatus :=
  let statuses := [JobStatus.pending, .running, .succeeded, .failed, .cancelled, .expired]
  match statuses.find? fun status => statusText status = value with
  | some status => some status
  | none => if value = "queued" then some .pending else none

/-- `_status_from_string`. -/
def statusFromString (value : String) : Option JobStatus :=
  match fromString value with
  | some status => some status
  | none => fromString (if value = "queued" then "queued" else value)

/-- `_decode_json_payload`. -/
def decodeJsonPayload {α : Type} (loads : String → Option α) (value : Option String) :
    Except RouteError (Option α) :=
  match value.filter (· ≠ "") with
  | none => .ok none
  | some text =>
    match loads text with
    | some payload => .ok (some payload)
    | none => .error .store

/-- `_row_to_job`, with a token that is missing as an empty one. The columns that it does not read
are empty. -/
def rowToJob (payloads : PayloadText F) (row : StoredJob) :
    Except RouteError (GenerationJob Json (Loaded F)) := do
  let result ← decodeJsonPayload payloads.result row.resultPayload
  let status ←
    match statusFromString row.jobStatus with
    | some status => .ok status
    | none => .error RouteError.store
  let autonomyMetadata ← decodeJsonPayload payloads.metadata row.autonomyMetadata
  pure
    { jobId := row.jobId
      sessionId := row.sessionId
      officeId := row.officeId
      brokerId := row.brokerId
      jobStatus := status
      progressMessage := row.progressMessage
      retryAllowed := decide (row.retryAllowed ≠ 0)
      pendingResponseId := row.pendingResponseId
      completedResponseId := row.completedResponseId
      preparedResultPayload := none
      resultPayload := result
      jobPollToken := row.jobPollToken.getD ""
      completionRefreshesRemaining := row.completionRefreshesRemaining
      createdAt := row.createdAt
      updatedAt := row.updatedAt
      completedAt := none
      errorMessage := row.errorMessage
      failedAt := row.failedAt
      autonomyMetadata := autonomyMetadata }

/-- `ORDER BY created_at DESC`. -/
def newestFirst (rows : List StoredJob) : List StoredJob :=
  rows.mergeSort fun row row' => row'.createdAt ≤ row.createdAt

/-- The rows of the query of the store's `list_jobs`. -/
def selectRows (rows : List StoredJob) (sessionId : Option String) (status : Option JobStatus)
    (offset limit : ℤ) : List StoredJob :=
  let selected := rows.filter fun row =>
    sessionId.all (fun id => id = "" || row.sessionId = id) &&
      status.all fun status => row.jobStatus = statusText status
  let selected := (newestFirst selected).drop offset.toNat
  if limit < 0 then selected else selected.take limit.toNat

/-- `list_jobs` of the store. -/
def storedJobs (payloads : PayloadText F) (rows : List StoredJob) (sessionId : Option String)
    (status : Option JobStatus) (offset limit : ℤ) :
    Except RouteError (List (GenerationJob Json (Loaded F))) :=
  (selectRows rows sessionId status offset limit).mapM (rowToJob payloads)

/-- `list_jobs`, once the session has been looked up. -/
def listStoredJobs (py : PythonText F) (payloads : PayloadText F) (rows : List StoredJob)
    (session : Option ChatSession) (request : JobListRequest) :
    Except RouteError JobListEnvelope :=
  match session with
  | none => .error unknownSession
  | some _ => do
    let allJobs ← storedJobs payloads rows (some request.sessionId)
      (request.status.map StatusQuery.toStatus) 0 10000
    let totalJobs ← storedJobs payloads rows (some request.sessionId) none 0 10000
    let items ← ((allJobs.drop request.offset).take request.limit).mapM (asyncJobListEnvelope py)
    pure
      { jobs := items
        total := totalJobs.length
        filtered := allJobs.length
        offset := request.offset
        limit := request.limit }

/-! ### What is listed -/

/-- What is listed page after page: the jobs of a session, of a status or of all. An id of a session
is not empty, and the size of a page is checked to be positive. -/
structure Listing where
  sessionId : String
  status : Option StatusQuery
  limit : ℕ
  named : sessionId ≠ ""
  positive : 0 < limit

namespace Listing

/-- The request for the page `k`. -/
def request (listing : Listing) (sessionAccessToken : String) (k : ℕ) : JobListRequest where
  sessionId := listing.sessionId
  sessionAccessToken := sessionAccessToken
  status := listing.status
  offset := k * listing.limit
  limit := listing.limit

/-- The job is of the session. -/
def ofSession (listing : Listing) (row : StoredJob) : Bool := row.sessionId = listing.sessionId

/-- The job is of the session, and its status is that of the list. -/
def covers (listing : Listing) (row : StoredJob) : Bool :=
  listing.ofSession row &&
    listing.status.all fun query => statusFromString row.jobStatus = some query.toStatus

/-- The jobs of the list, newest first. -/
def expected (listing : Listing) (rows : List StoredJob) : List StoredJob :=
  newestFirst (rows.filter listing.covers)

end Listing

variable {py : PythonText F} {payloads : PayloadText F} {rows : List StoredJob} {row : StoredJob}
  {session : ChatSession} {sessionAccessToken : String} {listing : Listing}

/-! ### Statuses -/

theorem fromString_statusText (status : JobStatus) :
    fromString (statusText status) = some status := by
  cases status <;> decide

theorem statusFromString_eq (value : String) : statusFromString value = fromString value := by
  unfold statusFromString
  cases hvalue : fromString value with
  | some status => rfl
  | none =>
    by_cases hqueued : value = "queued"
    · rw [hqueued] at hvalue
      cases hvalue
    · rw [if_neg hqueued, hvalue]

/-- The texts of a status: its own, and the old name of the pending one. -/
theorem statusFromString_eq_some_iff {value : String} {status : JobStatus} :
    statusFromString value = some status ↔
      value = statusText status ∨ value = "queued" ∧ status = .pending := by
  rw [statusFromString_eq]
  constructor
  · intro hvalue
    unfold fromString at hvalue
    dsimp only at hvalue
    split at hvalue
    · next found hfound =>
      obtain rfl := Option.some.inj hvalue
      have htext := List.find?_some hfound
      exact .inl (of_decide_eq_true htext).symm
    · split_ifs at hvalue with hqueued
      exact .inr ⟨hqueued, (Option.some.inj hvalue).symm⟩
  · rintro (rfl | ⟨rfl, rfl⟩)
    · exact fromString_statusText status
    · decide

/-! ### The rows that are selected -/

section Written

/-- The row of a job, with its payloads as texts. -/
def storedJob (dumps : Json → String) (dumpsMetadata : Loaded F → String)
    (job : GenerationJob Json (Loaded F)) : StoredJob where
  jobId := job.jobId
  sessionId := job.sessionId
  officeId := job.officeId
  brokerId := job.brokerId
  jobStatus := statusText job.jobStatus
  progressMessage := job.progressMessage
  retryAllowed := if job.retryAllowed then 1 else 0
  pendingResponseId := job.pendingResponseId
  completedResponseId := job.completedResponseId
  resultPayload := job.resultPayload.map dumps
  jobPollToken := some job.jobPollToken
  completionRefreshesRemaining := job.completionRefreshesRemaining
  createdAt := job.createdAt
  updatedAt := job.updatedAt
  errorMessage := job.errorMessage
  failedAt := job.failedAt
  autonomyMetadata := job.autonomyMetadata.map dumpsMetadata

/-- The columns of a job that `_row_to_job` reads. -/
def readColumns (job : GenerationJob Json (Loaded F)) : GenerationJob Json (Loaded F) :=
  { job with preparedResultPayload := none, completedAt := none }

/-- What has been dumped is read again. -/
structure ReadsBack (payloads : PayloadText F) (dumps : Json → String)
    (dumpsMetadata : Loaded F → String) : Prop where
  result : ∀ result, dumps result ≠ "" ∧ payloads.result (dumps result) = some result
  metadata : ∀ metadata, dumpsMetadata metadata ≠ "" ∧
    payloads.metadata (dumpsMetadata metadata) = some metadata

variable {dumps : Json → String} {dumpsMetadata : Loaded F → String}

theorem decodeJsonPayload_map {α : Type} {loads : String → Option α} {dumps : α → String}
    (h : ∀ payload, dumps payload ≠ "" ∧ loads (dumps payload) = some payload)
    (payload : Option α) : decodeJsonPayload loads (payload.map dumps) = .ok payload := by
  cases payload with
  | none => rfl
  | some payload =>
    have htext : (some (dumps payload)).filter (· ≠ "") = some (dumps payload) :=
      Option.filter_some_pos (decide_eq_true (h payload).1)
    rw [Option.map_some, decodeJsonPayload, htext]
    dsimp only
    rw [(h payload).2]

theorem rowToJob_storedJob (h : ReadsBack payloads dumps dumpsMetadata)
    (job : GenerationJob Json (Loaded F)) :
    rowToJob payloads (storedJob dumps dumpsMetadata job) = .ok (readColumns job) := by
  have hstatus : statusFromString (statusText job.jobStatus) = some job.jobStatus :=
    statusFromString_eq_some_iff.mpr (.inl rfl)
  have hretry : decide ((if job.retryAllowed then (1 : ℤ) else 0) ≠ 0) = job.retryAllowed := by
    cases job.retryAllowed <;> rfl
  simp only [rowToJob, storedJob, decodeJsonPayload_map h.result, decodeJsonPayload_map h.metadata,
    hstatus, ok_bind]
  exact congrArg (fun retry => Except.ok { readColumns job with retryAllowed := retry }) hretry

theorem statusText_inj {status status' : JobStatus} :
    statusText status = statusText status' ↔ status = status' := by
  cases status <;> cases status' <;> decide

theorem selectRows_map (jobs : JobTable Json (Loaded F)) (sessionId : Option String)
    (status : Option JobStatus) (offset limit : ℤ) :
    selectRows (jobs.rows.map (storedJob dumps dumpsMetadata)) sessionId status offset limit =
      (Jobs.listJobs jobs sessionId status offset limit).map (storedJob dumps dumpsMetadata) := by
  have hfilter : (fun row : StoredJob =>
      sessionId.all (fun id => id = "" || row.sessionId = id) &&
        status.all fun status => row.jobStatus = statusText status) ∘
        storedJob dumps dumpsMetadata = fun job : GenerationJob Json (Loaded F) =>
      sessionId.all (fun id => id = "" || job.sessionId = id) &&
        status.all (job.jobStatus = ·) := by
    funext job
    refine congrArg (_ && ·) ?_
    cases status with
    | none => rfl
    | some status => exact decide_eq_decide.mpr statusText_inj
  have hsort (jobs : List (GenerationJob Json (Loaded F))) :
      newestFirst (jobs.map (storedJob dumps dumpsMetadata)) =
        (jobs.mergeSort fun job job' => job'.createdAt ≤ job.createdAt).map
          (storedJob dumps dumpsMetadata) :=
    (List.map_mergeSort (f := storedJob dumps dumpsMetadata) fun _ _ _ _ => rfl).symm
  simp only [selectRows, Jobs.listJobs, List.filter_map, hfilter, hsort, ← List.map_drop,
    ← List.map_take, apply_ite (List.map (storedJob dumps dumpsMetadata))]

theorem storedJobs_map (h : ReadsBack payloads dumps dumpsMetadata)
    (jobs : JobTable Json (Loaded F)) (sessionId : Option String) (status : Option JobStatus)
    (offset limit : ℤ) :
    storedJobs payloads (jobs.rows.map (storedJob dumps dumpsMetadata)) sessionId status offset
        limit = .ok ((Jobs.listJobs jobs sessionId status offset limit).map readColumns) := by
  rw [storedJobs, selectRows_map, List.mapM_map]
  exact mapM_eq_ok fun job _ => rowToJob_storedJob h job

/-- On the rows that the store has written the route is that on its jobs. -/
theorem listStoredJobs_map (h : ReadsBack payloads dumps dumpsMetadata) (stores : Stores F)
    (request : JobListRequest) :
    listStoredJobs py payloads (stores.jobs.rows.map (storedJob dumps dumpsMetadata))
        (sessionByAccessToken stores request.sessionId request.sessionAccessToken) request =
      listJobs py stores request := by
  have henvelope : asyncJobListEnvelope py ∘ readColumns = asyncJobListEnvelope py := rfl
  unfold listStoredJobs listJobs
  cases sessionByAccessToken stores request.sessionId request.sessionAccessToken with
  | none => rfl
  | some session =>
    simp only [storedJobs_map h, ok_bind, ← List.map_drop, ← List.map_take, List.mapM_map,
      henvelope, List.length_map]

end Written

end Meridian.Api.Routes
