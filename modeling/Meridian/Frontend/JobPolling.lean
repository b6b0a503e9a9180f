import Meridian.Api.ChatRequests

/-!
# The client that polls a job

`getJobPollResultAction` of `frontend/src/job-polling.js` and the polling loop of
`frontend/src/App.jsx`, against a store of jobs under any calls. A poll is answered with
`to_api_dict` of the job, and the answer takes its time to arrive. The answers of the server that
are no `200`, the texts that the shell shows and a loop that is given up for another job are left
out.

## Main definitions

* `Meridian.Frontend.toApiDict`: the answer to a poll.
* `Meridian.Frontend.getJobPollResultAction`: what the client does on an answer.
* `Meridian.Frontend.pollingStep`: a call of the store or a step of the loop.
* `Meridian.Frontend.Faithful`: the client has neither given up a live job nor made up a result.

## Main results

* `Meridian.Frontend.received_toApiDict`: what the client does on the answer for a consistent job.
* `Meridian.Frontend.never_abandons_iff`: in a run, the client is faithful in every state exactly if
  no answer for a pending job arrives before the job has failed, been cancelled or expired.
* `Meridian.Frontend.pending_job_abandoned`: a run in which the client gives up a job that succeeds.
-/

namespace Meridian.Frontend

open Foundations Jobs Api.Chat

/-! ### The answer to a poll -/

/-- `status_literal`. -/
def statusLiteral : JobStatus → String
  | .pending => "pending"
  | .running => "running"
  | .succeeded => "succeeded"
  | .failed => "failed"
  | .cancelled => "cancelled"
  | .expired => "expired"

/-- `bool(value)` of a decoded payload. -/
def truthy : Json → Bool
  | .null => false
  | .bool b => b
  | .num q => q ≠ 0
  | .str s => s ≠ ""
  | .arr items => !items.isEmpty
  | .obj fields => !fields.isEmpty

/-- `if value: base[name] = value`. -/
def memberIf (name : String) (value : Option Json) : List (String × Json) :=
  match value.filter truthy with
  | some value => [(name, value)]
  | none => []

/-- `to_dict`. -/
def toDict (job : GenerationJob Json Json) : List (String × Json) :=
  [("job_id", .str job.jobId),
   ("session_id", .str job.sessionId),
   ("status", .str (statusLiteral job.jobStatus)),
   ("created_at", .str job.createdAt),
   ("updated_at", .str job.updatedAt),
   ("progress_message", .str job.progressMessage),
   ("retry_allowed", .bool job.retryAllowed)] ++
  memberIf "completed_response_id" (job.completedResponseId.map Json.str) ++
  memberIf "result" job.resultPayload ++
  memberIf "error_message" (job.errorMessage.map Json.str) ++
  memberIf "failed_at" (job.failedAt.map Json.str) ++
  memberIf "autonomy_metadata" job.autonomyMetadata

/-- `to_api_dict`. -/
def toApiDict (job : GenerationJob Json Json) : Json :=
  .obj <| (toDict job ++ [("job_poll_token", Json.str job.jobPollToken)]).filter
    (·.1 ≠ "autonomy_metadata")

/-! ### Values of the script -/

/-- Whether a condition takes the value for true: all objects are. -/
def scriptTruthy : Json → Bool
  | .null => false
  | .bool b => b
  | .num q => q ≠ 0
  | .str s => s ≠ ""
  | .arr _ => true
  | .obj _ => true

/-- `value || text`. -/
def orText (value : Option Json) (text : String) : Json :=
  (value.filter scriptTruthy).getD (.str text)

/-- `value ?? default`. -/
def coalesce (value : Option Json) (default : Json) : Json :=
  match value with
  | none => default
  | some .null => default
  | some value => value

section Text

variable (numberText : ℚ → String)

mutual

/-- `String(value)`, given how a number is written. -/
def scriptText : Json → String
  | .null => "null"
  | .bool b => if b then "true" else "false"
  | .num q => numberText q
  | .str s => s
  | .arr items => ",".intercalate (scriptTexts items)
  | .obj _ => "[object Object]"

/-- The texts that `join` puts together. -/
def scriptTexts : List Json → List String
  | [] => []
  | .null :: items => "" :: scriptTexts items
  | item :: items => scriptText item :: scriptTexts items

end

/-- The text of a template with the value, which may be undefined. -/
def templateText : Option Json → String
  | none => "undefined"
  | some value => scriptText numberText value

end Text

/-! ### The client -/

/-- `INITIAL_JOB_POLL_DELAY_MS`. -/
def initialJobPollDelayMs : ℕ := 1200

/-- `MAX_JOB_POLL_DELAY_MS`. -/
def maxJobPollDelayMs : ℕ := 4000

/-- `nextRunningJobPollDelay`. -/
def nextRunningJobPollDelay (delayMs : ℕ) : ℕ := min (delayMs + 400) maxJobPollDelayMs

/-- What the client does next. -/
inductive JobPollAction
  | retry (status : String) (message : Json) (delayMs : ℕ)
  | complete (status : String) (result : Json)
  | fail (status message : Json) (retryAllowed : Option Json)

/-- `getJobPollResultAction`. -/
def getJobPollResultAction (numberText : ℚ → String) (job : Json) (delayMs : ℕ) : JobPollAction :=
  let progressMessage := job.get? "progress_message"
  match job.get? "status" with
  | some (.str "queued") =>
    .retry "queued" (orText progressMessage "Job queued, waiting to start...")
      (nextRunningJobPollDelay delayMs)
  | some (.str "running") =>
    .retry "running" (orText progressMessage "Job in progress...")
      (nextRunningJobPollDelay delayMs)
  | some (.str "succeeded") =>
    match (job.get? "result").filter scriptTruthy with
    | some result => .complete "succeeded" result
    | none =>
      .fail (.str "succeeded")
        (orText progressMessage "Job completed but no result available.") none
  | some (.str "failed") =>
    .fail (.str "failed") (orText progressMessage "Background job failed.")
      (some (coalesce (job.get? "retry_allowed") (.bool false)))
  | some (.str "cancelled") =>
    .fail (.str "cancelled") (orText progressMessage "Job was cancelled.") none
  | some (.str "expired") =>
    .fail (.str "expired") (orText progressMessage "Job expired before completion.") none
  | status =>
    .fail (coalesce status (.str "unknown"))
      (orText progressMessage
        ("Background job ended with unknown status " ++ templateText numberText status ++ "."))
      none

/-- The polling loop: its timer runs, its request is on the way or its answer is, or it has ended
with a result or an error. -/
inductive Client
  | waiting (delayMs : ℕ)
  | requested (delayMs : ℕ)
  | answered (delayMs : ℕ) (job : Json)
  | completed (result : Json)
  | stopped (message : Json)

/-- The loop after an answer. -/
def received (numberText : ℚ → String) (delayMs : ℕ) (job : Json) : Client :=
  match getJobPollResultAction numberText job delayMs with
  | .complete _ result => .completed result
  | .retry _ _ delayMs => .waiting delayMs
  | .fail _ message _ => .stopped message

/-! ### Runs -/

/-- The jobs and the loop. -/
structure Polling where
  jobs : JobTable Json Json
  client : Client

/-- A call of the store, among them those that a poll makes before it is answered, or a step of the
loop. -/
inductive PollingLabel
  | call (now : String) (call : JobCall Json Json)
  | send
  | respond
  | receive

/-- The store of the application. -/
def storeConfig (completionRefreshPolls : ℤ) : Config Json :=
  { reader := envelopeReader, completionRefreshPolls := completionRefreshPolls }

section Step

variable (completionRefreshPolls : ℤ) (numberText : ℚ → String) (jobId : String)

/-- One step. -/
def pollingStep (s : Polling) : PollingLabel → Option Polling
  | .call now call =>
    some { s with jobs := (callJob (storeConfig completionRefreshPolls) s.jobs now call).1 }
  | .send =>
    match s.client with
    | .waiting delayMs => some { s with client := .requested delayMs }
    | _ => none
  | .respond =>
    match s.client, s.jobs.lookup jobId with
    | .requested delayMs, some job => some { s with client := .answered delayMs (toApiDict job) }
    | _, _ => none
  | .receive =>
    match s.client with
    | .answered delayMs job => some { s with client := received numberText delayMs job }
    | _ => none

/-- The loop begins on a job that has just been created. -/
def created (jobs : JobTable Json Json) (now jobPollToken : String) (new : NewJob) : Polling :=
  { jobs := (callJob (storeConfig completionRefreshPolls) jobs now
      (.createJob jobId jobPollToken new)).1
    client := .waiting initialJobPollDelayMs }

end Step

/-! ### The property and the condition -/

/-- The job has ended, but not with a result. -/
def EndedWithoutResult (row : JobRow Json) : Prop :=
  row.jobStatus.isTerminal = true ∧
    ¬ (row.jobStatus = .succeeded ∧ row.resultPayload.isSome = true)

/-- The client has given up only a job that has ended without a result, it delivers the stored
result, and it has not given up a job that has succeeded. -/
structure Faithful (jobId : String) (s : Polling) : Prop where
  stopped : ∀ message, s.client = .stopped message →
    ∃ job, s.jobs.lookup jobId = some job ∧ EndedWithoutResult job.toJobRow
  completed : ∀ result, s.client = .completed result →
    ∃ job, s.jobs.lookup jobId = some job ∧ job.jobStatus = .succeeded ∧
      job.resultPayload = some result
  polled : ∀ job, s.jobs.lookup jobId = some job → job.jobStatus = .succeeded →
    ∀ message, s.client ≠ .stopped message

/-- An answer that says that the job is pending arrives only if the job has ended without a result
by then. -/
def PendingOnlyIfEnded (jobId : String) (s : Polling) : PollingLabel → Prop
  | .receive => ∀ delayMs body, s.client = .answered delayMs body →
      body.get? "status" = some (.str "pending") →
        ∃ job, s.jobs.lookup jobId = some job ∧ EndedWithoutResult job.toJobRow
  | _ => True

variable {completionRefreshPolls : ℤ} {numberText : ℚ → String} {jobId : String}
  {s t s₀ : Polling} {l : PollingLabel} {job job' : GenerationJob Json Json}

/-! ### One answer -/

theorem lookup_memberIf {name name' : String} {value : Option Json} :
    (memberIf name' value).lookup name =
      if name = name' then value.filter truthy else none := by
  unfold memberIf
  by_cases hname : name = name'
  · cases value.filter truthy <;> simp [hname]
  · have hne : (name == name') = false := beq_eq_false_iff_ne.mpr hname
    cases value.filter truthy <;> simp [hname, List.lookup_cons, hne]

theorem get?_status (job : GenerationJob Json Json) :
    (toApiDict job).get? "status" = some (.str (statusLiteral job.jobStatus)) := by
  rw [toApiDict, Json.get?_obj, Responses.lookup_filter_ne (by decide)]
  rfl

theorem get?_result (job : GenerationJob Json Json) :
    (toApiDict job).get? "result" = job.resultPayload.filter truthy := by
  rw [toApiDict, Json.get?_obj, Responses.lookup_filter_ne (by decide)]
  simp [toDict, List.lookup_append, List.lookup_cons, lookup_memberIf]

/-- The result of a consistent job is true for the server and the script. -/
theorem truthy_of_consistent (h : job.Consistent envelopeReader) {result : Json}
    (hresult : job.resultPayload = some result) :
    truthy result = true ∧ scriptTruthy result = true := by
  have hsucceeded : job.jobStatus = .succeeded := by
    rw [← h.resultPayload, hresult]
    rfl
  have hid : (envelopeReader.responseId result).isSome = true := by
    rw [← h.responseId result hresult, h.completedResponseId, hsucceeded]
  cases result with
  | scalar v => cases hid
  | arr items => cases hid
  | obj fields =>
    cases fields with
    | nil => cases hid
    | cons m fields => exact ⟨rfl, rfl⟩

/-- What the client does on the answer for a consistent job: it goes on with a running one, delivers
the result of one that has succeeded and gives up any other. -/
theorem received_toApiDict (h : job.Consistent envelopeReader) (numberText : ℚ → String)
    (delayMs : ℕ) :
    (job.jobStatus = .running ∧
      ∃ delayMs', received numberText delayMs (toApiDict job) = .waiting delayMs') ∨
    (job.jobStatus = .succeeded ∧ ∃ result, job.resultPayload = some result ∧
      received numberText delayMs (toApiDict job) = .completed result) ∨
    (job.jobStatus ≠ .running ∧ job.jobStatus ≠ .succeeded ∧
      ∃ message, received numberText delayMs (toApiDict job) = .stopped message) := by
  cases hstatus : job.jobStatus with
  | running =>
    refine .inl ⟨rfl, nextRunningJobPollDelay delayMs, ?_⟩
    simp only [received, getJobPollResultAction, get?_status, hstatus, statusLiteral]
  | succeeded =>
    obtain ⟨result, hresult⟩ := Option.isSome_iff_exists.mp (h.resultPayload.mpr hstatus)
    obtain ⟨htruthy, hscript⟩ := truthy_of_consistent h hresult
    refine .inr (.inl ⟨rfl, result, hresult, ?_⟩)
    have hget : ((toApiDict job).get? "result").filter scriptTruthy = some result := by
      simp [get?_result, hresult, htruthy, hscript]
    simp only [received, getJobPollResultAction, get?_status, hstatus, statusLiteral, hget]
  | _ =>
    refine .inr (.inr ⟨nofun, nofun, ?_⟩)
    simp only [received, getJobPollResultAction, get?_status, hstatus, statusLiteral]
    exact ⟨_, rfl⟩

/-! ### What holds in every state -/

/-- The job of the loop is stored and consistent, and an answer on its way is the job as it was, of
which nothing that is final has changed. -/
structure Sound (jobId : String) (s : Polling) (job : GenerationJob Json Json) : Prop where
  stored : s.jobs.lookup jobId = some job
  consistent : job.Consistent envelopeReader
  answered : ∀ delayMs body, s.client = .answered delayMs body →
    ∃ snapshot : GenerationJob Json Json, body = toApiDict snapshot ∧
      snapshot.Consistent envelopeReader ∧
      (snapshot.jobStatus.isTerminal = true → job.outcome = snapshot.outcome)

theorem EndedWithoutResult.of_outcome {row row' : JobRow Json} (h : EndedWithoutResult row)
    (heq : row'.outcome = row.outcome) : EndedWithoutResult row' := by
  have hstatus : row'.jobStatus = row.jobStatus := congrArg Prod.fst heq
  have hresult : row'.resultPayload = row.resultPayload := congrArg (·.2.1) heq
  rwa [EndedWithoutResult, hstatus, hresult]

/-- A call of the store keeps the job sound, and what is final about it. -/
theorem Sound.call (h : Sound jobId s job) (completionRefreshPolls : ℤ) (now : String)
    (call : JobCall Json Json) :
    ∃ job', Sound jobId
        { s with jobs := (callJob (storeConfig completionRefreshPolls) s.jobs now call).1 } job' ∧
      (job.jobStatus.isTerminal = true → job'.outcome = job.outcome) := by
  obtain ⟨job', hjob', hfollows⟩ : ∃ job',
      (callJob (storeConfig completionRefreshPolls) s.jobs now call).1.lookup jobId = some job' ∧
        job.Follows envelopeReader job'.toJobRow := callJob_follows h.stored h.consistent
  have hkept : job.jobStatus.isTerminal = true → job'.outcome = job.outcome := hfollows.outcome_eq
  refine ⟨job', ⟨hjob', hfollows.consistent h.consistent, fun delayMs body hclient => ?_⟩, hkept⟩
  obtain ⟨snapshot, hbody, hsnapshot, houtcome⟩ := h.answered delayMs body hclient
  refine ⟨snapshot, hbody, hsnapshot, fun hterminal => ?_⟩
  have hsame := houtcome hterminal
  have hstatus : job.jobStatus = snapshot.jobStatus := congrArg Prod.fst hsame
  rw [hkept (by rw [hstatus, hterminal]), hsame]

/-- Every step keeps the job sound. -/
theorem Sound.step (h : ∃ job, Sound jobId s job)
    (hstep : pollingStep completionRefreshPolls numberText jobId s l = some t) :
    ∃ job, Sound jobId t job := by
  obtain ⟨job, h⟩ := h
  cases l with
  | call now call =>
    obtain rfl := Option.some.inj hstep
    obtain ⟨job', h', -⟩ := h.call completionRefreshPolls now call
    exact ⟨job', h'⟩
  | send =>
    simp only [pollingStep] at hstep
    split at hstep
    · obtain rfl := Option.some.inj hstep
      exact ⟨job, h.stored, h.consistent, fun _ _ hclient => by cases hclient⟩
    · cases hstep
  | respond =>
    simp only [pollingStep, h.stored] at hstep
    split at hstep
    · next delayMs job' hclient hjob' =>
      obtain rfl := Option.some.inj hjob'
      obtain rfl := Option.some.inj hstep
      refine ⟨job, h.stored, h.consistent, fun _ _ hclient => ?_⟩
      cases hclient
      exact ⟨job, rfl, h.consistent, fun _ => rfl⟩
    · cases hstep
  | receive =>
    simp only [pollingStep] at hstep
    split at hstep
    · next delayMs body hclient =>
      obtain rfl := Option.some.inj hstep
      refine ⟨job, h.stored, h.consistent, fun delayMs' body' hanswered => ?_⟩
      obtain ⟨snapshot, rfl, hsnapshot, -⟩ := h.answered delayMs body hclient
      obtain ⟨-, _, hreceived⟩ | ⟨-, _, -, hreceived⟩ | ⟨-, -, _, hreceived⟩ :=
        received_toApiDict hsnapshot numberText delayMs
      all_goals
        rw [hreceived] at hanswered
        cases hanswered
    · cases hstep

/-- The loop of a sound job is faithful if what it has ended with is right. -/
theorem Faithful.of_sound (h : Sound jobId s job)
    (hstopped : ∀ message, s.client = .stopped message → EndedWithoutResult job.toJobRow)
    (hcompleted : ∀ result, s.client = .completed result → job.jobStatus = .succeeded ∧
      job.resultPayload = some result) : Faithful jobId s where
  stopped message hclient := ⟨job, h.stored, hstopped message hclient⟩
  completed result hclient := ⟨job, h.stored, hcompleted result hclient⟩
  polled job' hjob' hsucceeded message hclient := by
    obtain rfl := Option.some.inj (h.stored.symm.trans hjob')
    exact (hstopped message hclient).2 ⟨hsucceeded, h.consistent.resultPayload.mpr hsucceeded⟩

/-- A call of the store leaves a faithful loop faithful. -/
theorem Faithful.call (h : Faithful jobId s) (hsound : Sound jobId s job) (now : String)
    (call : JobCall Json Json) :
    Faithful jobId
      { s with jobs := (callJob (storeConfig completionRefreshPolls) s.jobs now call).1 } := by
  obtain ⟨job', hsound', hkept⟩ := hsound.call completionRefreshPolls now call
  refine .of_sound hsound' (fun message hclient => ?_) fun result hclient => ?_
  · obtain ⟨job₁, hjob₁, hended⟩ := h.stopped message hclient
    obtain rfl := Option.some.inj (hsound.stored.symm.trans hjob₁)
    exact hended.of_outcome (hkept hended.1)
  · obtain ⟨job₁, hjob₁, hsucceeded, hresult⟩ := h.completed result hclient
    obtain rfl := Option.some.inj (hsound.stored.symm.trans hjob₁)
    have hsame := hkept (by rw [hsucceeded]; rfl)
    exact ⟨(congrArg Prod.fst hsame).trans hsucceeded, (congrArg (·.2.1) hsame).trans hresult⟩

/-- After an answer the loop is faithful unless the answer says that the job is pending and the job
has not ended without a result. -/
theorem faithful_received_iff (h : Sound jobId s job) {delayMs : ℕ} {body : Json}
    (hclient : s.client = .answered delayMs body) :
    Faithful jobId { s with client := received numberText delayMs body } ↔
      (body.get? "status" = some (.str "pending") → EndedWithoutResult job.toJobRow) := by
  obtain ⟨snapshot, rfl, hsnapshot, houtcome⟩ := h.answered delayMs body hclient
  have hsound (client : Client) (hclient' : ∀ delayMs body, client ≠ .answered delayMs body) :
      Sound jobId { s with client := client } job :=
    ⟨h.stored, h.consistent, fun delayMs body heq => absurd heq (hclient' delayMs body)⟩
  have hpending : (toApiDict snapshot).get? "status" = some (.str "pending") ↔
      snapshot.jobStatus = .pending := by
    rw [get?_status]
    cases snapshot.jobStatus <;> simp [statusLiteral]
  rw [hpending]
  obtain ⟨hstatus, delayMs', hreceived⟩ | ⟨hstatus, result, hresult, hreceived⟩ |
      ⟨hrunning, hsucceeded, message, hreceived⟩ :=
    received_toApiDict hsnapshot numberText delayMs
  · rw [hreceived]
    refine iff_of_true ?_ fun h => ?_
    · exact .of_sound (hsound _ (by simp)) (by simp) (by simp)
    · rw [hstatus] at h
      cases h
  · have hsame := houtcome (by rw [hstatus]; rfl)
    rw [hreceived]
    refine iff_of_true (.of_sound (hsound _ (by simp)) (by simp) fun result' heq => ?_) fun h => ?_
    · obtain rfl := Client.completed.inj heq
      exact ⟨(congrArg Prod.fst hsame).trans hstatus, (congrArg (·.2.1) hsame).trans hresult⟩
    · rw [hstatus] at h
      cases h
  · rw [hreceived]
    constructor
    · intro hfaithful _
      obtain ⟨job', hjob', hended⟩ := hfaithful.stopped message rfl
      obtain rfl := Option.some.inj (h.stored.symm.trans hjob')
      exact hended
    · intro hended
      refine .of_sound (hsound _ (by simp)) (fun _ _ => ?_) (by simp)
      by_cases hstatus : snapshot.jobStatus = .pending
      · exact hended hstatus
      · -- The snapshot is final and has no result, and so it is with the job by now.
        have hterminal : snapshot.jobStatus.isTerminal = true := by
          revert hstatus hrunning
          cases snapshot.jobStatus <;> simp [JobStatus.isTerminal]
        exact EndedWithoutResult.of_outcome ⟨hterminal, fun h => hsucceeded h.1⟩
          (houtcome hterminal)

/-- A step from a faithful state leaves the loop faithful exactly if it meets the condition. -/
theorem faithful_step_iff (h : ∃ job, Sound jobId s job) (hfaithful : Faithful jobId s)
    (hstep : pollingStep completionRefreshPolls numberText jobId s l = some t) :
    Faithful jobId t ↔ PendingOnlyIfEnded jobId s l := by
  obtain ⟨job, h⟩ := h
  cases l with
  | call now call =>
    obtain rfl := Option.some.inj hstep
    exact iff_of_true (hfaithful.call h now call) trivial
  | send =>
    simp only [pollingStep] at hstep
    split at hstep
    · next delayMs _ =>
      obtain rfl := Option.some.inj hstep
      have hsound : Sound jobId { s with client := .requested delayMs } job :=
        ⟨h.stored, h.consistent, by simp⟩
      exact iff_of_true (.of_sound hsound (by simp) (by simp)) trivial
    · cases hstep
  | respond =>
    simp only [pollingStep, h.stored] at hstep
    split at hstep
    · next delayMs job' hclient hjob' =>
      obtain rfl := Option.some.inj hjob'
      obtain rfl := Option.some.inj hstep
      have hsound : Sound jobId { s with client := .answered delayMs (toApiDict job) } job := by
        refine ⟨h.stored, h.consistent, fun _ _ hanswered => ?_⟩
        cases hanswered
        exact ⟨job, rfl, h.consistent, fun _ => rfl⟩
      exact iff_of_true (.of_sound hsound (by simp) (by simp)) trivial
    · cases hstep
  | receive =>
    simp only [pollingStep] at hstep
    split at hstep
    · next delayMs body hclient =>
      obtain rfl := Option.some.inj hstep
      rw [faithful_received_iff h hclient]
      constructor
      · intro hended delayMs' body' hclient' hpending
        rw [hclient] at hclient'
        cases hclient'
        exact ⟨job, h.stored, hended hpending⟩
      · intro hended hpending
        obtain ⟨job', hjob', hended⟩ := hended delayMs body hclient hpending
        obtain rfl := Option.some.inj (h.stored.symm.trans hjob')
        exact hended
    · cases hstep

/-! ### Runs -/

variable {jobs : JobTable Json Json} {now jobPollToken : String} {new : NewJob}

/-- The loop begins with a pending job. -/
theorem sound_created (hnew : jobs.lookup jobId = none) :
    Sound jobId (created completionRefreshPolls jobId jobs now jobPollToken new)
      (new.row jobId jobPollToken now) := by
  refine ⟨?_, new.row_consistent jobId jobPollToken now, by simp [created]⟩
  cases hinsert : jobs.insert? (new.row jobId jobPollToken now) with
  | none =>
    obtain ⟨job, hjob⟩ := KeyedTable.insert?_eq_none.mp hinsert
    rw [show (new.row jobId jobPollToken now : GenerationJob Json Json).jobId = jobId from rfl,
      hnew] at hjob
    cases hjob
  | some jobs' =>
    simp only [created, callJob, hinsert]
    exact (KeyedTable.lookup_insert? hinsert).trans (if_pos rfl)

/-- **When the client never abandons a live job.** In every run from the creation of the job on, the
loop is faithful in every state exactly if no answer that says that the job is pending arrives
before the job has failed, been cancelled or expired. -/
theorem never_abandons_iff (hnew : jobs.lookup jobId = none) (labels : List PollingLabel) :
    Along (pollingStep completionRefreshPolls numberText jobId)
        (fun _ _ t => Faithful jobId t)
        (created completionRefreshPolls jobId jobs now jobPollToken new) labels ↔
      Along (pollingStep completionRefreshPolls numberText jobId)
        (fun s l _ => PendingOnlyIfEnded jobId s l)
        (created completionRefreshPolls jobId jobs now jobPollToken new) labels := by
  have hsound : Sound jobId (created completionRefreshPolls jobId jobs now jobPollToken new)
      (new.row jobId jobPollToken now) := sound_created hnew
  refine along_state_iff (fun s => ∃ job, Sound jobId s job) (Faithful jobId)
    (fun _ _ _ => Sound.step) (fun _ _ _ => faithful_step_iff) ⟨_, hsound⟩ ?_
  exact .of_sound hsound (by simp [created]) (by simp [created])

/-! ### A job that is polled before it starts -/

/-- Texts of a script that are not looked at. -/
def plainNumber (_ : ℚ) : String := "0"

/-- What a refresh is created with. -/
def refreshRequest : NewJob :=
  { sessionId := "chat_s_1"
    brokerId := "broker-123"
    officeId := "memphis"
    progressMessage := "Queued."
    retryAllowed := true }

/-- The loop on a job that has just been created in an empty store. -/
def newPolling : Polling :=
  created 2 "job_1" .empty "2026-03-16T09:00:00Z" "token-1" refreshRequest

/-- The result of a refresh. -/
def refreshResult : Json := .obj [("response_id", .str "resp_1"), ("summary", .str "Done.")]

/-- The calls that start the job and complete it. -/
def startAndComplete : List PollingLabel :=
  [.call "t1" (.operate "job_1" (.startJob "Refreshing.")),
   .call "t2" (.operate "job_1" (.completeJob refreshResult "Done."))]

/-- A job that is polled once it runs. -/
theorem never_abandons_iff_running :
    Along (pollingStep 2 plainNumber "job_1") (fun _ _ t => Faithful "job_1" t) newPolling
      (startAndComplete ++ [.send, .respond, .receive]) := by
  refine (never_abandons_iff rfl _).mpr ?_
  refine .cons rfl trivial (.cons rfl trivial (.cons rfl trivial (.cons rfl trivial
    (.cons rfl ?_ trivial))))
  intro delayMs body hclient hpending
  cases hclient
  exact absurd (congrArg (Option.map Json.toStr) hpending) (by decide)

/-- **A job that succeeds is abandoned.** The client asks for the job before it starts, takes
`"pending"` for an unknown status and gives up; the job goes on to succeed. -/
theorem pending_job_abandoned :
    (∃ s t, exec (pollingStep 2 plainNumber "job_1") newPolling [.send, .respond, .receive] =
        some s ∧
      exec (pollingStep 2 plainNumber "job_1") s startAndComplete = some t ∧
      s.client = .stopped (.str "Queued.") ∧ t.client = .stopped (.str "Queued.") ∧
      (t.jobs.lookup "job_1").map (·.jobStatus) = some .succeeded) ∧
    ¬ Along (pollingStep 2 plainNumber "job_1") (fun _ _ t => Faithful "job_1" t) newPolling
      [.send, .respond, .receive] := by
  refine ⟨⟨_, _, rfl, rfl, rfl, rfl, rfl⟩, fun h => ?_⟩
  obtain ⟨job, hjob, hended, -⟩ := ((((h _ rfl).2 _ rfl).2 _ rfl).1).stopped _ rfl
  cases hjob
  cases hended

end Meridian.Frontend
