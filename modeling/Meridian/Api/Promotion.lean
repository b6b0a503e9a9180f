import Meridian.Api.Conversation
import Meridian.Api.JobRoutes
import Meridian.Autonomy.Bounds

/-!
# The promotion of a completed job

`get_job` and `get_job_lifecycle` both refresh the job that they are asked for, and a refresh may
complete it. Only the first tells the session store about it. Polls of both kinds, one after the
other and over any stores: when the completion that a poll reports has reached the session.

## Main definitions

* `Meridian.Api.Routes.CompletionPoll`: the polls.
* `Meridian.Api.Routes.CompletionPromoted`: a reported completion has reached the session.
* `Meridian.Api.Routes.LeavesNoPending`: the condition.

## Main results

* `Meridian.Api.Routes.completion_promoted_iff`: in a run, every reported completion has reached the
  session exactly if every poll meets the condition.
* `Meridian.Api.Routes.lifecycle_poll_leaves_pending`: a poll that does not.
-/

namespace Meridian.Api.Routes

open Foundations Jobs Autonomy Chat

variable {F : Type}

/-! ### Polls -/

/-- A poll of `GET /jobs/{id}` or of `GET /jobs/{id}/lifecycle`. -/
inductive CompletionPoll (F : Type)
  | get (poll : JobPoll F)
  | lifecycle (poll : JobPoll F)

/-- The parameters. -/
def CompletionPoll.parameters : CompletionPoll F → JobPoll F
  | get poll | lifecycle poll => poll

section Polls

variable (app : App) (py : PythonText F)

/-- One poll. -/
def pollNext (stores : Stores F) : CompletionPoll F → Option (Stores F)
  | .get poll => some (getJob app py stores poll).2
  | .lifecycle poll => some (getJobLifecycle app stores poll).2

/-- The status that a poll answers, unless it raises. -/
def answeredStatus (stores : Stores F) : CompletionPoll F → Option JobStatus
  | .get poll => (getJob app py stores poll).1.toOption.map AsyncJobEnvelope.status
  | .lifecycle poll => (getJobLifecycle app stores poll).1.toOption.map JobLifecycleEnvelope.status

/-- If the poll answers that the job has succeeded, the session of the job no longer shows its
pending response. -/
def CompletionPromoted (stores : Stores F) (poll : CompletionPoll F) (stores' : Stores F) : Prop :=
  answeredStatus app py stores poll = some .succeeded →
    ∀ job, stores'.jobs.lookup poll.parameters.jobId = some job →
      ∀ pending ∈ job.pendingResponseId,
        lastResponse stores'.sessions job.sessionId ≠ some pending

/-! ### The condition -/

/-- The completed response and the result of a job that has succeeded or that its next refresh
completes. -/
def completion (config : Config Json) (row : JobRow Json) : Option (Option String × Option Json) :=
  match row.jobStatus with
  | .succeeded => some (row.completedResponseId, row.resultPayload)
  | .running =>
    match row.preparedResultPayload with
    | none => none
    | some prepared =>
      if counter row = 0 then
        (config.reader.responseId prepared).map fun responseId => (some responseId, some prepared)
      else none
  | _ => none

/-- The model of an answer takes the result. -/
def Presentable (result : Option Json) : Prop := ∃ shown, shownResult result = .ok shown

/-- The job as the refresh of a poll finds it. -/
def foundJob (stores : Stores F) : CompletionPoll F → Option (GenerationJob Json (Loaded F))
  | .get poll => (jobByPollToken stores.jobs poll.toPoll).map
      (Autonomy.advanced app.service py app.jobs poll.toPoll)
  | .lifecycle poll => jobByPollToken stores.jobs poll.toPoll

/-- If the refresh finds the job complete, with a result that can be shown, while its session shows
its pending response, then the poll is one of `GET /jobs/{id}` and the completed response is another
one. -/
def LeavesNoPending (stores : Stores F) (poll : CompletionPoll F) : Prop :=
  ∀ job completed result pending, foundJob app py stores poll = some job →
    completion app.jobs job.toJobRow = some (completed, result) → Presentable result →
    job.pendingResponseId = some pending →
    lastResponse stores.sessions job.sessionId = some pending →
      (∃ poll', poll = .get poll') ∧ ∃ responseId ≠ pending, completed = some responseId

end Polls

variable {app : App} {py : PythonText F} {stores : Stores F} {poll : JobPoll F}
  {job : GenerationJob Json (Loaded F)} {now : String}

/-! ### Refreshes -/

/-- A refresh leaves a job that has succeeded exactly if it finds it complete. -/
theorem completion_eq_some_iff (now : String) {config : Config Json} {row : JobRow Json}
    {completed : Option String} {result : Option Json} :
    completion config row = some (completed, result) ↔
      ∃ row', Op.run config .refreshJob now row = some row' ∧ row'.jobStatus = .succeeded ∧
        row'.completedResponseId = completed ∧ row'.resultPayload = result := by
  by_cases hrunning : row.jobStatus = .running
  · rw [run_refreshJob_of_running hrunning]
    simp only [completion, hrunning]
    cases row.preparedResultPayload with
    | none => simp [hrunning]
    | some prepared =>
      dsimp only
      split_ifs
      · cases config.reader.responseId prepared with
        | none => simp
        | some responseId => simp [JobRow.completed]
      · simp
  · rw [run_refreshJob_of_not_running hrunning]
    cases hstatus : row.jobStatus with
    | running => exact absurd hstatus hrunning
    | succeeded => simp [completion, hstatus]
    | _ => simp [completion, hstatus]

/-- What `refreshedBy` does with a job that is there. -/
theorem refreshedBy_eq {α : Type} (answer : GenerationJob Json (Loaded F) → Except RouteError α)
    (after : Stores F → GenerationJob Json (Loaded F) → Stores F)
    (h : stores.jobs.lookup poll.jobId = some job) :
    ∃ jobs : JobTable Json (Loaded F),
      refreshedBy app stores poll answer after =
        (match Op.run app.jobs .refreshJob poll.refreshedAt job.toJobRow with
        | none => (.error .store, stores)
        | some row =>
          (answer { job with toJobRow := row },
            after { stores with jobs := jobs } { job with toJobRow := row })) ∧
      ∀ row, Op.run app.jobs .refreshJob poll.refreshedAt job.toJobRow = some row →
        jobs.lookup poll.jobId = some { job with toJobRow := row } := by
  refine ⟨(callJob app.jobs stores.jobs poll.refreshedAt (.operate poll.jobId .refreshJob)).1,
    ?_, fun row hrow => ?_⟩
  · cases hrun : Op.run app.jobs .refreshJob poll.refreshedAt job.toJobRow with
    | none => simp only [refreshedBy, callJob, h, hrun]
    | some row =>
      simp only [refreshedBy, callJob, h, hrun, KeyedTable.lookup_modify, if_true,
        Option.map_some]
  · simp only [callJob, h, hrow, KeyedTable.lookup_modify, if_true, Option.map_some]

/-! ### One poll -/

/-- What a poll that refreshes its job reports, in terms of what the refresh finds. `shows` is what
the session shows in the end, from the two responses of the job and what it has shown before. -/
theorem promoted_refreshedBy_iff {α : Type}
    (answer : GenerationJob Json (Loaded F) → Except RouteError α) (status : α → JobStatus)
    (after : Stores F → GenerationJob Json (Loaded F) → Stores F)
    (shows : Option String → Option String → Option String → Option String)
    (h : stores.jobs.lookup poll.jobId = some job)
    (hanswer : ∀ job, (answer job).toOption.map status =
      (shownResult job.resultPayload).toOption.map fun _ => job.jobStatus)
    (hjobs : ∀ stores job, (after stores job).jobs = stores.jobs)
    (hshows : ∀ jobs job, lastResponse (after { stores with jobs := jobs } job).sessions
      job.sessionId = shows job.completedResponseId job.pendingResponseId
        (lastResponse stores.sessions job.sessionId)) :
    ((refreshedBy app stores poll answer after).1.toOption.map status = some .succeeded →
      ∀ job', (refreshedBy app stores poll answer after).2.jobs.lookup poll.jobId = some job' →
        ∀ pending ∈ job'.pendingResponseId,
          lastResponse (refreshedBy app stores poll answer after).2.sessions job'.sessionId ≠
            some pending) ↔
    ∀ completed result pending, completion app.jobs job.toJobRow = some (completed, result) →
      Presentable result → job.pendingResponseId = some pending →
        shows completed (some pending) (lastResponse stores.sessions job.sessionId) ≠
          some pending := by
  obtain ⟨jobs, hrefreshed, hlookup⟩ :
      ∃ jobs : JobTable Json (Loaded F), refreshedBy app stores poll answer after = _ ∧ _ :=
    refreshedBy_eq answer after h
  have hpresentable (result : Option Json) (status : JobStatus) :
      (shownResult result).toOption.map (fun _ => status) = some .succeeded ↔
        status = .succeeded ∧ Presentable result := by
    cases hshown : shownResult result with
    | error error => simp [Presentable, hshown, Except.toOption]
    | ok shown => simp [Presentable, hshown, Except.toOption]
  rw [hrefreshed]
  constructor
  · intro hall completed result pending hcompletion hresult hpending
    obtain ⟨row, hrun, hstatus, rfl, rfl⟩ :=
      (completion_eq_some_iff poll.refreshedAt).mp hcompletion
    simp only [hrun, hanswer, hpresentable, hjobs] at hall
    have hlast := hall ⟨hstatus, hresult⟩ _ (hlookup row hrun) pending hpending
    rw [hshows] at hlast
    dsimp only at hlast
    rwa [hpending] at hlast
  · intro hall hanswered job' hjob' pending hpending
    cases hrun : Op.run app.jobs .refreshJob poll.refreshedAt job.toJobRow with
    | none =>
      rw [hrun] at hanswered
      cases hanswered
    | some row =>
      simp only [hrun, hanswer, hpresentable, hjobs, hlookup row hrun,
        Option.some.injEq] at hanswered hjob' ⊢
      obtain ⟨hstatus, hresult⟩ := hanswered
      subst hjob'
      rw [hshows]
      have hcompletion :=
        (completion_eq_some_iff poll.refreshedAt).mpr ⟨row, hrun, hstatus, rfl, rfl⟩
      have hbound : job.pendingResponseId = some pending := hpending
      dsimp only
      rw [hbound]
      exact hall _ _ pending hcompletion hresult hbound

/-- What `get_job_lifecycle` leaves of the pending response. -/
theorem completionPromoted_lifecycle_iff :
    CompletionPromoted app py stores (.lifecycle poll) (getJobLifecycle app stores poll).2 ↔
      LeavesNoPending app py stores (.lifecycle poll) := by
  rw [CompletionPromoted, LeavesNoPending]
  simp only [answeredStatus, foundJob, getJobLifecycle, CompletionPoll.parameters]
  cases hfound : jobByPollToken stores.jobs poll.toPoll with
  | none => simp [Except.toOption]
  | some job =>
    dsimp only
    have hlookup := (Option.filter_eq_some_iff.mp hfound).1
    have hanswer (job : GenerationJob Json (Loaded F)) :
        (jobLifecycleEnvelope job).toOption.map JobLifecycleEnvelope.status =
          (shownResult job.resultPayload).toOption.map fun _ => job.jobStatus := by
      rw [jobLifecycleEnvelope]
      cases shownResult job.resultPayload <;> rfl
    refine (promoted_refreshedBy_iff jobLifecycleEnvelope _ _ (fun _ _ last => last) hlookup hanswer
      (fun _ _ => rfl) fun _ _ => rfl).trans ?_
    simp only [Option.some.injEq]
    constructor
    · rintro hall _ completed result pending rfl hcompletion hresult hpending hlast
      exact absurd hlast (hall completed result pending hcompletion hresult hpending)
    · intro hall completed result pending hcompletion hresult hpending hlast
      obtain ⟨⟨poll', hpoll⟩, -⟩ :=
        hall job completed result pending rfl hcompletion hresult hpending hlast
      cases hpoll

/-- What a session shows after a promotion, from what it has shown before. -/
def showsPromoted (completed pending last : Option String) : Option String :=
  match completed, pending with
  | some completed, some pending => if last = some pending then some completed else last
  | _, _ => last

theorem lastResponse_promoted :
    lastResponse (promoted stores poll job).sessions job.sessionId =
      showsPromoted job.completedResponseId job.pendingResponseId
        (lastResponse stores.sessions job.sessionId) := by
  rw [promoted]
  cases job.completedResponseId with
  | none => rfl
  | some completed =>
    cases job.pendingResponseId with
    | none => rfl
    | some pending => simp [lastResponse_promoteJobCompletion, showsPromoted]

/-- The promotion leaves the pending response unless the completed one is the same or missing. -/
theorem showsPromoted_ne_iff {completed last : Option String} {pending : String} :
    showsPromoted completed (some pending) last ≠ some pending ↔
      (last = some pending → ∃ responseId ≠ pending, completed = some responseId) := by
  cases completed with
  | none => simp [showsPromoted]
  | some responseId => by_cases hlast : last = some pending <;> simp [showsPromoted, hlast]

theorem lookup_advanced (h : stores.jobs.lookup poll.jobId = some job) :
    (advanced app py stores.jobs poll job).lookup poll.jobId =
      some (Autonomy.advanced app.service py app.jobs poll.toPoll job) := by
  rw [advanced, Autonomy.advanced]
  cases pollStep app.service py poll.toPoll job with
  | none => exact h
  | some step => exact lookup_afterStep h

/-- What `get_job` leaves of the pending response. -/
theorem completionPromoted_get_iff :
    CompletionPromoted app py stores (.get poll) (getJob app py stores poll).2 ↔
      LeavesNoPending app py stores (.get poll) := by
  rw [CompletionPromoted, LeavesNoPending]
  simp only [answeredStatus, foundJob, getJob, CompletionPoll.parameters]
  cases hfound : jobByPollToken stores.jobs poll.toPoll with
  | none => simp [Except.toOption]
  | some job =>
    dsimp only
    have hlookup := (Option.filter_eq_some_iff.mp hfound).1
    have hanswer (job : GenerationJob Json (Loaded F)) :
        (asyncJobEnvelope job).toOption.map AsyncJobEnvelope.status =
          (shownResult job.resultPayload).toOption.map fun _ => job.jobStatus := by
      rw [asyncJobEnvelope, jobEnvelope]
      cases shownResult job.resultPayload <;> rfl
    have hjobs (stores : Stores F) (job : GenerationJob Json (Loaded F)) :
        (promoted stores poll job).jobs = stores.jobs := by
      rw [promoted]
      split <;> rfl
    refine (promoted_refreshedBy_iff asyncJobEnvelope _ _ showsPromoted (lookup_advanced hlookup)
      hanswer hjobs fun _ _ => lastResponse_promoted).trans ?_
    simp only [showsPromoted_ne_iff, Option.map_some, Option.some.injEq]
    constructor
    · rintro hall _ completed result pending rfl hcompletion hresult hpending hlast
      exact ⟨⟨poll, rfl⟩, hall completed result pending hcompletion hresult hpending hlast⟩
    · intro hall completed result pending hcompletion hresult hpending hlast
      exact (hall _ completed result pending rfl hcompletion hresult hpending hlast).2

/-! ### Runs -/

/-- **When completions are promoted.** For all stores and every sequence of polls: every completion
that a poll reports has reached the session exactly if no poll of the lifecycle finds a job complete
whose session still shows the pending response, and no other poll finds one whose completed response
is the pending one or missing. -/
theorem completion_promoted_iff (polls : List (CompletionPoll F)) :
    Along (pollNext app py) (fun s poll t => CompletionPromoted app py s poll t) stores polls ↔
      Along (pollNext app py) (fun s poll _ => LeavesNoPending app py s poll) stores polls := by
  refine along_congr fun poll _ s t hnext => ?_
  cases poll with
  | get poll =>
    obtain rfl := Option.some.inj hnext
    exact completionPromoted_get_iff
  | lifecycle poll =>
    obtain rfl := Option.some.inj hnext
    exact completionPromoted_lifecycle_iff

section Memphis

/-! A refresh that is polled three times. -/

/-- The request for the refresh. -/
def refreshPost : Post :=
  conversationPost "Start a background refresh of analytics for exceptions" none "a0" "b0"

/-- The stores once the refresh has been asked for. -/
def refreshing : Stores Empty := (Chat.postChat testApp newStores refreshPost).2

/-- What the session shows once the third poll has answered that the job has succeeded. -/
def shownAfter (poll : CompletionPoll Empty) : Option String :=
  (exec (pollNext testApp plainText) refreshing [poll, poll]).bind fun s =>
    if answeredStatus testApp plainText s poll = some .succeeded then
      (pollNext testApp plainText s poll).bind fun t =>
        lastResponse t.sessions "chat_s_00010101_0001"
    else none

end Memphis

/-- **A completion that is not promoted.** The third poll of the lifecycle answers that the job has
succeeded, and the session still shows its pending response; after the third poll of the job it
shows the completed one. -/
theorem lifecycle_poll_leaves_pending :
    shownAfter (.lifecycle refreshPoll) = some refreshPost.answerId ∧
      shownAfter (.get refreshPoll) = some refreshPost.preparedId ∧
      ∃ s t, exec (pollNext testApp plainText) refreshing
          [.lifecycle refreshPoll, .lifecycle refreshPoll] = some s ∧
        pollNext testApp plainText s (.lifecycle refreshPoll) = some t ∧
        ¬ CompletionPromoted testApp plainText s (.lifecycle refreshPoll) t := by
  have hrun : shownAfter (.lifecycle refreshPoll) = some refreshPost.answerId ∧
      shownAfter (.get refreshPoll) = some refreshPost.preparedId := by
    decide +kernel
  have hbound : ((exec (pollNext testApp plainText) refreshing
      [.lifecycle refreshPoll, .lifecycle refreshPoll]).bind fun s =>
        (pollNext testApp plainText s (.lifecycle refreshPoll)).bind fun t =>
          (t.jobs.lookup refreshPoll.jobId).map fun job =>
            (job.sessionId, job.pendingResponseId)) =
      some ("chat_s_00010101_0001", some refreshPost.answerId) := by
    decide +kernel
  refine ⟨hrun.1, hrun.2, ?_⟩
  obtain ⟨s, hs, hbound⟩ := Option.bind_eq_some_iff.mp hbound
  obtain ⟨t, ht, hbound⟩ := Option.bind_eq_some_iff.mp hbound
  obtain ⟨job, hjob, hids⟩ := Option.map_eq_some_iff.mp hbound
  obtain ⟨hsession, hpending⟩ := Prod.mk.inj hids
  have hshown := hrun.1
  rw [shownAfter, hs, Option.bind_some] at hshown
  split_ifs at hshown with hanswered
  rw [ht, Option.bind_some] at hshown
  refine ⟨s, t, hs, ht, fun hpromoted => hpromoted hanswered job hjob _ hpending ?_⟩
  rw [hsession, hshown]

end Meridian.Api.Routes
