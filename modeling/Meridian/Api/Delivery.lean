import Meridian.Api.Validation

/-!
# The delivery of a background refresh

What a client sees of the job of its request, from the answer of `post_chat` on. Whatever other
requests come in between, it is a function of the polls of that job before it is cancelled: the
result that was prepared with the answer is delivered with the poll that follows as many as the job
waits for. Autonomy is disabled.

## Main definitions

* `Meridian.Api.Delivery.Progress`: how far a job has come, with its two signals.
* `Meridian.Api.Delivery.signal`: the signals that an event is to a job.
* `Meridian.Api.Delivery.Tracks`: the rows of a job that has come so far.

## Main results

* `Meridian.Api.Delivery.after_eq`: the progress from the number of polls before a cancellation.
* `Meridian.Api.Delivery.tracks_run`: the row of a job follows its progress, over any requests.
* `Meridian.Api.Delivery.refresh_delivered`: what a poll answers after any requests.
-/

namespace Meridian.Api.Delivery

open Foundations Responses Jobs Autonomy Chat Routes Binding

/-! ### The progress of a job -/

/-- What a client does to its job: it polls it or asks for its life cycle, or it cancels it. -/
inductive Signal
  | get
  | lifecycle
  | cancel
  deriving DecidableEq

/-- How far a job has come: how many polls it still waits for, or how it has ended. -/
inductive Progress
  | waiting (polls : ℕ)
  | delivered
  | cancelled
  deriving DecidableEq

/-- What a signal does. -/
def Progress.next : Progress → Signal → Progress
  | waiting polls, signal =>
    if signal = .cancel then cancelled else if polls = 0 then delivered else waiting (polls - 1)
  | delivered, _ => delivered
  | cancelled, _ => cancelled

/-- The progress after some signals. -/
def Progress.after (progress : Progress) (signals : List Signal) : Progress :=
  signals.foldl next progress

/-- The polls before the job is cancelled. -/
def pollsBefore (signals : List Signal) : ℕ := (signals.takeWhile (· ≠ .cancel)).length

theorem after_delivered (signals : List Signal) :
    Progress.delivered.after signals = .delivered := by
  induction signals with
  | nil => rfl
  | cons signal signals ih => exact ih

theorem after_cancelled (signals : List Signal) :
    Progress.cancelled.after signals = .cancelled := by
  induction signals with
  | nil => rfl
  | cons signal signals ih => exact ih

/-- The progress of a job that waits, from the number of polls before it is cancelled. -/
theorem after_eq (polls : ℕ) (signals : List Signal) :
    (Progress.waiting polls).after signals =
      if polls < pollsBefore signals then .delivered
      else if .cancel ∈ signals then .cancelled
      else .waiting (polls - pollsBefore signals) := by
  induction signals generalizing polls with
  | nil => simp [Progress.after, pollsBefore]
  | cons signal signals ih =>
    by_cases hcancel : signal = .cancel
    · subst hcancel
      have hnext : (Progress.waiting polls).after (.cancel :: signals) =
          Progress.cancelled.after signals := rfl
      rw [hnext, after_cancelled]
      simp [pollsBefore]
    · have hbefore : pollsBefore (signal :: signals) = pollsBefore signals + 1 := by
        simp [pollsBefore, hcancel]
      have hmem : Signal.cancel ∈ signal :: signals ↔ Signal.cancel ∈ signals := by
        simp [Ne.symm hcancel]
      have hnext : (Progress.waiting polls).after (signal :: signals) =
          (if polls = 0 then .delivered else Progress.waiting (polls - 1)).after signals := by
        rw [Progress.after, List.foldl_cons, Progress.next, if_neg hcancel, Progress.after]
      rw [hnext, hbefore]
      simp only [hmem]
      cases polls with
      | zero => rw [if_pos rfl, after_delivered, if_pos (Nat.succ_pos _)]
      | succ polls =>
        rw [if_neg (Nat.succ_ne_zero polls), Nat.add_sub_cancel, ih, Nat.add_sub_add_right]
        simp only [Nat.add_lt_add_iff_right]

variable {F : Type}

/-- The signal that an event is to a job, if it presents the token of the job. -/
def signal (jobId jobPollToken : String) : Event F → Option Signal
  | .job (.get poll) =>
    if poll.jobId = jobId ∧ poll.jobPollToken = jobPollToken then some .get else none
  | .job (.lifecycle poll) =>
    if poll.jobId = jobId ∧ poll.jobPollToken = jobPollToken then some .lifecycle else none
  | .job (.cancel request) =>
    if request.jobId = jobId ∧ request.jobPollToken = jobPollToken then some .cancel else none
  | _ => none

/-- The row of a job that has come so far. -/
structure Tracks (prepared : Json) (jobPollToken : String) (progress : Progress)
    (job : GenerationJob Json (Loaded F)) : Prop where
  token : job.jobPollToken = jobPollToken
  payload : job.preparedResultPayload = some prepared
  row : match progress with
    | .waiting polls => job.jobStatus = .running ∧
        job.completionRefreshesRemaining = some (polls : ℤ) ∧ job.resultPayload = none
    | .delivered => job.jobStatus = .succeeded ∧ job.resultPayload = some prepared
    | .cancelled => job.jobStatus = .cancelled ∧ job.resultPayload = none

/-- What a client is shown of a job. -/
def Progress.shown (prepared : Json) : Progress → JobStatus × Option Json
  | waiting _ => (.running, none)
  | delivered => (.succeeded, some prepared)
  | cancelled => (.cancelled, none)

/-- What a client is shown of a job that waits for some polls, after some signals. -/
def shown (polls : ℕ) (prepared : Json) (signals : List Signal) : JobStatus × Option Json :=
  if polls < pollsBefore signals then (.succeeded, some prepared)
  else if .cancel ∈ signals then (.cancelled, none)
  else (.running, none)

theorem shown_after (polls : ℕ) (prepared : Json) (signals : List Signal) :
    ((Progress.waiting polls).after signals).shown prepared = shown polls prepared signals := by
  rw [after_eq, shown]
  split_ifs
  · rfl
  · rfl
  · rfl

variable {app : App} {py : PythonText F} {stores : Stores F} {post : Post} {poll : JobPoll F}
  {identity : TrustedIdentity} {session : ChatSession} {envelope prepared : Json}
  {jobId jobPollToken now : String} {job : GenerationJob Json (Loaded F)} {progress : Progress}
  {s : Signal}

/-! ### One operation -/

/-- A refresh is a poll. -/
theorem Tracks.refreshed (h : Tracks prepared jobPollToken progress job)
    (hvalid : chatResponseEnvelope.accepts prepared = true) (hs : s ≠ .cancel) (app : App)
    (now : String) :
    ∃ row, Op.run app.jobs .refreshJob now job.toJobRow = some row ∧
      Tracks prepared jobPollToken (progress.next s) { job with toJobRow := row } := by
  cases progress with
  | waiting polls =>
    obtain ⟨hrunning, hremaining, hresult⟩ := h.row
    obtain ⟨responseId, hid⟩ :=
      Option.isSome_iff_exists.mp (Validation.isSome_responseId hvalid)
    have hcounter : counter job.toJobRow = polls := by rw [counter, hremaining, Option.getD_some]
    simp only [run_refreshJob_of_running hrunning, h.payload, hcounter, Progress.next, hs,
      if_false]
    cases polls with
    | zero =>
      have hread : app.jobs.reader.responseId prepared = some responseId := hid
      simp only [Nat.cast_zero, if_true, hread, Option.map_some, Option.some.injEq, exists_eq_left']
      exact ⟨h.token, h.payload, rfl, rfl⟩
    | succ polls =>
      have hne : ((polls + 1 : ℕ) : ℤ) ≠ 0 := by omega
      simp only [hne, if_false, Option.some.injEq, exists_eq_left']
      exact ⟨h.token, rfl, hrunning, congrArg some (by omega), hresult⟩
  | delivered =>
    obtain ⟨hstatus, hresult⟩ := h.row
    have hne : job.jobStatus ≠ .running := by simp [hstatus]
    exact ⟨job.toJobRow, run_refreshJob_of_not_running hne, h⟩
  | cancelled =>
    obtain ⟨hstatus, hresult⟩ := h.row
    have hne : job.jobStatus ≠ .running := by simp [hstatus]
    exact ⟨job.toJobRow, run_refreshJob_of_not_running hne, h⟩

/-- A cancellation of a job that has not ended is a cancellation. -/
theorem Tracks.cancel (h : Tracks prepared jobPollToken progress job)
    (hstatus : job.jobStatus ∈ [.pending, .running]) (app : App) (now : String) :
    ∃ row, Op.run app.jobs (.cancelJob "Job cancelled.") now job.toJobRow = some row ∧
      Tracks prepared jobPollToken (progress.next .cancel) { job with toJobRow := row } := by
  cases progress with
  | waiting polls =>
    obtain ⟨hrunning, -, hresult⟩ := h.row
    have hvalid : job.jobStatus.validateTransition .cancelled = true := by
      rw [hrunning]
      decide
    have hread : readBlock app.jobs (.cancelJob "Job cancelled.") (some job.toJobRow) =
        if job.jobStatus.validateTransition .cancelled then .write job.toJobRow
        else .done (.job (some job.toJobRow)) := rfl
    have hrun : Op.run app.jobs (.cancelJob "Job cancelled.") now job.toJobRow =
        some ((Op.cancelJob "Job cancelled.").write app.jobs job.toJobRow now job.toJobRow) := by
      rw [Op.run, hread, if_pos hvalid]
    exact ⟨_, hrun, h.token, h.payload, rfl, hresult⟩
  | delivered =>
    rw [h.row.1] at hstatus
    exact absurd hstatus (by decide)
  | cancelled =>
    rw [h.row.1] at hstatus
    exact absurd hstatus (by decide)

/-- A cancellation of a job that has ended changes nothing. -/
theorem Tracks.next_cancel (h : Tracks prepared jobPollToken progress job)
    (hstatus : job.jobStatus ∉ [.pending, .running]) : progress.next .cancel = progress := by
  cases progress with
  | waiting polls =>
    rw [h.row.1] at hstatus
    exact absurd (by decide) hstatus
  | delivered => rfl
  | cancelled => rfl

/-! ### One request -/

/-- A refresh of a poll answers with the next row of its job. -/
theorem Tracks.refreshedBy {α : Type}
    {answer : GenerationJob Json (Loaded F) → Except RouteError α}
    {after : Stores F → GenerationJob Json (Loaded F) → Stores F}
    (h : Tracks prepared jobPollToken progress job)
    (hvalid : chatResponseEnvelope.accepts prepared = true) (hs : s ≠ .cancel)
    (hjob : stores.jobs.lookup poll.jobId = some job)
    (hafter : ∀ stores job, (after stores job).jobs = stores.jobs) :
    ∃ job', (refreshedBy app stores poll answer after).1 = answer job' ∧
      (refreshedBy app stores poll answer after).2.jobs.lookup poll.jobId = some job' ∧
      Tracks prepared jobPollToken (progress.next s) job' := by
  obtain ⟨row, hrun, hrow⟩ := h.refreshed hvalid hs app poll.refreshedAt
  obtain ⟨jobs, hrefreshed, hlookup⟩ :
      ∃ jobs : JobTable Json (Loaded F), Routes.refreshedBy app stores poll answer after = _ ∧ _ :=
    refreshedBy_eq answer after hjob
  refine ⟨{ job with toJobRow := row }, ?_, ?_, hrow⟩
  · rw [hrefreshed, hrun]
  · rw [hrefreshed, hrun]
    dsimp only
    rw [hafter]
    exact hlookup row hrun

/-- The refresh of a poll of another job changes nothing. -/
theorem lookup_refreshedBy_of_ne {α : Type}
    {answer : GenerationJob Json (Loaded F) → Except RouteError α}
    {after : Stores F → GenerationJob Json (Loaded F) → Stores F}
    (hafter : ∀ stores job, (after stores job).jobs = stores.jobs) (hne : poll.jobId ≠ jobId) :
    (refreshedBy app stores poll answer after).2.jobs.lookup jobId = stores.jobs.lookup jobId := by
  have hcall : (callJob app.jobs stores.jobs poll.refreshedAt
      (.operate poll.jobId .refreshJob)).1.lookup jobId = stores.jobs.lookup jobId :=
    lookup_callJob_of_ne fun h => hne (Option.some.inj h)
  rw [Routes.refreshedBy]
  split
  · next jobs job heq =>
    rw [heq] at hcall
    rw [hafter]
    exact hcall
  · rfl
  · rfl

theorem advanced_of_disabled (hdisabled : app.service.isEnabled = false) :
    Routes.advanced app py stores.jobs poll job = stores.jobs := by
  rw [Routes.advanced]
  split
  · rfl
  · next hstep =>
    rw [Validation.isEnabled_of_pollStep hstep] at hdisabled
    cases hdisabled

theorem lookup_finish (hne : jobIdOf envelope ≠ some jobId) :
    (finish app stores post session envelope).jobs.lookup jobId = stores.jobs.lookup jobId := by
  rw [finish, Stores.jobs_save]
  split
  · rfl
  · next id hid =>
    rw [hid] at hne
    have hbound : (stores.call app post.times.bound
        (.bindPendingResponse id (responseIdOf envelope))).jobs.lookup jobId =
          stores.jobs.lookup jobId := lookup_callJob_of_ne hne
    rw [← hbound]
    exact lookup_callJob_of_ne hne

theorem lookup_seeded (hne : post.draws.jobId ≠ jobId) :
    (seeded app stores post).jobs.lookup jobId = stores.jobs.lookup jobId := by
  rw [seeded]
  split
  · rfl
  · exact lookup_callJob_of_ne fun h => hne (Option.some.inj h)

theorem lookup_postCreated (hne : post.draws.jobId ≠ jobId) :
    (postCreated app stores post identity session).2.jobs.lookup jobId =
      stores.jobs.lookup jobId := by
  rw [postCreated]
  split
  · rfl
  · next prepared hprepared =>
    have hcall : (callJob app.jobs stores.jobs post.times.prepared
        (.prepareResult post.draws.jobId prepared)).1.lookup jobId = stores.jobs.lookup jobId :=
      lookup_callJob_of_ne fun h => hne (Option.some.inj h)
    dsimp only
    split
    · exact hcall
    · next envelope hbuilt =>
      have hid : jobIdOf envelope ≠ some jobId := by
        rw [(ids_of_pendingPayload hbuilt).2]
        exact fun h => hne (Option.some.inj h)
      exact (lookup_finish hid).trans hcall

/-- A chat request leaves every job that is there alone. -/
theorem lookup_postChat (hjob : stores.jobs.lookup jobId = some job) :
    (Chat.postChat app stores post).2.jobs.lookup jobId = some job := by
  unfold Chat.postChat
  split
  · exact hjob
  · next identity session _ =>
    have hsaved : ((stores.count post).save session post.times.saved).jobs.lookup jobId =
        some job := by simpa using hjob
    dsimp only
    split_ifs
    · by_cases hid : post.draws.jobId = jobId
      · rw [postRefresh_of_taken (hid ▸ hsaved)]
        exact hsaved
      · have hcreated : (callJob app.jobs ((stores.count post).save session
            post.times.saved).jobs post.times.created (.createJob post.draws.jobId
              post.draws.jobPollToken (newJob session))).1.lookup jobId = some job :=
          lookup_callJob_createJob hsaved
        rw [postRefresh]
        split
        · exact hsaved
        · next jobs _ _ hcall =>
          rw [hcall] at hcreated
          rw [lookup_postCreated hid, lookup_seeded hid]
          exact hcreated
    · rw [postRead]
      split
      · exact hsaved
      · next envelope hbuilt =>
        have hid : jobIdOf envelope ≠ some jobId := by
          rw [(ids_of_buildReadResult (fun _ h => absurd h (Option.not_mem_none _)) hbuilt).2.1]
          exact (Option.some_ne_none jobId).symm
        rw [lookup_finish hid]
        exact hsaved

/-- A poll that finds no job does not present the token of this one. -/
theorem Tracks.not_presents (h : Tracks prepared jobPollToken progress job)
    (hjob : stores.jobs.lookup jobId = some job)
    (hfound : jobByPollToken stores.jobs poll.toPoll = none) :
    ¬ (poll.jobId = jobId ∧ poll.jobPollToken = jobPollToken) := by
  rintro ⟨rfl, htoken⟩
  rw [jobByPollToken, hjob, Option.filter_some, if_pos] at hfound
  · cases hfound
  · simp [h.token, htoken]

/-- A poll that finds a job is to this one what its signal says. -/
theorem Tracks.polled {α : Type} {found : GenerationJob Json (Loaded F)}
    {answer : GenerationJob Json (Loaded F) → Except RouteError α}
    {after : Stores F → GenerationJob Json (Loaded F) → Stores F}
    (h : Tracks prepared jobPollToken progress job)
    (hvalid : chatResponseEnvelope.accepts prepared = true) (hs : s ≠ .cancel)
    (hjob : stores.jobs.lookup jobId = some job)
    (hfound : jobByPollToken stores.jobs poll.toPoll = some found)
    (hafter : ∀ stores job, (after stores job).jobs = stores.jobs) :
    ∃ job', (Routes.refreshedBy app stores poll answer after).2.jobs.lookup jobId = some job' ∧
      Tracks prepared jobPollToken
        (((if poll.jobId = jobId ∧ poll.jobPollToken = jobPollToken then some s else none).map
          progress.next).getD progress) job' := by
  by_cases hid : poll.jobId = jobId
  · subst hid
    rw [jobByPollToken, hjob] at hfound
    obtain ⟨heq, htoken⟩ := Option.filter_eq_some_iff.mp hfound
    obtain rfl := Option.some.inj heq
    have htoken : poll.jobPollToken = jobPollToken := (of_decide_eq_true htoken).symm.trans h.token
    obtain ⟨job', -, hlookup, hjob'⟩ := h.refreshedBy hvalid hs hjob hafter
    refine ⟨job', hlookup, ?_⟩
    rw [if_pos ⟨rfl, htoken⟩]
    exact hjob'
  · refine ⟨job, (lookup_refreshedBy_of_ne hafter hid).trans hjob, ?_⟩
    rw [if_neg fun h => hid h.1]
    exact h

/-- A cancellation is to a job what its signal says. -/
theorem Tracks.cancelled {request : JobCancelRequest}
    (h : Tracks prepared jobPollToken progress job)
    (hjob : stores.jobs.lookup jobId = some job) :
    ∃ job', (Routes.cancelJob app stores request).2.jobs.lookup jobId = some job' ∧
      Tracks prepared jobPollToken
        (((signal jobId jobPollToken (.job (.cancel request) : Event F)).map progress.next).getD
          progress) job' := by
  have hcall (hid : request.jobId ≠ jobId) : (callJob app.jobs stores.jobs request.cancelledAt
      (.operate request.jobId (.cancelJob "Job cancelled."))).1.lookup jobId = some job := by
    rw [← hjob]
    exact lookup_callJob_of_ne fun h => hid (Option.some.inj h)
  rw [Routes.cancelJob, signal]
  cases hfound : (stores.jobs.lookup request.jobId).filter
      (·.jobPollToken = request.jobPollToken) with
  | none =>
    refine ⟨job, hjob, ?_⟩
    rw [if_neg]
    · exact h
    · rintro ⟨rfl, htoken⟩
      rw [hjob, Option.filter_some, if_pos] at hfound
      · cases hfound
      · simp [h.token, htoken]
  | some found =>
    obtain ⟨hlookup, htoken⟩ := Option.filter_eq_some_iff.mp hfound
    by_cases hid : request.jobId = jobId
    · subst hid
      obtain rfl := Option.some.inj (hlookup.symm.trans hjob)
      rw [if_pos ⟨rfl, (of_decide_eq_true htoken).symm.trans h.token⟩]
      dsimp only
      split_ifs with hstatus
      · obtain ⟨row, hrun, hrow⟩ := h.cancel hstatus app request.cancelledAt
        refine ⟨_, ?_, hrow⟩
        simp only [callJob, hjob, hrun, KeyedTable.lookup_modify, if_true, Option.map_some]
      · refine ⟨found, hjob, ?_⟩
        rw [Option.map_some, Option.getD_some, h.next_cancel hstatus]
        exact h
    · refine ⟨job, ?_, by rw [if_neg fun h => hid h.1]; exact h⟩
      dsimp only
      split_ifs
      · specialize hcall hid
        split
        · next heq =>
          rw [heq] at hcall
          exact hcall
        · exact hjob
        · exact hjob
      · exact hjob

/-- A request of the routes of jobs is to a job what its signal says. -/
theorem Tracks.handleJob (h : Tracks prepared jobPollToken progress job)
    (hvalid : chatResponseEnvelope.accepts prepared = true)
    (hdisabled : app.service.isEnabled = false) (hjob : stores.jobs.lookup jobId = some job)
    (request : JobRequest F) :
    ∃ job', (handleJob app py stores request).2.jobs.lookup jobId = some job' ∧
      Tracks prepared jobPollToken
        (((signal jobId jobPollToken (.job request)).map progress.next).getD progress) job' := by
  cases request with
  | create request =>
    refine ⟨job, ?_, h⟩
    simp only [Routes.handleJob, Prod.map_snd, id, Routes.createJob]
    split
    · exact hjob
    · next session _ =>
      have hcreated : (callJob app.jobs stores.jobs request.createdAt
          (.createJob request.jobId request.jobPollToken
            { sessionId := session.sessionId
              brokerId := session.brokerId
              officeId := session.officeId
              progressMessage := request.progressMessage
              retryAllowed := request.retryAllowed })).1.lookup jobId = some job :=
        lookup_callJob_createJob hjob
      split
      · next hcall =>
        rw [hcall] at hcreated
        exact hcreated
      · exact hjob
  | list request => exact ⟨job, hjob, h⟩
  | get poll =>
    simp only [Routes.handleJob, Prod.map_snd, id, Routes.getJob]
    split
    · next hfound =>
      refine ⟨job, hjob, ?_⟩
      rw [signal, if_neg (h.not_presents hjob hfound)]
      exact h
    · next found hfound =>
      simp only [advanced_of_disabled hdisabled]
      exact h.polled hvalid (by decide) hjob hfound fun _ _ => jobs_promoted
  | lifecycle poll =>
    simp only [Routes.handleJob, Prod.map_snd, id, getJobLifecycle]
    split
    · next hfound =>
      refine ⟨job, hjob, ?_⟩
      rw [signal, if_neg (h.not_presents hjob hfound)]
      exact h
    · next found hfound => exact h.polled hvalid (by decide) hjob hfound fun _ _ => rfl
  | cancel request =>
    simp only [Routes.handleJob, Prod.map_snd, id]
    exact h.cancelled hjob

/-- An event is to a job what its signal says. -/
theorem Tracks.next_event (h : Tracks prepared jobPollToken progress job)
    (hvalid : chatResponseEnvelope.accepts prepared = true)
    (hdisabled : app.service.isEnabled = false) (hjob : stores.jobs.lookup jobId = some job)
    (py : PythonText F) (event : Event F) :
    ∃ job', (Binding.next app py stores event).jobs.lookup jobId = some job' ∧
      Tracks prepared jobPollToken
        (((signal jobId jobPollToken event).map progress.next).getD progress) job' := by
  cases event with
  | chat post => exact ⟨job, lookup_postChat hjob, h⟩
  | job request => exact h.handleJob hvalid hdisabled hjob request

/-! ### Runs -/

/-- **The row of a job follows its progress**, over any requests. -/
theorem tracks_run (hvalid : chatResponseEnvelope.accepts prepared = true)
    (hdisabled : app.service.isEnabled = false) (py : PythonText F) (events : List (Event F))
    (hjob : stores.jobs.lookup jobId = some job) (h : Tracks prepared jobPollToken progress job) :
    ∃ job', (Binding.run app py stores events).jobs.lookup jobId = some job' ∧
      Tracks prepared jobPollToken
        (progress.after (events.filterMap (signal jobId jobPollToken))) job' := by
  induction events generalizing stores progress job with
  | nil => exact ⟨job, hjob, h⟩
  | cons event events ih =>
    obtain ⟨job', hjob', h'⟩ := h.next_event hvalid hdisabled hjob py event
    obtain ⟨job'', hjob'', h''⟩ := ih hjob' h'
    refine ⟨job'', hjob'', ?_⟩
    rw [List.filterMap_cons]
    cases hsignal : signal jobId jobPollToken event with
    | none => simpa [hsignal] using h''
    | some signal => simpa [hsignal, Progress.after] using h''

/-- An envelope that the model takes is shown. -/
theorem shownResult_of_accepts (hvalid : chatResponseEnvelope.accepts prepared = true) :
    shownResult (some prepared) = .ok (some prepared) := by
  have htruthy : Db.truthy prepared = true := by
    have hobject : Keyword.type [.object] ∈ chatResponseEnvelope := List.mem_cons_self
    obtain ⟨t, ht, hobject⟩ := exists_hasType_of_accepts hvalid hobject
    obtain rfl := List.mem_singleton.mp ht
    obtain ⟨fields, rfl⟩ := exists_of_hasType_object hobject
    cases fields with
    | nil => cases Validation.isSome_of_model_accepts hvalid List.mem_cons_self
    | cons field fields => rfl
  rw [shownResult, Option.filter_some, if_pos htruthy]
  exact if_pos hvalid

/-- What a poll with its token answers of a job. -/
theorem Tracks.answer (h : Tracks prepared jobPollToken progress job)
    (hvalid : chatResponseEnvelope.accepts prepared = true)
    (hdisabled : app.service.isEnabled = false)
    (hjob : stores.jobs.lookup poll.jobId = some job) (htoken : poll.jobPollToken = jobPollToken) :
    (Routes.getJob app py stores poll).1.map (fun answer => (answer.status, answer.result)) =
      .ok ((progress.next .get).shown prepared) := by
  have hfound : jobByPollToken stores.jobs poll.toPoll = some job := by
    rw [jobByPollToken, hjob, Option.filter_some, if_pos]
    simp [h.token, htoken]
  rw [Routes.getJob, hfound]
  simp only [advanced_of_disabled hdisabled]
  obtain ⟨job', hanswer, -, hjob'⟩ : ∃ job', (Routes.refreshedBy app stores poll asyncJobEnvelope
      fun stores job => promoted stores poll job).1 = asyncJobEnvelope job' ∧ _ ∧ _ :=
    h.refreshedBy hvalid (by decide : Signal.get ≠ .cancel) hjob fun _ _ => jobs_promoted
  rw [hanswer, asyncJobEnvelope, jobEnvelope]
  cases hprogress : progress.next .get with
  | waiting polls =>
    rw [hprogress] at hjob'
    obtain ⟨hstatus, -, hresult⟩ := hjob'.row
    rw [hresult, Progress.shown, ← hstatus]
    rfl
  | delivered =>
    rw [hprogress] at hjob'
    obtain ⟨hstatus, hresult⟩ := hjob'.row
    rw [hresult, shownResult_of_accepts hvalid, Progress.shown, ← hstatus]
    rfl
  | cancelled =>
    rw [hprogress] at hjob'
    obtain ⟨hstatus, hresult⟩ := hjob'.row
    rw [hresult, Progress.shown, ← hstatus]
    rfl

/-! ### From the answer on -/

/-- The job that a request for a background refresh binds and starts. -/
theorem lookup_finish_self {polls : ℕ} (hpolls : app.completionRefreshPolls = polls)
    (hid : jobIdOf envelope = some jobId) (hjob : stores.jobs.lookup jobId = some job)
    (hstatus : job.jobStatus = .pending) :
    ∃ job', (finish app stores post session envelope).jobs.lookup jobId = some job' ∧
      job'.jobPollToken = job.jobPollToken ∧
      job'.preparedResultPayload = job.preparedResultPayload ∧ job'.jobStatus = .running ∧
      job'.completionRefreshesRemaining = some (polls : ℤ) ∧
      job'.resultPayload = job.resultPayload := by
  let start : Op Json := .startJob "Background refresh running for Memphis exceptions."
  let bound : GenerationJob Json (Loaded F) :=
    { job with pendingResponseId := some (responseIdOf envelope), updatedAt := post.times.bound }
  have hbound : (stores.call app post.times.bound
      (.bindPendingResponse jobId (responseIdOf envelope))).jobs.lookup jobId = some bound := by
    simp only [Stores.call, callJob, KeyedTable.lookup_modify, if_true, hjob, Option.map_some,
      bound]
  have hread : readBlock app.jobs start (some bound.toJobRow) =
      if job.jobStatus.validateTransition .running then .write bound.toJobRow
      else .done (.job (some bound.toJobRow)) := rfl
  have hvalid : job.jobStatus.validateTransition .running = true := by
    rw [hstatus]
    decide
  have hstarted : (callJob app.jobs (stores.call app post.times.bound
      (.bindPendingResponse jobId (responseIdOf envelope))).jobs post.times.started
        (.operate jobId start)).1.lookup jobId =
      some { bound with
        toJobRow := operated app.jobs start post.times.started bound.toJobRow } :=
    lookup_operate hbound
  rw [finish, Stores.jobs_save, hid]
  refine ⟨_, hstarted, ?_⟩
  rw [operated, Op.run, hread, if_pos hvalid, Option.getD_some]
  exact ⟨rfl, rfl, rfl, congrArg some hpolls, rfl⟩

/-- The answer that a job is pending has its id and its token. -/
theorem members_of_pending {session : SessionState} {readings : Readings}
    (h : build (pendingPayload session jobId jobPollToken readings) = .ok envelope) :
    envelope.get? "job_id" = some (.str jobId) ∧
      envelope.get? "job_poll_token" = some (.str jobPollToken) := by
  have hbuilt := mapError_eq_ok.mp h
  rw [pendingPayload] at hbuilt
  exact ⟨get?_of_buildResponseEnvelope hbuilt (by decide)
      (by simp [Chat.basePayload, List.lookup_cons, Json.strOrNull]),
    get?_of_buildResponseEnvelope hbuilt (by decide)
      (by simp [Chat.basePayload, List.lookup_cons, Json.strOrNull])⟩

/-- What a request that has created its job leaves of it. -/
theorem exists_tracks_of_created {polls : ℕ} (hpolls : app.completionRefreshPolls = polls)
    (hjob : stores.jobs.lookup post.draws.jobId = some job) (hstatus : job.jobStatus = .pending)
    (htoken : job.jobPollToken = post.draws.jobPollToken) (hresult : job.resultPayload = none)
    (hanswer : (postCreated app stores post identity session).1 = .ok envelope) :
    ∃ prepared job', buildReadResult app post identity session (some post.draws.jobId)
        post.draws.prepared = .ok prepared ∧
      envelope.get? "job_id" = some (.str post.draws.jobId) ∧
      envelope.get? "job_poll_token" = some (.str post.draws.jobPollToken) ∧
      (postCreated app stores post identity session).2.jobs.lookup post.draws.jobId = some job' ∧
      Tracks prepared post.draws.jobPollToken (.waiting polls) job' := by
  rw [postCreated] at hanswer ⊢
  cases hprepared : buildReadResult app post identity session (some post.draws.jobId)
    post.draws.prepared with
  | error error =>
    rw [hprepared] at hanswer
    cases hanswer
  | ok prepared =>
    simp only [hprepared] at hanswer ⊢
    let pending : ChatSession := { session with lastJobId := some post.draws.jobId }
    let saved : Stores F := (stores.call app post.times.prepared
      (.prepareResult post.draws.jobId prepared)).save pending post.times.pendingSaved
    have hstored : saved.jobs.lookup post.draws.jobId = some { job with
        preparedResultPayload := some prepared
        updatedAt := post.times.prepared } := by
      simp only [saved, Stores.jobs_save, Stores.call, callJob, KeyedTable.lookup_modify, if_true,
        hjob, Option.map_some]
    cases hbuilt : build (pendingPayload session.toSessionState post.draws.jobId
      post.draws.jobPollToken post.draws.answer) with
    | error error =>
      simp only [hbuilt] at hanswer
      cases hanswer
    | ok built =>
      simp only [hbuilt, Except.ok.injEq] at hanswer ⊢
      subst hanswer
      obtain ⟨hid, hpollToken⟩ := members_of_pending hbuilt
      obtain ⟨job', hlookup, htoken', hpayload, hrunning, hremaining, hresult'⟩ :
          ∃ job', (finish app saved post pending built).jobs.lookup post.draws.jobId =
            some job' ∧ _ :=
        lookup_finish_self hpolls (ids_of_pendingPayload hbuilt).2 hstored hstatus
      exact ⟨prepared, job', rfl, hid, hpollToken, hlookup, htoken'.trans htoken, hpayload,
        hrunning, hremaining, hresult'.trans hresult⟩

/-- What a request for a background refresh that is answered leaves of its job, and what it tells
the client. -/
theorem exists_tracks_of_answer {polls : ℕ} (hdisabled : app.service.isEnabled = false)
    (hpolls : app.completionRefreshPolls = polls) (hrefresh : post.IsRefresh app)
    (hanswer : (Chat.postChat app stores post).1 = .ok envelope) :
    ∃ identity session prepared job,
      admission app stores post = .ok (identity, session) ∧
      buildReadResult app post identity session (some post.draws.jobId) post.draws.prepared =
        .ok prepared ∧
      envelope.get? "job_id" = some (.str post.draws.jobId) ∧
      envelope.get? "job_poll_token" = some (.str post.draws.jobPollToken) ∧
      (Chat.postChat app stores post).2.jobs.lookup post.draws.jobId = some job ∧
      Tracks prepared post.draws.jobPollToken (.waiting polls) job := by
  cases hadmitted : admission app stores post with
  | error failure =>
    rw [Chat.postChat, hadmitted] at hanswer
    cases hanswer
  | ok admitted =>
    obtain ⟨identity, session⟩ := admitted
    have hchat : Chat.postChat app stores post = postRefresh app
        ((stores.count post).save session post.times.saved) post identity session := by
      rw [Chat.postChat, hadmitted]
      exact if_pos hrefresh
    rw [hchat] at hanswer ⊢
    generalize (stores.count post).save session post.times.saved = saved at hanswer ⊢
    have hseed : seedAutonomyRun app post = none := by
      rw [seedAutonomyRun, hdisabled]
      rfl
    cases hinsert : saved.jobs.insert? ((newJob session).row post.draws.jobId
      post.draws.jobPollToken post.times.created) with
    | none =>
      simp only [postRefresh, callJob, hinsert] at hanswer
      cases hanswer
    | some jobs =>
      have hrefreshed : postRefresh app saved post identity session =
          postCreated app { saved with jobs := jobs } post identity session := by
        simp only [postRefresh, callJob, hinsert, seeded, hseed]
      rw [hrefreshed] at hanswer ⊢
      have hjob : ({ saved with jobs := jobs } : Stores F).jobs.lookup post.draws.jobId =
          some ((newJob session).row post.draws.jobId post.draws.jobPollToken
            post.times.created) := (KeyedTable.lookup_insert? hinsert).trans (if_pos rfl)
      obtain ⟨prepared, job', hprepared, hid, htoken, hlookup, htracks⟩ :=
        exists_tracks_of_created hpolls hjob rfl rfl rfl hanswer
      exact ⟨identity, session, prepared, job', rfl, hprepared, hid, htoken, hlookup,
        htracks⟩

/-- **The delivery of a background refresh.** A request for a background refresh that is answered
has read its result by then. A poll with the id and the token of the answer, after any other
requests, shows this result as soon as more polls than the job waits for, this one included, have
been made before the job was cancelled; else it shows that the job has been cancelled or that it
runs. -/
theorem refresh_delivered (py : PythonText F) {polls : ℕ}
    (hdisabled : app.service.isEnabled = false)
    (hpolls : app.completionRefreshPolls = polls) (hrefresh : post.IsRefresh app)
    (hanswer : (Chat.postChat app stores post).1 = .ok envelope) :
    ∃ identity session prepared, admission app stores post = .ok (identity, session) ∧
      buildReadResult app post identity session (some post.draws.jobId) post.draws.prepared =
        .ok prepared ∧
      ∀ (events : List (Event F)) (poll : JobPoll F),
        envelope.get? "job_id" = some (.str poll.jobId) →
        envelope.get? "job_poll_token" = some (.str poll.jobPollToken) →
        (Routes.getJob app py (Binding.run app py (Chat.postChat app stores post).2 events)
            poll).1.map (fun answer => (answer.status, answer.result)) =
          .ok (shown polls prepared ((events ++ [Event.job (.get poll)]).filterMap
            (signal poll.jobId poll.jobPollToken))) := by
  obtain ⟨identity, session, prepared, job, hadmitted, hprepared, hid, htoken, hjob, htracks⟩ :=
    exists_tracks_of_answer hdisabled hpolls hrefresh hanswer
  have hvalid : chatResponseEnvelope.accepts prepared = true :=
    Validation.model_accepts_buildReadResult hprepared
  refine ⟨identity, session, prepared, hadmitted, hprepared, fun events poll hpoll hpollToken => ?_⟩
  have hpollId : post.draws.jobId = poll.jobId := by simpa [hid] using hpoll
  have hpollToken : (post.draws.jobPollToken : String) = poll.jobPollToken := by
    simpa [htoken] using hpollToken
  rw [hpollId] at hjob
  rw [hpollToken] at htracks
  obtain ⟨job', hjob', htracks'⟩ := tracks_run hvalid hdisabled py events hjob htracks
  have hsignal : [Event.job (.get poll)].filterMap (signal poll.jobId poll.jobPollToken) =
      [.get] := by simp [signal]
  rw [htracks'.answer hvalid hdisabled hjob' rfl, ← shown_after, List.filterMap_append, hsignal,
    Progress.after, Progress.after, List.foldl_append]
  rfl

/-- The third poll of a job that waits for two shows its result. -/
theorem refresh_delivered_third : ∃ envelope prepared,
    (Chat.postChat testApp newStores refreshPost).1 = .ok envelope ∧
      ∀ poll : JobPoll Empty, envelope.get? "job_id" = some (.str poll.jobId) →
        envelope.get? "job_poll_token" = some (.str poll.jobPollToken) →
        (Routes.getJob testApp plainText (Binding.run testApp plainText refreshing
            [.job (.get poll), .job (.lifecycle poll)]) poll).1.map
            (fun answer => (answer.status, answer.result)) = .ok (.succeeded, some prepared) := by
  have hpolls : testApp.completionRefreshPolls = (2 : ℕ) := rfl
  have hrefresh : isAsyncRefreshRequest testApp.py.lower refreshPost.request.prompt = true := by
    decide +kernel
  obtain ⟨envelope, hanswer⟩ := Validation.exists_answer_refreshPost
  obtain ⟨identity, session, prepared, -, -, hdelivered⟩ :=
    refresh_delivered plainText rfl hpolls hrefresh hanswer
  refine ⟨envelope, prepared, hanswer, fun poll hid htoken => ?_⟩
  have hshown := hdelivered [.job (.get poll), .job (.lifecycle poll)] poll hid htoken
  have hsignals : ([.job (.get poll), .job (.lifecycle poll)] ++ [.job (.get poll)] :
      List (Event Empty)).filterMap (signal poll.jobId poll.jobPollToken) =
        [.get, .lifecycle, .get] := by simp [signal]
  rw [hsignals] at hshown
  exact hshown

end Meridian.Api.Delivery
