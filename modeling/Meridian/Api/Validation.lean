import Meridian.Api.Promotion
import Meridian.Api.WrongToken
import Meridian.Foundations.SchemaRefinement
import Meridian.Jobs.Provenance

/-!
# Answers that their models take

Every answer of the application is validated twice: the builder holds it against the contract, and
the routes of `backend/app/api/routes` hold it against the model `ChatResponseEnvelope`, on its own
or as the result of a job. The second validation never fails, and neither does a poll, whatever
requests came before.

## Main definitions

* `Meridian.Api.requiredByModel`: where the model asks for more than the contract.
* `Meridian.Api.Validation.JobsSound`: the results of all jobs pass the model.
* `Meridian.Api.Validation.refusal`: the errors that the routes of jobs are meant to raise.

## Main results

* `Meridian.Api.Validation.model_accepts_iff`: what of the contract the model takes.
* `Meridian.Api.Validation.answers_validate`: every answer passes the model.
* `Meridian.Api.Validation.refused_as_meant`: after any requests, the routes of jobs raise what they
  are meant to raise.
-/

namespace Meridian.Api

open Foundations Responses Jobs Autonomy Chat Routes

/-- The members that the model of an answer requires and the contract does not. -/
def requiredByModel : List String :=
  ["session_id", "conversation_scope", "context_binding_state", "screen_sync_state"]

namespace Validation

variable {F : Type} {app : App} {py : PythonText F} {stores : Stores F} {post : Post}
  {identity : TrustedIdentity} {session : ChatSession} {envelope : Json}

/-! ### The model and the contract -/

/-- The model takes what the contract takes if these members are required. -/
theorem refinedBy_agentResponse : Schema.refinedBy chatResponseEnvelope
    (agentResponse ++ [.required requiredByModel]) = true := by
  decide

/-- What the contract takes, the model takes with the four members. -/
theorem model_accepts_of_members {j : Json} (h : agentResponse.accepts j = true)
    (hmembers : ∀ name ∈ requiredByModel, (j.get? name).isSome) :
    chatResponseEnvelope.accepts j = true := by
  have hobject : .type [.object] ∈ agentResponse := List.mem_cons_self
  obtain ⟨t, ht, hobject⟩ := exists_hasType_of_accepts h hobject
  obtain rfl := List.mem_singleton.mp ht
  obtain ⟨fields, rfl⟩ := exists_of_hasType_object hobject
  refine Schema.accepts_of_refinedBy refinedBy_agentResponse
    ((Schema.accepts_concat_required (by decide)).mpr ⟨h, ?_⟩)
  rw [Keyword.admits_required, List.all_eq_true]
  exact hmembers

/-- An envelope that the model takes has the members that it requires. -/
theorem isSome_of_model_accepts {envelope : Json} {name : String}
    (h : chatResponseEnvelope.accepts envelope = true)
    (hname : name ∈ ["contract_version", "response_id", "request_id", "session_id",
      "conversation_scope", "context_binding_state", "screen_sync_state", "intent_class", "status",
      "summary", "components", "policy", "audit"]) : (envelope.get? name).isSome := by
  have hobject : Keyword.type [.object] ∈ chatResponseEnvelope := List.mem_cons_self
  obtain ⟨t, ht, hobject⟩ := exists_hasType_of_accepts h hobject
  obtain rfl := List.mem_singleton.mp ht
  obtain ⟨fields, rfl⟩ := exists_of_hasType_object hobject
  have hrequired := Schema.admits_of_accepts h
    (List.mem_cons_of_mem _ (List.mem_cons_of_mem _ List.mem_cons_self))
  rw [Keyword.admits_required, List.all_eq_true] at hrequired
  exact hrequired name hname

/-- **The model and the contract.** What the contract takes, the model takes if and only if it has
the four members. -/
theorem model_accepts_iff {j : Json} (h : agentResponse.accepts j = true) :
    chatResponseEnvelope.accepts j = true ↔ ∀ name ∈ requiredByModel, (j.get? name).isSome := by
  refine ⟨fun hmodel name hname => isSome_of_model_accepts hmodel ?_, model_accepts_of_members h⟩
  revert name
  decide

/-- The contract takes an answer without the id of the session, which the model refuses. -/
theorem model_accepts_iff_pending :
    agentResponse.accepts (.obj ((pendingPayload (newSession "" none) "job_1"
      (memphisChat none).token memphisReadings).filter (·.1 ≠ "session_id"))) = true ∧
    chatResponseEnvelope.accepts (.obj ((pendingPayload (newSession "" none) "job_1"
      (memphisChat none).token memphisReadings).filter (·.1 ≠ "session_id"))) = false := by
  have haccepts : agentResponse.accepts (.obj ((pendingPayload (newSession "" none) "job_1"
      (memphisChat none).token memphisReadings).filter (·.1 ≠ "session_id"))) = true := by
    decide +kernel
  refine ⟨haccepts, Bool.eq_false_iff.mpr fun hmodel => ?_⟩
  have hmember := (model_accepts_iff haccepts).mp hmodel "session_id" List.mem_cons_self
  revert hmember
  decide +kernel

/-- What the builder returns satisfies the contract. -/
theorem agentResponse_of_build {payload : List (String × Json)}
    (h : buildResponseEnvelope payload = .ok envelope) : agentResponse.accepts envelope = true := by
  rw [buildResponseEnvelope] at h
  split_ifs at h with hitems haccepts haccepts
  · obtain rfl := Except.ok.inj h
    exact haccepts
  · obtain rfl := Except.ok.inj h
    exact haccepts

/-- The model takes what the builder returns for a payload with the four members. -/
theorem model_accepts_build {payload : List (String × Json)}
    (hmembers : requiredByModel.all fun name => (payload.lookup name).isSome)
    (h : buildResponseEnvelope payload = .ok envelope) :
    chatResponseEnvelope.accepts envelope = true := by
  refine model_accepts_of_members (agentResponse_of_build h) fun name hname => ?_
  have hlookup := List.all_eq_true.mp hmembers name hname
  obtain ⟨value, hvalue⟩ := Option.isSome_iff_exists.mp hlookup
  have hne : name ≠ "components" := by
    rintro rfl
    revert hname
    decide
  rw [get?_of_buildResponseEnvelope h hne hvalue]
  rfl

/-! ### The answers -/

theorem model_accepts_buildReadResult {jobId : Option String} {readings : Readings}
    (h : buildReadResult app post identity session jobId readings = .ok envelope) :
    chatResponseEnvelope.accepts envelope = true := by
  obtain ⟨readResult, -, h⟩ := bind_eq_ok.mp h
  exact model_accepts_build rfl (mapError_eq_ok.mp h)

theorem model_accepts_pending {jobId jobPollToken : String} {readings : Readings}
    (h : build (pendingPayload session.toSessionState jobId jobPollToken readings) =
      .ok envelope) : chatResponseEnvelope.accepts envelope = true :=
  model_accepts_build rfl (mapError_eq_ok.mp h)

theorem model_accepts_postRead (h : (postRead app stores post identity session).1 = .ok envelope) :
    chatResponseEnvelope.accepts envelope = true := by
  rw [postRead] at h
  split at h
  · cases h
  · next hbuilt =>
    obtain rfl := Except.ok.inj h
    exact model_accepts_buildReadResult hbuilt

theorem model_accepts_postCreated
    (h : (postCreated app stores post identity session).1 = .ok envelope) :
    chatResponseEnvelope.accepts envelope = true := by
  rw [postCreated] at h
  split at h
  · cases h
  · dsimp only at h
    split at h
    · cases h
    · next hbuilt =>
      obtain rfl := Except.ok.inj h
      exact model_accepts_pending hbuilt

theorem model_accepts_postChat (h : (Chat.postChat app stores post).1 = .ok envelope) :
    chatResponseEnvelope.accepts envelope = true := by
  unfold Chat.postChat at h
  split at h
  · cases h
  · dsimp only at h
    split_ifs at h
    · rw [postRefresh] at h
      split at h
      · cases h
      · exact model_accepts_postCreated h
    · exact model_accepts_postRead h

theorem model_accepts_confirmPayload {session : SessionState}
    {actionName confirmationToken : String} {result : Gateway.BookingResult} {readings : Readings}
    (h : buildResponseEnvelope (confirmPayload session actionName confirmationToken result
      readings) = .ok envelope) : chatResponseEnvelope.accepts envelope = true := by
  rw [confirmPayload] at h
  split at h
  · exact model_accepts_build rfl h
  · exact model_accepts_build rfl h

theorem model_accepts_postConfirmAction {store : SessionStore}
    {executeWriteGateway : Gateway.Call → Except String Gateway.BookingResult}
    {request : ConfirmRequest} {readings : Readings}
    (h : postConfirmAction store identity executeWriteGateway request readings = .ok envelope) :
    chatResponseEnvelope.accepts envelope = true := by
  unfold postConfirmAction at h
  obtain ⟨actionName, -, h⟩ := bind_eq_ok.mp h
  obtain ⟨-, -, h⟩ := bind_eq_ok.mp h
  obtain ⟨confirmationToken, -, h⟩ := bind_eq_ok.mp h
  obtain ⟨idempotencyKey, -, h⟩ := bind_eq_ok.mp h
  obtain ⟨sessionId, -, h⟩ := bind_eq_ok.mp h
  obtain ⟨sessionAccessToken, -, h⟩ := bind_eq_ok.mp h
  obtain ⟨session, -, h⟩ := bind_eq_ok.mp h
  obtain ⟨-, -, h⟩ := bind_eq_ok.mp h
  obtain ⟨-, -, h⟩ := bind_eq_ok.mp h
  obtain ⟨result, -, h⟩ := bind_eq_ok.mp h
  exact model_accepts_confirmPayload (mapError_eq_ok.mp h)

/-- **Every answer passes the model.** Whatever the state, the request and what the gateway answers,
what `post_chat` and `post_confirm_action` return is taken by the model. -/
theorem answers_validate (app : App) (stores : Stores F) (post : Post) (store : SessionStore)
    (identity : TrustedIdentity)
    (executeWriteGateway : Gateway.Call → Except String Gateway.BookingResult)
    (request : ConfirmRequest) (readings : Readings) :
    (∀ envelope, (Chat.postChat app stores post).1 = .ok envelope →
      chatResponseEnvelope.accepts envelope = true) ∧
    ∀ envelope, postConfirmAction store identity executeWriteGateway request readings =
      .ok envelope → chatResponseEnvelope.accepts envelope = true :=
  ⟨fun _ => model_accepts_postChat, fun _ => model_accepts_postConfirmAction⟩

/-- A request for a background refresh is answered. -/
theorem exists_answer_refreshPost :
    ∃ envelope, (Chat.postChat testApp newStores refreshPost).1 = .ok envelope := by
  have hanswered : (Chat.postChat testApp newStores refreshPost).1.toOption.isSome = true := by
    decide +kernel
  cases hanswer : (Chat.postChat testApp newStores refreshPost).1 with
  | error failure =>
    rw [hanswer] at hanswered
    cases hanswered
  | ok envelope => exact ⟨envelope, rfl⟩

theorem answers_validate_refresh : ∃ envelope,
    (Chat.postChat testApp newStores refreshPost).1 = .ok envelope ∧
      chatResponseEnvelope.accepts envelope = true := by
  obtain ⟨envelope, hanswer⟩ := exists_answer_refreshPost
  exact ⟨envelope, hanswer, (answers_validate testApp newStores refreshPost .empty memphisIdentity
    (fun _ => .error "") ⟨none, none, none, none, none⟩ memphisReadings).1 envelope hanswer⟩

/-! ### The results of jobs -/

/-- The payloads of all jobs pass the model, and no job has metadata of autonomy where there is
none. -/
structure JobsSound (app : App) (jobs : JobTable Json (Loaded F)) : Prop where
  valid : ∀ jobId job, jobs.lookup jobId = some job → ∀ payload ∈ job.payloads,
    chatResponseEnvelope.accepts payload = true
  plain : app.service.isEnabled = false → ∀ jobId job, jobs.lookup jobId = some job →
    job.autonomyMetadata = none

variable {jobs : JobTable Json (Loaded F)} {now : String} {poll : JobPoll F}
  {job : GenerationJob Json (Loaded F)}

/-- A call with payloads that pass the model. -/
theorem JobsSound.call {call : JobCall Json (Loaded F)} (h : JobsSound app jobs)
    (hvalid : ∀ payload ∈ call.payloads, chatResponseEnvelope.accepts payload = true)
    (hcall : app.service.isEnabled = false → ∀ id metadata triggerCompletion,
      call ≠ .updateAutonomyMetadata id metadata triggerCompletion) :
    JobsSound app (callJob app.jobs jobs now call).1 := by
  constructor
  · intro jobId job hjob payload hpayload
    rcases callJob_payloads hjob hpayload with hnew | ⟨job₀, hlookup, hold⟩
    · exact hvalid payload hnew
    · exact h.valid jobId job₀ hlookup payload hold
  · intro hdisabled jobId job hjob
    rcases callJob_autonomyMetadata (hcall hdisabled) hjob with hnone | ⟨job₀, hlookup, heq⟩
    · exact hnone
    · rw [heq, h.plain hdisabled jobId job₀ hlookup]

/-- A call without payloads that writes no metadata. -/
theorem JobsSound.quiet {call : JobCall Json (Loaded F)} (h : JobsSound app jobs)
    (hpayloads : call.payloads = [])
    (hcall : ∀ id metadata triggerCompletion,
      call ≠ .updateAutonomyMetadata id metadata triggerCompletion) :
    JobsSound app (callJob app.jobs jobs now call).1 :=
  h.call (by simp [hpayloads]) fun _ => hcall

theorem JobsSound.finish (h : JobsSound app stores.jobs) :
    JobsSound app (finish app stores post session envelope).jobs := by
  rw [Chat.finish, Stores.jobs_save]
  split
  · exact h
  · next jobId _ =>
    have hbound : JobsSound app (stores.call app post.times.bound
        (.bindPendingResponse jobId (responseIdOf envelope))).jobs := h.quiet rfl (by simp)
    exact hbound.quiet rfl (by simp)

theorem JobsSound.seeded (h : JobsSound app stores.jobs) :
    JobsSound app (seeded app stores post).jobs := by
  rw [Chat.seeded]
  split
  · exact h
  · next metadata hseed =>
    have hpayloads : (JobCall.updateAutonomyMetadata post.draws.jobId metadata.toDict false :
        JobCall Json (Loaded F)).payloads = [] := rfl
    refine h.call (by simp [hpayloads]) fun hdisabled => ?_
    rw [seedAutonomyRun, hdisabled] at hseed
    cases hseed

theorem JobsSound.postCreated (h : JobsSound app stores.jobs) :
    JobsSound app (postCreated app stores post identity session).2.jobs := by
  rw [Chat.postCreated]
  split
  · exact h
  · next prepared hprepared =>
    have hcall : JobsSound app (stores.call app post.times.prepared
        (.prepareResult post.draws.jobId prepared)).jobs := by
      refine h.call (fun payload hpayload => ?_) fun _ _ _ _ => by simp
      rw [List.mem_singleton.mp hpayload]
      exact model_accepts_buildReadResult hprepared
    dsimp only
    split
    · exact hcall
    · exact JobsSound.finish hcall

theorem JobsSound.postRefresh (h : JobsSound app stores.jobs) :
    JobsSound app (postRefresh app stores post identity session).2.jobs := by
  have hcreated : JobsSound app (callJob app.jobs stores.jobs post.times.created
      (.createJob post.draws.jobId post.draws.jobPollToken (newJob session))).1 :=
    h.quiet rfl (by simp)
  rw [Chat.postRefresh]
  split
  · exact h
  · next jobs _ _ hcreate =>
    rw [hcreate] at hcreated
    have hstores : JobsSound app ({ stores with jobs := jobs } : Stores F).jobs := hcreated
    exact (JobsSound.seeded hstores).postCreated

/-- A chat request keeps the jobs sound. -/
theorem JobsSound.postChat (h : JobsSound app stores.jobs) :
    JobsSound app (Chat.postChat app stores post).2.jobs := by
  unfold Chat.postChat
  split
  · exact h
  · next identity session _ =>
    have hsaved : JobsSound app ((stores.count post).save session post.times.saved).jobs := by
      simpa using h
    dsimp only
    split_ifs
    · exact hsaved.postRefresh
    · rw [postRead]
      split
      · exact hsaved
      · exact hsaved.finish

/-! ### The routes of jobs -/

/-- A step of an autonomy run is taken only where autonomy is enabled. -/
theorem isEnabled_of_pollStep {step : AutonomyJobMetadata × StepOutcome}
    (h : Autonomy.pollStep app.service py poll.toPoll job = some step) :
    app.service.isEnabled = true := by
  rw [Autonomy.pollStep] at h
  split_ifs at h with hstatus hdisabled
  simpa using hdisabled

/-- What a poll does to the jobs keeps them sound. -/
theorem JobsSound.advanced (h : JobsSound app stores.jobs) :
    JobsSound app (Routes.advanced app py stores.jobs poll job) := by
  rw [Routes.advanced]
  split
  · exact h
  · next metadata outcome hstep =>
    have hupdated : JobsSound app (callJob app.jobs stores.jobs poll.updatedAt
        (.updateAutonomyMetadata poll.jobId metadata.toDict outcome.completes)).1 := by
      refine h.call (List.forall_mem_nil _) fun hdisabled => ?_
      rw [isEnabled_of_pollStep hstep] at hdisabled
      cases hdisabled
    rw [afterStep]
    split
    · exact hupdated
    · split_ifs
      · exact hupdated.quiet rfl (by simp)
      · exact hupdated

/-- A poll neither adds a job nor removes one. -/
theorem keys_advanced :
    (Routes.advanced app py stores.jobs poll job).keys = stores.jobs.keys := by
  rw [Routes.advanced]
  split
  · rfl
  · rw [afterStep]
    split
    · exact keys_callJob (by simp)
    · split_ifs
      · exact (keys_callJob (by simp)).trans (keys_callJob (by simp))
      · exact keys_callJob (by simp)

theorem JobsSound.refreshed (h : JobsSound app jobs) {jobId : String} :
    JobsSound app (callJob app.jobs jobs now (.operate jobId .refreshJob)).1 :=
  h.quiet rfl (by simp)

theorem JobsSound.refreshedBy {α : Type}
    {answer : GenerationJob Json (Loaded F) → Except RouteError α}
    {after : Stores F → GenerationJob Json (Loaded F) → Stores F} (h : JobsSound app stores.jobs)
    (hafter : ∀ stores job, (after stores job).jobs = stores.jobs) :
    JobsSound app (refreshedBy app stores poll answer after).2.jobs := by
  have hrefreshed : JobsSound app (callJob app.jobs stores.jobs poll.refreshedAt
      (.operate poll.jobId .refreshJob)).1 := h.refreshed
  rw [Routes.refreshedBy]
  split
  · next jobs job hcall =>
    rw [hcall] at hrefreshed
    rw [hafter]
    exact hrefreshed
  · exact h
  · exact h

/-- A request of the routes of jobs keeps the jobs sound. -/
theorem JobsSound.handleJob (h : JobsSound app stores.jobs) (request : JobRequest F) :
    JobsSound app (handleJob app py stores request).2.jobs := by
  cases request with
  | create request =>
    simp only [Routes.handleJob, Prod.map_snd, id, Routes.createJob]
    split
    · exact h
    · next session _ =>
      have hcreated : JobsSound app (callJob app.jobs stores.jobs request.createdAt
          (.createJob request.jobId request.jobPollToken
            { sessionId := session.sessionId
              brokerId := session.brokerId
              officeId := session.officeId
              progressMessage := request.progressMessage
              retryAllowed := request.retryAllowed })).1 := h.quiet rfl (by simp)
      split
      · next jobs job hcall =>
        rw [hcall] at hcreated
        exact hcreated
      · exact h
  | list request => exact h
  | get poll =>
    simp only [Routes.handleJob, Prod.map_snd, id, Routes.getJob]
    split
    · exact h
    · next job _ =>
      have hadvanced : JobsSound app ({ stores with
          jobs := Routes.advanced app py stores.jobs poll job } : Stores F).jobs := h.advanced
      exact hadvanced.refreshedBy fun _ _ => jobs_promoted
  | lifecycle poll =>
    simp only [Routes.handleJob, Prod.map_snd, id, getJobLifecycle]
    split
    · exact h
    · exact h.refreshedBy fun _ _ => rfl
  | cancel request =>
    simp only [Routes.handleJob, Prod.map_snd, id, Routes.cancelJob]
    split
    · exact h
    · split_ifs
      · have hcancelled : JobsSound app (callJob app.jobs stores.jobs request.cancelledAt
            (.operate request.jobId (.cancelJob "Job cancelled."))).1 := h.quiet rfl (by simp)
        split
        · next jobs job hcall =>
          rw [hcall] at hcancelled
          exact hcancelled
        · exact h
        · exact h
      · exact h

theorem jobsSound_next (h : JobsSound app stores.jobs) (event : Binding.Event F) :
    JobsSound app (Binding.next app py stores event).jobs := by
  cases event with
  | chat post => exact h.postChat
  | job request => exact h.handleJob request

/-- After any requests of a new application the jobs are sound. -/
theorem jobsSound_run (events : List (Binding.Event F)) :
    JobsSound app (Binding.run app py Binding.emptyStores events).jobs := by
  have hempty : JobsSound app (Binding.emptyStores : Stores F).jobs :=
    ⟨fun _ _ hjob => absurd hjob (Option.some_ne_none _).symm,
      fun _ _ _ hjob => absurd hjob (Option.some_ne_none _).symm⟩
  rw [Binding.run]
  generalize (Binding.emptyStores : Stores F) = stores at hempty
  induction events generalizing stores with
  | nil => exact hempty
  | cons event events ih => exact ih _ (jobsSound_next hempty event)

/-! ### Errors -/

/-- What the store reads of a payload that passes the model. -/
theorem isSome_responseId (h : chatResponseEnvelope.accepts envelope = true) :
    (envelopeReader.responseId envelope).isSome := by
  rw [envelopeReader, Option.isSome_map]
  exact isSome_of_model_accepts h (by decide)

theorem exists_shownResult
    (h : ∀ payload ∈ job.payloads, chatResponseEnvelope.accepts payload = true) :
    ∃ shown, shownResult job.resultPayload = .ok shown := by
  rw [shownResult]
  split
  · exact ⟨_, rfl⟩
  · next result hresult =>
    have hpayload : result ∈ job.payloads :=
      List.mem_append_right _ (Option.mem_toList.mpr (Option.eq_some_of_filter_eq_some hresult))
    rw [if_pos (h result hpayload)]
    exact ⟨_, rfl⟩

theorem exists_jobEnvelope
    (h : ∀ payload ∈ job.payloads, chatResponseEnvelope.accepts payload = true)
    (jobPollToken : Option String) : ∃ answer, jobEnvelope job jobPollToken = .ok answer := by
  obtain ⟨shown, hshown⟩ := exists_shownResult h
  exact ⟨_, by rw [jobEnvelope, hshown, ok_bind]; rfl⟩

theorem exists_jobLifecycleEnvelope
    (h : ∀ payload ∈ job.payloads, chatResponseEnvelope.accepts payload = true) :
    ∃ answer, jobLifecycleEnvelope job = .ok answer := by
  obtain ⟨shown, hshown⟩ := exists_shownResult h
  exact ⟨_, by rw [jobLifecycleEnvelope, hshown, ok_bind]; rfl⟩

/-- A refresh of a job that is there answers with a job whose payloads pass the model. -/
theorem JobsSound.exists_refreshed {jobId : String} (h : JobsSound app jobs)
    (hjob : jobs.lookup jobId = some job) (now : String) :
    ∃ jobs' job', callJob app.jobs jobs now (.operate jobId .refreshJob) =
        (jobs', .job (some job')) ∧
      ∀ payload ∈ job'.payloads, chatResponseEnvelope.accepts payload = true := by
  have hrun : (Op.refreshJob.run app.jobs now job.toJobRow).isSome :=
    isSome_run_refreshJob fun prepared hprepared => isSome_responseId
      (h.valid jobId job hjob prepared (List.mem_append_left _ (Option.mem_toList.mpr hprepared)))
  obtain ⟨jobs', job', hcall⟩ := exists_callJob_operate hjob hrun
  have hrefreshed : JobsSound app (callJob app.jobs jobs now (.operate jobId .refreshJob)).1 :=
    h.refreshed
  exact ⟨jobs', job', hcall, hrefreshed.valid jobId job' (lookup_of_operate (by rw [hcall]))⟩

theorem JobsSound.exists_refreshedBy {α : Type}
    {answer : GenerationJob Json (Loaded F) → Except RouteError α}
    {after : Stores F → GenerationJob Json (Loaded F) → Stores F} (h : JobsSound app stores.jobs)
    (hjob : stores.jobs.lookup poll.jobId = some job)
    (hanswer : ∀ job : GenerationJob Json (Loaded F),
      (∀ payload ∈ job.payloads, chatResponseEnvelope.accepts payload = true) →
        ∃ answered, answer job = .ok answered) :
    ∃ answered, (Routes.refreshedBy app stores poll answer after).1 = .ok answered := by
  obtain ⟨jobs', job', hcall, hvalid⟩ := h.exists_refreshed hjob poll.refreshedAt
  rw [Routes.refreshedBy, hcall]
  exact hanswer job' hvalid

/-- The jobs that a list shows. -/
def listedJobs (stores : Stores F) (request : JobListRequest) :
    List (GenerationJob Json (Loaded F)) :=
  ((Jobs.listJobs stores.jobs (some request.sessionId) (request.status.map StatusQuery.toStatus) 0
    10000).drop request.offset).take request.limit

/-- The error with which a request is refused, if it is. -/
def refusal (py : PythonText F) (stores : Stores F) : JobRequest F → Option RouteError
  | .create request =>
    match sessionByAccessToken stores request.sessionId request.sessionAccessToken with
    | none => some unknownSession
    | some _ => if request.jobId ∈ stores.jobs.keys then some .store else none
  | .list request =>
    match sessionByAccessToken stores request.sessionId request.sessionAccessToken with
    | none => some unknownSession
    | some _ =>
      if (listedJobs stores request).any (·.autonomyMetadata.any (Loaded.truthy py)) then
        some .validation
      else none
  | .get poll | .lifecycle poll =>
    match jobByPollToken stores.jobs poll.toPoll with
    | none => some unknownJob
    | some _ => none
  | .cancel request =>
    match (stores.jobs.lookup request.jobId).filter (·.jobPollToken = request.jobPollToken) with
    | none => some unknownJob
    | some job =>
      if job.jobStatus ∈ [.pending, .running] then none
      else some (.http 409 ("cannot cancel job with status: " ++ statusText job.jobStatus))

/-- The result is an error exactly if there is this one. -/
def FailsWith {α : Type} (result : Except RouteError α) (error : Option RouteError) : Prop :=
  ∀ e, result = .error e ↔ error = some e

section FailsWith

variable {α β : Type} {result : Except RouteError α} {error : Option RouteError} {e : RouteError}

theorem failsWith_none (h : ∃ answer, result = .ok answer) : FailsWith result none := by
  obtain ⟨answer, rfl⟩ := h
  exact fun e => iff_of_false (by simp) (by simp)

theorem failsWith_error : FailsWith (.error e : Except RouteError α) (some e) := fun e' => by
  rw [Except.error.injEq, Option.some.injEq]

theorem FailsWith.map (h : FailsWith result error) (f : α → β) :
    FailsWith (result.map f) error := by
  intro e
  rw [← h e]
  cases result with
  | error e' => simp only [Except.map, Except.error.injEq]
  | ok answer => exact iff_of_false nofun nofun

theorem failsWith_mapM {f : α → Except RouteError β} {p : α → Bool} {l : List α}
    (h : ∀ a ∈ l, FailsWith (f a) (if p a then some e else none)) :
    FailsWith (l.mapM f) (if l.any p then some e else none) := by
  induction l with
  | nil => exact failsWith_none ⟨[], rfl⟩
  | cons a l ih =>
    obtain ⟨ha, hl⟩ := List.forall_mem_cons.mp h
    rw [List.mapM_cons, List.any_cons]
    cases hp : p a with
    | true =>
      rw [hp, if_pos rfl] at ha
      rw [Bool.true_or, if_pos rfl, (ha e).mpr rfl]
      exact failsWith_error
    | false =>
      rw [hp, if_neg Bool.false_ne_true] at ha
      rw [Bool.false_or]
      cases hfa : f a with
      | error e' => cases (ha e').mp hfa
      | ok answer =>
        rw [ok_bind]
        exact (ih hl).map (answer :: ·)

end FailsWith

/-- What a list shows is stored. -/
theorem lookup_of_mem_listedJobs {request : JobListRequest}
    (h : job ∈ listedJobs stores request) : stores.jobs.lookup job.jobId = some job := by
  refine KeyedTable.lookup_of_mem ?_
  have hlisted := List.mem_of_mem_drop (List.mem_of_mem_take h)
  rw [Jobs.listJobs, if_neg (by decide)] at hlisted
  have hsorted := List.mem_of_mem_drop (List.mem_of_mem_take hlisted)
  exact (List.mem_filter.mp (List.mem_mergeSort.mp hsorted)).1

theorem failsWith_createJob (request : JobCreateRequest) :
    FailsWith (Routes.createJob app stores request).1 (refusal py stores (.create request)) := by
  rw [Routes.createJob, refusal]
  cases hsession : sessionByAccessToken stores request.sessionId request.sessionAccessToken with
  | none => exact failsWith_error
  | some session =>
    dsimp only
    generalize ({
      sessionId := session.sessionId
      brokerId := session.brokerId
      officeId := session.officeId
      progressMessage := request.progressMessage
      retryAllowed := request.retryAllowed } : NewJob) = new
    cases hinsert : stores.jobs.insert?
        (new.row request.jobId request.jobPollToken request.createdAt) with
    | none =>
      -- A key that is taken is refused by the store itself.
      obtain ⟨job', hjob'⟩ := KeyedTable.insert?_eq_none.mp hinsert
      have hkey : request.jobId ∈ stores.jobs.keys := by
        by_contra hkey
        exact (Option.some_ne_none job')
          (hjob'.symm.trans (KeyedTable.lookup_eq_none_iff.mpr hkey))
      simp only [callJob, hinsert, hkey, if_true]
      exact failsWith_error
    | some jobs =>
      have hkey : request.jobId ∉ stores.jobs.keys :=
        KeyedTable.lookup_eq_none_iff.mp (KeyedTable.insert?_eq_some hinsert).1
      have hvalid : ∀ payload ∈ (new.row request.jobId request.jobPollToken request.createdAt :
          GenerationJob Json (Loaded F)).payloads, chatResponseEnvelope.accepts payload = true :=
        fun _ hpayload => absurd hpayload List.not_mem_nil
      simp only [callJob, hinsert, hkey, if_false]
      exact failsWith_none (exists_jobEnvelope hvalid _)

theorem JobsSound.failsWith_listJobs (h : JobsSound app stores.jobs) (request : JobListRequest) :
    FailsWith (Routes.listJobs py stores request) (refusal py stores (.list request)) := by
  rw [Routes.listJobs, refusal]
  cases hsession : sessionByAccessToken stores request.sessionId request.sessionAccessToken with
  | none => exact failsWith_error
  | some session =>
    have hitems : FailsWith ((listedJobs stores request).mapM (asyncJobListEnvelope py))
        (if (listedJobs stores request).any (·.autonomyMetadata.any (Loaded.truthy py)) then
          some .validation else none) := by
      refine failsWith_mapM fun job hjob => ?_
      rw [asyncJobListEnvelope]
      split_ifs
      · exact failsWith_error
      · exact failsWith_none (exists_jobEnvelope
          (h.valid job.jobId job (lookup_of_mem_listedJobs hjob)) none)
    exact hitems.map _

theorem JobsSound.failsWith_getJob (h : JobsSound app stores.jobs) (poll : JobPoll F) :
    FailsWith (Routes.getJob app py stores poll).1 (refusal py stores (.get poll)) := by
  rw [Routes.getJob, refusal]
  cases hjob : jobByPollToken stores.jobs poll.toPoll with
  | none => exact failsWith_error
  | some job =>
    -- The step of the autonomy run keeps the job in the table.
    obtain ⟨job', hjob'⟩ : ∃ job', (Routes.advanced app py stores.jobs poll job).lookup
        poll.jobId = some job' := by
      refine Option.ne_none_iff_exists'.mp fun hnone => ?_
      rw [KeyedTable.lookup_eq_none_iff, keys_advanced, ← KeyedTable.lookup_eq_none_iff] at hnone
      rw [jobByPollToken, show stores.jobs.lookup poll.toPoll.jobId = none from hnone] at hjob
      cases hjob
    have hadvanced : JobsSound app ({ stores with
        jobs := Routes.advanced app py stores.jobs poll job } : Stores F).jobs := h.advanced
    refine failsWith_none (hadvanced.exists_refreshedBy hjob' ?_)
    exact fun job hvalid => exists_jobEnvelope hvalid _

theorem JobsSound.failsWith_getJobLifecycle (h : JobsSound app stores.jobs) (poll : JobPoll F) :
    FailsWith (Routes.getJobLifecycle app stores poll).1
      (refusal py stores (.lifecycle poll)) := by
  rw [Routes.getJobLifecycle, refusal]
  cases hjob : jobByPollToken stores.jobs poll.toPoll with
  | none => exact failsWith_error
  | some job =>
    refine failsWith_none (h.exists_refreshedBy (Option.eq_some_of_filter_eq_some hjob) ?_)
    exact fun job => exists_jobLifecycleEnvelope

theorem JobsSound.failsWith_cancelJob (h : JobsSound app stores.jobs) (request : JobCancelRequest) :
    FailsWith (Routes.cancelJob app stores request).1 (refusal py stores (.cancel request)) := by
  rw [Routes.cancelJob, refusal]
  cases hfound : (stores.jobs.lookup request.jobId).filter
      (·.jobPollToken = request.jobPollToken) with
  | none => exact failsWith_error
  | some job =>
    dsimp only
    split_ifs with hstatus
    · have hjob := Option.eq_some_of_filter_eq_some hfound
      have hrun : ((Op.cancelJob "Job cancelled.").run app.jobs request.cancelledAt
          job.toJobRow).isSome := by
        have hread : readBlock app.jobs (.cancelJob "Job cancelled.") (some job.toJobRow) =
            if job.jobStatus.validateTransition .cancelled then .write job.toJobRow
            else .done (.job (some job.toJobRow)) := rfl
        rw [Op.run, hread]
        split_ifs
        · rfl
        · rfl
      obtain ⟨jobs', job', hcall⟩ := exists_callJob_operate hjob hrun
      have hcancelled : JobsSound app (callJob app.jobs stores.jobs request.cancelledAt
          (.operate request.jobId (.cancelJob "Job cancelled."))).1 := h.quiet rfl (by simp)
      have hvalid := hcancelled.valid request.jobId job' (lookup_of_operate (by rw [hcall]))
      rw [hcall]
      exact failsWith_none (exists_jobEnvelope hvalid _)
    · exact failsWith_error

/-- The routes of jobs fail as they are meant to in stores whose jobs are sound. -/
theorem JobsSound.failsWith (h : JobsSound app stores.jobs) (request : JobRequest F) :
    FailsWith (Routes.handleJob app py stores request).1 (refusal py stores request) := by
  cases request with
  | create request => exact (failsWith_createJob request).map JobAnswer.job
  | list request => exact (h.failsWith_listJobs request).map JobAnswer.jobs
  | get poll => exact (h.failsWith_getJob poll).map JobAnswer.job
  | lifecycle poll => exact (h.failsWith_getJobLifecycle poll).map JobAnswer.lifecycle
  | cancel request => exact (h.failsWith_cancelJob request).map JobAnswer.job

/-- Without autonomy no request is refused for its validation. -/
theorem JobsSound.refusal_ne_validation (h : JobsSound app stores.jobs)
    (hdisabled : app.service.isEnabled = false) (request : JobRequest F) :
    refusal py stores request ≠ some .validation := by
  cases request with
  | list request =>
    rw [refusal]
    split
    · decide
    · have hplain : ¬ (listedJobs stores request).any
          (·.autonomyMetadata.any (Loaded.truthy py)) = true := by
        rw [List.any_eq_true]
        rintro ⟨job, hjob, htruthy⟩
        rw [h.plain hdisabled job.jobId job (lookup_of_mem_listedJobs hjob)] at htruthy
        cases htruthy
      rw [if_neg hplain]
      exact (Option.some_ne_none _).symm
  | _ =>
    rw [refusal]
    split
    · simp [unknownSession, unknownJob]
    · simp

/-- **The routes of jobs fail as they are meant to.** After any requests of a new application a
request of these routes fails exactly if it is refused, with that error; without autonomy no answer
fails its validation. -/
theorem refused_as_meant (events : List (Binding.Event F)) (request : JobRequest F) :
    FailsWith (Routes.handleJob app py (Binding.run app py Binding.emptyStores events) request).1
        (refusal py (Binding.run app py Binding.emptyStores events) request) ∧
      (app.service.isEnabled = false →
        refusal py (Binding.run app py Binding.emptyStores events) request ≠ some .validation) :=
  ⟨(jobsSound_run events).failsWith request,
    fun hdisabled => (jobsSound_run events).refusal_ne_validation hdisabled request⟩

end Validation

end Meridian.Api
