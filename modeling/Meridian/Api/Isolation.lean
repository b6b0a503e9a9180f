import Meridian.Api.Promotion
import Meridian.Api.WrongToken
import Meridian.Foundations.Serving
import Meridian.Foundations.TableUpdates
import Meridian.Jobs.Provenance

/-!
# Sessions apart

The sessions and their jobs share one store. What a client gets for the requests of its session is
nevertheless what it would get over a store that has nothing but this session and its jobs, without
all the requests of other sessions, for new ones or for the confirmation of an action in between.

## Main definitions

* `Meridian.Api.Isolation.part`: what the stores have of a session.
* `Meridian.Api.Isolation.concerns`: the requests that concern a session.
* `Meridian.Api.Isolation.DrawsApart`: an id that is drawn for a job is none of another session's.

## Main results

* `Meridian.Api.Isolation.callJob_jobsOf`, `Meridian.Api.Isolation.jobsOf_callJob`: a call on a job
  of a session acts on its part, and leaves those of the others alone.
* `Meridian.Api.Isolation.handle_part`, `Meridian.Api.Isolation.part_handle`: and so does a request.
* `Meridian.Api.Isolation.sessions_apart`: sessions do not see each other.
-/

namespace Meridian.Api.Isolation

open Foundations Responses Jobs Autonomy Chat Routes

variable {F : Type} {L : Type*}

/-! ### The jobs of a session -/

/-- The jobs of a session. -/
def jobsOf (sessionId : String) (jobs : JobTable Json (Loaded F)) : JobTable Json (Loaded F) :=
  jobs.restrict fun job => job.sessionId = sessionId

/-- The job with an id is one of the session, if there is one. -/
def Owns (sessionId : String) (jobs : JobTable Json (Loaded F)) (jobId : String) : Prop :=
  ∀ job ∈ jobs.lookup jobId, job.sessionId = sessionId

/-- What a call creates is for the session. -/
def CreatesFor (sessionId : String) : JobCall Json (Loaded F) → Prop
  | .createJob _ _ new => new.sessionId = sessionId
  | _ => True

variable {config : Config Json} {jobs : JobTable Json (Loaded F)} {now owner sessionId : String}
  {jobId : String} {call : JobCall Json (Loaded F)} {job : GenerationJob Json (Loaded F)}

theorem lookup_jobsOf (h : Owns sessionId jobs jobId) :
    (jobsOf sessionId jobs).lookup jobId = jobs.lookup jobId :=
  KeyedTable.lookup_restrict_of fun job hjob => decide_eq_true (h job hjob)

/-- A call keeps the session of a job. -/
theorem Owns.callJob (h : Owns owner jobs jobId) (hcreates : CreatesFor owner call) :
    Owns owner (callJob config jobs now call).1 jobId := by
  intro job hjob
  obtain ⟨token, new, rfl, rfl⟩ | ⟨job₀, hjob₀, rfl | hchange⟩ := callJob_cases hjob
  · exact hcreates
  · exact h _ hjob₀
  · rw [← h _ hjob₀]
    cases hchange <;> rfl

section Modify

variable {f : GenerationJob Json (Loaded F) → GenerationJob Json (Loaded F)}
  {hf : ∀ job, (f job).jobId = job.jobId}

/-- A rewrite of a job acts on the jobs of its session. -/
theorem jobsOf_modify (hs : ∀ job, (f job).sessionId = job.sessionId) :
    jobsOf sessionId (jobs.modify jobId f hf) = (jobsOf sessionId jobs).modify jobId f hf :=
  KeyedTable.restrict_modify fun job => by rw [hs job]

/-- A rewrite of a job that is found acts on the jobs of its session, where it is found, too. -/
theorem modify_jobsOf (h : Owns sessionId jobs jobId)
    (hs : ∀ job, (f job).sessionId = job.sessionId) :
    ((jobsOf sessionId jobs).modify jobId f hf,
        (JobReply.job (((jobsOf sessionId jobs).modify jobId f hf).lookup jobId) :
          JobReply Json (Loaded F))) =
      (jobsOf sessionId (jobs.modify jobId f hf),
        .job ((jobs.modify jobId f hf).lookup jobId)) := by
  have hafter : Owns sessionId (jobs.modify jobId f hf) jobId := by
    intro job hjob
    rw [KeyedTable.lookup_modify, if_pos rfl] at hjob
    obtain ⟨job₀, hjob₀, rfl⟩ := Option.map_eq_some_iff.mp hjob
    exact (hs job₀).trans (h job₀ hjob₀)
  rw [← jobsOf_modify hs, lookup_jobsOf hafter]

end Modify

/-- A call on a job of a session acts on the jobs of the session. -/
theorem callJob_jobsOf (hid : call.jobId? = some jobId) (h : Owns sessionId jobs jobId)
    (hcreates : CreatesFor sessionId call) :
    callJob config (jobsOf sessionId jobs) now call =
      (jobsOf sessionId (callJob config jobs now call).1, (callJob config jobs now call).2) := by
  cases call with
  | createJob id token new =>
    obtain rfl := Option.some.inj hid
    have hinsert : (jobsOf sessionId jobs).insert? (new.row id token now) =
        (jobs.insert? (new.row id token now)).map (jobsOf sessionId) :=
      KeyedTable.insert?_restrict (decide_eq_true hcreates) fun job hjob =>
        decide_eq_true (h job hjob)
    simp only [callJob, hinsert]
    cases jobs.insert? (new.row id token now) with
    | none => rfl
    | some jobs' => rfl
  | prepareResult id result =>
    obtain rfl := Option.some.inj hid
    refine congrArg (·, JobReply.none) (jobsOf_modify ?_).symm
    exact fun _ => rfl
  | bindPendingResponse id pendingResponseId =>
    obtain rfl := Option.some.inj hid
    exact modify_jobsOf h fun _ => rfl
  | operate id op =>
    obtain rfl := Option.some.inj hid
    simp only [callJob, lookup_jobsOf h]
    cases jobs.lookup id with
    | none => rfl
    | some job =>
      dsimp only
      cases op.run config now job.toJobRow with
      | none => rfl
      | some row => exact modify_jobsOf h fun _ => rfl
  | updateAutonomyMetadata id metadata triggerCompletion =>
    obtain rfl := Option.some.inj hid
    exact modify_jobsOf h fun _ => rfl
  | listJobs => cases hid

/-- A call on a job of another session leaves the jobs of the session alone. -/
theorem jobsOf_callJob (hid : call.jobId? = some jobId) (h : Owns owner jobs jobId)
    (hcreates : CreatesFor owner call) (hne : owner ≠ sessionId) :
    jobsOf sessionId (callJob config jobs now call).1 = jobsOf sessionId jobs := by
  have hother (job) (hjob : jobs.lookup jobId = some job) :
      decide (job.sessionId = sessionId) = false := by
    rw [h job hjob]
    exact decide_eq_false hne
  cases call with
  | createJob id token new =>
    simp only [callJob]
    split
    · next hinsert =>
      refine KeyedTable.restrict_of_insert? hinsert (decide_eq_false ?_)
      intro hnew
      exact hne (hcreates.symm.trans hnew)
    · rfl
  | operate id op =>
    obtain rfl := Option.some.inj hid
    simp only [callJob]
    split
    · rfl
    · split
      · rfl
      · dsimp only
        exact KeyedTable.restrict_modify_of_not (fun _ => rfl) hother
  | prepareResult | bindPendingResponse | updateAutonomyMetadata =>
    obtain rfl := Option.some.inj hid
    simp only [callJob]
    exact KeyedTable.restrict_modify_of_not (fun _ => rfl) hother
  | listJobs => rfl

/-- An operation answers with the job that it leaves. -/
theorem lookup_of_operate {op : Op Json} {jobs' : JobTable Json (Loaded F)}
    (h : callJob config jobs now (.operate jobId op) = (jobs', .job (some job))) :
    jobs'.lookup jobId = some job := by
  simp only [callJob] at h
  split at h
  · cases h
  · split at h
    · cases h
    · obtain ⟨rfl, hjob⟩ := Prod.mk.inj h
      exact JobReply.job.inj hjob

/-! ### What the stores have of a session -/

/-- What the stores have of a session. The counters, which give out the ids of new sessions, are
those of new stores. -/
def part (sessionId : String) (stores : Stores F) : Stores F where
  sessions := stores.sessions.restrict fun row => row.sessionId = sessionId
  counters := fun _ => 0
  jobs := jobsOf sessionId stores.jobs

variable {app : App} {py : PythonText F} {stores : Stores F} {post : Post} {session : ChatSession}
  {identity : TrustedIdentity} {envelope : Json}

theorem lookup_sessions_part :
    (part sessionId stores).sessions.lookup sessionId = stores.sessions.lookup sessionId :=
  KeyedTable.lookup_restrict_of fun _ hrow => decide_eq_true (sessionId_of_lookup hrow)

theorem getSession_part :
    (part sessionId stores).getSession sessionId = stores.getSession sessionId :=
  congrArg (Option.map _) lookup_sessions_part

theorem sessions_view_part :
    (part sessionId stores).view.sessions sessionId = stores.view.sessions sessionId :=
  congrArg (Option.map _) lookup_sessions_part

theorem part_count : part sessionId (stores.count post) = part sessionId stores := by
  rw [Stores.count]
  split
  · rfl
  · rfl

/-- A session that is saved is saved in its part. -/
theorem save_part (h : session.sessionId = sessionId) :
    (part sessionId stores).save session now = part sessionId (stores.save session now) := by
  have hinsert : (part sessionId stores).sessions.insert?
        { session with createdAt := now, updatedAt := now } =
      (stores.sessions.insert? { session with createdAt := now, updatedAt := now }).map
        (·.restrict fun row => row.sessionId = sessionId) :=
    KeyedTable.insert?_restrict (decide_eq_true h) fun row hrow =>
      decide_eq_true ((sessionId_of_lookup hrow).trans h)
  rw [Stores.save, Stores.save, saveSession, saveSession, hinsert]
  cases stores.sessions.insert? { session with createdAt := now, updatedAt := now } with
  | some rows => rfl
  | none =>
    simp only [Option.map_none, part]
    rw [KeyedTable.restrict_modify]
    exact fun _ => rfl

/-- A session that is saved is not saved in the part of another one. -/
theorem part_save (h : session.sessionId ≠ sessionId) :
    part sessionId (stores.save session now) = part sessionId stores := by
  rw [Stores.save, saveSession, part, part]
  split
  · next hinsert =>
    dsimp only
    rw [KeyedTable.restrict_of_insert? hinsert (decide_eq_false h)]
  · dsimp only
    rw [KeyedTable.restrict_modify_of_not]
    · exact fun _ => rfl
    · exact fun row hrow => decide_eq_false fun heq =>
        h ((sessionId_of_lookup hrow).symm.trans heq)

/-- A call on a job of the session acts on the part of the session. -/
theorem call_part (hid : call.jobId? = some jobId) (h : Owns sessionId stores.jobs jobId)
    (hcreates : CreatesFor sessionId call) :
    (part sessionId stores).call app now call = part sessionId (stores.call app now call) := by
  simp only [Stores.call, part, callJob_jobsOf hid h hcreates]

/-- A call on a job of another session leaves the part of the session alone. -/
theorem part_call (hid : call.jobId? = some jobId) (h : Owns owner stores.jobs jobId)
    (hcreates : CreatesFor owner call) (hne : owner ≠ sessionId) :
    part sessionId (stores.call app now call) = part sessionId stores := by
  simp only [Stores.call, part, jobsOf_callJob hid h hcreates hne]

/-! ### The parts of a chat request -/

theorem sessionId_finalized :
    (finalized ((stores.getSession session.sessionId).getD session) envelope).sessionId =
      session.sessionId := by
  cases hget : stores.getSession session.sessionId with
  | none => rfl
  | some stored =>
    obtain ⟨row, hrow, rfl⟩ := Option.map_eq_some_iff.mp hget
    exact sessionId_of_lookup hrow

/-- What a request does once it has its answer, for the session. -/
theorem finish_part (hsession : session.sessionId = sessionId)
    (hjob : ∀ jobId ∈ jobIdOf envelope, Owns sessionId stores.jobs jobId) :
    finish app (part sessionId stores) post session envelope =
      part sessionId (finish app stores post session envelope) := by
  rw [finish, finish]
  cases hid : jobIdOf envelope with
  | none =>
    subst hsession
    simp only [getSession_part]
    exact save_part sessionId_finalized
  | some jobId =>
    subst hsession
    let bind : JobCall Json (Loaded F) := .bindPendingResponse jobId (responseIdOf envelope)
    let start : JobCall Json (Loaded F) :=
      .operate jobId (.startJob "Background refresh running for Memphis exceptions.")
    have howns : Owns session.sessionId stores.jobs jobId := hjob jobId hid
    have hbound : (part session.sessionId stores).call app post.times.bound bind =
        part session.sessionId (stores.call app post.times.bound bind) :=
      call_part rfl howns trivial
    have howns' : Owns session.sessionId (stores.call app post.times.bound bind).jobs jobId :=
      howns.callJob trivial
    have hstarted : (part session.sessionId (stores.call app post.times.bound bind)).call app
        post.times.started start = part session.sessionId
          ((stores.call app post.times.bound bind).call app post.times.started start) :=
      call_part rfl howns' trivial
    dsimp only
    rw [hbound, hstarted, getSession_part]
    exact save_part sessionId_finalized

/-- What a request does once it has its answer, for another session. -/
theorem part_finish (hne : session.sessionId ≠ sessionId)
    (hjob : ∀ jobId ∈ jobIdOf envelope, Owns session.sessionId stores.jobs jobId) :
    part sessionId (finish app stores post session envelope) = part sessionId stores := by
  rw [finish]
  cases hid : jobIdOf envelope with
  | none => exact part_save (sessionId_finalized.trans_ne hne)
  | some jobId =>
    let bind : JobCall Json (Loaded F) := .bindPendingResponse jobId (responseIdOf envelope)
    let start : JobCall Json (Loaded F) :=
      .operate jobId (.startJob "Background refresh running for Memphis exceptions.")
    have howns : Owns session.sessionId stores.jobs jobId := hjob jobId hid
    have howns' : Owns session.sessionId (stores.call app post.times.bound bind).jobs jobId :=
      howns.callJob trivial
    have hbound : part sessionId (stores.call app post.times.bound bind) = part sessionId stores :=
      part_call rfl howns trivial hne
    have hstarted : part sessionId ((stores.call app post.times.bound bind).call app
        post.times.started start) = part sessionId (stores.call app post.times.bound bind) :=
      part_call rfl howns' trivial hne
    exact (part_save (sessionId_finalized.trans_ne hne)).trans (hstarted.trans hbound)

/-- A new job with its metadata, for the session. -/
theorem seeded_part (h : Owns sessionId stores.jobs post.draws.jobId) :
    seeded app (part sessionId stores) post = part sessionId (seeded app stores post) := by
  rw [seeded, seeded]
  cases seedAutonomyRun app post with
  | none => rfl
  | some metadata => exact call_part rfl h trivial

/-- A new job with its metadata, for another session. -/
theorem part_seeded (h : Owns owner stores.jobs post.draws.jobId) (hne : owner ≠ sessionId) :
    part sessionId (seeded app stores post) = part sessionId stores := by
  rw [seeded]
  split
  · rfl
  · exact part_call rfl h trivial hne

theorem Owns.seeded (h : Owns owner stores.jobs jobId) :
    Owns owner (seeded app stores post).jobs jobId := by
  rw [Chat.seeded]
  split
  · exact h
  · exact h.callJob trivial

/-! ### Chat requests -/

/-- The envelope of a read without a job names none. -/
theorem jobIdOf_read (h : buildReadResult app post identity session none post.draws.answer =
    .ok envelope) : jobIdOf envelope = none :=
  (ids_of_buildReadResult (fun _ hid => absurd hid (Option.not_mem_none _)) h).2.1

theorem postRead_part (hsession : session.sessionId = sessionId) :
    postRead app (part sessionId stores) post identity session =
      (postRead app stores post identity session).map id (part sessionId) := by
  rw [postRead, postRead]
  cases hbuilt : buildReadResult app post identity session none post.draws.answer with
  | error error => rfl
  | ok envelope =>
    have hjob : ∀ jobId ∈ jobIdOf envelope, Owns sessionId stores.jobs jobId := by
      simp [jobIdOf_read hbuilt]
    exact congrArg (Prod.mk _) (finish_part hsession hjob)

theorem part_postRead (hne : session.sessionId ≠ sessionId) :
    part sessionId (postRead app stores post identity session).2 = part sessionId stores := by
  rw [postRead]
  split
  · rfl
  · next envelope hbuilt => exact part_finish hne (by simp [jobIdOf_read hbuilt])

/-- What a request does once its job is there, for the session. -/
theorem postCreated_part (hsession : session.sessionId = sessionId)
    (h : Owns sessionId stores.jobs post.draws.jobId) :
    postCreated app (part sessionId stores) post identity session =
      (postCreated app stores post identity session).map id (part sessionId) := by
  rw [postCreated, postCreated]
  cases buildReadResult app post identity session (some post.draws.jobId)
    post.draws.prepared with
  | error error => rfl
  | ok prepared =>
    let prepare : JobCall Json (Loaded F) := .prepareResult post.draws.jobId prepared
    let pending : ChatSession := { session with lastJobId := some post.draws.jobId }
    let saved : Stores F :=
      (stores.call app post.times.prepared prepare).save pending post.times.pendingSaved
    have hprepared : (part sessionId stores).call app post.times.prepared prepare =
        part sessionId (stores.call app post.times.prepared prepare) := call_part rfl h trivial
    have hsaved : ((part sessionId stores).call app post.times.prepared prepare).save pending
        post.times.pendingSaved = part sessionId saved := by
      rw [hprepared]
      exact save_part hsession
    have howns : Owns sessionId saved.jobs post.draws.jobId := h.callJob trivial
    dsimp only
    rw [hsaved]
    cases hbuilt : build (pendingPayload session.toSessionState post.draws.jobId
      post.draws.jobPollToken post.draws.answer) with
    | error error => rfl
    | ok envelope =>
      have hjob : ∀ jobId ∈ jobIdOf envelope, Owns sessionId saved.jobs jobId := by
        rw [(ids_of_pendingPayload hbuilt).2]
        rintro _ ⟨rfl⟩
        exact howns
      exact congrArg (Prod.mk _) (finish_part hsession hjob)

/-- What a request does once its job is there, for another session. -/
theorem part_postCreated (hne : session.sessionId ≠ sessionId)
    (h : Owns session.sessionId stores.jobs post.draws.jobId) :
    part sessionId (postCreated app stores post identity session).2 = part sessionId stores := by
  rw [postCreated]
  split
  · rfl
  · next prepared _ =>
    let prepare : JobCall Json (Loaded F) := .prepareResult post.draws.jobId prepared
    let pending : ChatSession := { session with lastJobId := some post.draws.jobId }
    let saved : Stores F :=
      (stores.call app post.times.prepared prepare).save pending post.times.pendingSaved
    have hprepared : part sessionId (stores.call app post.times.prepared prepare) =
        part sessionId stores := part_call rfl h trivial hne
    have hpending : pending.sessionId ≠ sessionId := hne
    have hsaved : part sessionId saved = part sessionId stores :=
      (part_save hpending).trans hprepared
    have howns : Owns session.sessionId saved.jobs post.draws.jobId := h.callJob trivial
    dsimp only
    split
    · exact hsaved
    · next envelope hbuilt =>
      have hjob : ∀ jobId ∈ jobIdOf envelope, Owns pending.sessionId saved.jobs jobId := by
        rw [(ids_of_pendingPayload hbuilt).2]
        rintro _ ⟨rfl⟩
        exact howns
      exact (part_finish hpending hjob).trans hsaved

/-- A request for a background refresh, for the session. -/
theorem postRefresh_part (hsession : session.sessionId = sessionId)
    (h : Owns sessionId stores.jobs post.draws.jobId) :
    postRefresh app (part sessionId stores) post identity session =
      (postRefresh app stores post identity session).map id (part sessionId) := by
  let create : JobCall Json (Loaded F) :=
    .createJob post.draws.jobId post.draws.jobPollToken (newJob session)
  have hcall : callJob app.jobs (part sessionId stores).jobs post.times.created create =
      (jobsOf sessionId (callJob app.jobs stores.jobs post.times.created create).1,
        (callJob app.jobs stores.jobs post.times.created create).2) :=
    callJob_jobsOf rfl h hsession
  have howns : Owns sessionId (callJob app.jobs stores.jobs post.times.created create).1
      post.draws.jobId := h.callJob hsession
  rw [postRefresh, postRefresh, hcall]
  cases hcreated : callJob app.jobs stores.jobs post.times.created create with
  | mk jobs reply =>
    rw [hcreated] at howns
    have hgo : postCreated app (seeded app { part sessionId stores with
          jobs := jobsOf sessionId jobs } post) post identity session =
        (postCreated app (seeded app { stores with jobs := jobs } post) post identity session).map
          id (part sessionId) := by
      have hseeded : seeded app (part sessionId { stores with jobs := jobs }) post =
          part sessionId (seeded app { stores with jobs := jobs } post) := seeded_part howns
      rw [← postCreated_part hsession (Owns.seeded howns), ← hseeded]
      rfl
    cases reply with
    | raised => rfl
    | none => exact hgo
    | job job => exact hgo
    | jobs jobs' => exact hgo

/-- A request for a background refresh, for another session. -/
theorem part_postRefresh (hne : session.sessionId ≠ sessionId) :
    part sessionId (postRefresh app stores post identity session).2 = part sessionId stores := by
  cases hjob : stores.jobs.lookup post.draws.jobId with
  | some job => rw [postRefresh_of_taken hjob]
  | none =>
    let create : JobCall Json (Loaded F) :=
      .createJob post.draws.jobId post.draws.jobPollToken (newJob session)
    have howns : Owns session.sessionId stores.jobs post.draws.jobId := by simp [Owns, hjob]
    have hcreated : part sessionId (stores.call app post.times.created create) =
        part sessionId stores := part_call rfl howns rfl hne
    have howns' : Owns session.sessionId (stores.call app post.times.created create).jobs
        post.draws.jobId := howns.callJob rfl
    rw [postRefresh]
    split
    · rfl
    · next jobs _ _ hcall =>
      have hstores : ({ stores with jobs := jobs } : Stores F) =
          stores.call app post.times.created create := by
        rw [Stores.call, hcall]
      rw [hstores, part_postCreated hne (Owns.seeded howns'), part_seeded howns' hne, hcreated]

/-- The checks of a request that names the session. -/
theorem admission_part (hnamed : post.request.sessionId = some sessionId) :
    admission app (part sessionId stores) post = admission app stores post := by
  simp only [admission, sessionStateForRequest, hnamed, Option.bind_some, getSession_part,
    sessions_view_part]

/-- A chat request that names the session. -/
theorem postChat_part (hnamed : post.request.sessionId = some sessionId)
    (hdraws : isAsyncRefreshRequest app.py.lower post.request.prompt = true →
      Owns sessionId stores.jobs post.draws.jobId) :
    Chat.postChat app (part sessionId stores) post =
      (Chat.postChat app stores post).map id (part sessionId) := by
  rw [Chat.postChat, Chat.postChat, admission_part hnamed]
  cases hadmitted : admission app stores post with
  | error failure => rfl
  | ok admitted =>
    obtain ⟨identity, session⟩ := admitted
    have hsession : session.sessionId = sessionId := (exists_row_of_admission hadmitted hnamed).1
    have hcount (stores : Stores F) : stores.count post = stores :=
      if_neg (by simp [hnamed])
    dsimp only
    rw [hcount, hcount, save_part hsession]
    split_ifs with hrefresh
    · exact postRefresh_part hsession (hdraws hrefresh)
    · exact postRead_part hsession

/-- A chat request that does not name the session, which is stored. -/
theorem part_postChat (hids : IdsIssued stores.view)
    (hstored : (stores.view.sessions sessionId).isSome = true)
    (hnamed : post.request.sessionId ≠ some sessionId) :
    part sessionId (Chat.postChat app stores post).2 = part sessionId stores := by
  rw [Chat.postChat]
  cases hadmitted : admission app stores post with
  | error failure => rfl
  | ok admitted =>
    obtain ⟨identity, session⟩ := admitted
    have hne : session.sessionId ≠ sessionId := by
      rintro rfl
      cases hid : post.request.sessionId with
      | none =>
        obtain ⟨existing, hexisting⟩ := Option.isSome_iff_exists.mp hstored
        rw [sessionId_of_new hadmitted hid] at hexisting
        exact not_issued_next (hids _ _ hexisting)
      | some id => exact hnamed (hid.trans (congrArg some
          (exists_row_of_admission hadmitted hid).1.symm))
    have hsaved : part sessionId ((stores.count post).save session post.times.saved) =
        part sessionId stores := (part_save hne).trans part_count
    dsimp only
    split_ifs
    · exact (part_postRefresh hne).trans hsaved
    · exact (part_postRead hne).trans hsaved

/-! ### The routes of jobs -/

variable {poll : JobPoll F}

theorem sessionByAccessToken_part (token : String) :
    sessionByAccessToken (part sessionId stores) sessionId token =
      sessionByAccessToken stores sessionId token :=
  congrArg (Option.filter _) getSession_part

theorem sessionId_of_sessionByAccessToken {token : String}
    (h : sessionByAccessToken stores owner token = some session) : session.sessionId = owner := by
  obtain ⟨hsession, -⟩ := Option.filter_eq_some_iff.mp h
  obtain ⟨row, hrow, rfl⟩ := Option.map_eq_some_iff.mp hsession
  exact sessionId_of_lookup hrow

theorem createJob_part {request : JobCreateRequest} (hid : request.sessionId = sessionId)
    (h : Owns sessionId stores.jobs request.jobId) :
    Routes.createJob app (part sessionId stores) request =
      (Routes.createJob app stores request).map id (part sessionId) := by
  subst hid
  rw [Routes.createJob, Routes.createJob, sessionByAccessToken_part]
  cases hsession : sessionByAccessToken stores request.sessionId request.sessionAccessToken with
  | none => rfl
  | some session =>
    let create : JobCall Json (Loaded F) := .createJob request.jobId request.jobPollToken
      { sessionId := session.sessionId
        brokerId := session.brokerId
        officeId := session.officeId
        progressMessage := request.progressMessage
        retryAllowed := request.retryAllowed }
    have hcall : callJob app.jobs (part request.sessionId stores).jobs request.createdAt create =
        (jobsOf request.sessionId (callJob app.jobs stores.jobs request.createdAt create).1,
          (callJob app.jobs stores.jobs request.createdAt create).2) :=
      callJob_jobsOf rfl h (sessionId_of_sessionByAccessToken hsession)
    dsimp only
    rw [hcall]
    cases callJob app.jobs stores.jobs request.createdAt create with
    | mk jobs reply =>
      cases reply with
      | job job =>
        cases job with
        | none => rfl
        | some job => rfl
      | none => rfl
      | raised => rfl
      | jobs jobs' => rfl

theorem part_createJob {request : JobCreateRequest} (hid : request.sessionId ≠ sessionId) :
    part sessionId (Routes.createJob app stores request).2 = part sessionId stores := by
  rw [Routes.createJob]
  split
  · rfl
  · next session hsession =>
    let new : NewJob :=
      { sessionId := session.sessionId
        brokerId := session.brokerId
        officeId := session.officeId
        progressMessage := request.progressMessage
        retryAllowed := request.retryAllowed }
    have hnew : new.sessionId = request.sessionId := sessionId_of_sessionByAccessToken hsession
    dsimp only
    split
    · next jobs job hcall =>
      simp only [callJob] at hcall
      split at hcall
      · next hinsert =>
        obtain rfl := congrArg Prod.fst hcall
        simp only [part, jobsOf]
        rw [KeyedTable.restrict_of_insert? hinsert]
        exact decide_eq_false fun heq => hid (hnew.symm.trans heq)
      · cases congrArg Prod.snd hcall
    · rfl

/-- The list of the jobs of a session is one of its part. -/
theorem listJobs_jobsOf (hne : sessionId ≠ "") (status : Option JobStatus) (offset limit : ℤ) :
    Jobs.listJobs (jobsOf sessionId jobs) (some sessionId) status offset limit =
      Jobs.listJobs jobs (some sessionId) status offset limit := by
  have hrows : (jobsOf sessionId jobs).rows.filter (fun job =>
      (some sessionId).all (fun id => id = "" || job.sessionId = id) &&
        status.all (job.jobStatus = ·)) =
      jobs.rows.filter fun job => (some sessionId).all (fun id => id = "" || job.sessionId = id) &&
        status.all (job.jobStatus = ·) := by
    rw [jobsOf, KeyedTable.rows_restrict, List.filter_filter]
    refine List.filter_congr fun job _ => ?_
    by_cases hjob : job.sessionId = sessionId
    · simp [hjob]
    · simp [hjob, hne]
  rw [Jobs.listJobs, Jobs.listJobs, hrows]

theorem listJobs_part {request : JobListRequest} (hid : request.sessionId = sessionId)
    (hne : sessionId ≠ "") :
    Routes.listJobs py (part sessionId stores) request = Routes.listJobs py stores request := by
  subst hid
  have hlist (status : Option JobStatus) :
      Jobs.listJobs (part request.sessionId stores).jobs (some request.sessionId) status 0 10000 =
        Jobs.listJobs stores.jobs (some request.sessionId) status 0 10000 :=
    listJobs_jobsOf hne status 0 10000
  simp only [Routes.listJobs, sessionByAccessToken_part, hlist]

/-- A poll finds the same job. -/
theorem jobByPollToken_jobsOf (h : Owns sessionId jobs poll.jobId) :
    jobByPollToken (jobsOf sessionId jobs) poll.toPoll = jobByPollToken jobs poll.toPoll := by
  rw [jobByPollToken, jobByPollToken, lookup_jobsOf h]

theorem Owns.advanced (h : Owns owner jobs poll.jobId) :
    Owns owner (Routes.advanced app py jobs poll job) poll.jobId := by
  rw [Routes.advanced]
  split
  · exact h
  · next metadata outcome _ =>
    have hstored : Owns owner (Jobs.callJob app.jobs jobs poll.updatedAt
        (.updateAutonomyMetadata poll.jobId metadata.toDict outcome.completes)).1 poll.jobId :=
      h.callJob trivial
    rw [afterStep]
    split
    · exact hstored
    · split_ifs
      · exact hstored.callJob trivial
      · exact hstored

theorem advanced_jobsOf (h : Owns sessionId jobs poll.jobId) :
    Routes.advanced app py (jobsOf sessionId jobs) poll job =
      jobsOf sessionId (Routes.advanced app py jobs poll job) := by
  rw [Routes.advanced, Routes.advanced]
  cases pollStep app.service py poll.toPoll job with
  | none => rfl
  | some step =>
    obtain ⟨metadata, outcome⟩ := step
    let update : JobCall Json (Loaded F) :=
      .updateAutonomyMetadata poll.jobId metadata.toDict outcome.completes
    have hupdate : callJob app.jobs (jobsOf sessionId jobs) poll.updatedAt update =
        (jobsOf sessionId (callJob app.jobs jobs poll.updatedAt update).1,
          (callJob app.jobs jobs poll.updatedAt update).2) :=
      callJob_jobsOf rfl h trivial
    have howns : Owns sessionId (callJob app.jobs jobs poll.updatedAt update).1 poll.jobId :=
      h.callJob trivial
    dsimp only
    rw [afterStep, afterStep, hupdate]
    cases outcome.errorMessage.filter (· ≠ "") with
    | none => rfl
    | some errorMessage =>
      dsimp only
      split_ifs
      · rw [callJob_jobsOf rfl howns (by trivial)]
      · rfl

theorem jobsOf_advanced (h : Owns owner jobs poll.jobId) (hne : owner ≠ sessionId) :
    jobsOf sessionId (Routes.advanced app py jobs poll job) = jobsOf sessionId jobs := by
  rw [Routes.advanced]
  split
  · rfl
  · next metadata outcome _ =>
    let update : JobCall Json (Loaded F) :=
      .updateAutonomyMetadata poll.jobId metadata.toDict outcome.completes
    have hupdate : jobsOf sessionId (callJob app.jobs jobs poll.updatedAt update).1 =
        jobsOf sessionId jobs := jobsOf_callJob rfl h trivial hne
    have howns : Owns owner (callJob app.jobs jobs poll.updatedAt update).1 poll.jobId :=
      h.callJob trivial
    rw [afterStep]
    split
    · exact hupdate
    · split_ifs
      · rw [jobsOf_callJob rfl howns (by trivial) hne]
        exact hupdate
      · exact hupdate

section Refresh

variable {α : Type} {answer : GenerationJob Json (Loaded F) → Except RouteError α}
  {after : Stores F → GenerationJob Json (Loaded F) → Stores F}

/-- A refresh that a poll of a job of the session asks for. -/
theorem refreshedBy_part (h : Owns sessionId stores.jobs poll.jobId)
    (hafter : ∀ stores job, job.sessionId = sessionId →
      after (part sessionId stores) job = part sessionId (after stores job)) :
    refreshedBy app (part sessionId stores) poll answer after =
      (refreshedBy app stores poll answer after).map id (part sessionId) := by
  let refresh : JobCall Json (Loaded F) := .operate poll.jobId .refreshJob
  have hcall : callJob app.jobs (part sessionId stores).jobs poll.refreshedAt refresh =
      (jobsOf sessionId (callJob app.jobs stores.jobs poll.refreshedAt refresh).1,
        (callJob app.jobs stores.jobs poll.refreshedAt refresh).2) := callJob_jobsOf rfl h trivial
  have howns : Owns sessionId (callJob app.jobs stores.jobs poll.refreshedAt refresh).1
      poll.jobId := h.callJob trivial
  rw [refreshedBy, refreshedBy, hcall]
  cases hrefreshed : callJob app.jobs stores.jobs poll.refreshedAt refresh with
  | mk jobs reply =>
    rw [hrefreshed] at howns
    cases reply with
    | job job =>
      cases job with
      | none => rfl
      | some job =>
        have hjob : job.sessionId = sessionId := howns job (lookup_of_operate hrefreshed)
        exact congrArg (Prod.mk _) (hafter { stores with jobs := jobs } job hjob)
    | none => rfl
    | raised => rfl
    | jobs jobs' => rfl

/-- A refresh that a poll of a job of another session asks for. -/
theorem part_refreshedBy (h : Owns owner stores.jobs poll.jobId) (hne : owner ≠ sessionId)
    (hafter : ∀ stores job, job.sessionId = owner →
      part sessionId (after stores job) = part sessionId stores) :
    part sessionId (refreshedBy app stores poll answer after).2 = part sessionId stores := by
  have howns : Owns owner (callJob app.jobs stores.jobs poll.refreshedAt
      (.operate poll.jobId .refreshJob)).1 poll.jobId := h.callJob trivial
  have hjobs : jobsOf sessionId (callJob app.jobs stores.jobs poll.refreshedAt
      (.operate poll.jobId .refreshJob)).1 = jobsOf sessionId stores.jobs :=
    jobsOf_callJob rfl h (by trivial) hne
  rw [refreshedBy]
  split
  · next jobs job hcall =>
    rw [hcall] at howns hjobs
    refine (hafter _ job (howns job (lookup_of_operate hcall))).trans ?_
    simp only [part, hjobs]
  · rfl
  · rfl

end Refresh

theorem promoted_part :
    promoted (part sessionId stores) poll job = part sessionId (promoted stores poll job) := by
  rw [promoted, promoted]
  cases job.completedResponseId with
  | none => rfl
  | some completed =>
    cases job.pendingResponseId with
    | none => rfl
    | some pending =>
      simp only [part, promoteJobCompletion]
      rw [KeyedTable.restrict_modify]
      intro row
      split_ifs
      · rfl
      · rfl

theorem part_promoted (hjob : job.sessionId = owner) (hne : owner ≠ sessionId) :
    part sessionId (promoted stores poll job) = part sessionId stores := by
  rw [promoted]
  split
  · simp only [part, promoteJobCompletion]
    rw [KeyedTable.restrict_modify_of_not]
    · intro row
      split_ifs
      · rfl
      · rfl
    · intro row hrow
      refine decide_eq_false fun heq => hne ?_
      rw [← hjob, ← sessionId_of_lookup hrow]
      exact heq
  · rfl

theorem getJob_part (h : Owns sessionId stores.jobs poll.jobId) :
    Routes.getJob app py (part sessionId stores) poll =
      (Routes.getJob app py stores poll).map id (part sessionId) := by
  have hfound : jobByPollToken (part sessionId stores).jobs poll.toPoll =
      jobByPollToken stores.jobs poll.toPoll := jobByPollToken_jobsOf h
  rw [Routes.getJob, Routes.getJob, hfound]
  cases jobByPollToken stores.jobs poll.toPoll with
  | none => rfl
  | some job =>
    have hadvanced : ({ part sessionId stores with
          jobs := Routes.advanced app py (part sessionId stores).jobs poll job } : Stores F) =
        part sessionId { stores with jobs := Routes.advanced app py stores.jobs poll job } := by
      have hjobs : Routes.advanced app py (jobsOf sessionId stores.jobs) poll job =
          jobsOf sessionId (Routes.advanced app py stores.jobs poll job) := advanced_jobsOf h
      simp only [part, hjobs]
    dsimp only
    rw [hadvanced]
    exact refreshedBy_part h.advanced fun _ _ _ => promoted_part

theorem part_getJob (h : Owns owner stores.jobs poll.jobId) (hne : owner ≠ sessionId) :
    part sessionId (Routes.getJob app py stores poll).2 = part sessionId stores := by
  rw [Routes.getJob]
  split
  · rfl
  · next job _ =>
    have hjobs : jobsOf sessionId (Routes.advanced app py stores.jobs poll job) =
        jobsOf sessionId stores.jobs := jobsOf_advanced h hne
    have howns : Owns owner (Routes.advanced app py stores.jobs poll job) poll.jobId := h.advanced
    refine (part_refreshedBy howns hne fun _ _ hjob => part_promoted hjob hne).trans ?_
    simp only [part, hjobs]

theorem getJobLifecycle_part (h : Owns sessionId stores.jobs poll.jobId) :
    getJobLifecycle app (part sessionId stores) poll =
      (getJobLifecycle app stores poll).map id (part sessionId) := by
  have hfound : jobByPollToken (part sessionId stores).jobs poll.toPoll =
      jobByPollToken stores.jobs poll.toPoll := jobByPollToken_jobsOf h
  rw [getJobLifecycle, getJobLifecycle, hfound]
  cases jobByPollToken stores.jobs poll.toPoll with
  | none => rfl
  | some job => exact refreshedBy_part h fun _ _ _ => rfl

theorem part_getJobLifecycle (h : Owns owner stores.jobs poll.jobId) (hne : owner ≠ sessionId) :
    part sessionId (getJobLifecycle app stores poll).2 = part sessionId stores := by
  rw [getJobLifecycle]
  split
  · rfl
  · exact part_refreshedBy h hne fun _ _ _ => rfl

theorem cancelJob_part {request : JobCancelRequest} (h : Owns sessionId stores.jobs request.jobId) :
    Routes.cancelJob app (part sessionId stores) request =
      (Routes.cancelJob app stores request).map id (part sessionId) := by
  let cancel : JobCall Json (Loaded F) := .operate request.jobId (.cancelJob "Job cancelled.")
  have hcall : callJob app.jobs (part sessionId stores).jobs request.cancelledAt cancel =
      (jobsOf sessionId (callJob app.jobs stores.jobs request.cancelledAt cancel).1,
        (callJob app.jobs stores.jobs request.cancelledAt cancel).2) := callJob_jobsOf rfl h trivial
  have hlookup : (part sessionId stores).jobs.lookup request.jobId =
      stores.jobs.lookup request.jobId := lookup_jobsOf h
  rw [Routes.cancelJob, Routes.cancelJob, hlookup]
  cases (stores.jobs.lookup request.jobId).filter (·.jobPollToken = request.jobPollToken) with
  | none => rfl
  | some job =>
    dsimp only
    split_ifs
    · rw [hcall]
      cases callJob app.jobs stores.jobs request.cancelledAt cancel with
      | mk jobs reply =>
        cases reply with
        | job job =>
          cases job with
          | none => rfl
          | some job => rfl
        | none => rfl
        | raised => rfl
        | jobs jobs' => rfl
    · rfl

theorem part_cancelJob {request : JobCancelRequest} (h : Owns owner stores.jobs request.jobId)
    (hne : owner ≠ sessionId) :
    part sessionId (Routes.cancelJob app stores request).2 = part sessionId stores := by
  have hjobs : jobsOf sessionId (callJob app.jobs stores.jobs request.cancelledAt
      (.operate request.jobId (.cancelJob "Job cancelled."))).1 = jobsOf sessionId stores.jobs :=
    jobsOf_callJob rfl h (by trivial) hne
  rw [Routes.cancelJob]
  split
  · rfl
  · split_ifs
    · split
      · next hcall =>
        rw [hcall] at hjobs
        simp only [part, hjobs]
      · rfl
      · rfl
    · rfl

/-! ### Requests -/

/-- The request concerns a session: it names the session or a job of the session. The confirmation
of an action does not: it works on the bookings, which belong to no session. -/
def concerns (sessionId : String) (shared : Shared F L) : Request F → Bool
  | .chat post => post.request.sessionId = some sessionId
  | .confirm _ => false
  | .session id _ => id = sessionId
  | .job request =>
    match request.target with
    | .session id => id = sessionId
    | .job id => (shared.stores.jobs.lookup id).any fun job => job.sessionId = sessionId

/-- If the request is for the session and creates a job, the id that it has drawn is not that of a
job of another session. -/
def DrawsApart (app : App) (sessionId : String) (shared : Shared F L) : Request F → Prop
  | .chat post => post.request.sessionId = some sessionId →
    isAsyncRefreshRequest app.py.lower post.request.prompt = true →
      Owns sessionId shared.stores.jobs post.draws.jobId
  | .job (.create request) => request.sessionId = sessionId →
    Owns sessionId shared.stores.jobs request.jobId
  | _ => True

/-- A session alone, over any tables of bookings. -/
def alone (sessionId : String) (tables : L) (shared : Shared F L) : Shared F L :=
  ⟨part sessionId shared.stores, tables⟩

variable {execute : Execute L} {shared : Shared F L} {tables : L}

/-- The job that a request names, if it is one of the session. -/
theorem owns_of_any
    (h : (jobs.lookup jobId).any (fun job => job.sessionId = sessionId) = true) :
    Owns sessionId jobs jobId := by
  intro job hjob
  rw [hjob] at h
  exact of_decide_eq_true h

/-- The job that a request names, if it is not one of the session. -/
theorem exists_owner
    (h : (jobs.lookup jobId).any (fun job => job.sessionId = sessionId) = false) :
    ∃ owner, Owns owner jobs jobId ∧ owner ≠ sessionId := by
  cases hjob : jobs.lookup jobId with
  | none =>
    have hne : sessionId ++ "_" ≠ sessionId := fun heq => by
      have hlength := congrArg String.length heq
      simp at hlength
    exact ⟨sessionId ++ "_", by simp [Owns, hjob], hne⟩
  | some job =>
    rw [hjob] at h
    refine ⟨job.sessionId, fun job' hjob' => ?_, of_decide_eq_false h⟩
    obtain rfl := Option.some.inj (hjob.symm.trans hjob')
    rfl

/-- A request for jobs that concerns the session does with its part what it does with the stores. -/
theorem handleJob_part {request : JobRequest F} (hne : sessionId ≠ "")
    (h : concerns sessionId shared (.job request) = true)
    (hdraws : DrawsApart app sessionId shared (.job request)) :
    handleJob app py (part sessionId shared.stores) request =
      (handleJob app py shared.stores request).map id (part sessionId) := by
  cases request with
  | create request =>
    have hid : request.sessionId = sessionId := of_decide_eq_true h
    simp only [handleJob, createJob_part hid (hdraws hid)]
    rfl
  | list request =>
    have hid : request.sessionId = sessionId := of_decide_eq_true h
    simp only [handleJob, listJobs_part hid hne]
    rfl
  | get poll =>
    have howns : Owns sessionId shared.stores.jobs poll.jobId := owns_of_any h
    simp only [handleJob, getJob_part howns]
    rfl
  | lifecycle poll =>
    have howns : Owns sessionId shared.stores.jobs poll.jobId := owns_of_any h
    simp only [handleJob, getJobLifecycle_part howns]
    rfl
  | cancel request =>
    have howns : Owns sessionId shared.stores.jobs request.jobId := owns_of_any h
    simp only [handleJob, cancelJob_part howns]
    rfl

/-- Any other request for jobs leaves the part of the session alone. -/
theorem part_handleJob {request : JobRequest F}
    (h : concerns sessionId shared (.job request) = false) :
    part sessionId (handleJob app py shared.stores request).2 = part sessionId shared.stores := by
  cases request with
  | create request => exact part_createJob (of_decide_eq_false h)
  | list request => rfl
  | get poll =>
    obtain ⟨owner, howns, hne⟩ := exists_owner h
    exact part_getJob howns hne
  | lifecycle poll =>
    obtain ⟨owner, howns, hne⟩ := exists_owner h
    exact part_getJobLifecycle howns hne
  | cancel request =>
    obtain ⟨owner, howns, hne⟩ := exists_owner h
    exact part_cancelJob howns hne

/-- **A request that concerns a session does with the session alone what it does with all.** -/
theorem handle_part {request : Request F} (hne : sessionId ≠ "")
    (h : concerns sessionId shared request = true)
    (hdraws : DrawsApart app sessionId shared request) :
    handle app py execute (alone sessionId tables shared) request =
      ((handle app py execute shared request).1,
        alone sessionId tables (handle app py execute shared request).2) := by
  cases request with
  | chat post =>
    have hnamed : post.request.sessionId = some sessionId := of_decide_eq_true h
    simp only [handle, alone, postChat_part hnamed (hdraws hnamed)]
    rfl
  | confirm post => cases h
  | session id token =>
    obtain rfl : id = sessionId := of_decide_eq_true h
    simp only [handle, alone, Routes.getSession, sessionByAccessToken_part]
  | job request =>
    simp only [handle, alone, handleJob_part hne h hdraws]
    rfl

/-- **Any other request leaves the session alone.** -/
theorem part_handle {request : Request F} (hids : IdsIssued shared.stores.view)
    (hstored : (shared.stores.view.sessions sessionId).isSome = true)
    (h : concerns sessionId shared request = false) :
    alone sessionId tables (handle app py execute shared request).2 =
      alone sessionId tables shared := by
  cases request with
  | chat post =>
    have hchat : part sessionId (Chat.postChat app shared.stores post).2 =
        part sessionId shared.stores := part_postChat hids hstored (of_decide_eq_false h)
    simp only [handle, alone, Prod.map_snd, hchat]
  | confirm post => rfl
  | session id token => rfl
  | job request =>
    have hjob : part sessionId (handleJob app py shared.stores request).2 =
        part sessionId shared.stores := part_handleJob h
    simp only [handle, alone, Prod.map_snd, hjob]

/-! ### Runs -/

/-- Every request keeps the ids issued. -/
theorem idsIssued_handle (h : IdsIssued shared.stores.view) (request : Request F) :
    IdsIssued (handle app py execute shared request).2.stores.view := by
  cases request with
  | chat post => exact Binding.idsIssued_postChat h
  | confirm post => exact h
  | session id token => exact h
  | job request =>
    have hview : (handleJob app py shared.stores request).2.view = shared.stores.view :=
      view_handleJob request
    simp only [handle, Prod.map_snd, hview]
    exact h

/-- No request removes a session. -/
theorem isSome_sessions_handle (h : (shared.stores.view.sessions sessionId).isSome = true)
    (request : Request F) :
    ((handle app py execute shared request).2.stores.view.sessions sessionId).isSome = true := by
  cases request with
  | chat post =>
    simp only [handle, Prod.map_snd]
    cases hadmitted : admission app shared.stores post with
    | error failure =>
      rw [Chat.postChat, hadmitted]
      exact h
    | ok admitted =>
      obtain ⟨identity, session⟩ := admitted
      simp only [Binding.view_of_admission hadmitted, Function.update_apply]
      split_ifs
      · rfl
      · exact h
  | confirm post => exact h
  | session id token => exact h
  | job request =>
    have hview : (handleJob app py shared.stores request).2.view = shared.stores.view :=
      view_handleJob request
    simp only [handle, Prod.map_snd, hview]
    exact h

/-- The id of a session is not empty. -/
theorem sessionId_ne (hids : IdsIssued shared.stores.view)
    (hstored : (shared.stores.view.sessions sessionId).isSome = true) : sessionId ≠ "" := by
  obtain ⟨session, hsession⟩ := Option.isSome_iff_exists.mp hstored
  obtain ⟨now, index, rfl, -⟩ := hids sessionId session hsession
  intro hempty
  have hlength := congrArg String.length hempty
  simp [sessionIdAt] at hlength

/-- **Sessions do not see each other.** Whatever the requests to a new application have been, the
requests that concern a session are answered from then on as the application would answer them
with nothing in its stores but this session and its jobs, and without any other request: those of
other sessions, for new sessions, with tokens of anyone, and all confirmations. They leave of the
session what they would leave then. Only the ids that the session draws for its jobs must not be
those of the jobs of other sessions. -/
theorem sessions_apart (earlier requests : List (Request F)) (tables' : L)
    (hearlier : (respond (handle app py execute) ⟨Binding.emptyStores, tables⟩ earlier).2 = shared)
    (hstored : (shared.stores.getSession sessionId).isSome = true)
    (hdraws : Throughout (handle app py execute) (DrawsApart app sessionId) shared requests) :
    respond (handle app py execute) (alone sessionId tables' shared)
        ((concerning (handle app py execute) (concerns sessionId) shared requests).map Prod.fst) =
      ((concerning (handle app py execute) (concerns sessionId) shared requests).map Prod.snd,
        alone sessionId tables' (respond (handle app py execute) shared requests).2) := by
  have hids : IdsIssued shared.stores.view := by
    have hempty : IdsIssued (Binding.emptyStores : Stores F).view := fun _ _ h => by cases h
    rw [← hearlier]
    exact respond_invariant (P := fun shared : Shared F L => IdsIssued shared.stores.view)
      (fun _ request h => idsIssued_handle h request) hempty
  have hview : (shared.stores.view.sessions sessionId).isSome = true := by
    simpa [Stores.getSession, Stores.view] using hstored
  have hne : sessionId ≠ "" := sessionId_ne hids hview
  let Kept (shared : Shared F L) : Prop :=
    IdsIssued shared.stores.view ∧ (shared.stores.view.sessions sessionId).isSome = true
  have hkept (shared : Shared F L) (request : Request F) (h : Kept shared) :
      Kept (handle app py execute shared request).2 :=
    ⟨idsIssued_handle h.1 request, isSome_sessions_handle h.2 request⟩
  exact respond_concerning hkept (fun _ _ _ => handle_part hne)
    (fun _ _ h => part_handle h.1 h.2) ⟨hids, hview⟩ hdraws

/-- A poll of a refresh is answered as if no other session had been opened before it. -/
theorem sessions_apart_refresh : ∃ (shared : Shared Empty Unit) (answer : Answer),
    (respond (handle testApp plainText closedGateway) ⟨Binding.emptyStores, ()⟩
        [.chat refreshPost]).2 = shared ∧
      concerning (handle testApp plainText closedGateway) (concerns "chat_s_00010101_0001") shared
        [.chat Binding.firstShipment, .job (.get refreshPoll)] =
          [(.job (.get refreshPoll), answer)] ∧
      (respond (handle testApp plainText closedGateway)
        (alone "chat_s_00010101_0001" () shared) [.job (.get refreshPoll)]).1 = [answer] := by
  have hrun : ((respond (handle testApp plainText closedGateway) ⟨Binding.emptyStores, ()⟩
        [.chat refreshPost]).2.stores.getSession "chat_s_00010101_0001").isSome = true ∧
      concerns "chat_s_00010101_0001" (handle testApp plainText closedGateway
        (respond (handle testApp plainText closedGateway) ⟨Binding.emptyStores, ()⟩
          [.chat refreshPost]).2 (.chat Binding.firstShipment)).2
          (.job (.get refreshPoll)) = true := by
    decide +kernel
  generalize hshared : (respond (handle testApp plainText closedGateway)
    ⟨Binding.emptyStores, ()⟩ [.chat refreshPost]).2 = shared at hrun ⊢
  obtain ⟨hstored, hconcerns⟩ := hrun
  obtain ⟨answer, hown⟩ : ∃ answer, concerning (handle testApp plainText closedGateway)
      (concerns "chat_s_00010101_0001") shared
      [.chat Binding.firstShipment, .job (.get refreshPoll)] =
        [(.job (.get refreshPoll), answer)] :=
    ⟨_, (concerning_cons_of_not rfl).trans (concerning_cons_of_concerns hconcerns)⟩
  have happart := sessions_apart [.chat refreshPost]
    [.chat Binding.firstShipment, .job (.get refreshPoll)] () hshared hstored
    (And.intro (fun h => nomatch h) (And.intro trivial trivial))
  simp only [hown, List.map_cons, List.map_nil] at happart
  exact ⟨shared, answer, rfl, hown, by rw [happart]⟩

end Meridian.Api.Isolation
