import Meridian.Api.ChatRequests
import Mathlib.Logic.Relation

/-!
# Chat requests and polls that interleave

Requests of `post_chat` and polls of `get_job`, from `backend/app/api/routes/chat.py` and
`backend/app/api/routes/jobs.py`, over common stores. Every call of the session store or of the job
store is one step; what a request or a poll computes between two calls belongs to the step before.

## Main definitions

* `Meridian.Api.Chat.chatBlock`, `Meridian.Api.Chat.pollBlock`: one step of a request or a poll.
* `Meridian.Api.Chat.ChatMove`: the same for a request as a relation, one rule for each outcome.
* `Meridian.Api.Chat.World`, `Meridian.Api.Chat.step`: the interleavings, with the history of the
  final saves.

## Main results

* `Meridian.Api.Chat.runs_postChat`: a request that is alone is `postChat`.
* `Meridian.Api.Chat.chatMove_of_chatBlock`: the moves are all steps, from which the facts about
  them are read off.
* `Meridian.Api.Chat.sessions_chatBlock`, `Meridian.Api.Chat.sessions_pollBlock`: what a step does
  to the sessions.
-/

namespace Meridian.Api.Chat

open Foundations Db Tools Responses Jobs Autonomy

variable {F : Type} {ι κ : Type*}

/-! ### Requests -/

/-- Where a request stands: its next call, with what it has found out. -/
inductive ChatPc
  | load
  | save (identity : TrustedIdentity) (session : ChatSession)
  | create (identity : TrustedIdentity) (session : ChatSession)
  | seed (identity : TrustedIdentity) (session : ChatSession) (metadata : AutonomyJobMetadata)
  | prepare (session : ChatSession) (prepared : Json)
  | savePending (session : ChatSession)
  | bind (session : ChatSession) (envelope : Json)
  | start (session : ChatSession) (envelope : Json)
  | reread (session : ChatSession) (envelope : Json)
  | rereadJob (session stored : ChatSession) (envelope : Json)
  | finish (session : ChatSession) (envelope : Json)
  | done (result : Except ChatError Json)

/-- How a request goes on with its answer. -/
def answered (session : ChatSession) : Except ChatError Json → ChatPc
  | .error error => .done (.error error)
  | .ok envelope => if (jobIdOf envelope).isSome then .bind session envelope
    else .reread session envelope

/-- How a request goes on once its job is there. -/
def toPrepare (app : App) (post : Post) (identity : TrustedIdentity) (session : ChatSession) :
    ChatPc :=
  match buildReadResult app post identity session (some post.draws.jobId) post.draws.prepared with
  | .error error => .done (.error error)
  | .ok prepared => .prepare session prepared

/-- The next step of a request. -/
def chatBlock (app : App) (post : Post) (stores : Stores F) : ChatPc → Option (Stores F × ChatPc)
  | .load =>
    match admission app stores post with
    | .error failure => some (stores, .done (.error (.failure failure)))
    | .ok (identity, session) => some (stores.count post, .save identity session)
  | .save identity session =>
    some (stores.save session post.times.saved,
      if isAsyncRefreshRequest app.py.lower post.request.prompt then .create identity session
      else answered session (buildReadResult app post identity session none post.draws.answer))
  | .create identity session =>
    match callJob app.jobs stores.jobs post.times.created
        (.createJob post.draws.jobId post.draws.jobPollToken (newJob session)) with
    | (_, .raised) => some (stores, .done (.error .integrity))
    | (jobs, _) => some ({ stores with jobs := jobs },
        match seedAutonomyRun app post with
        | none => toPrepare app post identity session
        | some metadata => .seed identity session metadata)
  | .seed identity session metadata =>
    some (stores.call app post.times.seeded
      (.updateAutonomyMetadata post.draws.jobId metadata.toDict false),
      toPrepare app post identity session)
  | .prepare session prepared =>
    some (stores.call app post.times.prepared (.prepareResult post.draws.jobId prepared),
      .savePending { session with lastJobId := some post.draws.jobId })
  | .savePending session =>
    some (stores.save session post.times.pendingSaved,
      answered session (build (pendingPayload session.toSessionState post.draws.jobId
        post.draws.jobPollToken post.draws.answer)))
  | .bind session envelope =>
    some (stores.call app post.times.bound
      (.bindPendingResponse ((jobIdOf envelope).getD "") (responseIdOf envelope)),
      .start session envelope)
  | .start session envelope =>
    some (stores.call app post.times.started
      (.operate ((jobIdOf envelope).getD "")
        (.startJob "Background refresh running for Memphis exceptions.")),
      .reread session envelope)
  | .reread session envelope =>
    let stored := (stores.getSession session.sessionId).getD session
    some (stores,
      if (jobIdOf envelope).isSome then .finish (finalized stored envelope) envelope
      else .rereadJob session stored envelope)
  | .rereadJob session stored envelope =>
    let again := (stores.getSession session.sessionId).getD session
    some (stores, .finish { finalized stored envelope with lastJobId := again.lastJobId } envelope)
  | .finish session envelope =>
    some (stores.save session post.times.finalized, .done (.ok envelope))
  | .done _ => none

/-- A step of a request, by what it does. -/
inductive ChatMove (app : App) (post : Post) (stores : Stores F) :
    ChatPc → Stores F → ChatPc → Prop
  | refuse (failure : Failure) :
    ChatMove app post stores .load stores (.done (.error (.failure failure)))
  | admitted {identity session} (h : admission app stores post = .ok (identity, session)) :
    ChatMove app post stores .load (stores.count post) (.save identity session)
  | refresh {identity session}
      (h : isAsyncRefreshRequest app.py.lower post.request.prompt = true) :
    ChatMove app post stores (.save identity session) (stores.save session post.times.saved)
      (.create identity session)
  | answer (identity : TrustedIdentity) {session} :
    ChatMove app post stores (.save identity session) (stores.save session post.times.saved)
      (answered session (buildReadResult app post identity session none post.draws.answer))
  | createFails (identity : TrustedIdentity) (session : ChatSession) :
    ChatMove app post stores (.create identity session) stores (.done (.error .integrity))
  | createSeeds {identity session jobs} (metadata : AutonomyJobMetadata)
      (h : stores.jobs.insert? ((newJob session).row post.draws.jobId post.draws.jobPollToken
        post.times.created) = some jobs) :
    ChatMove app post stores (.create identity session) { stores with jobs := jobs }
      (.seed identity session metadata)
  | create {identity session jobs}
      (h : stores.jobs.insert? ((newJob session).row post.draws.jobId post.draws.jobPollToken
        post.times.created) = some jobs) :
    ChatMove app post stores (.create identity session) { stores with jobs := jobs }
      (toPrepare app post identity session)
  | seed {identity session metadata} :
    ChatMove app post stores (.seed identity session metadata)
      (stores.call app post.times.seeded
        (.updateAutonomyMetadata post.draws.jobId metadata.toDict false))
      (toPrepare app post identity session)
  | prepare {session prepared} :
    ChatMove app post stores (.prepare session prepared)
      (stores.call app post.times.prepared (.prepareResult post.draws.jobId prepared))
      (.savePending { session with lastJobId := some post.draws.jobId })
  | savePending {session} :
    ChatMove app post stores (.savePending session)
      (stores.save session post.times.pendingSaved)
      (answered session (build (pendingPayload session.toSessionState post.draws.jobId
        post.draws.jobPollToken post.draws.answer)))
  | bind {session envelope} :
    ChatMove app post stores (.bind session envelope)
      (stores.call app post.times.bound
        (.bindPendingResponse ((jobIdOf envelope).getD "") (responseIdOf envelope)))
      (.start session envelope)
  | start {session envelope} :
    ChatMove app post stores (.start session envelope)
      (stores.call app post.times.started
        (.operate ((jobIdOf envelope).getD "")
          (.startJob "Background refresh running for Memphis exceptions.")))
      (.reread session envelope)
  | reread {session envelope} :
    ChatMove app post stores (.reread session envelope) stores
      (.finish (finalized ((stores.getSession session.sessionId).getD session) envelope) envelope)
  | rereadStored {session envelope} :
    ChatMove app post stores (.reread session envelope) stores
      (.rereadJob session ((stores.getSession session.sessionId).getD session) envelope)
  | rereadJob {session stored envelope} (lastJobId : Option String) :
    ChatMove app post stores (.rereadJob session stored envelope) stores
      (.finish { finalized stored envelope with lastJobId := lastJobId } envelope)
  | finish {session envelope} :
    ChatMove app post stores (.finish session envelope)
      (stores.save session post.times.finalized) (.done (.ok envelope))

/-! ### Polls -/

/-- A poll, with the time at which it promotes the completion of its job. -/
structure JobPoll (F : Type) extends Poll F where
  promotedAt : String

/-- Where a poll stands. -/
inductive PollPc
  | load
  | advance (metadata : AutonomyJobMetadata) (outcome : StepOutcome)
  | fail (errorMessage : String)
  | reload
  | refresh
  | promote (sessionId pendingResponseId completedResponseId jobId : String)
  | done

/-- How a poll goes on with its job after the refresh. -/
def refreshedPc : JobReply Json (Loaded F) → PollPc
  | .job (some job) =>
    match job.completedResponseId, job.pendingResponseId with
    | some completed, some pending => .promote job.sessionId pending completed job.jobId
    | _, _ => .done
  | _ => .done

/-- The next step of a poll. -/
def pollBlock (app : App) (py : PythonText F) (poll : JobPoll F) (stores : Stores F) :
    PollPc → Option (Stores F × PollPc)
  | .load =>
    match jobByPollToken stores.jobs poll.toPoll with
    | none => some (stores, .done)
    | some job =>
      match pollStep app.service py poll.toPoll job with
      | none => some (stores, .refresh)
      | some (metadata, outcome) => some (stores, .advance metadata outcome)
  | .advance metadata outcome =>
    some (stores.call app poll.updatedAt
      (.updateAutonomyMetadata poll.jobId metadata.toDict outcome.completes),
      match outcome.errorMessage.filter (· ≠ "") with
      | none => .reload
      | some errorMessage => if outcome.isTerminal then .fail errorMessage else .reload)
  | .fail errorMessage =>
    some (stores.call app poll.failedAt
      (.operate poll.jobId (.failJob errorMessage (some "Bounded autonomy failed."))), .reload)
  | .reload => some (stores, .refresh)
  | .refresh =>
    some (stores.call app poll.refreshedAt (.operate poll.jobId .refreshJob),
      refreshedPc (callJob app.jobs stores.jobs poll.refreshedAt
        (.operate poll.jobId .refreshJob)).2)
  | .promote sessionId pendingResponseId completedResponseId jobId =>
    some ({ stores with
      sessions := promoteJobCompletion stores.sessions sessionId pendingResponseId
        completedResponseId jobId poll.promotedAt }, .done)
  | .done => none

/-! ### Interleavings -/

/-- The stores, where every request and every poll stands, and the history: the requests that have
done their final save, by session with the newest first, and those that had done it when a request
read its session. -/
structure World (F : Type) (ι κ : Type*) where
  stores : Stores F
  chat : ι → ChatPc
  poll : κ → PollPc
  finals : String → List ι
  seen : ι → List ι

/-- Whose turn it is. -/
inductive Party (ι κ : Type*)
  | chat (i : ι)
  | poll (k : κ)

/-- The session that a request saves last, if that is its next step. -/
def ChatPc.last : ChatPc → Option ChatSession
  | .finish session _ => some session
  | _ => none

/-- The session that a request has read, until it has saved it for the last time without a
response. -/
def ChatPc.snapshot : ChatPc → Option ChatSession
  | .save _ session | .create _ session | .seed _ session _ | .prepare session _
  | .savePending session => some session
  | _ => none

/-- The session that a request saves without a response, if that is its next step. -/
def ChatPc.early : ChatPc → Option ChatSession
  | .save _ session | .savePending session => some session
  | _ => none

/-- The final saves once a request has done its next step. -/
def World.finalsAfter (w : World F ι κ) (i : ι) : String → List ι :=
  match (w.chat i).last with
  | none => w.finals
  | some session => Function.update w.finals session.sessionId (i :: w.finals session.sessionId)

section Step

variable [DecidableEq ι]

/-- The final saves that requests have seen once one of them goes on with its next step. -/
def World.seenAfter (w : World F ι κ) (i : ι) (pc : ChatPc) : ι → List ι :=
  match w.chat i, pc.snapshot with
  | .load, some session => Function.update w.seen i (w.finals session.sessionId)
  | _, _ => w.seen

variable [DecidableEq κ] (app : App) (py : PythonText F) (posts : ι → Post)
  (polls : κ → JobPoll F)

/-- One step of a request or a poll. -/
def step (w : World F ι κ) : Party ι κ → Option (World F ι κ)
  | .chat i =>
    (chatBlock app (posts i) w.stores (w.chat i)).map fun (stores, pc) =>
      { w with
        stores := stores
        chat := Function.update w.chat i pc
        finals := w.finalsAfter i
        seen := w.seenAfter i pc }
  | .poll k =>
    (pollBlock app py (polls k) w.stores (w.poll k)).map fun (stores, pc) =>
      { w with stores := stores, poll := Function.update w.poll k pc }

end Step

/-- New stores, and requests and polls that have not begun. -/
def World.start : World F ι κ where
  stores := ⟨.empty, fun _ => 0, .empty⟩
  chat _ := .load
  poll _ := .load
  finals _ := []
  seen _ := []

variable {app : App} {py : PythonText F} {post : Post} {poll : JobPoll F}
  {stores stores' : Stores F} {identity : TrustedIdentity} {session session' : ChatSession}
  {envelope : Json} {pc pc' : ChatPc} {w : World F ι κ} {i j : ι}

/-! ### Requests that are alone -/

/-- A step of a request that is alone. -/
def Alone (app : App) (post : Post) (s t : Stores F × ChatPc) : Prop :=
  chatBlock app post s.1 s.2 = some t

/-- How a request that is alone ends once it has its answer. -/
theorem runs_answered (result : Except ChatError Json) :
    Relation.ReflTransGen (Alone app post) (stores, answered session result)
      (match result with
      | .error error => (stores, .done (.error error))
      | .ok envelope => (finish app stores post session envelope, .done (.ok envelope))) := by
  cases result with
  | error error => exact .refl
  | ok envelope =>
    dsimp only
    rw [answered, finish]
    cases hjob : jobIdOf envelope with
    | some jobId =>
      rw [if_pos Option.isSome_some]
      refine .head rfl (.head rfl (.head rfl ?_))
      rw [hjob, if_pos Option.isSome_some]
      exact .single rfl
    | none =>
      rw [if_neg (by simp)]
      refine .head rfl ?_
      rw [hjob]
      refine .head rfl (.single ?_)
      rw [Alone, chatBlock, finalized, hjob]
      rfl

theorem runs_postCreated :
    Relation.ReflTransGen (Alone app post) (stores, toPrepare app post identity session)
      ((postCreated app stores post identity session).2,
        .done (postCreated app stores post identity session).1) := by
  rw [toPrepare, postCreated]
  cases buildReadResult app post identity session (some post.draws.jobId) post.draws.prepared with
  | error error => exact .refl
  | ok prepared =>
    refine .head rfl (.head rfl ?_)
    dsimp only
    generalize build _ = result
    refine (runs_answered result).trans ?_
    cases result with
    | error error => exact .refl
    | ok envelope => exact .refl

theorem runs_postRefresh :
    Relation.ReflTransGen (Alone app post) (stores, .create identity session)
      ((postRefresh app stores post identity session).2,
        .done (postRefresh app stores post identity session).1) := by
  cases hcreated : callJob app.jobs stores.jobs post.times.created
      (.createJob post.draws.jobId post.draws.jobPollToken (newJob session)) with
  | mk jobs reply =>
    rw [postRefresh, hcreated]
    have hstep (h : reply ≠ .raised) : chatBlock app post stores (.create identity session) =
        some ({ stores with jobs := jobs },
          match seedAutonomyRun app post with
          | none => toPrepare app post identity session
          | some metadata => .seed identity session metadata) := by
      rw [chatBlock, hcreated]
      cases reply with
      | raised => exact absurd rfl h
      | _ => rfl
    have hgoes (h : reply ≠ .raised) : Relation.ReflTransGen (Alone app post)
        (stores, .create identity session)
        (seeded app { stores with jobs := jobs } post, toPrepare app post identity session) := by
      refine .head (hstep h) ?_
      rw [seeded]
      cases seedAutonomyRun app post with
      | none => exact .refl
      | some metadata => exact .single rfl
    cases reply with
    | raised => exact .single (by rw [Alone, chatBlock, hcreated])
    | _ => exact (hgoes (by simp)).trans runs_postCreated

/-- **A request that is alone is `postChat`.** Its steps one after the other return what it returns
and leave what it leaves. -/
theorem runs_postChat : Relation.ReflTransGen (Alone app post) (stores, .load)
    ((postChat app stores post).2, .done (postChat app stores post).1) := by
  cases hadmitted : admission app stores post with
  | error failure =>
    rw [postChat, hadmitted]
    exact .single (by rw [Alone, chatBlock, hadmitted])
  | ok admitted =>
    obtain ⟨identity, session⟩ := admitted
    have hload : Alone app post (stores, .load) (stores.count post, .save identity session) := by
      rw [Alone, chatBlock, hadmitted]
    rw [postChat, hadmitted]
    refine .head hload (.head rfl ?_)
    dsimp only
    split_ifs
    · exact runs_postRefresh
    · rw [postRead]
      generalize buildReadResult app post identity session none post.draws.answer = result
      refine (runs_answered result).trans ?_
      cases result with
      | error error => exact .refl
      | ok envelope => exact .refl

/-! ### Steps of a request -/

/-- A request that reads its session has what is stored of it. -/
theorem lastResponse_of_admission (h : admission app stores post = .ok (identity, session)) :
    ∀ r ∈ session.lastResponseId, lastResponse stores.sessions session.sessionId = some r := by
  intro r hr
  rw [(admission_eq_ok h).2.2] at hr
  obtain ⟨existing, hexisting, hr⟩ := Option.bind_eq_some_iff.mp hr
  obtain ⟨id, hid, hget⟩ := Option.bind_eq_some_iff.mp hexisting
  obtain ⟨row, hrow, rfl⟩ := Option.map_eq_some_iff.mp hget
  rw [(exists_row_of_admission h hid).1, lastResponse, hrow]
  exact hr

/-- Every step of a request is one of the moves. -/
theorem chatMove_of_chatBlock (h : chatBlock app post stores pc = some (stores', pc')) :
    ChatMove app post stores pc stores' pc' := by
  cases pc with
  | load =>
    simp only [chatBlock] at h
    split at h
    · cases h
      exact .refuse _
    · next hadmitted =>
      cases h
      exact .admitted hadmitted
  | save identity session =>
    cases h
    split_ifs with hrefresh
    · exact .refresh hrefresh
    · exact .answer identity
  | create identity session =>
    simp only [chatBlock, callJob] at h
    cases hinsert : stores.jobs.insert? ((newJob session).row post.draws.jobId
        post.draws.jobPollToken post.times.created) with
    | none =>
      rw [hinsert] at h
      cases h
      exact .createFails identity session
    | some jobs =>
      rw [hinsert] at h
      cases h
      cases seedAutonomyRun app post with
      | none => exact .create hinsert
      | some metadata => exact .createSeeds metadata hinsert
  | reread session envelope =>
    cases h
    split_ifs
    · exact .reread
    · exact .rereadStored
  | seed identity session metadata => cases h; exact .seed
  | prepare session prepared => cases h; exact .prepare
  | savePending session => cases h; exact .savePending
  | bind session envelope => cases h; exact .bind
  | start session envelope => cases h; exact .start
  | rereadJob session stored envelope => cases h; exact .rereadJob _
  | finish session envelope => cases h; exact .finish
  | done result => cases h

/-- What a request does to the sessions. -/
theorem sessions_chatBlock (h : chatBlock app post stores pc = some (stores', pc')) :
    (pc.early = none ∧ pc.last = none ∧ stores'.sessions = stores.sessions) ∨
    (∃ session now, pc.early = some session ∧ pc.last = none ∧
      stores'.sessions = saveSession stores.sessions session now) ∨
    ∃ session envelope now, pc = .finish session envelope ∧ pc' = .done (.ok envelope) ∧
      stores'.sessions = saveSession stores.sessions session now := by
  cases chatMove_of_chatBlock h with
  | admitted => exact .inl ⟨rfl, rfl, Stores.sessions_count⟩
  | refresh | answer | savePending => exact .inr (.inl ⟨_, _, rfl, rfl, rfl⟩)
  | finish => exact .inr (.inr ⟨_, _, _, rfl, rfl, rfl⟩)
  | _ => exact .inl ⟨rfl, rfl, rfl⟩

theorem ChatPc.snapshot_of_early (h : pc.early = some session) : pc.snapshot = some session := by
  cases pc with
  | save identity session => exact h
  | savePending session => exact h
  | _ => cases h

theorem snapshot_answered (result : Except ChatError Json) :
    (answered session result).snapshot = none := by
  cases result with
  | error error => rfl
  | ok envelope =>
    rw [answered]
    split_ifs
    · rfl
    · rfl

theorem eq_of_snapshot_toPrepare
    (h : (toPrepare app post identity session).snapshot = some session') : session' = session := by
  rw [toPrepare] at h
  split at h
  · cases h
  · exact (Option.some.inj h).symm

/-- A request keeps the session that it has read, with its last response. -/
theorem snapshot_chatBlock (h : chatBlock app post stores pc = some (stores', pc'))
    (hsnapshot : pc'.snapshot = some session') :
    (pc = .load ∧ ∀ r ∈ session'.lastResponseId,
      lastResponse stores.sessions session'.sessionId = some r) ∨
    ∃ session, pc.snapshot = some session ∧ session'.sessionId = session.sessionId ∧
      session'.lastResponseId = session.lastResponseId := by
  cases chatMove_of_chatBlock h with
  | admitted hadmitted =>
    cases hsnapshot
    exact .inl ⟨rfl, lastResponse_of_admission hadmitted⟩
  | refresh | createSeeds | prepare =>
    cases hsnapshot
    exact .inr ⟨_, rfl, rfl, rfl⟩
  | create | seed =>
    obtain rfl := eq_of_snapshot_toPrepare hsnapshot
    exact .inr ⟨_, rfl, rfl, rfl⟩
  | answer | savePending =>
    rw [snapshot_answered] at hsnapshot
    cases hsnapshot
  | _ => cases hsnapshot

/-! ### Steps of a poll -/

/-- The first step of a poll changes nothing, and no promotion comes next. -/
theorem of_pollBlock_load {pc' : PollPc}
    (h : pollBlock app py poll stores .load = some (stores', pc')) :
    stores' = stores ∧ ∀ sessionId pendingResponseId completedResponseId jobId,
      pc' ≠ .promote sessionId pendingResponseId completedResponseId jobId := by
  simp only [pollBlock] at h
  split at h
  · cases h
    exact ⟨rfl, nofun⟩
  · split at h
    · cases h
      exact ⟨rfl, nofun⟩
    · cases h
      exact ⟨rfl, nofun⟩

/-- What a poll does to the sessions. -/
theorem sessions_pollBlock {pc pc' : PollPc}
    (h : pollBlock app py poll stores pc = some (stores', pc')) :
    stores'.sessions = stores.sessions ∨
    ∃ sessionId pendingResponseId completedResponseId jobId,
      pc = .promote sessionId pendingResponseId completedResponseId jobId ∧
      stores'.sessions = promoteJobCompletion stores.sessions sessionId pendingResponseId
        completedResponseId jobId poll.promotedAt := by
  cases pc with
  | load => exact .inl (congrArg Stores.sessions (of_pollBlock_load h).1)
  | promote sessionId pendingResponseId completedResponseId jobId =>
    cases h
    exact .inr ⟨_, _, _, _, rfl, rfl⟩
  | done => cases h
  | _ =>
    cases h
    exact .inl rfl

/-- What a poll does to the jobs: it creates none and gives none a response of its own. -/
theorem jobs_pollBlock {pc pc' : PollPc}
    (h : pollBlock app py poll stores pc = some (stores', pc')) :
    stores'.jobs.keys = stores.jobs.keys ∧
    (stores'.jobs = stores.jobs ∨ ∃ now call,
      stores'.jobs = (callJob app.jobs stores.jobs now call).1 ∧
        ∀ id pending completed, call.Shows envelopeReader id pending completed) := by
  cases pc with
  | load =>
    obtain rfl := (of_pollBlock_load h).1
    exact ⟨rfl, .inl rfl⟩
  | advance metadata outcome =>
    cases h
    exact ⟨Stores.keys_jobs_call (by nofun), .inr ⟨_, _, rfl, fun _ _ _ => trivial⟩⟩
  | fail errorMessage =>
    cases h
    exact ⟨Stores.keys_jobs_call (by nofun), .inr ⟨_, _, rfl, fun _ _ _ => trivial⟩⟩
  | refresh =>
    cases h
    exact ⟨Stores.keys_jobs_call (by nofun), .inr ⟨_, _, rfl, fun _ _ _ => trivial⟩⟩
  | reload =>
    cases h
    exact ⟨rfl, .inl rfl⟩
  | promote sessionId pendingResponseId completedResponseId jobId =>
    cases h
    exact ⟨rfl, .inl rfl⟩
  | done => cases h

theorem job_of_refreshedPc {reply : JobReply Json (Loaded F)}
    {sessionId pendingResponseId completedResponseId jobId : String}
    (h : refreshedPc reply = .promote sessionId pendingResponseId completedResponseId jobId) :
    ∃ job, reply = .job (some job) ∧ job.pendingResponseId = some pendingResponseId ∧
      job.completedResponseId = some completedResponseId := by
  unfold refreshedPc at h
  split at h
  · next job =>
    split at h
    · next completed pending hcompleted hpending =>
      cases h
      exact ⟨job, rfl, hpending, hcompleted⟩
    · cases h
  · cases h

/-- A poll promotes what its job shows. -/
theorem promote_of_pollBlock {pc : PollPc}
    {sessionId pendingResponseId completedResponseId jobId : String}
    (h : pollBlock app py poll stores pc = some (stores',
      .promote sessionId pendingResponseId completedResponseId jobId)) :
    ∃ job, stores'.jobs.lookup poll.jobId = some job ∧
      job.pendingResponseId = some pendingResponseId ∧
      job.completedResponseId = some completedResponseId := by
  cases pc with
  | refresh =>
    simp only [pollBlock, Option.some.injEq, Prod.mk.injEq] at h
    obtain ⟨rfl, hreply⟩ := h
    obtain ⟨job, hjob, hids⟩ := job_of_refreshedPc hreply
    exact ⟨job, lookup_of_operate hjob, hids⟩
  | load => exact absurd rfl ((of_pollBlock_load h).2 _ _ _ _)
  | advance metadata outcome =>
    simp only [pollBlock, Option.some.injEq, Prod.mk.injEq] at h
    obtain ⟨-, hpc⟩ := h
    split at hpc
    · cases hpc
    · split_ifs at hpc
  | _ => cases h

/-! ### The history -/

theorem World.finalsAfter_of_none (hlast : (w.chat i).last = none) :
    w.finalsAfter i = w.finals := by
  rw [finalsAfter, hlast]

theorem World.finalsAfter_of_finish (hfinish : w.chat i = .finish session envelope) :
    w.finalsAfter i =
      Function.update w.finals session.sessionId (i :: w.finals session.sessionId) := by
  rw [finalsAfter, hfinish]
  rfl

section Seen

variable [DecidableEq ι]

theorem World.seenAfter_of_ne (hne : j ≠ i) : w.seenAfter i pc j = w.seen j := by
  have hafter : w.seenAfter i pc = w.seen ∨
      ∃ seen, w.seenAfter i pc = Function.update w.seen i seen := by
    rw [seenAfter]
    split
    · exact .inr ⟨_, rfl⟩
    · exact .inl rfl
  obtain hafter | ⟨seen, hafter⟩ := hafter
  · rw [hafter]
  · rw [hafter, Function.update_of_ne hne]

theorem World.seenAfter_of_load (hload : w.chat i = .load)
    (hsnapshot : pc.snapshot = some session) : w.seenAfter i pc i = w.finals session.sessionId := by
  rw [seenAfter, hload, hsnapshot]
  exact Function.update_self ..

theorem World.seenAfter_of_snapshot (hsnapshot : (w.chat i).snapshot = some session) :
    w.seenAfter i pc = w.seen := by
  rw [seenAfter]
  split
  · next hload _ =>
    rw [hload] at hsnapshot
    cases hsnapshot
  · rfl

end Seen

end Meridian.Api.Chat
