import Meridian.Api.Interleaving
import Mathlib.Data.Fintype.Basic

/-!
# The newest response of a conversation

Interleaved requests and polls over common stores, as in `Meridian.Api.Interleaving`: whether a
session can come back to the pending or the completed response of the job of an older request.

## Main definitions

* `Meridian.Api.Chat.NewestKept`: no session shows a job response of an older request.
* `Meridian.Api.Chat.Unraced`: the condition on the saves.
* `Meridian.Api.Chat.World.JobsOwned`, `Meridian.Api.Chat.World.Newest`: the invariants.

## Main results

* `Meridian.Api.Chat.newest_kept_iff`: in a run, no session ever shows a job response of an older
  request exactly if every save that precedes a response is unraced.
* `Meridian.Api.Chat.older_response_returns`: a run in which one does.
-/

namespace Meridian.Api.Chat

open Foundations Db Tools Responses Jobs Autonomy

variable {F : Type} {ι κ : Type*}

/-! ### The property and the condition -/

/-- The request is for a background refresh. -/
def Post.IsRefresh (app : App) (post : Post) : Prop :=
  isAsyncRefreshRequest app.py.lower post.request.prompt = true

/-- The id of the answer, which is the pending response of the job. -/
def Post.answerId (post : Post) : String := "resp_" ++ post.draws.answer.responseHex

/-- The id of the result prepared for the job, which is its completed response. -/
def Post.preparedId (post : Post) : String := "resp_" ++ post.draws.prepared.responseHex

/-- The id is that of the pending or of the completed response of the request's job. -/
def Post.ShowsJob (app : App) (post : Post) (responseId : String) : Prop :=
  post.IsRefresh app ∧ (responseId = post.answerId ∨ responseId = post.preparedId)

/-- The ids drawn for the responses are all different. -/
structure DistinctResponses (posts : ι → Post) : Prop where
  answer : ∀ {i j}, (posts i).answerId = (posts j).answerId → i = j
  prepared : ∀ {i j}, (posts i).preparedId = (posts j).preparedId → i = j
  ne : ∀ i j, (posts i).answerId ≠ (posts j).preparedId

section Property

variable (app : App) (posts : ι → Post)

/-- No session shows a job response of a request other than the last to have saved it finally. -/
def NewestKept (w : World F ι κ) : Prop :=
  ∀ sessionId, ∀ i ∈ (w.finals sessionId).tail,
    ∀ r ∈ lastResponse w.stores.sessions sessionId, ¬ (posts i).ShowsJob app r

/-- A session that shows a job response is not saved without a response once another request has
saved it finally since it was read. -/
def Unraced (w : World F ι κ) : Party ι κ → Prop
  | .chat i => ∀ session, (w.chat i).early = some session → ∀ r ∈ session.lastResponseId,
      (∃ j, (posts j).ShowsJob app r) → w.seen i = w.finals session.sessionId
  | .poll _ => True

instance decidableShowsJob (post : Post) (responseId : String) :
    Decidable (post.ShowsJob app responseId) :=
  inferInstanceAs (Decidable (_ = true ∧ _))

instance decidableUnraced [Fintype ι] [DecidableEq ι] (w : World F ι κ) (party : Party ι κ) :
    Decidable (Unraced app posts w party) :=
  match party with
  | .chat i => decidable_of_iff (∀ session ∈ (w.chat i).early, ∀ r ∈ session.lastResponseId,
      (∃ j, (posts j).ShowsJob app r) → w.seen i = w.finals session.sessionId) Iff.rfl
  | .poll _ => isTrue trivial

/-! ### Invariants -/

/-- The request has created its job and has not yet started it. -/
def ChatPc.active : ChatPc → Bool
  | .seed .. | .prepare .. | .savePending _ | .bind .. | .start .. => true
  | _ => false

/-- What a request carries has the ids that it drew. -/
def ChatPc.Ok (post : Post) : ChatPc → Prop
  | .create .. | .seed .. | .savePending _ => post.IsRefresh app
  | .prepare _ prepared =>
    post.IsRefresh app ∧ envelopeReader.responseId prepared = some post.preparedId
  | .bind _ envelope | .start _ envelope =>
    post.IsRefresh app ∧ jobIdOf envelope = some post.draws.jobId ∧
      responseIdOf envelope = post.answerId
  | .reread _ envelope | .rereadJob _ _ envelope => responseIdOf envelope = post.answerId
  | .finish session _ => session.lastResponseId = some post.answerId
  | _ => True

/-- A promotion is from the pending to the completed response of one request. -/
def PollPc.Ok : PollPc → Prop
  | .promote _ pendingResponseId completedResponseId _ =>
    ∃ i, (posts i).IsRefresh app ∧ pendingResponseId = (posts i).answerId ∧
      completedResponseId = (posts i).preparedId
  | _ => True

/-- The request owns the job: the job shows its responses, and no other request is at work on it. -/
structure World.Owns (w : World F ι κ) (i : ι) (jobId : String) : Prop where
  isRefresh : (posts i).IsRefresh app
  shows : ∀ job, w.stores.jobs.lookup jobId = some job →
    job.Shows envelopeReader (posts i).answerId (posts i).preparedId
  unique : ∀ j, (w.chat j).active = true → (posts j).draws.jobId = jobId → j = i

/-- Every job shows the responses of a request that owns it. -/
structure World.JobsOwned (w : World F ι κ) : Prop where
  chat : ∀ i, (w.chat i).Ok app (posts i)
  poll : ∀ k, (w.poll k).Ok app posts
  owner : ∀ jobId ∈ w.stores.jobs.keys, ∃ i, w.Owns app posts i jobId
  active : ∀ i, (w.chat i).active = true → (posts i).draws.jobId ∈ w.stores.jobs.keys

/-- A session that shows a job response, stored or read, shows that of the request that saved it
last when it was written or read. -/
structure World.Newest (w : World F ι κ) : Prop where
  stored : ∀ sessionId, ∀ r ∈ lastResponse w.stores.sessions sessionId, ∀ j,
    (posts j).ShowsJob app r → (w.finals sessionId).head? = some j
  read : ∀ i session, (w.chat i).snapshot = some session → ∀ r ∈ session.lastResponseId, ∀ j,
    (posts j).ShowsJob app r → (w.seen i).head? = some j
  seen : ∀ i session, (w.chat i).snapshot = some session → w.seen i <:+ w.finals session.sessionId
  nodup : ∀ sessionId, (w.finals sessionId).Nodup
  finals : ∀ sessionId, ∀ i ∈ w.finals sessionId, ∃ result, w.chat i = .done result

end Property

variable {app : App} {py : PythonText F} {post : Post} {posts : ι → Post} {poll : JobPoll F}
  {polls : κ → JobPoll F} {stores stores' : Stores F} {identity : TrustedIdentity}
  {session session' : ChatSession} {envelope : Json} {pc pc' : ChatPc} {w t : World F ι κ}

/-! ### The ids of an envelope -/

theorem Draws.jobId_ne (draws : Draws) : draws.jobId ≠ "" := by
  intro h
  have hlen := congrArg String.length h
  simp [Draws.jobId, jobIdAt] at hlen

/-- An envelope has the ids of its payload. -/
theorem ids_of_build {intentClass status summary denialReasonClass : String}
    {components : List Json} {toolPath : List String} {jobId jobPollToken : Option String}
    {readings : Readings} (hne : ∀ id ∈ jobId, id ≠ "")
    (h : build (basePayload session.toSessionState intentClass status summary components toolPath
      denialReasonClass jobId jobPollToken readings) = .ok envelope) :
    responseIdOf envelope = "resp_" ++ readings.responseHex ∧ jobIdOf envelope = jobId ∧
      envelopeReader.responseId envelope = some ("resp_" ++ readings.responseHex) := by
  have hbuilt := mapError_eq_ok.mp h
  have hresponse : envelope.get? "response_id" = some (.str ("resp_" ++ readings.responseHex)) :=
    get?_of_buildResponseEnvelope hbuilt (by decide) rfl
  have hjob : envelope.get? "job_id" = some (.strOrNull jobId) :=
    get?_of_buildResponseEnvelope hbuilt (by decide) rfl
  refine ⟨?_, ?_, ?_⟩
  · rw [responseIdOf, Json.getD, hresponse]
    rfl
  · rw [jobIdOf, Json.getD, hjob, Option.getD_some, Json.toStr?_strOrNull]
    cases jobId with
    | none => rfl
    | some id => simpa using hne id rfl
  · exact congrArg (Option.map Json.toStr) hresponse

theorem ids_of_buildReadResult {jobId : Option String} {readings : Readings}
    (hne : ∀ id ∈ jobId, id ≠ "")
    (h : buildReadResult app post identity session jobId readings = .ok envelope) :
    responseIdOf envelope = "resp_" ++ readings.responseHex ∧ jobIdOf envelope = jobId ∧
      envelopeReader.responseId envelope = some ("resp_" ++ readings.responseHex) := by
  obtain ⟨readResult, -, h⟩ := bind_eq_ok.mp h
  exact ids_of_build hne h

theorem ids_of_pendingPayload (h : build (pendingPayload session.toSessionState post.draws.jobId
      post.draws.jobPollToken post.draws.answer) = .ok envelope) :
    responseIdOf envelope = post.answerId ∧ jobIdOf envelope = some post.draws.jobId := by
  have hids := ids_of_build (by simpa using post.draws.jobId_ne) h
  exact ⟨hids.1, hids.2.1⟩

/-! ### Steps of a request -/

theorem ok_answered {result : Except ChatError Json}
    (h : ∀ envelope, result = .ok envelope → responseIdOf envelope = post.answerId ∧
      ∀ id ∈ jobIdOf envelope, post.IsRefresh app ∧ id = post.draws.jobId) :
    (answered session result).Ok app post := by
  cases result with
  | error error => trivial
  | ok envelope =>
    obtain ⟨hresponse, hjob⟩ := h envelope rfl
    rw [answered]
    split_ifs with hsome
    · obtain ⟨id, hid⟩ := Option.isSome_iff_exists.mp hsome
      obtain ⟨hrefresh, rfl⟩ := hjob id hid
      exact ⟨hrefresh, hid, hresponse⟩
    · exact hresponse

theorem ok_toPrepare (h : post.IsRefresh app) :
    (toPrepare app post identity session).Ok app post := by
  rw [toPrepare]
  split
  · trivial
  · next prepared hprepared =>
    exact ⟨h, (ids_of_buildReadResult (by simpa using post.draws.jobId_ne) hprepared).2.2⟩

/-- A request goes on carrying the ids that it drew. -/
theorem ok_chatBlock (hok : pc.Ok app post)
    (h : chatBlock app post stores pc = some (stores', pc')) : pc'.Ok app post := by
  cases chatMove_of_chatBlock h with
  | refuse | admitted | createFails | finish => trivial
  | refresh hrefresh => exact hrefresh
  | answer =>
    refine ok_answered fun envelope henvelope => ?_
    obtain ⟨hresponse, hjob, -⟩ := ids_of_buildReadResult (by simp) henvelope
    rw [hjob]
    exact ⟨hresponse, by simp⟩
  | createSeeds => exact hok
  | create | seed => exact ok_toPrepare hok
  | prepare => exact hok.1
  | savePending =>
    generalize hresult : build _ = result
    refine ok_answered fun envelope henvelope => ?_
    have hids := ids_of_pendingPayload (hresult.trans henvelope)
    exact ⟨hids.1, fun id hid => ⟨hok, (Option.some.inj (hids.2.symm.trans hid)).symm⟩⟩
  | bind => exact hok
  | start => exact hok.2.2
  | rereadStored => exact hok
  | reread | rereadJob => exact congrArg some hok

theorem exists_of_active_answered {result : Except ChatError Json}
    (h : (answered session result).active = true) :
    ∃ envelope, result = .ok envelope ∧ (jobIdOf envelope).isSome = true := by
  cases result with
  | error error => cases h
  | ok envelope =>
    rw [answered] at h
    split_ifs at h with hsome
    · exact ⟨envelope, rfl, hsome⟩
    · cases h

/-- What a request does to the jobs: nothing, or it creates its job, or it calls the store for that
job with its own responses. -/
theorem jobs_chatBlock (hok : pc.Ok app post)
    (h : chatBlock app post stores pc = some (stores', pc')) :
    (stores'.jobs = stores.jobs ∧ (pc'.active = true → pc.active = true)) ∨
    (post.IsRefresh app ∧ stores.jobs.lookup post.draws.jobId = none ∧
      stores'.jobs.keys = stores.jobs.keys ++ [post.draws.jobId] ∧ ∃ now call,
        stores'.jobs = (callJob app.jobs stores.jobs now call).1 ∧
          ∀ id pending completed, call.Shows envelopeReader id pending completed) ∨
    (pc.active = true ∧ stores'.jobs.keys = stores.jobs.keys ∧ ∃ now call,
      stores'.jobs = (callJob app.jobs stores.jobs now call).1 ∧
      ∀ id pending completed, (id = post.draws.jobId →
        pending = post.answerId ∧ completed = post.preparedId) →
          call.Shows envelopeReader id pending completed) := by
  cases chatMove_of_chatBlock h with
  | refuse | createFails | rereadJob | finish | reread | rereadStored =>
    exact .inl ⟨rfl, fun hactive => by cases hactive⟩
  | admitted => exact .inl ⟨Stores.jobs_count, fun hactive => by cases hactive⟩
  | refresh => exact .inl ⟨rfl, fun hactive => by cases hactive⟩
  | answer =>
    refine .inl ⟨rfl, fun hactive => ?_⟩
    obtain ⟨envelope, henvelope, hsome⟩ := exists_of_active_answered hactive
    rw [(ids_of_buildReadResult (by simp) henvelope).2.1] at hsome
    cases hsome
  | @createSeeds _ session _ _ hinsert | @create _ session _ hinsert =>
    obtain ⟨hnone, hrows⟩ := KeyedTable.insert?_eq_some hinsert
    refine .inr (.inl ⟨hok, hnone, ?_, post.times.created,
      .createJob post.draws.jobId post.draws.jobPollToken (newJob session), ?_,
      fun _ _ _ => trivial⟩)
    · rw [KeyedTable.keys, hrows, List.map_append]
      rfl
    · simp only [callJob, hinsert]
  | seed | start =>
    exact .inr (.inr ⟨rfl, Stores.keys_jobs_call (by simp), _, _, rfl, fun _ _ _ _ => trivial⟩)
  | prepare =>
    refine .inr (.inr ⟨rfl, Stores.keys_jobs_call (by simp), _, _, rfl,
      fun id pending completed hid hjob => ?_⟩)
    rw [(hid hjob.symm).2]
    exact hok.2
  | savePending => exact .inl ⟨rfl, fun _ => rfl⟩
  | bind =>
    obtain ⟨-, hjob, hresponse⟩ := hok
    refine .inr (.inr ⟨rfl, Stores.keys_jobs_call (by simp), _, _, rfl,
      fun id pending completed hid hjobId => ?_⟩)
    rw [hjob] at hjobId
    rw [(hid hjobId.symm).1]
    exact hresponse

/-! ### The owners of the jobs -/

/-- The jobs are owned after a step that keeps the set of jobs and shows of each what its owner has
drawn. -/
theorem World.JobsOwned.of_keys (h : w.JobsOwned app posts)
    (hchat : ∀ i, (t.chat i).Ok app (posts i)) (hpoll : ∀ k, (t.poll k).Ok app posts)
    (hkeys : t.stores.jobs.keys = w.stores.jobs.keys)
    (hshows : ∀ jobId i, w.Owns app posts i jobId → ∀ job,
      t.stores.jobs.lookup jobId = some job →
        job.Shows envelopeReader (posts i).answerId (posts i).preparedId)
    (hactive : ∀ i, (t.chat i).active = true → (w.chat i).active = true) :
    t.JobsOwned app posts := by
  refine ⟨hchat, hpoll, fun jobId hjobId => ?_, fun i hi => ?_⟩
  · rw [hkeys] at hjobId
    obtain ⟨i, howns⟩ := h.owner jobId hjobId
    exact ⟨i, howns.isRefresh, hshows jobId i howns, fun j hj => howns.unique j (hactive j hj)⟩
  · rw [hkeys]
    exact h.active i (hactive i hi)

/-- The jobs are owned after a request has created its own. -/
theorem World.JobsOwned.of_created {i : ι} {now : String} {call : JobCall Json (Loaded F)}
    (h : w.JobsOwned app posts) (hok : ∀ i, (t.chat i).Ok app (posts i))
    (hpoll : ∀ k, (t.poll k).Ok app posts) (hother : ∀ j, j ≠ i → t.chat j = w.chat j)
    (hrefresh : (posts i).IsRefresh app)
    (hnone : w.stores.jobs.lookup (posts i).draws.jobId = none)
    (hkeys : t.stores.jobs.keys = w.stores.jobs.keys ++ [(posts i).draws.jobId])
    (hjobs : t.stores.jobs = (callJob app.jobs w.stores.jobs now call).1)
    (hcall : ∀ id pending completed, call.Shows envelopeReader id pending completed) :
    t.JobsOwned app posts := by
  have hidle (j : ι) (hj : (t.chat j).active = true)
      (hid : (posts j).draws.jobId = (posts i).draws.jobId) : j = i := by
    by_contra hji
    rw [hother j hji] at hj
    exact KeyedTable.lookup_eq_none_iff.mp hnone (hid ▸ h.active j hj)
  refine ⟨hok, hpoll, fun jobId hjobId => ?_, fun j hj => ?_⟩
  · rw [hkeys, List.mem_append, List.mem_singleton] at hjobId
    by_cases hid : jobId = (posts i).draws.jobId
    · refine ⟨i, hrefresh, fun job hjob => ?_, fun j hj hj' => hidle j hj (hj'.trans hid)⟩
      rw [hjobs, hid] at hjob
      refine callJob_shows (fun job hjob => ?_) (hcall _ _ _) hjob
      rw [hnone] at hjob
      cases hjob
    · obtain ⟨j, howns⟩ := h.owner jobId (hjobId.resolve_right hid)
      refine ⟨j, howns.isRefresh, fun job hjob => ?_, fun j' hj' hid' => ?_⟩
      · rw [hjobs] at hjob
        exact callJob_shows howns.shows (hcall _ _ _) hjob
      · have hne : j' ≠ i := by
          rintro rfl
          exact hid hid'.symm
        rw [hother j' hne] at hj'
        exact howns.unique j' hj' hid'
  · rw [hkeys, List.mem_append, List.mem_singleton]
    by_cases hji : j = i
    · exact .inr (by rw [hji])
    · rw [hother j hji] at hj
      exact .inl (h.active j hj)

/-- The jobs are owned after a step of a request. -/
theorem World.JobsOwned.chatStep [DecidableEq ι] {i : ι} (h : w.JobsOwned app posts)
    (hblock : chatBlock app (posts i) w.stores (w.chat i) = some (stores', pc'))
    (hstores : t.stores = stores') (hchat : t.chat = Function.update w.chat i pc')
    (hpoll : t.poll = w.poll) : t.JobsOwned app posts := by
  subst hstores
  have hother (j : ι) (hne : j ≠ i) : t.chat j = w.chat j := by
    rw [hchat, Function.update_of_ne hne]
  have hself : t.chat i = pc' := by rw [hchat, Function.update_self]
  have hactive (hpc : pc'.active = true → (w.chat i).active = true) (j : ι)
      (hj : (t.chat j).active = true) : (w.chat j).active = true := by
    by_cases hji : j = i
    · rw [hji, hself] at hj
      rw [hji]
      exact hpc hj
    · rwa [hother j hji] at hj
  have hok (j : ι) : (t.chat j).Ok app (posts j) := by
    by_cases hji : j = i
    · rw [hji, hself]
      exact ok_chatBlock (h.chat i) hblock
    · rw [hother j hji]
      exact h.chat j
  have hpollOk (k : κ) : (t.poll k).Ok app posts := hpoll ▸ h.poll k
  obtain ⟨hjobs, hpc⟩ | ⟨hrefresh, hnone, hkeys, now, call, hjobs, hcall⟩ |
    ⟨hpc, hkeys, now, call, hjobs, hcall⟩ := jobs_chatBlock (h.chat i) hblock
  · refine h.of_keys hok hpollOk (by rw [hjobs]) (fun jobId j howns => ?_) (hactive hpc)
    rw [hjobs]
    exact howns.shows
  · exact h.of_created hok hpollOk hother hrefresh hnone hkeys hjobs hcall
  · refine h.of_keys hok hpollOk hkeys (fun jobId j howns job hjob => ?_) (hactive fun _ => hpc)
    rw [hjobs] at hjob
    refine callJob_shows howns.shows (hcall _ _ _ fun hid => ?_) hjob
    -- A request at work on a job is its owner.
    obtain rfl := howns.unique i hpc hid.symm
    exact ⟨rfl, rfl⟩

/-- The jobs are owned after a step of a poll. -/
theorem World.JobsOwned.pollStep [DecidableEq κ] {k : κ} {pc pc' : PollPc}
    (h : w.JobsOwned app posts) (hblock : pollBlock app py poll w.stores pc = some (stores', pc'))
    (hstores : t.stores = stores') (hchat : t.chat = w.chat)
    (hpoll : t.poll = Function.update w.poll k pc') : t.JobsOwned app posts := by
  subst hstores
  obtain ⟨hkeys, hjobs⟩ := jobs_pollBlock hblock
  have hshows (jobId : String) (i : ι) (howns : w.Owns app posts i jobId)
      (job : GenerationJob Json (Loaded F)) (hjob : t.stores.jobs.lookup jobId = some job) :
      job.Shows envelopeReader (posts i).answerId (posts i).preparedId := by
    obtain hjobs | ⟨now, call, hjobs, hcall⟩ := hjobs
    · rw [hjobs] at hjob
      exact howns.shows job hjob
    · rw [hjobs] at hjob
      exact callJob_shows howns.shows (hcall _ _ _) hjob
  have hself : pc'.Ok app posts := by
    cases pc' with
    | promote sessionId pendingResponseId completedResponseId jobId =>
      obtain ⟨job, hjob, hpending, hcompleted⟩ := promote_of_pollBlock hblock
      have hmem : poll.jobId ∈ w.stores.jobs.keys := by
        by_contra hmem
        rw [← hkeys, ← KeyedTable.lookup_eq_none_iff, hjob] at hmem
        cases hmem
      obtain ⟨i, howns⟩ := h.owner _ hmem
      have hjobShows := hshows _ i howns job hjob
      exact ⟨i, howns.isRefresh, hjobShows.pending _ hpending, hjobShows.completed _ hcompleted⟩
    | _ => trivial
  refine h.of_keys (fun i => hchat ▸ h.chat i) (fun k' => ?_) hkeys hshows fun i hi => ?_
  · rw [hpoll, Function.update_apply]
    split_ifs
    · exact hself
    · exact h.poll k'
  · rwa [hchat] at hi

/-! ### The newest response -/

variable {i j : ι} {r : String}

theorem DistinctResponses.eq_of_showsJob (h : DistinctResponses posts)
    (hi : (posts i).ShowsJob app r) (hj : (posts j).ShowsJob app r) : i = j := by
  obtain ⟨-, rfl | rfl⟩ := hi
  · exact hj.2.elim h.answer fun hne => absurd hne (h.ne i j)
  · exact hj.2.elim (fun hne => absurd hne.symm (h.ne j i)) h.prepared

theorem DistinctResponses.eq_of_showsJob_answerId (h : DistinctResponses posts)
    (hj : (posts j).ShowsJob app (posts i).answerId) : j = i :=
  hj.2.elim (fun heq => (h.answer heq).symm) fun hne => absurd hne (h.ne i j)

theorem not_mem_tail_of_head? {l : List ι} (hnodup : l.Nodup) (hhead : l.head? = some i) :
    i ∉ l.tail := by
  cases l with
  | nil => cases hhead
  | cons a l =>
    obtain rfl := Option.some.inj hhead
    exact (List.nodup_cons.mp hnodup).1

theorem World.Newest.newestKept (h : w.Newest app posts) : NewestKept app posts w :=
  fun sessionId _ hi r hr hshows =>
    not_mem_tail_of_head? (h.nodup sessionId) (h.stored sessionId r hr _ hshows) hi

/-- What is stored decides: a session that a request has read is one that it had read, or is as it
was stored. -/
theorem World.Newest.of_stored (h : w.Newest app posts)
    (hread : ∀ j session, (t.chat j).snapshot = some session →
      (t.seen j = w.finals session.sessionId ∧ ∀ r ∈ session.lastResponseId,
        lastResponse w.stores.sessions session.sessionId = some r) ∨
      (t.seen j = w.seen j ∧ ∃ session₀, (w.chat j).snapshot = some session₀ ∧
        session.sessionId = session₀.sessionId ∧
        session.lastResponseId = session₀.lastResponseId))
    (hsuffix : ∀ sessionId, w.finals sessionId <:+ t.finals sessionId)
    (hstored : ∀ sessionId, ∀ r ∈ lastResponse t.stores.sessions sessionId, ∀ j,
      (posts j).ShowsJob app r → (t.finals sessionId).head? = some j)
    (hnodup : ∀ sessionId, (t.finals sessionId).Nodup)
    (hfinals : ∀ sessionId, ∀ i ∈ t.finals sessionId, ∃ result, t.chat i = .done result) :
    t.Newest app posts := by
  refine ⟨hstored, fun j session hsnapshot r hr j' hshows => ?_, fun j session hsnapshot => ?_,
    hnodup, hfinals⟩
  · obtain ⟨hseen, hlast⟩ | ⟨hseen, session₀, hsnapshot₀, -, hlast⟩ := hread j session hsnapshot
    · rw [hseen]
      exact h.stored _ r (hlast r hr) j' hshows
    · rw [hseen]
      exact h.read j session₀ hsnapshot₀ r (hlast ▸ hr) j' hshows
  · obtain ⟨hseen, -⟩ | ⟨hseen, session₀, hsnapshot₀, hid, -⟩ := hread j session hsnapshot
    · rw [hseen]
      exact hsuffix _
    · rw [hseen, hid]
      exact (h.seen j session₀ hsnapshot₀).trans (hsuffix _)

/-- What a step of a request leaves of what was read. -/
theorem read_of_step [DecidableEq ι] [DecidableEq κ]
    (hstep : step app py posts polls w (.chat i) = some t)
    (hsnapshot : (t.chat j).snapshot = some session) :
    (t.seen j = w.finals session.sessionId ∧ ∀ r ∈ session.lastResponseId,
      lastResponse w.stores.sessions session.sessionId = some r) ∨
    (t.seen j = w.seen j ∧ ∃ session₀, (w.chat j).snapshot = some session₀ ∧
      session.sessionId = session₀.sessionId ∧
      session.lastResponseId = session₀.lastResponseId) := by
  obtain ⟨⟨stores', pc'⟩, hblock, rfl⟩ := Option.map_eq_some_iff.mp hstep
  dsimp only at hsnapshot ⊢
  by_cases hji : j = i
  · subst hji
    rw [Function.update_self] at hsnapshot
    obtain ⟨hload, hlast⟩ | ⟨session₀, hsnapshot₀, hid, hlast⟩ :=
      snapshot_chatBlock hblock hsnapshot
    · exact .inl ⟨World.seenAfter_of_load hload hsnapshot, hlast⟩
    · exact .inr ⟨congrFun (World.seenAfter_of_snapshot hsnapshot₀) j, session₀, hsnapshot₀, hid,
        hlast⟩
  · rw [Function.update_of_ne hji] at hsnapshot
    exact .inr ⟨World.seenAfter_of_ne hji, session, hsnapshot, rfl, rfl⟩

/-- A final save puts the request first. -/
theorem World.Newest.finish [DecidableEq ι] [DecidableEq κ] (hdistinct : DistinctResponses posts)
    (h : w.Newest app posts) (howned : w.JobsOwned app posts)
    (hstep : step app py posts polls w (.chat i) = some t)
    (hfinish : w.chat i = .finish session envelope) : t.Newest app posts := by
  obtain ⟨⟨stores', pc'⟩, hblock, ht⟩ := Option.map_eq_some_iff.mp hstep
  rw [hfinish] at hblock
  cases hblock
  have hfinals : t.finals =
      Function.update w.finals session.sessionId (i :: w.finals session.sessionId) := by
    rw [← ht]
    exact World.finalsAfter_of_finish hfinish
  have hchat : t.chat = Function.update w.chat i (.done (.ok envelope)) := by rw [← ht]
  have hsessions : t.stores.sessions =
      saveSession w.stores.sessions session (posts i).times.finalized := by
    rw [← ht]
    rfl
  have hlast : session.lastResponseId = some (posts i).answerId := by
    have hok := howned.chat i
    rwa [hfinish] at hok
  have hnew (sessionId : String) : i ∉ w.finals sessionId := by
    intro hi
    obtain ⟨result, hdone⟩ := h.finals sessionId i hi
    rw [hfinish] at hdone
    cases hdone
  refine h.of_stored (fun j session => read_of_step hstep) (fun sessionId => ?_)
    (fun sessionId r hr j hshows => ?_) (fun sessionId => ?_) fun sessionId j hj => ?_
  · rw [hfinals, Function.update_apply]
    split_ifs with hid
    · rw [hid]
      exact List.suffix_cons ..
    · exact List.suffix_rfl
  · rw [hsessions, lastResponse_saveSession] at hr
    rw [hfinals, Function.update_apply]
    split_ifs at hr ⊢ with hid
    · rw [hlast] at hr
      obtain rfl := Option.some.inj hr
      rw [hdistinct.eq_of_showsJob_answerId hshows]
      rfl
    · exact h.stored sessionId r hr j hshows
  · rw [hfinals, Function.update_apply]
    split_ifs
    · exact List.nodup_cons.mpr ⟨hnew _, h.nodup _⟩
    · exact h.nodup sessionId
  · rw [hchat, Function.update_apply]
    split_ifs with hji
    · exact ⟨_, rfl⟩
    · rw [hfinals, Function.update_apply] at hj
      split_ifs at hj
      · exact h.finals _ j ((List.mem_cons.mp hj).resolve_left hji)
      · exact h.finals sessionId j hj

theorem World.jobsOwned_start : (World.start : World F ι κ).JobsOwned app posts := by
  refine ⟨fun _ => trivial, fun _ => trivial, fun jobId hjobId => ?_, nofun⟩
  cases hjobId

theorem World.newest_start : (World.start : World F ι κ).Newest app posts := by
  refine ⟨fun _ _ => nofun, fun _ _ => nofun, fun _ _ => nofun, fun _ => List.nodup_nil,
    fun _ _ => nofun⟩

section Steps

variable [DecidableEq ι] [DecidableEq κ]

/-- A step that is no final save. -/
theorem World.Newest.of_last_eq_none (h : w.Newest app posts)
    (hstep : step app py posts polls w (.chat i) = some t) (hlast : (w.chat i).last = none)
    (hstored : ∀ sessionId, ∀ r ∈ lastResponse t.stores.sessions sessionId, ∀ j,
      (posts j).ShowsJob app r → (w.finals sessionId).head? = some j) : t.Newest app posts := by
  obtain ⟨⟨stores', pc'⟩, hblock, ht⟩ := Option.map_eq_some_iff.mp hstep
  have hfinals : t.finals = w.finals := by
    rw [← ht]
    exact World.finalsAfter_of_none hlast
  have hchat : t.chat = Function.update w.chat i pc' := by rw [← ht]
  refine h.of_stored (fun j session => read_of_step hstep) (fun sessionId => ?_)
    (fun sessionId => ?_) (fun sessionId => ?_) fun sessionId j hj => ?_
  · rw [hfinals]
  · rw [hfinals]
    exact hstored sessionId
  · rw [hfinals]
    exact h.nodup sessionId
  · rw [hfinals] at hj
    obtain ⟨result, hdone⟩ := h.finals sessionId j hj
    have hji : j ≠ i := by
      rintro rfl
      rw [hdone] at hblock
      cases hblock
    exact ⟨result, by rw [hchat, Function.update_of_ne hji, hdone]⟩

/-- An unraced step of a request keeps the newest response. -/
theorem World.Newest.chatStep (hdistinct : DistinctResponses posts) (h : w.Newest app posts)
    (howned : w.JobsOwned app posts) (hstep : step app py posts polls w (.chat i) = some t)
    (hunraced : Unraced app posts w (.chat i)) : t.Newest app posts := by
  obtain ⟨⟨stores', pc'⟩, hblock, ht⟩ := Option.map_eq_some_iff.mp hstep
  have hstores : t.stores = stores' := by rw [← ht]
  obtain ⟨-, hlast, hsessions⟩ | ⟨session, now, hearly, hlast, hsessions⟩ |
    ⟨session, envelope, -, hfinish, -, -⟩ := sessions_chatBlock hblock
  · refine h.of_last_eq_none hstep hlast fun sessionId r hr j hshows => ?_
    rw [hstores, hsessions] at hr
    exact h.stored sessionId r hr j hshows
  · refine h.of_last_eq_none hstep hlast fun sessionId r hr j hshows => ?_
    rw [hstores, hsessions, lastResponse_saveSession] at hr
    split_ifs at hr with hid
    · rw [hid, ← hunraced session hearly r hr ⟨j, hshows⟩]
      exact h.read i session (ChatPc.snapshot_of_early hearly) r hr j hshows
    · exact h.stored sessionId r hr j hshows
  · exact h.finish hdistinct howned hstep hfinish

/-- A step of a poll keeps the newest response. -/
theorem World.Newest.pollStep {k : κ} (hdistinct : DistinctResponses posts) (h : w.Newest app posts)
    (howned : w.JobsOwned app posts) (hstep : step app py posts polls w (.poll k) = some t) :
    t.Newest app posts := by
  obtain ⟨⟨stores', pc'⟩, hblock, rfl⟩ := Option.map_eq_some_iff.mp hstep
  refine h.of_stored (fun j session hsnapshot => .inr ⟨rfl, session, hsnapshot, rfl, rfl⟩)
    (fun _ => List.suffix_rfl) (fun sessionId r hr j hshows => ?_) h.nodup h.finals
  dsimp only at hr ⊢
  obtain hsessions | ⟨id, pending, completed, jobId, hpc, hsessions⟩ := sessions_pollBlock hblock
  · rw [hsessions] at hr
    exact h.stored sessionId r hr j hshows
  · rw [hsessions, lastResponse_promoteJobCompletion] at hr
    split_ifs at hr with hid
    · -- The completed response takes the place of the pending one of the same request.
      have hok := howned.poll k
      rw [hpc] at hok
      obtain ⟨i, hrefresh, hpending, hcompleted⟩ := hok
      obtain rfl := Option.some.inj hr
      obtain rfl := hdistinct.eq_of_showsJob ⟨hrefresh, .inr hcompleted⟩ hshows
      exact h.stored sessionId pending hid.2 i ⟨hrefresh, .inl hpending⟩
    · exact h.stored sessionId r hr j hshows

/-- A step after which no session shows a job response of an older request was unraced. -/
theorem unraced_of_newestKept (h : w.Newest app posts)
    {party : Party ι κ} (hstep : step app py posts polls w party = some t)
    (hkept : NewestKept app posts t) : Unraced app posts w party := by
  cases party with
  | poll k => trivial
  | chat i =>
    intro session hearly r hr hshows
    obtain ⟨j, hshows⟩ := hshows
    obtain ⟨⟨stores', pc'⟩, hblock, ht⟩ := Option.map_eq_some_iff.mp hstep
    have hsnapshot := ChatPc.snapshot_of_early hearly
    obtain ⟨hnone, -⟩ | ⟨session', now, hsession, hlast, hsessions⟩ |
      ⟨session', envelope, -, hfinish, -⟩ := sessions_chatBlock hblock
    · cases hnone.symm.trans hearly
    · obtain rfl := Option.some.inj (hsession.symm.trans hearly)
      have hfinals : t.finals = w.finals := by
        rw [← ht]
        exact World.finalsAfter_of_none hlast
      have hstored : lastResponse t.stores.sessions session'.sessionId = some r := by
        rw [← ht]
        dsimp only
        rw [hsessions, lastResponse_saveSession, if_pos rfl]
        exact hr
      have hold : j ∉ (w.finals session'.sessionId).tail := by
        intro hj
        rw [← hfinals] at hj
        exact hkept session'.sessionId j hj r hstored hshows
      -- A request that has saved the session finally since would have pushed `j` back.
      obtain ⟨newer, hnewer⟩ := h.seen i session' hsnapshot
      have hhead := h.read i session' hsnapshot r hr j hshows
      cases newer with
      | nil => exact hnewer
      | cons i' newer =>
        refine absurd ?_ hold
        rw [← hnewer]
        exact List.mem_append_right _ (List.mem_of_mem_head? hhead)
    · rw [hfinish] at hearly
      cases hearly

theorem World.JobsOwned.step (h : w.JobsOwned app posts) {party : Party ι κ}
    (hstep : Chat.step app py posts polls w party = some t) : t.JobsOwned app posts := by
  cases party with
  | chat i =>
    obtain ⟨⟨stores', pc'⟩, hblock, rfl⟩ := Option.map_eq_some_iff.mp hstep
    exact h.chatStep hblock rfl rfl rfl
  | poll k =>
    obtain ⟨⟨stores', pc'⟩, hblock, rfl⟩ := Option.map_eq_some_iff.mp hstep
    exact h.pollStep hblock rfl rfl rfl

theorem World.Newest.step (hdistinct : DistinctResponses posts) (h : w.Newest app posts)
    (howned : w.JobsOwned app posts) {party : Party ι κ}
    (hstep : Chat.step app py posts polls w party = some t)
    (hunraced : Unraced app posts w party) : t.Newest app posts := by
  cases party with
  | chat i => exact h.chatStep hdistinct howned hstep hunraced
  | poll k => exact h.pollStep hdistinct howned hstep

/-- **When a stale job response never comes back.** For any requests and polls and every
interleaving of their steps: no session ever shows a job response of a request older than the last
to have saved it finally, exactly if every save before a response is unraced. -/
theorem newest_kept_iff (hdistinct : DistinctResponses posts) (labels : List (Party ι κ)) :
    Along (step app py posts polls) (fun _ _ t => NewestKept app posts t) .start labels ↔
      Along (step app py posts polls) (fun w party _ => Unraced app posts w party) .start
        labels := by
  have hstart : (World.start : World F ι κ).JobsOwned app posts ∧
      (World.start : World F ι κ).Newest app posts := ⟨World.jobsOwned_start, World.newest_start⟩
  constructor
  · intro hkept
    refine along_of_invariant (fun w => w.JobsOwned app posts ∧ w.Newest app posts) ?_ ?_ hstart
      hkept
    · rintro w party t ⟨howned, hnewest⟩ hkept hstep
      exact ⟨howned.step hstep, hnewest.step hdistinct howned hstep
        (unraced_of_newestKept hnewest hstep hkept)⟩
    · rintro w party t ⟨-, hnewest⟩ hkept hstep
      exact unraced_of_newestKept hnewest hstep hkept
  · intro hunraced
    refine along_of_invariant (fun w => w.JobsOwned app posts ∧ w.Newest app posts) ?_ ?_ hstart
      hunraced
    · rintro w party t ⟨howned, hnewest⟩ hunraced hstep
      exact ⟨howned.step hstep, hnewest.step hdistinct howned hstep hunraced⟩
    · rintro w party t ⟨howned, hnewest⟩ hunraced hstep
      exact (hnewest.step hdistinct howned hstep hunraced).newestKept

end Steps

section Memphis

/-! A refresh and two questions in one session. -/

/-- A request over an empty database with its own ids for the responses. -/
def conversationPost (prompt : String) (sessionId : Option String)
    (answerHex preparedHex : String) : Post :=
  { memphisPost ⟨prompt, sessionId, sessionId.map fun _ => (memphisChat none).token, none⟩
      .empty with
    draws :=
      { memphisDraws with
        prepared := { memphisReadings with responseHex := preparedHex }
        answer := { memphisReadings with responseHex := answerHex } } }

def conversation : Fin 3 → Post
  | 0 => conversationPost "Start a background refresh of analytics for exceptions" none "a0" "b0"
  | 1 => conversationPost "Show delays" (some "chat_s_00010101_0001") "a1" "b1"
  | 2 => conversationPost "Show delays" (some "chat_s_00010101_0001") "a2" "b2"

theorem distinctResponses_conversation : DistinctResponses conversation := by
  have hall : (∀ i j, (conversation i).answerId = (conversation j).answerId → i = j) ∧
      (∀ i j, (conversation i).preparedId = (conversation j).preparedId → i = j) ∧
      ∀ i j, (conversation i).answerId ≠ (conversation j).preparedId := by decide +kernel
  exact ⟨fun {i j} => hall.1 i j, fun {i j} => hall.2.1 i j, hall.2.2⟩

/-- A poll of the refresh. -/
def refreshPoll : JobPoll Empty :=
  { jobId := "job_00010101_000000000000"
    jobPollToken := memphisDraws.jobPollToken
    file := .missing
    updatedAt := "t1"
    failedAt := "t2"
    refreshedAt := "t3"
    promotedAt := "t4" }

end Memphis

/-- One request after the other. -/
theorem newest_kept_in_turn :
    Along (step testApp plainText conversation fun _ : Fin 3 => refreshPoll)
      (fun _ _ t => NewestKept testApp conversation t) .start
      (List.replicate 9 (.chat 0) ++ List.replicate 6 (.chat 1)) :=
  (newest_kept_iff distinctResponses_conversation _).mpr (by decide +kernel)

/-- The refresh and then the second question, which comes between the read and the first save of the
first. -/
def race : List (Party (Fin 3) (Fin 3)) :=
  List.replicate 9 (.chat 0) ++ .chat 1 :: List.replicate 5 (.chat 2) ++ [.chat 1]

/-- Three polls. -/
def polling : List (Party (Fin 3) (Fin 3)) :=
  [.poll 0, .poll 0, .poll 1, .poll 1, .poll 2, .poll 2, .poll 2]

theorem not_newestKept_of_finals {w : World Empty (Fin 3) (Fin 3)} {id r : String}
    (hfinals : w.finals id = [2, 0]) (hlast : lastResponse w.stores.sessions id = some r)
    (hshows : (conversation 0).ShowsJob testApp r) : ¬ NewestKept testApp conversation w := by
  intro hkept
  refine hkept id 0 ?_ r hlast hshows
  rw [hfinals]
  exact List.mem_singleton_self 0

/-- **A stale job response returns.** The first question reads the session before the second is
answered and saves it afterwards, so the session shows the pending response of the refresh again;
and then the third poll promotes the completed response. -/
theorem older_response_returns :
    ∃ w t, exec (step testApp plainText conversation fun _ => refreshPoll) .start race = some w ∧
      exec (step testApp plainText conversation fun _ => refreshPoll) w polling = some t ∧
      w.finals "chat_s_00010101_0001" = [2, 0] ∧
      lastResponse w.stores.sessions "chat_s_00010101_0001" = some (conversation 0).answerId ∧
      lastResponse t.stores.sessions "chat_s_00010101_0001" = some (conversation 0).preparedId ∧
      ¬ NewestKept testApp conversation w ∧ ¬ NewestKept testApp conversation t := by
  let system := step testApp plainText conversation fun _ : Fin 3 => refreshPoll
  have hrun : ((exec system .start race).bind fun w => (exec system w polling).map fun t =>
      ((w.finals "chat_s_00010101_0001", t.finals "chat_s_00010101_0001"),
        lastResponse w.stores.sessions "chat_s_00010101_0001",
        lastResponse t.stores.sessions "chat_s_00010101_0001")) =
      some (([2, 0], [2, 0]), some (conversation 0).answerId,
        some (conversation 0).preparedId) := by
    decide +kernel
  obtain ⟨w, hw, hrun⟩ := Option.bind_eq_some_iff.mp hrun
  obtain ⟨t, ht, hshown⟩ := Option.map_eq_some_iff.mp hrun
  simp only [Prod.mk.injEq] at hshown
  obtain ⟨⟨hfinals, hfinals'⟩, hlast, hlast'⟩ := hshown
  exact ⟨w, t, hw, ht, hfinals, hlast, hlast',
    not_newestKept_of_finals hfinals hlast (by decide +kernel),
    not_newestKept_of_finals hfinals' hlast' (by decide +kernel)⟩

end Meridian.Api.Chat
