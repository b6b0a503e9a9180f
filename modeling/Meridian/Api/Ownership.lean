import Meridian.Api.Interleaving
import Meridian.Api.SessionIds

/-!
# The owner of a session

Interleaved requests and polls over common stores, as in `Meridian.Api.Interleaving`. A save writes
every column of a session from what a request has read before, maybe long before; nevertheless a
session keeps its token and its broker, no id is given to two requests, and a request reads in the
office of its session.

## Main definitions

* `Meridian.Api.SessionOwner`: the columns that settle whose session it is.
* `Meridian.Api.Chat.ChatPc.carried`: the sessions that a request holds.
* `Meridian.Api.Chat.World.Owned`: the invariant.
* `Meridian.Api.Chat.OneOwner`: the property of a run.

## Main results

* `Meridian.Api.Chat.World.Owned.step`: every step keeps the invariant.
* `Meridian.Api.Chat.one_owner`: every run has the property.
-/

namespace Meridian.Api

open Foundations

/-- The columns that settle whose session it is. -/
structure SessionOwner where
  sessionAccessToken : String
  brokerId : String
  officeId : String
  role : String

/-- The owner of a session. -/
def SessionState.owner (session : SessionState) : SessionOwner :=
  ⟨session.sessionAccessToken, session.brokerId, session.officeId, session.role⟩

/-- The owner that is stored for a session. -/
def owners (sessions : SessionTable) (id : String) : Option SessionOwner :=
  (sessions.lookup id).map fun row => row.owner

/-- A save makes the owner that it holds the owner of its session. -/
theorem owners_saveSession {sessions : SessionTable} {session : ChatSession} {now : String} :
    owners (saveSession sessions session now) =
      Function.update (owners sessions) session.sessionId (some session.owner) := by
  funext id
  rw [owners, lookup_saveSession, Function.update_apply]
  split_ifs
  · rfl
  · rfl

/-- A promotion leaves the owners. -/
theorem owners_promoteJobCompletion {sessions : SessionTable}
    {sessionId expectedLastResponseId completedResponseId jobId now : String} :
    owners (promoteJobCompletion sessions sessionId expectedLastResponseId completedResponseId jobId
      now) = owners sessions := by
  funext id
  rw [owners, lookup_promoteJobCompletion, Option.map_map]
  refine congrArg (Option.map · _) (funext fun row => ?_)
  rw [Function.comp_apply]
  split_ifs
  · rfl
  · rfl

namespace Chat

open Db Tools Responses Jobs Autonomy

variable {F : Type} {ι κ : Type*}

/-! ### What a request holds -/

/-- The sessions that a request holds. -/
def ChatPc.carried : ChatPc → List ChatSession
  | .save _ session | .create _ session | .seed _ session _ | .prepare session _
  | .savePending session | .bind session _ | .start session _ | .reread session _
  | .finish session _ => [session]
  | .rereadJob session stored _ => [session, stored]
  | .load | .done _ => []

/-- The identity and the session for which a request is going to read. -/
def ChatPc.reading : ChatPc → Option (TrustedIdentity × ChatSession)
  | .save identity session | .create identity session | .seed identity session _ =>
    some (identity, session)
  | _ => none

variable {app : App} {py : PythonText F} {post : Post} {poll : JobPoll F}
  {stores stores' : Stores F} {identity : TrustedIdentity} {session session' : ChatSession}
  {envelope : Json} {pc pc' : ChatPc} {id : String}

/-- A request goes on with a session of its identity, which it has found with its owner or which is
new. -/
theorem owner_of_admission (h : admission app stores post = .ok (identity, session)) :
    identity.officeId = session.officeId ∧
      ((post.request.sessionId = some session.sessionId ∧
          owners stores.sessions session.sessionId = some session.owner) ∨
        (post.request.sessionId = none ∧
          session.sessionId = sessionIdAt post.now (stores.counters (stamp post.now) + 1))) := by
  have hstate := (admission_eq_ok h).2.1
  refine ⟨(sessionStateForRequest_spec hstate).2.1.symm, ?_⟩
  cases hnamed : post.request.sessionId with
  | none => exact .inr ⟨rfl, sessionId_of_new h hnamed⟩
  | some id =>
    obtain ⟨hid, row, hrow⟩ := exists_row_of_admission h hnamed
    refine .inl ⟨by rw [hid], ?_⟩
    have hget : stores.view.sessions id = some row.toSessionState := congrArg (Option.map _) hrow
    simp only [sessionStateForRequest, hnamed, hget] at hstate
    split at hstate
    · cases hstate
    split at hstate
    · cases hstate
    rw [hid, owners, hrow, Option.map_some]
    have howner := congrArg SessionState.owner (Option.some.inj hstate)
    exact congrArg some howner

theorem eq_of_carried_answered {result : Except ChatError Json}
    (h : session' ∈ (answered session result).carried) : session' = session := by
  cases result with
  | error error => cases h
  | ok envelope =>
    rw [answered] at h
    split_ifs at h
    · exact List.mem_singleton.mp h
    · exact List.mem_singleton.mp h

theorem eq_of_carried_toPrepare
    (h : session' ∈ (toPrepare app post identity session).carried) : session' = session := by
  rw [toPrepare] at h
  split at h
  · cases h
  · exact List.mem_singleton.mp h

theorem reading_answered (result : Except ChatError Json) :
    (answered session result).reading = none := by
  cases result with
  | error error => rfl
  | ok envelope =>
    rw [answered]
    split_ifs
    · rfl
    · rfl

theorem reading_toPrepare : (toPrepare app post identity session).reading = none := by
  rw [toPrepare]
  split
  · rfl
  · rfl

/-- The session is one that the request has held, with the same owner or with that of the row. -/
def HeldOn (stores : Stores F) (pc : ChatPc) (session' : ChatSession) : Prop :=
  ∃ session ∈ pc.carried, session'.sessionId = session.sessionId ∧
    (session'.owner = session.owner ∨
      owners stores.sessions session.sessionId = some session'.owner)

theorem HeldOn.of_eq (hmem : session ∈ pc.carried) (hid : session'.sessionId = session.sessionId)
    (howner : session'.owner = session.owner) : HeldOn stores pc session' :=
  ⟨session, hmem, hid, .inl howner⟩

/-- What a request reads of its session again. -/
theorem HeldOn.getSession (hmem : session ∈ pc.carried) :
    HeldOn stores pc ((stores.getSession session.sessionId).getD session) := by
  rw [Stores.getSession]
  cases hrow : stores.sessions.lookup session.sessionId with
  | none => exact .of_eq hmem rfl rfl
  | some row =>
    refine ⟨session, hmem, sessionId_of_lookup hrow, .inr ?_⟩
    rw [owners, hrow]
    rfl

theorem mem_carried_of_reading (h : pc.reading = some (identity, session)) :
    session ∈ pc.carried := by
  cases pc with
  | save identity session | create identity session | seed identity session metadata =>
    cases h
    exact List.mem_singleton_self _
  | _ => cases h

/-- What a request holds after a step, it has admitted or held before. -/
theorem carried_chatBlock (h : chatBlock app post stores pc = some (stores', pc'))
    (hmem : session' ∈ pc'.carried) :
    (pc = .load ∧ ∃ identity, admission app stores post = .ok (identity, session') ∧
      pc' = .save identity session') ∨ HeldOn stores pc session' := by
  cases chatMove_of_chatBlock h with
  | admitted hadmitted =>
    obtain rfl := List.mem_singleton.mp hmem
    exact .inl ⟨rfl, _, hadmitted, rfl⟩
  | refresh | createSeeds | prepare | bind | start =>
    obtain rfl := List.mem_singleton.mp hmem
    exact .inr (.of_eq (List.mem_singleton_self _) rfl rfl)
  | answer | savePending =>
    obtain rfl := eq_of_carried_answered hmem
    exact .inr (.of_eq (List.mem_singleton_self _) rfl rfl)
  | create | seed =>
    obtain rfl := eq_of_carried_toPrepare hmem
    exact .inr (.of_eq (List.mem_singleton_self _) rfl rfl)
  | reread =>
    obtain rfl := List.mem_singleton.mp hmem
    exact .inr (.getSession (List.mem_singleton_self _))
  | rereadStored =>
    simp only [ChatPc.carried, List.mem_cons, List.not_mem_nil, or_false] at hmem
    rcases hmem with rfl | rfl
    · exact .inr (.of_eq (List.mem_singleton_self _) rfl rfl)
    · exact .inr (.getSession (List.mem_singleton_self _))
  | @rereadJob session stored envelope =>
    obtain rfl := List.mem_singleton.mp hmem
    have hstored : stored ∈ (ChatPc.rereadJob session stored envelope).carried := by
      simp [ChatPc.carried]
    exact .inr (.of_eq hstored rfl rfl)
  | refuse | createFails | finish => cases hmem

/-- A request reads for the identity and the session that it has admitted. -/
theorem reading_chatBlock (h : chatBlock app post stores pc = some (stores', pc'))
    (hreading : pc'.reading = some (identity, session')) :
    (pc = .load ∧ admission app stores post = .ok (identity, session')) ∨
      pc.reading = some (identity, session') := by
  cases chatMove_of_chatBlock h with
  | admitted hadmitted =>
    cases hreading
    exact .inl ⟨rfl, hadmitted⟩
  | refresh | createSeeds => exact .inr hreading
  | answer | savePending =>
    rw [reading_answered] at hreading
    cases hreading
  | create | seed =>
    rw [reading_toPrepare] at hreading
    cases hreading
  | _ => cases hreading

/-- What a request does to the owners: nothing, or it makes the one session that it holds the owner
of that session. Its first save is of the second kind. -/
theorem owners_chatBlock (h : chatBlock app post stores pc = some (stores', pc')) :
    ((∀ identity session, pc ≠ .save identity session) ∧
      owners stores'.sessions = owners stores.sessions) ∨
    ∃ session, pc.carried = [session] ∧ owners stores'.sessions =
      Function.update (owners stores.sessions) session.sessionId (some session.owner) := by
  obtain ⟨hearly, -, hsessions⟩ | ⟨session, now, hearly, -, hsessions⟩ |
    ⟨session, envelope, now, rfl, -, hsessions⟩ := sessions_chatBlock h
  · refine .inl ⟨?_, by rw [hsessions]⟩
    rintro identity session rfl
    cases hearly
  · refine .inr ⟨session, ?_, by rw [hsessions, owners_saveSession]⟩
    cases pc with
    | save identity session => exact congrArg (fun session => [session]) (Option.some.inj hearly)
    | savePending session => exact congrArg (fun session => [session]) (Option.some.inj hearly)
    | _ => cases hearly
  · exact .inr ⟨session, rfl, by rw [hsessions, owners_saveSession]⟩

/-- What a request does to the counters. -/
theorem counters_chatBlock (h : chatBlock app post stores pc = some (stores', pc')) :
    stores'.counters = stores.counters ∨
      (pc = .load ∧ post.request.sessionId = none ∧
        stores'.counters = countedAt stores.counters post.now) := by
  have hcount : (stores.count post).counters = stores.counters ∨
      (post.request.sessionId = none ∧
        (stores.count post).counters = countedAt stores.counters post.now) := by
    rw [Stores.count]
    split_ifs with hnew
    · exact .inr ⟨Option.isNone_iff_eq_none.mp hnew, rfl⟩
    · exact .inl rfl
  cases chatMove_of_chatBlock h with
  | admitted => exact hcount.imp_right fun h => ⟨rfl, h⟩
  | _ => exact .inl rfl

/-- No step takes a count back. -/
theorem counters_le_chatBlock (h : chatBlock app post stores pc = some (stores', pc'))
    (day : String) : stores.counters day ≤ stores'.counters day := by
  obtain hcounters | ⟨-, -, hcounters⟩ := counters_chatBlock h
  · rw [hcounters]
  · rw [hcounters]
    exact le_countedAt day

/-! ### The property and the invariant -/

/-- What is read for a session in an office. -/
def Post.readIn (app : App) (post : Post) (officeId : String) (session : ChatSession) :
    Except ReadError Json :=
  if session.contextBindingState = "stale" then .ok staleResult
  else executeAllowlistedRead ⟨app.py, app.sql, post.readNow⟩ post.db officeId
    (readCall session.toSessionState post.request.prompt)

section Property

variable (app : App) (posts : ι → Post)

/-- The id of the new session that a request is given in its next step. -/
def newSessionId (w : World F ι κ) : Party ι κ → Option String
  | .chat i =>
    match w.chat i with
    | .load =>
      if (posts i).request.sessionId = none then
        (admission app w.stores (posts i)).toOption.map fun admitted => admitted.2.sessionId
      else none
    | _ => none
  | .poll _ => none

/-- A request that names a session reads in the office of that session. -/
def ReadsOwnOffice (w : World F ι κ) : Prop :=
  ∀ i identity session, (w.chat i).reading = some (identity, session) →
    ∀ id ∈ (posts i).request.sessionId, ∃ row, w.stores.sessions.lookup id = some row ∧
      identity.officeId = row.officeId ∧
      (posts i).read app identity session = (posts i).readIn app row.officeId session

/-- In a run from new stores, a session keeps its owner, no id is given twice, and a request reads
in the office of its session. -/
structure OneOwner [DecidableEq ι] [DecidableEq κ] (py : PythonText F) (polls : κ → JobPoll F)
    (labels : List (Party ι κ)) : Prop where
  owner : ∀ pre mid post s t, labels = pre ++ mid ++ post →
    exec (step app py posts polls) .start pre = some s →
    exec (step app py posts polls) s mid = some t → ∀ id row,
      s.stores.sessions.lookup id = some row →
        ∃ row', t.stores.sessions.lookup id = some row' ∧ row'.owner = row.owner
  fresh : ∀ pre first mid second post s t, labels = pre ++ first :: mid ++ second :: post →
    exec (step app py posts polls) .start pre = some s →
    exec (step app py posts polls) s (first :: mid) = some t →
      ∀ id ∈ newSessionId app posts s first, ∀ id' ∈ newSessionId app posts t second, id ≠ id'
  reads : ∀ pre post s, labels = pre ++ post →
    exec (step app py posts polls) .start pre = some s → ReadsOwnOffice app posts s

end Property

section Invariant

variable (posts : ι → Post)

/-- Every id is issued, what a request holds agrees with the rows, and what it holds without a row
is its own. -/
structure World.Owned (w : World F ι κ) : Prop where
  ids : ∀ id owner, owners w.stores.sessions id = some owner → Issued w.stores.counters id
  issued : ∀ i, ∀ session ∈ (w.chat i).carried, Issued w.stores.counters session.sessionId
  stored : ∀ i, ∀ session ∈ (w.chat i).carried, ∀ owner,
    owners w.stores.sessions session.sessionId = some owner → owner = session.owner
  unsaved : ∀ i, ∀ session ∈ (w.chat i).carried,
    owners w.stores.sessions session.sessionId = none →
      (∃ identity, w.chat i = .save identity session) ∧ (posts i).request.sessionId = none ∧
        ∀ j ≠ i, ∀ other ∈ (w.chat j).carried, other.sessionId ≠ session.sessionId
  reading : ∀ i identity session, (w.chat i).reading = some (identity, session) →
    identity.officeId = session.officeId ∧
      ∀ id ∈ (posts i).request.sessionId, session.sessionId = id

end Invariant

variable {posts : ι → Post} {w : World F ι κ} {i j : ι}

/-- An admitted session without a row is new. -/
theorem World.Owned.of_admission (h : w.Owned posts)
    (hadmitted : admission app w.stores post = .ok (identity, session)) :
    owners w.stores.sessions session.sessionId = some session.owner ∨
      (post.request.sessionId = none ∧ ¬ Issued w.stores.counters session.sessionId ∧
        Issued (countedAt w.stores.counters post.now) session.sessionId ∧
        owners w.stores.sessions session.sessionId = none) := by
  obtain ⟨-, ⟨-, howner⟩ | ⟨hnew, hid⟩⟩ := owner_of_admission hadmitted
  · exact .inl howner
  · have hnot : ¬ Issued w.stores.counters session.sessionId := by
      rw [hid]
      exact not_issued_next
    refine .inr ⟨hnew, hnot, by rw [hid]; exact issued_countedAt, ?_⟩
    cases howner : owners w.stores.sessions session.sessionId with
    | none => rfl
    | some owner => exact absurd (h.ids _ owner howner) hnot

/-- A step of a request keeps the owners that are stored. -/
theorem World.Owned.owners_kept (h : w.Owned posts)
    (hblock : chatBlock app (posts i) w.stores (w.chat i) = some (stores', pc'))
    {owner : SessionOwner} (howner : owners w.stores.sessions id = some owner) :
    owners stores'.sessions id = some owner := by
  obtain ⟨-, hsame⟩ | ⟨session, hcarried, hsaved⟩ := owners_chatBlock hblock
  · rw [hsame, howner]
  · rw [hsaved, Function.update_apply]
    split_ifs with hid
    · subst hid
      rw [h.stored i session (by rw [hcarried]; exact List.mem_singleton_self _) owner howner]
    · exact howner

/-- A session that a request holds without a row gets its row in the next step. -/
theorem World.Owned.owners_unsaved (h : w.Owned posts)
    (hblock : chatBlock app (posts i) w.stores (w.chat i) = some (stores', pc'))
    (hmem : session ∈ (w.chat i).carried)
    (hnone : owners w.stores.sessions session.sessionId = none) :
    owners stores'.sessions session.sessionId = some session.owner := by
  obtain ⟨⟨identity, hsave⟩, -⟩ := h.unsaved i session hmem hnone
  obtain ⟨hnot, -⟩ | ⟨session', hcarried, hsaved⟩ := owners_chatBlock hblock
  · exact absurd hsave (hnot identity session)
  · rw [hcarried] at hmem
    obtain rfl := List.mem_singleton.mp hmem
    rw [hsaved, Function.update_self]

/-- What a request holds after a step has an issued id. -/
theorem World.Owned.issued_chatBlock (h : w.Owned posts)
    (hblock : chatBlock app (posts i) w.stores (w.chat i) = some (stores', pc'))
    (hmem : session' ∈ pc'.carried) : Issued stores'.counters session'.sessionId := by
  obtain ⟨hload, identity, hadmitted, -⟩ | ⟨session, hheld, hid, -⟩ := carried_chatBlock hblock hmem
  · obtain howner | ⟨hnew, -, hissued, -⟩ := h.of_admission hadmitted
    · exact (h.ids _ _ howner).mono (counters_le_chatBlock hblock)
    · rw [hload, chatBlock, hadmitted] at hblock
      cases hblock
      rw [Stores.count, if_pos (Option.isNone_iff_eq_none.mpr hnew)]
      exact hissued
  · rw [hid]
    exact (h.issued i session hheld).mono (counters_le_chatBlock hblock)

/-- What a request holds after a step is what its row says, unless the session is new and its first
save comes next. -/
theorem World.Owned.stored_or_new (h : w.Owned posts)
    (hblock : chatBlock app (posts i) w.stores (w.chat i) = some (stores', pc'))
    (hmem : session' ∈ pc'.carried) :
    owners stores'.sessions session'.sessionId = some session'.owner ∨
      ((∃ identity, pc' = .save identity session') ∧ (posts i).request.sessionId = none ∧
        ¬ Issued w.stores.counters session'.sessionId ∧
        owners stores'.sessions session'.sessionId = none) := by
  obtain ⟨hload, identity, hadmitted, hsave⟩ | ⟨session, hheld, hid, howner⟩ :=
    carried_chatBlock hblock hmem
  · obtain howner | ⟨hnew, hnot, -, hnone⟩ := h.of_admission hadmitted
    · exact .inl (h.owners_kept hblock howner)
    · refine .inr ⟨⟨identity, hsave⟩, hnew, hnot, ?_⟩
      obtain ⟨-, hsame⟩ | ⟨session, hcarried, -⟩ := owners_chatBlock hblock
      · rw [hsame, hnone]
      · rw [hload] at hcarried
        cases hcarried
  · left
    rw [hid]
    cases hrow : owners w.stores.sessions session.sessionId with
    | some owner =>
      have hkept := h.owners_kept hblock hrow
      rw [hrow] at howner
      obtain howner | howner := howner
      · rw [hkept, h.stored i session hheld owner hrow, howner]
      · rw [hkept, howner]
    | none =>
      rw [hrow] at howner
      obtain howner | howner := howner
      · rw [h.owners_unsaved hblock hheld hrow, howner]
      · cases howner

/-- A session that another request holds without a row is not touched. -/
theorem World.Owned.ne_of_unsaved (h : w.Owned posts) (hne : j ≠ i)
    (hblock : chatBlock app (posts i) w.stores (w.chat i) = some (stores', pc'))
    (hmem : session ∈ (w.chat j).carried)
    (hnone : owners w.stores.sessions session.sessionId = none) :
    owners stores'.sessions session.sessionId = none ∧
      ∀ other ∈ pc'.carried, other.sessionId ≠ session.sessionId := by
  obtain ⟨-, -, hothers⟩ := h.unsaved j session hmem hnone
  have hother := hothers i hne.symm
  constructor
  · obtain ⟨-, hsame⟩ | ⟨saved, hcarried, hsaved⟩ := owners_chatBlock hblock
    · rw [hsame, hnone]
    · have hsaved_ne : saved.sessionId ≠ session.sessionId :=
        hother saved (by rw [hcarried]; exact List.mem_singleton_self _)
      rw [hsaved, Function.update_of_ne hsaved_ne.symm, hnone]
  · intro other hcarried heq
    obtain ⟨-, identity, hadmitted, -⟩ | ⟨held, hheld, hid, -⟩ := carried_chatBlock hblock hcarried
    · obtain howner | ⟨-, hnot, -⟩ := h.of_admission hadmitted
      · rw [heq, hnone] at howner
        cases howner
      · rw [heq] at hnot
        exact hnot (h.issued j session hmem)
    · exact hother held hheld (hid.symm.trans heq)

variable {w' : World F ι κ}

/-- A poll keeps the invariant: it leaves the owners, the counters and the requests. -/
theorem World.Owned.of_owners_eq (h : w.Owned posts)
    (howners : owners w'.stores.sessions = owners w.stores.sessions)
    (hcounters : w'.stores.counters = w.stores.counters) (hchat : w'.chat = w.chat) :
    w'.Owned posts := by
  constructor
  case ids =>
    rw [howners, hcounters]
    exact h.ids
  case issued =>
    rw [hcounters, hchat]
    exact h.issued
  case stored =>
    rw [howners, hchat]
    exact h.stored
  case unsaved =>
    rw [howners, hchat]
    exact h.unsaved
  case reading =>
    rw [hchat]
    exact h.reading

theorem World.owned_start : (World.start : World F ι κ).Owned posts :=
  ⟨nofun, fun _ _ => nofun, fun _ _ => nofun, fun _ _ => nofun, fun _ _ _ => nofun⟩

/-- What a poll does to the owners and to the counters. -/
theorem owners_pollBlock {pc pc' : PollPc}
    (h : pollBlock app py poll stores pc = some (stores', pc')) :
    owners stores'.sessions = owners stores.sessions := by
  obtain hsessions | ⟨_, _, _, _, -, hsessions⟩ := sessions_pollBlock h
  · rw [hsessions]
  · rw [hsessions, owners_promoteJobCompletion]

theorem counters_pollBlock {pc pc' : PollPc}
    (h : pollBlock app py poll stores pc = some (stores', pc')) :
    stores'.counters = stores.counters := by
  cases pc with
  | load => exact congrArg Stores.counters (of_pollBlock_load h).1
  | done => cases h
  | _ =>
    cases h
    rfl

section Step

variable [DecidableEq ι]

theorem World.Owned.chatStep (h : w.Owned posts)
    (hblock : chatBlock app (posts i) w.stores (w.chat i) = some (stores', pc'))
    (hstores : w'.stores = stores') (hchat : w'.chat = Function.update w.chat i pc') :
    w'.Owned posts := by
  subst hstores
  have hself : w'.chat i = pc' := by rw [hchat, Function.update_self]
  have hother {j : ι} (hne : j ≠ i) : w'.chat j = w.chat j := by
    rw [hchat, Function.update_of_ne hne]
  have hle := counters_le_chatBlock hblock
  have hnone {id : String} (hnone : owners w'.stores.sessions id = none) :
      owners w.stores.sessions id = none := by
    cases howner : owners w.stores.sessions id with
    | none => rfl
    | some owner => exact absurd (h.owners_kept hblock howner) (by rw [hnone]; nofun)
  constructor
  case ids =>
    intro id owner howner
    obtain ⟨-, hsame⟩ | ⟨session, hcarried, hsaved⟩ := owners_chatBlock hblock
    · rw [hsame] at howner
      exact (h.ids id owner howner).mono hle
    · rw [hsaved, Function.update_apply] at howner
      split_ifs at howner with hid
      · rw [hid]
        exact (h.issued i session (by rw [hcarried]; exact List.mem_singleton_self _)).mono hle
      · exact (h.ids id owner howner).mono hle
  case issued =>
    intro j session hmem
    by_cases hj : j = i
    · subst hj
      rw [hself] at hmem
      exact h.issued_chatBlock hblock hmem
    · rw [hother hj] at hmem
      exact (h.issued j session hmem).mono hle
  case stored =>
    intro j session hmem owner howner
    by_cases hj : j = i
    · subst hj
      rw [hself] at hmem
      obtain hrow | ⟨-, -, -, hrow⟩ := h.stored_or_new hblock hmem
      · exact Option.some.inj (howner.symm.trans hrow)
      · cases hrow.symm.trans howner
    · rw [hother hj] at hmem
      cases hrow : owners w.stores.sessions session.sessionId with
      | some owner' =>
        have hkept := h.owners_kept hblock hrow
        rw [← Option.some.inj (hkept.symm.trans howner)]
        exact h.stored j session hmem owner' hrow
      | none =>
        rw [(h.ne_of_unsaved hj hblock hmem hrow).1] at howner
        cases howner
  case unsaved =>
    intro j session hmem hrow
    by_cases hj : j = i
    · subst hj
      rw [hself] at hmem ⊢
      obtain howner | ⟨hsave, hnew, hnot, -⟩ := h.stored_or_new hblock hmem
      · rw [hrow] at howner
        cases howner
      · refine ⟨hsave, hnew, fun k hk other hmem' heq => hnot ?_⟩
        rw [hother hk] at hmem'
        rw [← heq]
        exact h.issued k other hmem'
    · rw [hother hj] at hmem ⊢
      obtain ⟨hsave, hnew, hothers⟩ := h.unsaved j session hmem (hnone hrow)
      refine ⟨hsave, hnew, fun k hk other hmem' => ?_⟩
      by_cases hki : k = i
      · subst hki
        rw [hself] at hmem'
        exact (h.ne_of_unsaved hj hblock hmem (hnone hrow)).2 other hmem'
      · rw [hother hki] at hmem'
        exact hothers k hk other hmem'
  case reading =>
    intro j identity session hreading
    by_cases hj : j = i
    · subst hj
      rw [hself] at hreading
      obtain ⟨-, hadmitted⟩ | hbefore := reading_chatBlock hblock hreading
      · refine ⟨(owner_of_admission hadmitted).1, fun id hid => ?_⟩
        exact (exists_row_of_admission hadmitted hid).1
      · exact h.reading j identity session hbefore
    · rw [hother hj] at hreading
      exact h.reading j identity session hreading

end Step

/-! ### Runs -/

section Run

variable [DecidableEq ι] [DecidableEq κ] {polls : κ → JobPoll F} {party : Party ι κ}
  {labels : List (Party ι κ)}

/-- **Every step keeps the invariant.** -/
theorem World.Owned.step (h : w.Owned posts)
    (hstep : Chat.step app py posts polls w party = some w') : w'.Owned posts := by
  cases party with
  | chat i =>
    obtain ⟨⟨stores', pc'⟩, hblock, rfl⟩ := Option.map_eq_some_iff.mp hstep
    exact h.chatStep hblock rfl rfl
  | poll k =>
    obtain ⟨⟨stores', pc'⟩, hblock, rfl⟩ := Option.map_eq_some_iff.mp hstep
    exact h.of_owners_eq (owners_pollBlock hblock) (counters_pollBlock hblock) rfl

/-- A step keeps the owners that are stored, and takes no count back. -/
theorem World.Owned.step_kept (h : w.Owned posts)
    (hstep : Chat.step app py posts polls w party = some w') :
    (∀ id owner, owners w.stores.sessions id = some owner →
      owners w'.stores.sessions id = some owner) ∧
      ∀ day, w.stores.counters day ≤ w'.stores.counters day := by
  cases party with
  | chat i =>
    obtain ⟨⟨stores', pc'⟩, hblock, rfl⟩ := Option.map_eq_some_iff.mp hstep
    exact ⟨fun id owner => h.owners_kept hblock, counters_le_chatBlock hblock⟩
  | poll k =>
    obtain ⟨⟨stores', pc'⟩, hblock, rfl⟩ := Option.map_eq_some_iff.mp hstep
    exact ⟨fun id owner howner => (congrFun (owners_pollBlock hblock) id).trans howner,
      fun day => (congrFun (counters_pollBlock hblock) day).ge⟩

theorem World.Owned.exec (h : w.Owned posts)
    (hexec : exec (Chat.step app py posts polls) w labels = some w') : w'.Owned posts :=
  exec_invariant (fun w : World F ι κ => w.Owned posts) (fun _ _ _ hs hstep => hs.step hstep) h
    hexec

/-- A run keeps the owners that are stored, and takes no count back. -/
theorem World.Owned.exec_kept (h : w.Owned posts)
    (hexec : Foundations.exec (Chat.step app py posts polls) w labels = some w') :
    (∀ id owner, owners w.stores.sessions id = some owner →
      owners w'.stores.sessions id = some owner) ∧
      ∀ day, w.stores.counters day ≤ w'.stores.counters day := by
  induction labels generalizing w with
  | nil =>
    cases hexec
    exact ⟨fun _ _ howner => howner, fun _ => le_rfl⟩
  | cons party labels ih =>
    obtain ⟨v, hstep, hexec⟩ := exec_cons_eq_some.mp hexec
    obtain ⟨hkept, hle⟩ := h.step_kept hstep
    obtain ⟨hkept', hle'⟩ := ih (h.step hstep) hexec
    exact ⟨fun id owner howner => hkept' id owner (hkept id owner howner),
      fun day => (hle day).trans (hle' day)⟩

omit [DecidableEq ι] [DecidableEq κ] in
/-- A request that is given an id is admitted without a session. -/
theorem exists_admission_of_newSessionId (h : newSessionId app posts w party = some id) :
    ∃ i identity session, party = .chat i ∧ w.chat i = .load ∧
      (posts i).request.sessionId = none ∧
      admission app w.stores (posts i) = .ok (identity, session) ∧ session.sessionId = id := by
  cases party with
  | poll k => cases h
  | chat i =>
    simp only [newSessionId] at h
    split at h
    · next hload =>
      split_ifs at h with hnew
      obtain ⟨⟨identity, session⟩, hadmitted, hid⟩ := Option.map_eq_some_iff.mp h
      refine ⟨i, identity, session, rfl, hload, hnew, ?_, hid⟩
      cases hresult : admission app w.stores (posts i) with
      | error failure =>
        rw [hresult] at hadmitted
        cases hadmitted
      | ok admitted =>
        rw [hresult] at hadmitted
        exact congrArg Except.ok (Option.some.inj hadmitted)
    · cases h

omit [DecidableEq ι] [DecidableEq κ] in
/-- The id that a request is given is not issued before. -/
theorem not_issued_of_newSessionId (h : newSessionId app posts w party = some id) :
    ¬ Issued w.stores.counters id := by
  obtain ⟨i, identity, session, -, -, hnew, hadmitted, rfl⟩ := exists_admission_of_newSessionId h
  rw [sessionId_of_new hadmitted hnew]
  exact not_issued_next

/-- It is issued afterwards. -/
theorem World.Owned.issued_of_newSessionId (h : w.Owned posts)
    (hid : newSessionId app posts w party = some id)
    (hstep : Chat.step app py posts polls w party = some w') : Issued w'.stores.counters id := by
  obtain ⟨i, identity, session, rfl, hload, hnew, hadmitted, rfl⟩ :=
    exists_admission_of_newSessionId hid
  obtain ⟨⟨stores', pc'⟩, hblock, rfl⟩ := Option.map_eq_some_iff.mp hstep
  refine h.issued_chatBlock hblock ?_
  rw [hload, chatBlock, hadmitted] at hblock
  cases hblock
  exact List.mem_singleton_self _

/-- **One owner.** In every interleaving of any requests and polls, a stored session keeps its
token, its broker, its office and its role, no two requests are given the same new id, and a request
that names a session reads in the office of that session. -/
theorem one_owner (labels : List (Party ι κ)) : OneOwner app posts py polls labels := by
  constructor
  case owner =>
    intro pre mid post s t _ hpre hmid id row hrow
    have hs : s.Owned posts := World.owned_start.exec hpre
    have howner : owners s.stores.sessions id = some row.owner := by rw [owners, hrow]; rfl
    obtain ⟨row', hrow', hsame⟩ := Option.map_eq_some_iff.mp ((hs.exec_kept hmid).1 id _ howner)
    exact ⟨row', hrow', hsame⟩
  case fresh =>
    intro pre first mid second post s t _ hpre hmid id hid id' hid' heq
    have hs : s.Owned posts := World.owned_start.exec hpre
    obtain ⟨v, hfirst, hmid⟩ := exec_cons_eq_some.mp hmid
    have hissued := hs.issued_of_newSessionId hid hfirst
    refine not_issued_of_newSessionId hid' (Issued.mono ?_ ((hs.step hfirst).exec_kept hmid).2)
    rwa [← heq]
  case reads =>
    intro pre post s _ hpre i identity session hreading id hid
    have hs : s.Owned posts := World.owned_start.exec hpre
    obtain ⟨hoffice, hnamed⟩ := hs.reading i identity session hreading
    have hmem : session ∈ (s.chat i).carried := mem_carried_of_reading hreading
    cases hrow : owners s.stores.sessions session.sessionId with
    | none =>
      have hnew := (hs.unsaved i session hmem hrow).2.1
      rw [hnew] at hid
      cases hid
    | some owner =>
      have howner := hs.stored i session hmem owner hrow
      rw [hnamed id hid] at hrow
      obtain ⟨row, hlookup, rfl⟩ := Option.map_eq_some_iff.mp hrow
      have hrowOffice : identity.officeId = row.officeId :=
        hoffice.trans (congrArg SessionOwner.officeId howner).symm
      refine ⟨row, hlookup, hrowOffice, ?_⟩
      rw [← hrowOffice]
      rfl

end Run

end Chat

end Meridian.Api
