import Meridian.Api.SessionIds
import Meridian.Api.SessionTable
import Meridian.Foundations.TableUpdates

/-!
# Sessions across restarts

The columns of `chat_sessions` and `chat_session_counters` under all calls of
`InMemorySessionStore` in `backend/app/session/store.py`, and under the schema check that every new
store object makes over the same database. The check gives a token to each row that has none, in
one transaction; a column that is missing is added without values, so its rows have none.

## Main definitions

* `Meridian.Api.StoredSession`: a row, as the columns are declared.
* `Meridian.Api.getSession`, `Meridian.Api.getSessionByAccessToken`: what is read of it.
* `Meridian.Api.ensureSchema`: what a new store object does to the database.
* `Meridian.Api.databaseStep`: one call, or a restart.

## Main results

* `Meridian.Api.ids_unique_across_restarts`: no session id is given twice.
* `Meridian.Api.access_kept_iff`, `Meridian.Api.legacy_session_opens_iff`: in a run, the tokens that
  open a session.
* `Meridian.Api.database_reads_as_table`: over the columns and with restarts, the store reads as the
  table of sessions does without them.
-/

namespace Meridian.Api

open Foundations

/-! ### Rows -/

/-- A row of `chat_sessions`. The time of the last update is missing in no row that the store has
written. -/
structure StoredSession where
  sessionId : String
  sessionAccessToken : Option String
  brokerId : String
  officeId : String
  role : String
  currentModule : String
  conversationScope : String
  contextBindingState : String
  screenSyncState : String
  activeResourceType : Option String
  activeResourceId : Option String
  activeResourceFingerprint : Option String
  lastResponseId : Option String
  lastJobId : Option String
  createdAt : String
  updatedAt : Option String

/-- The table, by its primary key. -/
abbrev StoredSessions := KeyedTable StoredSession.sessionId

/-- What `get_session` makes of a row. -/
structure LoadedSession where
  sessionId : String
  sessionAccessToken : Option String
  brokerId : String
  officeId : String
  role : String
  currentModule : String
  conversationScope : String
  contextBindingState : String
  screenSyncState : String
  activeResource : Option (String × Option String × Option String)
  lastResponseId : Option String
  lastJobId : Option String
  deriving DecidableEq

/-- The object that `get_session` returns for a row. -/
def StoredSession.load (row : StoredSession) : LoadedSession where
  sessionId := row.sessionId
  sessionAccessToken := row.sessionAccessToken
  brokerId := row.brokerId
  officeId := row.officeId
  role := row.role
  currentModule := row.currentModule
  conversationScope := row.conversationScope
  contextBindingState := row.contextBindingState
  screenSyncState := row.screenSyncState
  activeResource := row.activeResourceType.map fun resourceType =>
    (resourceType, row.activeResourceId, row.activeResourceFingerprint)
  lastResponseId := row.lastResponseId
  lastJobId := row.lastJobId

/-- A session as `get_session` returns it. -/
def ChatSession.loaded (session : ChatSession) : LoadedSession where
  sessionId := session.sessionId
  sessionAccessToken := some session.sessionAccessToken
  brokerId := session.brokerId
  officeId := session.officeId
  role := session.role
  currentModule := session.currentModule
  conversationScope := session.conversationScope
  contextBindingState := session.contextBindingState
  screenSyncState := session.screenSyncState
  activeResource := session.activeResource.map fun resource =>
    (resource.resourceType.text, some resource.resourceId, some resource.resourceFingerprint)
  lastResponseId := session.lastResponseId
  lastJobId := session.lastJobId

/-- The columns of a session, with `_resource_columns`. -/
def ChatSession.columns (session : ChatSession) (createdAt now : String) : StoredSession where
  sessionId := session.sessionId
  sessionAccessToken := some session.sessionAccessToken
  brokerId := session.brokerId
  officeId := session.officeId
  role := session.role
  currentModule := session.currentModule
  conversationScope := session.conversationScope
  contextBindingState := session.contextBindingState
  screenSyncState := session.screenSyncState
  activeResourceType := session.activeResource.map fun resource => resource.resourceType.text
  activeResourceId := session.activeResource.map fun resource => resource.resourceId
  activeResourceFingerprint := session.activeResource.map fun resource =>
    resource.resourceFingerprint
  lastResponseId := session.lastResponseId
  lastJobId := session.lastJobId
  createdAt := createdAt
  updatedAt := some now

/-! ### Calls -/

/-- `get_session`. -/
def getSession (rows : StoredSessions) (sessionId : String) : Option LoadedSession :=
  (rows.lookup sessionId).map StoredSession.load

/-- `get_session_by_access_token`; no token equals `NULL`. -/
def getSessionByAccessToken (rows : StoredSessions) (sessionId sessionAccessToken : String) :
    Option LoadedSession :=
  ((rows.lookup sessionId).filter fun row => row.sessionAccessToken = some sessionAccessToken).map
    StoredSession.load

/-- `save_session`: an `INSERT` that updates on a conflict, and then keeps the key and the time of
creation. -/
def storeSession (rows : StoredSessions) (session : ChatSession) (now : String) : StoredSessions :=
  let createdAt := ((rows.lookup session.sessionId).map StoredSession.createdAt).getD now
  match rows.insert? (session.columns createdAt now) with
  | some rows' => rows'
  | none =>
    rows.modify session.sessionId
      (fun row => { session.columns row.createdAt now with sessionId := row.sessionId })
      fun _ => rfl

/-- `promote_job_completion`. -/
def promoteSession (rows : StoredSessions) (sessionId expectedLastResponseId completedResponseId
    jobId now : String) : StoredSessions :=
  rows.modify sessionId
    (fun row =>
      if row.lastResponseId = some expectedLastResponseId then
        { row with
          lastResponseId := some completedResponseId
          lastJobId := some jobId
          updatedAt := some now }
      else row)
    fun row => by split <;> rfl

/-- Whether the schema check gives the row a token. -/
def StoredSession.lacksToken (row : StoredSession) : Bool :=
  row.sessionAccessToken = none || row.sessionAccessToken = some ""

/-- A row with the token that was drawn for it. -/
def StoredSession.withToken (draw : String → AccessToken) (now : String) (row : StoredSession) :
    StoredSession :=
  { row with
    sessionAccessToken := some (draw row.sessionId)
    updatedAt := some (row.updatedAt.getD now) }

/-- `_backfill_session_access_tokens`: one statement for each row that the query has selected, with
the tokens that are drawn for them. -/
def backfillSessionAccessTokens (rows : StoredSessions) (draw : String → AccessToken)
    (now : String) : StoredSessions :=
  rows.modifyEach (rows.select StoredSession.lacksToken) (StoredSession.withToken draw now)
    fun _ => rfl

/-! ### Runs -/

/-- The database, with the ids that `next_session_id` has given. -/
structure SessionDatabase where
  rows : StoredSessions
  counters : String → ℕ
  given : List String

/-- `_ensure_schema` over a database that has the tables, or has just been given them. -/
def ensureSchema (db : SessionDatabase) (draw : String → AccessToken) (now : String) :
    SessionDatabase :=
  { db with rows := backfillSessionAccessTokens db.rows draw now }

/-- The calls that write, and a new store object. -/
inductive DatabaseCall
  | nextSessionId (now : UtcTime)
  | saveSession (session : ChatSession) (now : String)
  | promoteJobCompletion (sessionId expectedLastResponseId completedResponseId jobId now : String)
  | reset
  | restart (draw : String → AccessToken) (now : String)

/-- One call. -/
def databaseStep (db : SessionDatabase) : DatabaseCall → Option SessionDatabase
  | .nextSessionId now =>
    let counters := countedAt db.counters now
    some { db with
      counters := counters
      given := db.given ++ [sessionIdAt now (counters (stamp now))] }
  | .saveSession session now => some { db with rows := storeSession db.rows session now }
  | .promoteJobCompletion sessionId expectedLastResponseId completedResponseId jobId now =>
    some { db with
      rows := promoteSession db.rows sessionId expectedLastResponseId completedResponseId jobId
        now }
  | .reset => some { db with rows := db.rows.delete fun _ => true }
  | .restart draw now => some (ensureSchema db draw now)

variable {rows : StoredSessions} {session : ChatSession} {row : StoredSession}
  {db db' : SessionDatabase} {call : DatabaseCall} {draw : String → AccessToken}
  {now sessionId token : String}

/-! ### What a call does to each row -/

/-- The time of creation that a save keeps. -/
def createdAtOf (rows : StoredSessions) (sessionId now : String) : String :=
  ((rows.lookup sessionId).map StoredSession.createdAt).getD now

/-- A save writes the row of its session and no other. -/
theorem lookup_storeSession (id : String) : (storeSession rows session now).lookup id =
    if id = session.sessionId then
      some (session.columns (createdAtOf rows session.sessionId now) now)
    else rows.lookup id := by
  have hkey (createdAt : String) : (session.columns createdAt now).sessionId = session.sessionId :=
    rfl
  rw [storeSession]
  split
  · next hinsert => rw [KeyedTable.lookup_insert? hinsert, hkey, createdAtOf]
  · next hinsert =>
    obtain ⟨row, hrow⟩ := KeyedTable.insert?_eq_none.mp hinsert
    rw [hkey] at hrow
    rw [KeyedTable.lookup_modify]
    by_cases hid : id = session.sessionId
    · have hid' : row.sessionId = session.sessionId := KeyedTable.key_of_lookup hrow
      rw [if_pos hid, if_pos hid, hid, createdAtOf, hrow, Option.map_some, Option.map_some,
        Option.getD_some, hid']
      rfl
    · rw [if_neg hid, if_neg hid]

/-- The columns of a session give the session back. -/
theorem load_columns {createdAt : String} :
    (session.columns createdAt now).load = session.loaded := by
  cases hresource : session.activeResource with
  | none => simp only [StoredSession.load, ChatSession.columns, ChatSession.loaded, hresource,
      Option.map_none]
  | some resource => simp only [StoredSession.load, ChatSession.columns, ChatSession.loaded,
      hresource, Option.map_some]

/-- What was saved is read, whatever was stored, and every other session is left alone. -/
theorem getSession_storeSession (id : String) : getSession (storeSession rows session now) id =
    if id = session.sessionId then some session.loaded else getSession rows id := by
  rw [getSession, lookup_storeSession]
  split_ifs with hid
  · rw [Option.map_some, load_columns]
  · rfl

/-- After the schema check no row lacks a token, and nothing else has changed but where the time of
an update was missing. -/
theorem lookup_backfill (id : String) : (backfillSessionAccessTokens rows draw now).lookup id =
    (rows.lookup id).map fun row =>
      if row.lacksToken then row.withToken draw now else row :=
  KeyedTable.lookup_modifyEach_select

/-- A token that was drawn is not empty. -/
theorem accessToken_ne_empty (drawn : AccessToken) : (drawn : String) ≠ "" := by
  intro h
  have hlength := drawn.2
  rw [h] at hlength
  cases hlength

theorem lacksToken_withToken : (row.withToken draw now).lacksToken = false := by
  simp [StoredSession.lacksToken, StoredSession.withToken, accessToken_ne_empty]

/-- **A second restart changes nothing.** -/
theorem ensureSchema_idempotent (draw' : String → AccessToken) (now' : String) :
    ensureSchema (ensureSchema db draw now) draw' now' = ensureSchema db draw now := by
  have hrows : backfillSessionAccessTokens (backfillSessionAccessTokens db.rows draw now) draw'
      now' = backfillSessionAccessTokens db.rows draw now := by
    refine KeyedTable.ext_lookup KeyedTable.keys_modifyEach fun id => ?_
    rw [lookup_backfill, lookup_backfill, Option.map_map]
    congr 1
    funext row
    by_cases hlacks : row.lacksToken = true
    · simp only [Function.comp_apply, hlacks, if_true, lacksToken_withToken, Bool.false_eq_true,
        if_false]
    · simp only [Function.comp_apply, hlacks, if_false, Bool.false_eq_true]
  rw [ensureSchema, ensureSchema, hrows]

/-! ### Session ids -/

/-- The ids given so far differ, the counters know them, and those given before are not among
them. -/
structure IdsSound (counters : String → ℕ) (db : SessionDatabase) : Prop where
  nodup : db.given.Nodup
  counted : ∀ id ∈ db.given, Issued db.counters id
  fresh : ∀ id ∈ db.given, ¬ Issued counters id
  grown : ∀ day, counters day ≤ db.counters day

variable {counters : String → ℕ}

/-- Only `next_session_id` gives ids and counts. -/
theorem databaseStep_ids (hstep : databaseStep db call = some db') :
    (∃ now, call = .nextSessionId now ∧ db'.counters = countedAt db.counters now ∧
      db'.given = db.given ++ [sessionIdAt now (db.counters (stamp now) + 1)]) ∨
    db'.counters = db.counters ∧ db'.given = db.given := by
  cases call with
  | nextSessionId now =>
    obtain rfl := Option.some.inj hstep
    have hindex : countedAt db.counters now (stamp now) = db.counters (stamp now) + 1 := by
      rw [countedAt, Function.update_self]
    exact .inl ⟨now, rfl, rfl, by rw [← hindex]⟩
  | saveSession session now =>
    obtain rfl := Option.some.inj hstep
    exact .inr ⟨rfl, rfl⟩
  | promoteJobCompletion id expected completed jobId now =>
    obtain rfl := Option.some.inj hstep
    exact .inr ⟨rfl, rfl⟩
  | reset =>
    obtain rfl := Option.some.inj hstep
    exact .inr ⟨rfl, rfl⟩
  | restart draw now =>
    obtain rfl := Option.some.inj hstep
    exact .inr ⟨rfl, rfl⟩

/-- Every call keeps the ids sound. -/
theorem IdsSound.step (h : IdsSound counters db) (hstep : databaseStep db call = some db') :
    IdsSound counters db' := by
  rcases databaseStep_ids hstep with ⟨now, -, hcounters, hgiven⟩ | ⟨hcounters, hgiven⟩
  · have hnew : ¬ Issued db.counters (sessionIdAt now (db.counters (stamp now) + 1)) :=
      not_issued_next
    refine ⟨?_, fun id hid => ?_, fun id hid => ?_, fun day => ?_⟩
    · rw [hgiven, List.nodup_append]
      refine ⟨h.nodup, List.nodup_singleton _, fun id hid id' hid' => ?_⟩
      rintro rfl
      rw [List.mem_singleton] at hid'
      exact hnew (hid' ▸ h.counted id hid)
    · rw [hcounters]
      rw [hgiven] at hid
      rcases List.mem_append.mp hid with hold | hid
      · exact (h.counted id hold).mono le_countedAt
      · rw [List.mem_singleton.mp hid]
        exact issued_countedAt
    · rw [hgiven] at hid
      rcases List.mem_append.mp hid with hold | hid
      · exact h.fresh id hold
      · rw [List.mem_singleton.mp hid]
        exact fun hissued => hnew (hissued.mono h.grown)
    · rw [hcounters]
      exact (h.grown day).trans (le_countedAt day)
  · refine ⟨hgiven ▸ h.nodup, fun id hid => ?_, fun id hid => h.fresh id (hgiven ▸ hid),
      fun day => hcounters ▸ h.grown day⟩
    rw [hcounters]
    exact h.counted id (hgiven ▸ hid)

/-- **No session id is given twice**, whatever is saved, promoted or reset in between, and however
often the store is opened again over the database. -/
theorem ids_unique_across_restarts (hgiven : db.given = []) {calls : List DatabaseCall}
    (hexec : exec databaseStep db calls = some db') :
    db'.given.Nodup ∧ ∀ id ∈ db'.given, ¬ Issued db.counters id := by
  have hstart : IdsSound db.counters db := by
    refine ⟨?_, ?_, ?_, fun day => le_rfl⟩ <;> simp [hgiven]
  have h := exec_invariant (IdsSound db.counters) (fun _ _ _ h => h.step) hstart hexec
  exact ⟨h.nodup, h.fresh⟩

/-- The database that has just been created. -/
def SessionDatabase.new : SessionDatabase := ⟨KeyedTable.empty, fun _ => 0, []⟩

theorem ids_unique_across_restarts_reset :
    ∃ db', exec databaseStep .new [.nextSessionId UtcTime.first, .reset,
        .nextSessionId UtcTime.first] = some db' ∧
      db'.given.Nodup ∧ ∀ id ∈ db'.given, ¬ Issued SessionDatabase.new.counters id := by
  have hexec : exec databaseStep .new [.nextSessionId UtcTime.first, .reset,
      .nextSessionId UtcTime.first] = some _ := rfl
  exact ⟨_, hexec, ids_unique_across_restarts rfl hexec⟩

/-! ### Tokens -/

/-- The token of a session after the calls: that of its last save. -/
def lastToken (sessionId : String) : String → List DatabaseCall → String
  | token, [] => token
  | token, .saveSession session _ :: calls =>
    lastToken sessionId
      (if session.sessionId = sessionId then session.sessionAccessToken else token) calls
  | token, _ :: calls => lastToken sessionId token calls

/-- The session is stored with the token. -/
def OpensWith (rows : StoredSessions) (sessionId token : String) : Prop :=
  token ≠ "" ∧ ∃ row, rows.lookup sessionId = some row ∧ row.sessionAccessToken = some token

/-- A call that does not save this session without a token. -/
def DatabaseCall.SavesTokenOf (sessionId : String) : DatabaseCall → Prop
  | saveSession session _ => session.sessionId = sessionId → session.sessionAccessToken ≠ ""
  | _ => True

theorem getSessionByAccessToken_isSome_iff (h : OpensWith rows sessionId token) (token' : String) :
    (getSessionByAccessToken rows sessionId token').isSome = true ↔ token' = token := by
  obtain ⟨-, row, hrow, htoken⟩ := h
  rw [getSessionByAccessToken, hrow, Option.isSome_map, Option.filter_some, htoken]
  by_cases heq : token' = token
  · simp [heq]
  · simp [heq, Ne.symm heq]

/-- A call keeps the session, with the token that it saves or the one before. -/
theorem OpensWith.step (h : OpensWith db.rows sessionId token)
    (hcall : call.SavesTokenOf sessionId) (hreset : call ≠ .reset)
    (hstep : databaseStep db call = some db') :
    OpensWith db'.rows sessionId (lastToken sessionId token [call]) := by
  obtain ⟨hne, row, hrow, htoken⟩ := h
  cases call with
  | nextSessionId now =>
    obtain rfl := Option.some.inj hstep
    exact ⟨hne, row, hrow, htoken⟩
  | saveSession session now =>
    obtain rfl := Option.some.inj hstep
    by_cases hid : session.sessionId = sessionId
    · refine ⟨?_, session.columns (createdAtOf db.rows session.sessionId now) now, ?_, ?_⟩
      · have htoken' : session.sessionAccessToken ≠ "" := hcall hid
        simpa only [lastToken, hid, if_true] using htoken'
      · rw [lookup_storeSession, if_pos hid.symm]
      · simp only [lastToken, hid, if_true, ChatSession.columns]
    · refine ⟨?_, row, ?_, ?_⟩
      · simpa only [lastToken, hid, if_false] using hne
      · rw [lookup_storeSession, if_neg (Ne.symm hid), hrow]
      · simpa only [lastToken, hid, if_false] using htoken
  | promoteJobCompletion id expected completed jobId now =>
    obtain rfl := Option.some.inj hstep
    have hlookup : (promoteSession db.rows id expected completed jobId now).lookup sessionId =
        if sessionId = id then _ else _ := KeyedTable.lookup_modify
    by_cases hid : sessionId = id
    · rw [if_pos hid, hrow, Option.map_some] at hlookup
      refine ⟨hne, _, hlookup, ?_⟩
      split_ifs
      · exact htoken
      · exact htoken
    · rw [if_neg hid, hrow] at hlookup
      exact ⟨hne, row, hlookup, htoken⟩
  | reset => exact absurd rfl hreset
  | restart draw now =>
    obtain rfl := Option.some.inj hstep
    have hlacks : row.lacksToken = false := by simp [StoredSession.lacksToken, htoken, hne]
    refine ⟨hne, row, ?_, htoken⟩
    show (backfillSessionAccessTokens db.rows draw now).lookup sessionId = some row
    rw [lookup_backfill, hrow, Option.map_some, hlacks]
    rfl

theorem lastToken_cons (call : DatabaseCall) (calls : List DatabaseCall) :
    lastToken sessionId token (call :: calls) =
      lastToken sessionId (lastToken sessionId token [call]) calls := by
  cases call <;> rfl

theorem OpensWith.exec {calls : List DatabaseCall} (h : OpensWith db.rows sessionId token)
    (hcalls : ∀ call ∈ calls, call.SavesTokenOf sessionId) (hreset : .reset ∉ calls)
    (hexec : exec databaseStep db calls = some db') :
    OpensWith db'.rows sessionId (lastToken sessionId token calls) := by
  induction calls generalizing db token with
  | nil =>
    obtain rfl := Option.some.inj hexec
    exact h
  | cons call calls ih =>
    obtain ⟨db₁, hstep, hexec⟩ := exec_cons_eq_some.mp hexec
    rw [lastToken_cons]
    have hne : call ≠ .reset := fun heq => hreset (heq ▸ List.mem_cons_self)
    exact ih (h.step (hcalls call List.mem_cons_self) hne hstep)
      (fun call' hcall' => hcalls call' (List.mem_cons_of_mem _ hcall'))
      (fun hmem => hreset (List.mem_cons_of_mem _ hmem)) hexec

/-- **The tokens that open a session.** In every run that does not save the session without a token,
and without a reset, over any restarts, exactly the token of its last save does, or if it was not
saved again the token that it was stored with. -/
theorem access_kept_iff {calls : List DatabaseCall} {token' : String}
    (h : OpensWith db.rows sessionId token)
    (hcalls : ∀ call ∈ calls, call.SavesTokenOf sessionId) (hreset : .reset ∉ calls)
    (hexec : exec databaseStep db calls = some db') :
    (getSessionByAccessToken db'.rows sessionId token').isSome = true ↔
      token' = lastToken sessionId token calls :=
  getSessionByAccessToken_isSome_iff (h.exec hcalls hreset hexec) token'

/-- A session with the given token. -/
def brokerSession (sessionAccessToken : String) : ChatSession where
  sessionId := "chat_s_20260301_0001"
  sessionAccessToken := sessionAccessToken
  brokerId := "broker-123"
  officeId := "memphis"
  role := "broker"
  conversationScope := "global"
  contextBindingState := "missing"
  screenSyncState := "not_applicable"
  activeResource := none
  currentModule := "dispatch_board"
  lastResponseId := none
  lastJobId := none

/-- A database with one row. -/
def SessionDatabase.single (row : StoredSession) : SessionDatabase :=
  ⟨⟨[row], List.nodup_singleton _⟩, fun _ => 0, []⟩

/-- A token of the length that is drawn. -/
def drawnToken : AccessToken := ⟨"kV2s8Qp0Zr4tYw6xBn1mLc3dFg5hJk7e", by decide⟩

theorem access_kept_iff_renewed :
    ∃ db', exec databaseStep (.single ((brokerSession "token-1").columns "t0" "t0"))
        [.restart (fun _ => drawnToken) "t1", .saveSession (brokerSession "token-2") "t2"] =
          some db' ∧
      ((getSessionByAccessToken db'.rows "chat_s_20260301_0001" "token-1").isSome = true ↔
        "token-1" = "token-2") := by
  have hopens : OpensWith
      (SessionDatabase.single ((brokerSession "token-1").columns "t0" "t0")).rows
      "chat_s_20260301_0001" "token-1" := ⟨by decide, _, rfl, rfl⟩
  have hexec : exec databaseStep (.single ((brokerSession "token-1").columns "t0" "t0"))
      [.restart (fun _ => drawnToken) "t1", .saveSession (brokerSession "token-2") "t2"] =
        some _ := rfl
  refine ⟨_, hexec, access_kept_iff hopens ?_ ?_ hexec⟩
  · simp [DatabaseCall.SavesTokenOf, brokerSession]
  · simp

/-- Before a restart no token opens a session from before there were tokens, and after it the one
that was drawn does. -/
theorem opensWith_ensureSchema (hrow : db.rows.lookup sessionId = some row)
    (hlegacy : row.sessionAccessToken = none) :
    getSessionByAccessToken db.rows sessionId token = none ∧
      OpensWith (ensureSchema db draw now).rows sessionId (draw sessionId) := by
  have hid : row.sessionId = sessionId := KeyedTable.key_of_lookup hrow
  have hlacks : row.lacksToken = true := by simp [StoredSession.lacksToken, hlegacy]
  have hlookup : (ensureSchema db draw now).rows.lookup sessionId =
      some (row.withToken draw now) := by
    show (backfillSessionAccessTokens db.rows draw now).lookup sessionId = _
    rw [lookup_backfill, hrow, Option.map_some, hlacks]
    rfl
  refine ⟨?_, accessToken_ne_empty _, _, hlookup, ?_⟩
  · rw [getSessionByAccessToken, hrow, Option.filter_some, hlegacy]
    simp
  · simp only [StoredSession.withToken, hid]

/-- **A session from before there were tokens.** No token opens it; from the next restart on exactly
the token that was drawn for it does, until the session is saved with another. -/
theorem legacy_session_opens_iff {calls : List DatabaseCall} {token' : String}
    (hrow : db.rows.lookup sessionId = some row) (hlegacy : row.sessionAccessToken = none)
    (hcalls : ∀ call ∈ calls, call.SavesTokenOf sessionId) (hreset : .reset ∉ calls)
    (hexec : exec databaseStep db (.restart draw now :: calls) = some db') :
    getSessionByAccessToken db.rows sessionId token' = none ∧
      ((getSessionByAccessToken db'.rows sessionId token').isSome = true ↔
        token' = lastToken sessionId (draw sessionId) calls) := by
  obtain ⟨db₁, hstep, hexec⟩ := exec_cons_eq_some.mp hexec
  obtain rfl := Option.some.inj hstep
  obtain ⟨hnone, hopens⟩ := opensWith_ensureSchema hrow hlegacy
  exact ⟨hnone, getSessionByAccessToken_isSome_iff (hopens.exec hcalls hreset hexec) token'⟩

/-- A row from before there were tokens. -/
def legacyRow : StoredSession :=
  { (brokerSession "").columns "t0" "t0" with sessionAccessToken := none }

theorem legacy_session_opens_iff_restarted :
    ∃ db', exec databaseStep (.single legacyRow)
        [.restart (fun _ => drawnToken) "t1", .restart (fun _ => drawnToken) "t2"] = some db' ∧
      getSessionByAccessToken (SessionDatabase.single legacyRow).rows "chat_s_20260301_0001"
        drawnToken = none ∧
      ((getSessionByAccessToken db'.rows "chat_s_20260301_0001" drawnToken).isSome = true ↔
        (drawnToken : String) = drawnToken) := by
  have hexec : exec databaseStep (.single legacyRow)
      [.restart (fun _ => drawnToken) "t1", .restart (fun _ => drawnToken) "t2"] = some _ := rfl
  refine ⟨_, hexec, legacy_session_opens_iff rfl rfl ?_ ?_ hexec⟩
  · simp [DatabaseCall.SavesTokenOf]
  · simp

/-! ### The table of sessions -/

/-- A call that saves no session without a token. -/
def DatabaseCall.SavesToken : DatabaseCall → Prop
  | saveSession session _ => session.sessionAccessToken ≠ ""
  | _ => True

/-- The columns of a row that was written with a token. -/
def HoldsRow (row : SessionRow) (stored : StoredSession) : Prop :=
  stored = row.toChatSession.columns row.createdAt row.updatedAt ∧ row.sessionAccessToken ≠ ""

/-- One call on the table of sessions, which knows of no restart. -/
def tableStep (sessions : SessionTable) : DatabaseCall → Option SessionTable
  | .saveSession session now => some (saveSession sessions session now)
  | .promoteJobCompletion sessionId expectedLastResponseId completedResponseId jobId now =>
    some (promoteJobCompletion sessions sessionId expectedLastResponseId completedResponseId jobId
      now)
  | .reset => some (sessions.delete fun _ => true)
  | .nextSessionId _ => some sessions
  | .restart _ _ => some sessions

variable {sessions sessions' : SessionTable} {sessionRow : SessionRow}

theorem HoldsRow.key_eq (h : HoldsRow sessionRow row) : sessionRow.key = row.sessionId := by
  rw [h.1]
  rfl

/-- The schema check leaves what was written with tokens. -/
theorem backfill_of_related (h : KeyedTable.Related HoldsRow sessions rows) :
    backfillSessionAccessTokens rows draw now = rows := by
  have hselect : rows.select StoredSession.lacksToken = [] := by
    rw [KeyedTable.select, List.map_eq_nil_iff, List.filter_eq_nil_iff]
    intro row hmem
    obtain ⟨sessionRow, -, hrow, hne⟩ := h.exists_mem hmem
    simp [hrow, StoredSession.lacksToken, ChatSession.columns, hne]
  rw [backfillSessionAccessTokens, hselect]
  rfl

/-- A save writes the columns of the row that it writes to the table. -/
theorem related_saveSession (h : KeyedTable.Related HoldsRow sessions rows)
    (hne : session.sessionAccessToken ≠ "") :
    KeyedTable.Related HoldsRow (saveSession sessions session now)
      (storeSession rows session now) := by
  have hkey : ∀ sessionRow row, HoldsRow sessionRow row → sessionRow.key = row.sessionId :=
    fun _ _ => HoldsRow.key_eq
  have hnew : HoldsRow { session with createdAt := now, updatedAt := now }
      (session.columns now now) := ⟨rfl, hne⟩
  have hinsert := h.insert? hkey hnew
  rw [saveSession, storeSession]
  cases hlookup : rows.lookup session.sessionId with
  | none =>
    rw [Option.map_none, Option.getD_none]
    cases hrows : rows.insert? (session.columns now now) with
    | none =>
      obtain ⟨row, hrow⟩ := KeyedTable.insert?_eq_none.mp hrows
      cases hlookup.symm.trans hrow
    | some rows' =>
      rw [hrows] at hinsert
      generalize sessions.insert? _ = inserted at hinsert
      cases hinsert with
      | some hrelated => exact hrelated
  | some row =>
    rw [Option.map_some, Option.getD_some]
    have hrows : rows.insert? (session.columns row.createdAt now) = none :=
      KeyedTable.insert?_eq_none.mpr ⟨row, hlookup⟩
    have hnone : rows.insert? (session.columns now now) = none :=
      KeyedTable.insert?_eq_none.mpr ⟨row, hlookup⟩
    rw [hnone] at hinsert
    rw [hrows]
    generalize sessions.insert? _ = inserted at hinsert ⊢
    cases hinsert
    refine h.modify hkey fun sessionRow row hfound _ hrow => ?_
    have hid : sessionRow.sessionId = session.sessionId := sessionId_of_lookup hfound
    rw [hrow.1]
    exact ⟨by simp only [SessionRow.replace, ChatSession.columns, hid], hne⟩

/-- One call keeps the columns those of the table. -/
theorem related_step (h : KeyedTable.Related HoldsRow sessions db.rows) (hcall : call.SavesToken)
    (hstep : databaseStep db call = some db') :
    ∃ sessions', tableStep sessions call = some sessions' ∧
      KeyedTable.Related HoldsRow sessions' db'.rows := by
  cases call with
  | nextSessionId now =>
    obtain rfl := Option.some.inj hstep
    exact ⟨sessions, rfl, h⟩
  | saveSession session now =>
    obtain rfl := Option.some.inj hstep
    exact ⟨_, rfl, related_saveSession h hcall⟩
  | promoteJobCompletion id expected completed jobId now =>
    obtain rfl := Option.some.inj hstep
    refine ⟨_, rfl, ?_⟩
    show KeyedTable.Related HoldsRow
      (promoteJobCompletion sessions id expected completed jobId now)
      (promoteSession db.rows id expected completed jobId now)
    rw [promoteJobCompletion, promoteSession]
    refine h.modify (fun _ _ => HoldsRow.key_eq) fun sessionRow row _ _ hrow => ?_
    obtain ⟨rfl, hne⟩ := hrow
    have hresponse : (sessionRow.toChatSession.columns sessionRow.createdAt
        sessionRow.updatedAt).lastResponseId = sessionRow.lastResponseId := rfl
    rw [hresponse]
    split_ifs
    · exact ⟨rfl, hne⟩
    · exact ⟨rfl, hne⟩
  | reset =>
    obtain rfl := Option.some.inj hstep
    exact ⟨_, rfl, h.delete fun _ _ _ => rfl⟩
  | restart draw now =>
    obtain rfl := Option.some.inj hstep
    refine ⟨sessions, rfl, ?_⟩
    have hrows : (ensureSchema db draw now).rows = db.rows := backfill_of_related h
    rw [hrows]
    exact h

/-- **The database reads as the table of sessions.** Where no session is saved without a token,
every run over the columns, with its restarts, is one of the table of sessions without them, and
what is read, with and without a token, is what the table holds. -/
theorem database_reads_as_table {calls : List DatabaseCall}
    (h : KeyedTable.Related HoldsRow sessions db.rows) (hcalls : ∀ call ∈ calls, call.SavesToken)
    (hexec : exec databaseStep db calls = some db') :
    ∃ sessions', exec tableStep sessions calls = some sessions' ∧ ∀ id,
      getSession db'.rows id =
        (sessions'.lookup id).map (fun row => row.toChatSession.loaded) ∧
      ∀ token, getSessionByAccessToken db'.rows id token =
        ((sessions'.lookup id).filter fun row => row.sessionAccessToken = token).map fun row =>
          row.toChatSession.loaded := by
  have hall : Along databaseStep (fun _ call _ => call.SavesToken) db calls :=
    (along_iff_split calls db).mpr fun pre call post _ _ heq _ _ =>
      hcalls call (heq ▸ List.mem_append_right pre List.mem_cons_self)
  have hfollow : ∀ db sessions call db', KeyedTable.Related HoldsRow sessions db.rows →
      DatabaseCall.SavesToken call → databaseStep db call = some db' →
      ∃ sessions', tableStep sessions call = some sessions' ∧
        KeyedTable.Related HoldsRow sessions' db'.rows :=
    fun _ _ _ _ => related_step
  obtain ⟨sessions', hexec', h'⟩ := along_simulation _ hfollow h hall hexec
  refine ⟨sessions', hexec', fun id => ?_⟩
  have hfound := h'.lookup (fun _ _ => HoldsRow.key_eq) id
  generalize hlookup : db'.rows.lookup id = found at hfound
  rw [getSession, hlookup]
  generalize sessions'.lookup id = found' at hfound ⊢
  cases hfound with
  | none => exact ⟨rfl, fun token => by rw [getSessionByAccessToken, hlookup]; rfl⟩
  | @some sessionRow row hrow =>
    have hload : row.load = sessionRow.toChatSession.loaded := by
      rw [hrow.1]
      exact load_columns
    refine ⟨by rw [Option.map_some, Option.map_some, hload], fun token => ?_⟩
    have htoken : row.sessionAccessToken = some sessionRow.sessionAccessToken := by
      rw [hrow.1]
      rfl
    rw [getSessionByAccessToken, hlookup, Option.filter_some, Option.filter_some, htoken]
    by_cases heq : sessionRow.sessionAccessToken = token
    · simp [heq, hload]
    · simp [heq]

theorem database_reads_as_table_saved :
    ∃ db', exec databaseStep .new
        [.saveSession (brokerSession "token-1") "t0", .restart (fun _ => drawnToken) "t1",
          .promoteJobCompletion "chat_s_20260301_0001" "resp_1" "resp_2" "job_1" "t2"] = some db' ∧
      ∃ sessions', exec tableStep KeyedTable.empty
          [.saveSession (brokerSession "token-1") "t0", .restart (fun _ => drawnToken) "t1",
            .promoteJobCompletion "chat_s_20260301_0001" "resp_1" "resp_2" "job_1" "t2"] =
            some sessions' ∧ ∀ id,
        getSession db'.rows id =
          (sessions'.lookup id).map (fun row => row.toChatSession.loaded) ∧
        ∀ token, getSessionByAccessToken db'.rows id token =
          ((sessions'.lookup id).filter fun row => row.sessionAccessToken = token).map fun row =>
            row.toChatSession.loaded := by
  have hexec : exec databaseStep .new
      [.saveSession (brokerSession "token-1") "t0", .restart (fun _ => drawnToken) "t1",
        .promoteJobCompletion "chat_s_20260301_0001" "resp_1" "resp_2" "job_1" "t2"] =
      some _ := rfl
  refine ⟨_, hexec, database_reads_as_table KeyedTable.Related.empty ?_ hexec⟩
  simp [DatabaseCall.SavesToken, brokerSession]

end Meridian.Api
