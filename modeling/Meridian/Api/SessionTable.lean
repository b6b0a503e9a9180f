import Meridian.Api.Sessions
import Meridian.Foundations.KeyedTable

/-!
# The table of sessions

The table `chat_sessions` under the calls of `InMemorySessionStore` in
`backend/app/session/store.py`, with all the columns of a session.

## Main definitions

* `Meridian.Api.SessionRow`: a row.
* `Meridian.Api.saveSession`, `Meridian.Api.promoteJobCompletion`: the calls that write.

## Main results

* `Meridian.Api.lookup_saveSession`, `Meridian.Api.lookup_promoteJobCompletion`: what they do to
  each row.
-/

namespace Meridian.Api

open Foundations

/-- `SessionState` in full. -/
structure ChatSession extends SessionState where
  currentModule : String
  lastResponseId : Option String
  lastJobId : Option String

/-- A row of `chat_sessions`. -/
structure SessionRow extends ChatSession where
  createdAt : String
  updatedAt : String

/-- The id of a row. -/
def SessionRow.key (row : SessionRow) : String := row.sessionId

/-- The table, by its primary key. -/
abbrev SessionTable := KeyedTable SessionRow.key

/-- The row that a session replaces a row by. -/
def SessionRow.replace (session : ChatSession) (now : String) (row : SessionRow) : SessionRow :=
  { session with sessionId := row.sessionId, createdAt := row.createdAt, updatedAt := now }

theorem SessionRow.key_replace (session : ChatSession) (now : String) (row : SessionRow) :
    (row.replace session now).key = row.key := rfl

/-- `save_session`. -/
def saveSession (rows : SessionTable) (session : ChatSession) (now : String) : SessionTable :=
  match rows.insert? { session with createdAt := now, updatedAt := now } with
  | some rows' => rows'
  | none =>
    rows.modify session.sessionId (SessionRow.replace session now) (SessionRow.key_replace _ _)

/-- The row that `save_session` leaves. -/
def savedRow (rows : SessionTable) (session : ChatSession) (now : String) : SessionRow :=
  { session with
    createdAt := ((rows.lookup session.sessionId).map SessionRow.createdAt).getD now
    updatedAt := now }

/-- `promote_job_completion`, without the row that it returns. -/
def promoteJobCompletion (rows : SessionTable) (sessionId expectedLastResponseId
    completedResponseId jobId now : String) : SessionTable :=
  rows.modify sessionId
    (fun row =>
      if row.lastResponseId = some expectedLastResponseId then
        { row with
          lastResponseId := some completedResponseId
          lastJobId := some jobId
          updatedAt := now }
      else row)
    fun row => by split <;> rfl

/-- The last response of a session. -/
def lastResponse (rows : SessionTable) (sessionId : String) : Option String :=
  (rows.lookup sessionId).bind fun row => row.lastResponseId

variable {rows : SessionTable} {session : ChatSession} {row : SessionRow}
  {now sessionId expectedLastResponseId completedResponseId jobId : String}

theorem sessionId_of_lookup (h : rows.lookup sessionId = some row) : row.sessionId = sessionId := by
  have hkey : row.key = sessionId := KeyedTable.key_of_lookup h
  exact hkey

/-- A save writes the row of its session and no other. -/
theorem lookup_saveSession (id : String) : (saveSession rows session now).lookup id =
    if id = session.sessionId then some (savedRow rows session now) else rows.lookup id := by
  set new : SessionRow := { session with createdAt := now, updatedAt := now } with hnew
  have hkey : new.key = session.sessionId := rfl
  rw [saveSession]
  split
  · next hinsert =>
    rw [KeyedTable.lookup_insert? hinsert, hkey, savedRow,
      ← hkey, (KeyedTable.insert?_eq_some hinsert).1]
    rfl
  · next hinsert =>
    obtain ⟨row, hrow⟩ := KeyedTable.insert?_eq_none.mp hinsert
    rw [KeyedTable.lookup_modify]
    split_ifs with hid
    · rw [hid, savedRow]
      rw [hkey] at hrow
      simp only [hrow, Option.map_some, Option.getD_some, SessionRow.replace,
        sessionId_of_lookup hrow]
    · rfl

/-- A save adds its session if it is new. -/
theorem keys_saveSession : (saveSession rows session now).keys = rows.keys ↔
    ∃ row, rows.lookup session.sessionId = some row := by
  rw [saveSession]
  split
  · next hinsert =>
    obtain ⟨hnone, hrows⟩ := KeyedTable.insert?_eq_some hinsert
    refine iff_of_false (fun h => ?_) (fun h => ?_)
    · have hlen := congrArg List.length h
      simp [KeyedTable.keys, hrows] at hlen
    · obtain ⟨row, hrow⟩ := h
      cases hnone.symm.trans hrow
  · next hinsert =>
    exact iff_of_true KeyedTable.keys_modify (KeyedTable.insert?_eq_none.mp hinsert)

/-- A promotion changes the row of its session if that still shows the expected response. -/
theorem lookup_promoteJobCompletion (id : String) :
    (promoteJobCompletion rows sessionId expectedLastResponseId completedResponseId jobId
        now).lookup id =
      (rows.lookup id).map fun row =>
        if id = sessionId ∧ row.lastResponseId = some expectedLastResponseId then
          { row with
            lastResponseId := some completedResponseId
            lastJobId := some jobId
            updatedAt := now }
        else row := by
  rw [promoteJobCompletion, KeyedTable.lookup_modify]
  by_cases hid : id = sessionId
  · simp [hid]
  · simp [hid]

theorem lastResponse_saveSession (id : String) : lastResponse (saveSession rows session now) id =
    if id = session.sessionId then session.lastResponseId else lastResponse rows id := by
  rw [lastResponse, lookup_saveSession]
  split_ifs
  · rfl
  · rfl

theorem lastResponse_promoteJobCompletion (id : String) :
    lastResponse (promoteJobCompletion rows sessionId expectedLastResponseId completedResponseId
        jobId now) id =
      if id = sessionId ∧ lastResponse rows id = some expectedLastResponseId then
        some completedResponseId
      else lastResponse rows id := by
  rw [lastResponse, lookup_promoteJobCompletion, lastResponse]
  cases rows.lookup id with
  | none => simp
  | some row =>
    simp only [Option.map_some, Option.bind_some]
    split_ifs
    · rfl
    · rfl

end Meridian.Api
