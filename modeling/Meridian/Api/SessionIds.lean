import Meridian.Api.Sessions

/-!
# The ids of sessions

`next_session_id` of `backend/app/session/store.py` counts the sessions of a day and prints the
count with at least four digits. No id is given twice, also past the four digits and whatever the
days.

## Main definitions

* `Meridian.Api.Issued`: an id has been given, as far as the counters say.

## Main results

* `Meridian.Api.sessionIdAt_eq_iff`: an id determines its day and its count.
* `Meridian.Api.not_issued_next`: the next id has not been given.
-/

namespace Meridian.Api

open Foundations

/-- The id is that of a session counted so far. -/
def Issued (counters : String → ℕ) (id : String) : Prop :=
  ∃ now index, id = sessionIdAt now index ∧ index ≤ counters (stamp now)

/-- The counters with one more session at the given time. -/
def countedAt (counters : String → ℕ) (now : UtcTime) : String → ℕ :=
  Function.update counters (stamp now) (counters (stamp now) + 1)

/-- The id of every stored session has been given. -/
def IdsIssued (store : SessionStore) : Prop :=
  ∀ id session, store.sessions id = some session → Issued store.counters id

variable {counters counters' : String → ℕ} {now now' : UtcTime} {index index' : ℕ} {id : String}

/-- The day of an id ends where its first underscore stands. -/
theorem isDigit_of_mem_stamp {c : Char} (h : c ∈ (stamp now).toList) : c.isDigit = true := by
  simp only [stamp, String.toList_ofList, List.mem_append] at h
  rcases h with (h | h) | h
  · exact Datetime.isDigit_of_mem_padded h
  · exact Datetime.isDigit_of_mem_padded h
  · exact Datetime.isDigit_of_mem_padded h

/-- **An id determines its day and its count.** -/
theorem sessionIdAt_eq_iff :
    sessionIdAt now index = sessionIdAt now' index' ↔ stamp now = stamp now' ∧ index = index' := by
  constructor
  · intro h
    have hlist := congrArg String.toList h
    simp only [sessionIdAt, String.toList_append, String.toList_ofList, List.append_assoc] at hlist
    have hrest := List.append_cancel_left hlist
    have hunderscore (now : UtcTime) : '_' ∉ (stamp now).toList := fun hmem => by
      cases isDigit_of_mem_stamp hmem
    have hword : "_".toList = ['_'] := rfl
    rw [hword, List.singleton_append, List.singleton_append] at hrest
    obtain ⟨hstamp, -, hindex⟩ := (List.append_cons_inj_of_notMem (hunderscore now) fun hmem => by
      cases Datetime.isDigit_of_mem_padded hmem).mp hrest
    refine ⟨String.toList_injective hstamp, ?_⟩
    rw [← Datetime.ofDigitChars_padded 4 index, hindex, Datetime.ofDigitChars_padded]
  · rintro ⟨hstamp, rfl⟩
    rw [sessionIdAt, sessionIdAt, hstamp]

theorem Issued.mono (h : Issued counters id) (hle : ∀ day, counters day ≤ counters' day) :
    Issued counters' id := by
  obtain ⟨now, index, rfl, hindex⟩ := h
  exact ⟨now, index, rfl, hindex.trans (hle _)⟩

theorem le_countedAt (day : String) : counters day ≤ countedAt counters now day := by
  rw [countedAt, Function.update_apply]
  split_ifs with h
  · rw [h]
    exact Nat.le_succ _
  · exact le_rfl

/-- **The next id has not been given.** -/
theorem not_issued_next : ¬ Issued counters (sessionIdAt now (counters (stamp now) + 1)) := by
  rintro ⟨now', index, heq, hindex⟩
  obtain ⟨hstamp, rfl⟩ := sessionIdAt_eq_iff.mp heq
  rw [← hstamp] at hindex
  exact Nat.not_succ_le_self _ hindex

/-- Once it is counted, it has. -/
theorem issued_countedAt :
    Issued (countedAt counters now) (sessionIdAt now (counters (stamp now) + 1)) :=
  ⟨now, _, rfl, by rw [countedAt, Function.update_self]⟩

end Meridian.Api
