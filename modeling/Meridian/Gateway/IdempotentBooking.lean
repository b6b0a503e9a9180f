import Meridian.Gateway.BookingRuns

/-!
# Idempotent bookings

What the two-level lease gives for bookings in every interleaving, with calls that raise wherever
they can.

## Main definitions

* `Meridian.Gateway.Pc.Executing`: a call has leased its record.

## Main results

* `Meridian.Gateway.idempotent_booking`: one call per key records a result, the calls with its
  fingerprint return that result, all others are denied without touching the database.
-/

namespace Meridian.Gateway

open Foundations Db

variable {ι : Type*}

/-- The call ends with what it did itself, not because of a recorded result. -/
def Outcome.Own : Outcome → Prop
  | executed _ | raised => True
  | replayed _ | conflicted _ => False

/-- The call has leased its record. -/
def Pc.Executing : Pc → Prop
  | claimRecord => False
  | release o | done o => o.Own
  | _ => True

variable [DecidableEq ι] {calls : ι → Call} {w w' w₀ : World ι} {i j : ι} {e : Event}
  {labels : List (ι × Event)} {r r' : BookingResult}

/-! ### Moves -/

/-- A call that has leased its record never ends as a replay or a conflict. -/
theorem Move.executing (h : Move calls w i e w') (hi : (w.pc i).Executing) :
    (w'.pc i).Executing := by
  cases h with
  | waitRecord | waitTarget => exact hi
  | replay r hp | conflict f r hp => simp [hp, Pc.Executing] at hi
  | release o hp | releaseNothing o hp =>
    rw [hp] at hi
    simp only [World.notifyAll, World.goto_pc_self]
    exact hi
  | abandon targetClaimed | abandonNothing targetClaimed | rollbackRaises targetClaimed =>
    cases targetClaimed <;> simp [World.notifyAll, Pc.afterAbandon, Pc.Executing, Outcome.Own]
  | _ => simp [World.notifyAll, Pc.Executing, Outcome.Own]

/-- A call that has not leased its record does not touch the database. -/
theorem Move.connection_of_not_executing (h : Move calls w i e w') (hi : ¬ (w.pc i).Executing) :
    w'.connection = w.connection := by
  cases h with
  | updateQuote _ hp | updateConfirmation _ hp | commit _ hp | rollback _ hp =>
    simp [hp, Pc.Executing] at hi
  | _ => rfl

/-! ### Runs -/

/-- The results of conflicts are denials. -/
def ConflictsDenied (w : World ι) : Prop :=
  ∀ i r, (w.pc i).outcome? = some (.conflicted r) → r.status = .denied .idempotencyConflict

theorem ConflictsDenied.step (h : ConflictsDenied w) (hs : step calls w (i, e) = some w') :
    ConflictsDenied w' := by
  obtain ⟨-, hm⟩ := step_eq_some_iff.mp hs
  intro j r hj
  by_cases hji : j = i
  · subst hji
    cases hm with
    | waitRecord | waitTarget => exact h j r hj
    | conflict f r' hp =>
      obtain rfl : conflictResult (calls j) r' _ = r := by simpa [Pc.outcome?] using hj
      rfl
    | release o hp | releaseNothing o hp =>
      refine h j r ?_
      simpa [hp, World.notifyAll, Pc.outcome?] using hj
    | abandon targetClaimed | abandonNothing targetClaimed | rollbackRaises targetClaimed =>
      cases targetClaimed <;> simp [World.notifyAll, Pc.afterAbandon, Pc.outcome?] at hj
    | _ => simp [World.notifyAll, Pc.outcome?] at hj
  · rw [hm.pc_of_ne hji] at hj
    exact h j r hj

omit [DecidableEq ι] in
theorem Initial.conflictsDenied (h : Initial w) : ConflictsDenied w := by
  intro i r hi
  simp [h.pc i, Pc.outcome?] at hi

theorem executing_of_exec (h : exec (step calls) w labels = some w') (hi : (w.pc i).Executing) :
    (w'.pc i).Executing := by
  refine exec_invariant (fun s : World ι => (s.pc i).Executing) (fun s l t hs ht => ?_) hi h
  obtain ⟨-, hm⟩ := step_eq_some_iff.mp ht
  by_cases hil : i = l.1
  · subst hil
    exact hm.executing hs
  · rwa [hm.pc_of_ne hil]

/-- A call that ends as a conflict has not touched the database in any of its steps. -/
theorem along_connection_of_not_executing (hw : ¬ (w'.pc i).Executing) :
    {labels : List (ι × Event)} → {w : World ι} → exec (step calls) w labels = some w' →
      Along (step calls) (fun s l t => l.1 = i → t.connection = s.connection) w labels
  | [], _, _ => trivial
  | (j, e) :: labels, w, h => by
      obtain ⟨t, ht, h⟩ := exec_cons_eq_some.mp h
      intro t' ht'
      obtain rfl := Option.some.inj (ht.symm.trans ht')
      refine ⟨fun hji => ?_, along_connection_of_not_executing hw h⟩
      simp only at hji
      subst hji
      obtain ⟨-, hm⟩ := step_eq_some_iff.mp ht
      exact hm.connection_of_not_executing fun hj => hw (executing_of_exec h (hm.executing hj))

/-! ### Idempotency -/

/-- **Idempotent booking.** In every state reached, at most one call of a key has recorded a result,
and it is the result in the store. Every call that has returned finds its key completed: if the
recorded fingerprint is its own, it has returned exactly the recorded result; otherwise it has
returned an `idempotency_conflict` denial and none of its steps has changed the database. -/
theorem idempotent_booking (h : Initial w₀) (hrun : exec (step calls) w₀ labels = some w) :
    (∀ i j r r', (calls i).idempotencyKey = (calls j).idempotencyKey → w.Executed i r →
      w.Executed j r' → i = j) ∧
    (∀ i r, w.Executed i r →
      w.store (calls i).idempotencyKey = some (.completed (calls i).requestFingerprint r)) ∧
    ∀ i r, w.Returned i r → ∃ f recorded,
      w.store (calls i).idempotencyKey = some (.completed f recorded) ∧
      (f = (calls i).requestFingerprint → r = recorded) ∧
      (f ≠ (calls i).requestFingerprint → r.status = .denied .idempotencyConflict ∧
        Along (step calls) (fun s l t => l.1 = i → t.connection = s.connection) w₀ labels) := by
  have hinv := leaseInv_of_exec h hrun
  have hden : ConflictsDenied w :=
    exec_invariant ConflictsDenied (fun _ _ _ hi hs => hi.step hs) h.conflictsDenied hrun
  refine ⟨fun i j r r' hij hi hj => ?_, fun i r hi => ?_, fun i r hi => ?_⟩
  · exact hinv.executed_unique i j r r' (World.phase_executed hi) (World.phase_executed hj) hij
  · exact hinv.executed i r (World.phase_executed hi)
  · obtain ⟨o, hp, ho⟩ := hi
    have hphase : w.lease.phase i = .ended o.lease := by simp only [World.lease, hp, Pc.phase]
    cases o with
    | executed r' =>
      obtain rfl : r' = r := by simpa [Outcome.result?] using ho
      exact ⟨_, _, hinv.executed i r' (.inr hphase), fun _ => rfl, fun hne => absurd rfl hne⟩
    | replayed r' =>
      obtain rfl : r' = r := by simpa [Outcome.result?] using ho
      exact ⟨_, _, hinv.replayed i r' hphase, fun _ => rfl, fun hne => absurd rfl hne⟩
    | conflicted r' =>
      obtain rfl : r' = r := by simpa [Outcome.result?] using ho
      obtain ⟨f, v, hk, hf⟩ := hinv.conflicted i hphase
      refine ⟨f, v, hk, fun he => absurd he hf,
        fun _ => ⟨hden i r' (by simp [hp, Pc.outcome?]), ?_⟩⟩
      exact along_connection_of_not_executing (by simp [hp, Pc.Executing, Outcome.Own]) hrun
    | raised => simp [Outcome.result?] at ho

section Memphis

/-! A quote with one confirmation, and calls that use it. -/

def memphisQuote : QuoteRow :=
  ⟨"quote-88219", "memphis", "broker-123", "carrier-4412", "Southeast", "Midwest", "FTL",
    "20000_plus", "2026-03-17", "eligible_for_booking"⟩

def memphisConfirmation : ConfirmationRow :=
  ⟨"confirm-quote-88219", "quote-88219", "memphis", "broker-123", "carrier-4412", "2026-03-17",
    "pending", "2099-03-16T12:00:00Z"⟩

def memphisDatabase : Database :=
  { Database.empty with
    quotes := ⟨[memphisQuote], by decide⟩
    confirmations := ⟨[memphisConfirmation], by decide⟩ }

/-- A call for a confirmation token under an idempotency key. -/
def memphisCall (token key : String) : Call :=
  ⟨"booking_create_confirmed", token, key, "broker-123", "memphis"⟩

/-- The call `i` goes on. -/
def goOn {ι : Type*} (i : ι) : ι × Event := (i, .run .first .first)

end Memphis

/-- A retry with the key of a booking returns what the booking returned. -/
theorem idempotent_booking_retry :
    ∃ (w : World (Fin 2)) (r : BookingResult),
      exec (step fun _ => memphisCall "confirm-quote-88219" "book-quote-88219-v1")
        (.start memphisDatabase) (List.replicate 9 (goOn 0) ++ [goOn 1]) = some w ∧
      r.status = .submitted ∧ w.Returned 0 r ∧ w.Returned 1 r := by
  let call := memphisCall "confirm-quote-88219" "book-quote-88219-v1"
  let r := submittedResult call memphisConfirmation .first
  have hpc : (exec (step fun _ => call) (.start memphisDatabase)
      (List.replicate 9 (goOn (0 : Fin 2)) ++ [goOn 1])).map (fun w => (w.pc 0, w.pc 1)) =
      some (.done (.executed r), .done (.replayed r)) := by rfl
  obtain ⟨w, hw, hpc⟩ := Option.map_eq_some_iff.mp hpc
  obtain ⟨hp₀, hp₁⟩ := Prod.mk.inj hpc
  obtain ⟨-, hrec, hret⟩ := idempotent_booking (.start memphisDatabase) hw
  have h₀ := hrec 0 r (by simp [World.Executed, hp₀, Pc.outcome?])
  have h₁ : w.Returned 1 r := ⟨_, hp₁, rfl⟩
  obtain ⟨f, recorded, hk, hsame, -⟩ := hret 1 r h₁
  obtain ⟨rfl, rfl⟩ : call.requestFingerprint = f ∧ r = recorded := by
    simpa using h₀.symm.trans hk
  exact ⟨w, r, hw, rfl, ⟨_, hp₀, rfl⟩, h₁⟩

end Meridian.Gateway
