import Meridian.Gateway.Atomicity
import Meridian.Gateway.IdempotentBooking

/-!
# Records that are lost

The two-level claims of bookings neither deadlock nor leak as long as no rollback raises. A call
whose rollback raises skips `abandon_record`. Its record stays in progress with nobody to settle it,
and whoever asks for that key again waits forever.

## Main definitions

* `Meridian.Gateway.ClaimsSound`: no deadlock, no foreign completion, no leak.
* `Meridian.Gateway.RollsBack`: the condition on a step that its rollback does not raise.

## Main results

* `Meridian.Gateway.claims_sound_iff`: the condition is sufficient, and in the runs in which all
  calls end it is necessary.
* `Meridian.Gateway.rollback_loses_record`: a run in which a rollback raises and a later call waits
  forever.
-/

namespace Meridian.Gateway

open Foundations Db

variable {ι : Type*} [DecidableEq ι] {calls : ι → Call} {w w' w₀ : World ι} {i : ι} {e : Event}
  {labels : List (ι × Event)}

/-! ### What the claims promise -/

/-- While some call is unfinished, some unfinished call is awake and its next operation does not
wait; a call that is about to complete its record is the only one to have leased it, so that the
completion does not raise; and when all calls have ended, no record is in progress and no token is
claimed. -/
structure ClaimsSound (calls : ι → Call) (w : World ι) : Prop where
  progress : ∀ i, ¬ w.Ended i → ∃ j, ¬ w.Ended j ∧ w.asleep j = false ∧
    ∀ now auditNow, ∃ t, step calls w (j, .run now auditNow) = some t ∧ t.asleep j = false
  completes : ∀ i r, w.pc i = .completeRecord r →
    w.store (calls i).idempotencyKey = some (.inProgress (calls i).requestFingerprint) ∧
    (∀ j, (calls j).idempotencyKey = (calls i).idempotencyKey → (w.pc j).phase.Owns → j = i) ∧
    completeRecord w.store (calls i).idempotencyKey (calls i).requestFingerprint r ≠ none
  released : (∀ i, w.Ended i) →
    (∀ k f, w.store k ≠ some (.inProgress f)) ∧ ∀ t, w.claims t = none

/-- The step is not that of a rollback that raises. -/
def RollsBack (w : World ι) (l : ι × Event) : Prop :=
  ∀ targetClaimed, w.pc l.1 = .rollback targetClaimed → l.2 ≠ .raise

omit [DecidableEq ι] in
theorem RollsBack.goOn : RollsBack w (goOn i) := fun _ _ he => by cases he

/-! ### Lost records -/

/-- No record is in progress but those of the calls at work. -/
def NoneLost (calls : ι → Call) (w : World ι) : Prop :=
  Lease.NoneLost (fun i => (calls i).request) w.lease

/-- Of a step from a state in which no record is lost, one is lost exactly if a rollback raises. -/
theorem noneLost_step_iff (h : LeaseInv calls w) (hnone : NoneLost calls w)
    (hs : step calls w (i, e) = some w') : NoneLost calls w' ↔ RollsBack w (i, e) := by
  obtain ⟨ha, hm⟩ := step_eq_some_iff.mp hs
  have hlease := hm.lease_step h ha
  have hloses : ¬ Lease.Loses w.lease i w'.lease ↔ RollsBack w (i, e) := by
    rw [hm.loses_iff h]
    exact ⟨fun hno targetClaimed hp he => hno ⟨targetClaimed, hp, he⟩,
      fun hback ⟨targetClaimed, hp, he⟩ => hback targetClaimed hp he⟩
  rw [← hloses]
  constructor
  · exact fun hnone' hl => (h.lost_of_loses hlease hl).not_noneLost hnone'
  · exact hnone.step hlease

/-- A record that is lost stays lost. -/
theorem noneLost_of_step (h : LeaseInv calls w) (hs : step calls w (i, e) = some w')
    (hnone : NoneLost calls w') : NoneLost calls w := by
  obtain ⟨ha, hm⟩ := step_eq_some_iff.mp hs
  refine h.noneLost_iff.mpr fun k f hlost => ?_
  exact (hlost.step (hm.lease_step h ha)).not_noneLost hnone

/-- At the end of a run no record is lost exactly if no rollback has raised in it. -/
theorem noneLost_iff_rollsBack (h : Initial w₀) (hrun : exec (step calls) w₀ labels = some w) :
    NoneLost calls w ↔ Along (step calls) (fun s l _ => RollsBack s l) w₀ labels :=
  exec_state_iff (LeaseInv calls) (NoneLost calls) (fun _ _ _ hi hs => hi.step hs)
    (fun _ _ _ hi hnone hs => noneLost_step_iff hi hnone hs)
    (fun _ _ _ hi hs => noneLost_of_step hi hs) h.leaseInv (.of_quiescent h.quiescent) hrun

/-! ### Progress and release -/

/-- A call that can move without going to sleep is not asleep afterwards. -/
theorem Move.awake (h : Move calls w i e w') (ha : w.asleep i = false)
    (hb : ¬ Lease.Blocked (fun i => (calls i).request) w.lease i) : w'.asleep i = false := by
  cases h with
  | waitRecord f hp hr => exact absurd (.inl ⟨by simp [World.lease, hp, Pc.phase], f, hr⟩) hb
  | waitTarget k hp ht hk =>
    exact absurd (.inr ⟨by simp [World.lease, hp, Pc.phase], k, ht, hk⟩) hb
  | complete | abandon | release => rfl
  | _ => exact ha

/-- The claims keep their promises where no record is lost. -/
theorem claimsSound_of_noneLost (h : LeaseInv calls w) (hnone : NoneLost calls w) :
    ClaimsSound calls w where
  progress i hi := by
    obtain ⟨j, hj, ha, hb⟩ :=
      h.exists_unblocked hnone (i := i) fun he => hi (World.phase_ended_iff.mp he)
    have hj' : ¬ w.Ended j := fun he => hj (World.phase_ended_iff.mpr he)
    replace ha : w.asleep j = false := ha
    refine ⟨j, hj', ha, fun now auditNow => ?_⟩
    obtain ⟨t, ht⟩ := run_isSome hj' (calls j) now auditNow
    exact ⟨t, by simp [step, ha, ht], (Move.of_run ht).awake ha hb⟩
  completes i r hp := by
    have howns : (w.lease.phase i).Owns := by simp [World.lease, hp, Pc.phase, Lease.Phase.Owns]
    have hr : w.store (calls i).idempotencyKey =
        some (.inProgress (calls i).requestFingerprint) := h.owned i howns
    refine ⟨hr, fun j hji hj => h.owner_unique j i hj howns hji, ?_⟩
    rw [completeRecord_of_inProgress hr]
    exact Option.some_ne_none _
  released hall := by
    have hended : ∀ i, (w.lease.phase i).Ended := fun i => World.phase_ended_iff.mpr (hall i)
    exact ⟨hnone.no_record_left hended, h.no_target_left hended⟩

/-- **The two-level claims neither deadlock nor leak if no rollback raises.** In every state that is
reached without a rollback that raises they keep their promises. When all calls have ended, they
have kept them only if no rollback has raised. -/
theorem claims_sound_iff (h : Initial w₀) (hrun : exec (step calls) w₀ labels = some w) :
    (Along (step calls) (fun s l _ => RollsBack s l) w₀ labels → ClaimsSound calls w) ∧
      ((∀ i, w.Ended i) → (ClaimsSound calls w ↔
        Along (step calls) (fun s l _ => RollsBack s l) w₀ labels)) := by
  rw [← noneLost_iff_rollsBack h hrun]
  have hsound := claimsSound_of_noneLost (leaseInv_of_exec h hrun)
  refine ⟨hsound, fun hall => ⟨fun hkept k f hk => ?_, hsound⟩⟩
  exact absurd hk ((hkept.released hall).1 k f)

/-- While a call waits for the token of another one, that one can go on. The calls are named by
their keys. -/
theorem claims_sound_iff_waiting :
    ∃ w : World String,
      exec (step (memphisCall "confirm-quote-88219")) (.start memphisDatabase)
        [goOn "v1", goOn "v1", goOn "v2", goOn "v2"] = some w ∧
      w.asleep "v2" = true ∧ ∃ j, ¬ w.Ended j ∧ w.asleep j = false := by
  have hrun : (exec (step (memphisCall "confirm-quote-88219")) (.start memphisDatabase)
      [goOn "v1", goOn "v1", goOn "v2", goOn "v2"]).map (fun w => (w.pc "v2", w.asleep "v2")) =
      some (.claimTarget, true) := by rfl
  obtain ⟨w, hw, hrun⟩ := Option.map_eq_some_iff.mp hrun
  obtain ⟨hp, ha⟩ := Prod.mk.inj hrun
  have hback : Along (step (memphisCall "confirm-quote-88219")) (fun s l _ => RollsBack s l)
      (.start memphisDatabase) [goOn "v1", goOn "v1", goOn "v2", goOn "v2"] :=
    .cons rfl .goOn <| .cons rfl .goOn <| .cons rfl .goOn <|
      .cons rfl .goOn trivial
  obtain ⟨j, hj, haj, -⟩ := ((claims_sound_iff (.start memphisDatabase) hw).1 hback).progress "v2"
    (by rintro ⟨o, ho⟩; simp [hp] at ho)
  exact ⟨w, hw, ha, j, hj, haj⟩

/-! ### Two calls that roll back at once -/

/-- Another confirmation whose expiry has no offset from UTC. -/
def naiveConfirmation₂ : ConfirmationRow :=
  { naiveConfirmation with confirmationToken := "confirm-quote-55101" }

def twoNaive : Database :=
  { Database.empty with
    quotes := ⟨[naiveQuote], by decide⟩
    confirmations := ⟨[naiveConfirmation, naiveConfirmation₂], by decide⟩ }

/-- Those who call: two at once, and the second once more. -/
inductive Caller
  | first
  | second
  | retry
  deriving DecidableEq

/-- Both calls raise when they compare the expiry. -/
def retriedCalls : Caller → Call
  | .first => memphisCall "confirm-quote-55100" "v1"
  | .second | .retry => memphisCall "confirm-quote-55101" "v2"

/-- The first two calls find the transaction open, one rolls back and ends, the rollback of the
other raises, and the retry comes. -/
def crossedRollbacks : List (Caller × Event) :=
  List.replicate 5 (goOn .first) ++ List.replicate 5 (goOn .second) ++
    List.replicate 3 (goOn .first) ++ [(.second, .raise), goOn .second, goOn .retry]

/-- **A rollback that raises loses its record.** The call has raised, its record is in progress, and
the retry, the only call that has not ended, sleeps. -/
theorem rollback_loses_record :
    Initial (World.seeded twoNaive : World Caller) ∧ ∃ w : World Caller,
      exec (step retriedCalls) (.seeded twoNaive) crossedRollbacks = some w ∧
      w.pc .first = .done .raised ∧ w.pc .second = .done .raised ∧
      w.store "v2" = some (.inProgress (retriedCalls .second).requestFingerprint) ∧
      w.pc .retry = .claimRecord ∧ w.asleep .retry = true ∧ ¬ ClaimsSound retriedCalls w := by
  have hrun : (exec (step retriedCalls) (.seeded twoNaive) crossedRollbacks).map
      (fun w => ((w.pc .first, w.pc .second, w.pc .retry), w.store "v2", w.asleep .retry)) =
      some ((.done .raised, .done .raised, .claimRecord),
        some (.inProgress (retriedCalls .second).requestFingerprint), true) := by rfl
  obtain ⟨w, hw, hrun⟩ := Option.map_eq_some_iff.mp hrun
  obtain ⟨hpcs, hshared⟩ := Prod.mk.inj hrun
  obtain ⟨hfirst, hpcs⟩ := Prod.mk.inj hpcs
  obtain ⟨hsecond, hretry⟩ := Prod.mk.inj hpcs
  obtain ⟨hstore, hasleep⟩ := Prod.mk.inj hshared
  refine ⟨.seeded twoNaive, w, hw, hfirst, hsecond, hstore, hretry, hasleep, fun hsound => ?_⟩
  obtain ⟨j, hj, ha, -⟩ := hsound.progress .retry (by rintro ⟨o, ho⟩; simp [hretry] at ho)
  cases j with
  | first => exact hj ⟨_, hfirst⟩
  | second => exact hj ⟨_, hsecond⟩
  | retry => simp [hasleep] at ha

end Meridian.Gateway
