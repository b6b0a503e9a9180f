import Meridian.Gateway.BookingSystem

/-!
# Runs of concurrent bookings

How calls end, and what holds in every run in which no call raises.

## Main definitions

* `Meridian.Gateway.World.Executed`: a call has recorded its own result.
* `Meridian.Gateway.World.Returned`: a call has returned a result.
* `Meridian.Gateway.World.Raised`: a call has raised.

## Main results

* `Meridian.Gateway.run_isSome`: the next operation of a call is defined until it has ended.
* `Meridian.Gateway.along_not_raised`: a run at whose end no call has raised is one in which no call
  raises.
* `Meridian.Gateway.holder_unique_of_not_raised`: in such a run one call at a time works on a
  confirmation token.
-/

namespace Meridian.Gateway

open Foundations Db

variable {ι : Type*}

/-- The outcome of a call that has settled it. -/
def Pc.outcome? : Pc → Option Outcome
  | release o | done o => some o
  | _ => none

namespace World

/-- The call `i` has recorded the result `r` that it computed. -/
def Executed (w : World ι) (i : ι) (r : BookingResult) : Prop :=
  (w.pc i).outcome? = some (.executed r)

/-- The call `i` has ended. -/
def Ended (w : World ι) (i : ι) : Prop := ∃ o, w.pc i = .done o

/-- The call `i` has returned the result `r`. -/
def Returned (w : World ι) (i : ι) (r : BookingResult) : Prop :=
  ∃ o, w.pc i = .done o ∧ o.result? = some r

/-- The call `i` has raised. -/
def Raised (w : World ι) (i : ι) : Prop := (w.pc i).phase.Failed

variable {w : World ι} {i : ι} {r : BookingResult}

theorem phase_executed (h : w.Executed i r) : (w.lease.phase i).Executed r := by
  simp only [Executed] at h
  simp only [lease, Lease.Phase.Executed]
  cases hp : w.pc i <;> simp_all [Pc.outcome?, Pc.phase, Outcome.lease]

theorem phase_ended_iff : (w.lease.phase i).Ended ↔ w.Ended i := by
  simp only [lease, Lease.Phase.Ended, Ended]
  cases hp : w.pc i <;> simp [Pc.phase]

end World

variable [DecidableEq ι] {calls : ι → Call} {w w' w₀ : World ι} {i j : ι} {e : Event}
  {labels : List (ι × Event)}

/-- Only the call that moves changes its place. -/
theorem Move.pc_of_ne (h : Move calls w i e w') (hj : j ≠ i) : w'.pc j = w.pc j := by
  cases h <;> first | rfl | exact Function.update_of_ne hj _ _

/-- The next operation of a call is defined until the call has ended. -/
theorem run_isSome (h : ¬ w.Ended i) (call : Call) (now auditNow : UtcTime) :
    ∃ w', run call w i now auditNow = some w' := by
  rw [← Option.isSome_iff_exists]
  unfold run
  cases hp : w.pc i with
  | done o => exact absurd ⟨o, hp⟩ h
  | claimRecord =>
    cases claimRecord w.store call.idempotencyKey call.requestFingerprint with
    | none => rfl
    | some c => rcases c with ⟨_ | _ | _, _⟩ <;> rfl
  | claimTarget | selectConfirmation | completeRecord | abandon | release =>
    simp only
    split <;> rfl
  | selectQuote =>
    simp only
    split <;> rfl
  | checkTransaction =>
    simp only
    split <;> rfl
  | updateQuote | updateConfirmation | commit | rollback => rfl

/-! ### Runs without exceptions -/

theorem Move.raised (h : Move calls w i e w') (hi : w.Raised i) : w'.Raised i := by
  unfold World.Raised at hi ⊢
  cases h with
  | waitRecord _ hp | waitTarget _ hp => simp [hp, Pc.phase, Lease.Phase.Failed] at hi
  | release o hp | releaseNothing o hp =>
    simp only [hp] at hi
    simp only [World.notifyAll, World.goto_pc_self]
    cases o <;> simp_all [Pc.phase, Outcome.lease, Lease.Phase.Failed]
  | abandon targetClaimed | abandonNothing targetClaimed | rollbackRaises targetClaimed =>
    cases targetClaimed <;>
      simp [World.notifyAll, Pc.afterAbandon, Pc.phase, Outcome.lease, Lease.Phase.Failed]
  | checkRaises | completeRaises | raise | inTransaction | noTransaction | rollback =>
    simp [Pc.phase, Lease.Phase.Failed]
  | _ => simp_all [Pc.phase, Lease.Phase.Failed]

theorem raised_step (h : step calls w (i, e) = some w') (hj : w.Raised j) : w'.Raised j := by
  obtain ⟨-, hm⟩ := step_eq_some_iff.mp h
  by_cases hji : j = i
  · subst hji
    exact hm.raised hj
  · unfold World.Raised
    rwa [hm.pc_of_ne hji]

theorem raised_of_exec (h : exec (step calls) w labels = some w') (hj : w.Raised j) :
    w'.Raised j :=
  exec_invariant (fun s : World ι => s.Raised j) (fun _ _ _ hs ht => raised_step ht hs) hj h

/-- If no call has raised at the end of a run, no call has raised before. -/
theorem along_not_raised (hno : ∀ j, ¬ w'.Raised j) :
    {labels : List (ι × Event)} → {w : World ι} → exec (step calls) w labels = some w' →
      Along (step calls) (fun _ _ t => ∀ j, ¬ t.Raised j) w labels
  | [], _, _ => trivial
  | _ :: _, _, h => by
      obtain ⟨t, ht, h⟩ := exec_cons_eq_some.mp h
      intro t' ht'
      obtain rfl := Option.some.inj (ht.symm.trans ht')
      exact ⟨fun j hj => hno j (raised_of_exec h hj), along_not_raised hno h⟩

/-- In a run without exceptions every call that works on a token has claimed it under its key. -/
structure Claimed (calls : ι → Call) (w : World ι) : Prop where
  leaseInv : LeaseInv calls w
  held : Lease.Held (fun i => (calls i).request) w.lease
  noneLost : Lease.NoneLost (fun i => (calls i).request) w.lease
  not_raised : ∀ j, ¬ w.Raised j

theorem Claimed.step (h : Claimed calls w) (hs : step calls w (i, e) = some w')
    (hno : ∀ j, ¬ w'.Raised j) : Claimed calls w' := by
  obtain ⟨ha, hm⟩ := step_eq_some_iff.mp hs
  have hlease := hm.lease_step h.leaseInv ha
  refine ⟨h.leaseInv.step hs, h.leaseInv.held_step h.held h.not_raised hlease,
    h.noneLost.step hlease fun hloses => ?_, hno⟩
  obtain ⟨targetClaimed, hp, -⟩ := (hm.loses_iff h.leaseInv).mp hloses
  exact h.not_raised i (by rw [World.Raised, hp]; trivial)

omit [DecidableEq ι] in
theorem Initial.claimed (h : Initial w) : Claimed calls w := by
  refine ⟨h.leaseInv, fun i hi => ?_, .of_quiescent h.quiescent, fun i hi => ?_⟩
  · simp [World.lease, h.pc i, Pc.phase, Lease.Phase.Holds] at hi
  · simp [World.Raised, h.pc i, Pc.phase, Lease.Phase.Failed] at hi

omit [DecidableEq ι] in
/-- In a run without exceptions one call at a time works on a confirmation token. -/
theorem holder_unique_of_not_raised (h : Claimed calls w) (hi : (w.pc i).phase.Holds)
    (hj : (w.pc j).phase.Holds)
    (hij : (calls i).confirmationToken = (calls j).confirmationToken) : i = j :=
  h.leaseInv.holder_unique h.held h.not_raised hi hj hij

end Meridian.Gateway
