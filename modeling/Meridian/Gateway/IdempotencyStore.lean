import Meridian.Foundations.Lease

/-!
# The idempotency store

The functions of `backend/app/gateway/idempotency_store.py` as operations on the store and on the
target claims that belong to it. Each runs under the store's condition, so each is one atomic step;
the two that wait are given as one pass of their loop, and `none` stands for `condition.wait()`.

## Main definitions

* `Meridian.Gateway.claimRecord`, `Meridian.Gateway.completeRecord`,
  `Meridian.Gateway.abandonRecord`: the life of the record of a key.
* `Meridian.Gateway.claimTargetExecution`, `Meridian.Gateway.releaseTargetExecution`: the claim of
  a confirmation token.

## Main results

* `Meridian.Gateway.completeRecord_eq_none_iff`: exactly when a completion raises.
* `Meridian.Gateway.abandonRecord_eq_some_iff`: exactly when a record is withdrawn.
-/

namespace Meridian.Gateway

open Foundations

variable {V : Type*}

/-- `IdempotencyMapping`: the records by idempotency key, with results in `V`. -/
abbrev Store (V : Type*) := String → Option (Lease.Record String V)

/-- `_TARGET_CLAIMS` of a store: the idempotency key that claims a confirmation token. -/
abbrev TargetClaims := String → Option String

/-- `IdempotencyClaim`, with the result of the record it carries. -/
inductive IdempotencyClaim (V : Type*)
  | execute
  | replay (result : V)
  | conflict (result : V)
  deriving DecidableEq

/-- One pass of the loop of `claim_record`; `none` if the call waits. -/
def claimRecord (store : Store V) (key fingerprint : String) :
    Option (IdempotencyClaim V × Store V) :=
  match store key with
  | none => some (.execute, Function.update store key (some (.inProgress fingerprint)))
  | some (.completed fingerprint' result) =>
    some (if fingerprint' = fingerprint then .replay result else .conflict result, store)
  | some (.inProgress _) => none

/-- `complete_record`; `none` if it raises `ValueError`. -/
def completeRecord (store : Store V) (key fingerprint : String) (result : V) : Option (Store V) :=
  match store key with
  | none => some (Function.update store key (some (.completed fingerprint result)))
  | some (.inProgress fingerprint') =>
    if fingerprint' = fingerprint then
      some (Function.update store key (some (.completed fingerprint result)))
    else none
  | some (.completed _ _) => none

/-- `abandon_record`; `none` if it finds nothing to withdraw and notifies nobody. -/
def abandonRecord (store : Store V) (key fingerprint : String) : Option (Store V) :=
  match store key with
  | some (.inProgress fingerprint') =>
    if fingerprint' = fingerprint then some (Function.update store key none) else none
  | _ => none

/-- One pass of the loop of `claim_target_execution`; `none` if the call waits. -/
def claimTargetExecution (claims : TargetClaims) (token key : String) : Option TargetClaims :=
  match claims token with
  | none => some (Function.update claims token (some key))
  | some key' => if key' = key then some claims else none

/-- `release_target_execution`; `none` if the token is not claimed under the key. -/
def releaseTargetExecution (claims : TargetClaims) (token key : String) : Option TargetClaims :=
  if claims token = some key then some (Function.update claims token none) else none

variable {store store' : Store V} {claims claims' : TargetClaims} {key fingerprint token : String}
  {result : V}

/-! ### What the operations do -/

/-- A call waits for a record exactly while it is in progress. -/
theorem claimRecord_eq_none_iff :
    claimRecord store key fingerprint = none ↔ ∃ f, store key = some (.inProgress f) := by
  unfold claimRecord
  split <;> simp_all

theorem claimRecord_eq_execute_iff :
    claimRecord store key fingerprint = some (.execute, store') ↔
      store key = none ∧ store' = Function.update store key (some (.inProgress fingerprint)) := by
  unfold claimRecord
  split
  · simp_all [eq_comm]
  · split <;> simp_all
  · simp_all

theorem claimRecord_eq_replay_iff :
    claimRecord store key fingerprint = some (.replay result, store') ↔
      store key = some (.completed fingerprint result) ∧ store' = store := by
  unfold claimRecord
  split
  · simp_all
  · split <;> simp_all [eq_comm]
  · simp_all

theorem claimRecord_eq_conflict_iff :
    claimRecord store key fingerprint = some (.conflict result, store') ↔
      (∃ f, store key = some (.completed f result) ∧ f ≠ fingerprint) ∧ store' = store := by
  unfold claimRecord
  split
  · simp_all
  · split <;> simp_all [eq_comm]
  · simp_all

/-- A completion raises exactly on a record of another fingerprint or a completed one. -/
theorem completeRecord_eq_none_iff :
    completeRecord store key fingerprint result = none ↔
      (∃ f, store key = some (.inProgress f) ∧ f ≠ fingerprint) ∨
        ∃ f v, store key = some (.completed f v) := by
  unfold completeRecord
  split
  · simp_all
  · split <;> simp_all
  · simp_all

/-- A completion returns exactly without a record or on one in progress with its fingerprint. -/
theorem completeRecord_eq_some_iff :
    completeRecord store key fingerprint result = some store' ↔
      (store key = none ∨ store key = some (.inProgress fingerprint)) ∧
        store' = Function.update store key (some (.completed fingerprint result)) := by
  unfold completeRecord
  split
  · simp_all [eq_comm]
  · split <;> simp_all [eq_comm]
  · simp_all

theorem completeRecord_of_inProgress (h : store key = some (.inProgress fingerprint)) :
    completeRecord store key fingerprint result =
      some (Function.update store key (some (.completed fingerprint result))) := by
  simp [completeRecord, h]

/-- A record is withdrawn exactly if it is in progress with the fingerprint of the request. -/
theorem abandonRecord_eq_some_iff :
    abandonRecord store key fingerprint = some store' ↔
      store key = some (.inProgress fingerprint) ∧ store' = Function.update store key none := by
  unfold abandonRecord
  split
  · split <;> simp_all [eq_comm]
  · simp_all

theorem abandonRecord_eq_none_iff :
    abandonRecord store key fingerprint = none ↔
      store key ≠ some (.inProgress fingerprint) := by
  unfold abandonRecord
  split
  · split <;> simp_all
  · simp_all

/-- A call waits for a token exactly while another key claims it. -/
theorem claimTargetExecution_eq_none_iff :
    claimTargetExecution claims token key = none ↔ ∃ k, claims token = some k ∧ k ≠ key := by
  unfold claimTargetExecution
  split
  · simp_all
  · split <;> simp_all

theorem claimTargetExecution_eq_some_iff :
    claimTargetExecution claims token key = some claims' ↔
      (claims token = none ∨ claims token = some key) ∧
        claims' = Function.update claims token (some key) := by
  unfold claimTargetExecution
  split
  · simp_all [eq_comm]
  · rename_i k hk
    split
    · rename_i he
      rw [← he, ← hk, Function.update_eq_self]
      simp_all [eq_comm]
    · simp_all

theorem releaseTargetExecution_eq_some_iff :
    releaseTargetExecution claims token key = some claims' ↔
      claims token = some key ∧ claims' = Function.update claims token none := by
  unfold releaseTargetExecution
  split <;> simp_all [eq_comm]

theorem releaseTargetExecution_eq_none_iff :
    releaseTargetExecution claims token key = none ↔ claims token ≠ some key := by
  unfold releaseTargetExecution
  split <;> simp_all

end Meridian.Gateway
