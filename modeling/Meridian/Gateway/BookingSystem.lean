import Meridian.Db.Connection
import Meridian.Foundations.Execution
import Meridian.Gateway.BookingActions
import Meridian.Gateway.IdempotencyStore

/-!
# Concurrent bookings

Any number of calls of `execute_confirmed_booking` share one store and one connection. A state
consists of what they share and of the place in the code that each call has reached; a step is one
function of the store, one SQL statement, one commit or one rollback of one call, together with the
local computation up to the next of these. A step that raises enters the `except` block; besides the
steps that raise by themselves, the environment may let a call raise at any place inside the `try`
block (the caller's `before_submit_hook` is one such place).

In the `except` block `rollback()` can raise as well. It looks for a transaction and then executes
`ROLLBACK`, and fails if another call has ended the transaction in between. So a call whose
transaction is over when it comes to its rollback may go on, if it has looked after that, or raise,
if it has looked before. An exception there skips `abandon_record`, and the `finally` block still
runs. `in_transaction` raises only on a closed connection, and nothing closes it; the functions of
the store do not raise besides `complete_record`.

## Main definitions

* `Meridian.Gateway.World`: the shared state and the place of every call.
* `Meridian.Gateway.step`: the step of one call.
* `Meridian.Gateway.Move`: the same step as a relation with one constructor for each thing that a
  step can do.
* `Meridian.Gateway.World.lease`: the two-level lease that the calls take part in.

## Main results

* `Meridian.Gateway.step_eq_some_iff`: `step` and `Move` agree.
* `Meridian.Gateway.Move.lease_step`: bookings refine the two-level lease.
* `Meridian.Gateway.leaseInv_of_exec`: the invariant of the lease holds in every state reached.
-/

namespace Meridian.Gateway

open Foundations Db

/-! ### States -/

/-- How a call ends: with the result it computed, with a recorded result, with a denial because of
a recorded result, or with an exception. -/
inductive Outcome
  | executed (result : BookingResult)
  | replayed (result : BookingResult)
  | conflicted (result : BookingResult)
  | raised
  deriving DecidableEq

/-- The value that a call returns, if it returns one. -/
def Outcome.result? : Outcome → Option BookingResult
  | executed result | replayed result | conflicted result => some result
  | raised => none

/-- The place of a call: the shared operation that it performs next, with the local variables that
are still needed. `targetClaimed` is the variable of that name. -/
inductive Pc
  | claimRecord
  | claimTarget
  | selectConfirmation
  | selectQuote (confirmation : ConfirmationRow)
  | updateQuote (confirmation : ConfirmationRow)
  | updateConfirmation (confirmation : ConfirmationRow)
  | commit (confirmation : ConfirmationRow)
  | completeRecord (result : BookingResult)
  | checkTransaction (targetClaimed : Bool)
  | rollback (targetClaimed : Bool)
  | abandon (targetClaimed : Bool)
  | release (outcome : Outcome)
  | done (outcome : Outcome)
  deriving DecidableEq

/-- Inside the `try` block, the value of `targetClaimed`. -/
def Pc.inTry : Pc → Option Bool
  | claimTarget => some false
  | selectConfirmation | selectQuote _ | updateQuote _ | updateConfirmation _ | commit _
  | completeRecord _ => some true
  | _ => none

/-- Behind the `except` block: the `finally` block gives back a claimed target. -/
def Pc.afterAbandon (targetClaimed : Bool) : Pc :=
  if targetClaimed then .release .raised else .done .raised

/-- Where an exception takes a call: out of the `try` block into the `except` block, and out of a
`rollback` whose transaction is over behind the `except` block. -/
def Pc.afterRaise (connection : Connection) : Pc → Option Pc
  | rollback targetClaimed =>
    if connection.inTransaction then none else some (afterAbandon targetClaimed)
  | p => p.inTry.map checkTransaction

/-- What happens next to a call: it goes on, with two readings of the clock, or it raises. -/
inductive Event
  | run (now auditNow : UtcTime)
  | raise

/-- The shared state and the place of every call. A call that waits in `claim_record` or in
`claim_target_execution` sleeps until a notification. -/
structure World (ι : Type*) where
  store : Store BookingResult
  claims : TargetClaims
  connection : Connection
  pc : ι → Pc
  asleep : ι → Bool

variable {ι : Type*}

namespace World

def withStore (w : World ι) (store : Store BookingResult) : World ι := { w with store := store }

def withClaims (w : World ι) (claims : TargetClaims) : World ι := { w with claims := claims }

def withConnection (w : World ι) (connection : Connection) : World ι :=
  { w with connection := connection }

/-- `condition.notify_all()`. -/
def notifyAll (w : World ι) : World ι := { w with asleep := fun _ => false }

variable [DecidableEq ι]

/-- The call `i` proceeds to `p`. -/
def goto (w : World ι) (i : ι) (p : Pc) : World ι := { w with pc := Function.update w.pc i p }

/-- `condition.wait()` in the call `i`. -/
def wait (w : World ι) (i : ι) : World ι := { w with asleep := Function.update w.asleep i true }

end World

/-! ### Steps -/

section Step

variable [DecidableEq ι] (calls : ι → Call)

/-- The next operation of the call `i` with the arguments `call`, if it is awake and does not raise
from outside. -/
def run (call : Call) (w : World ι) (i : ι) (now auditNow : UtcTime) : Option (World ι) :=
  match w.pc i with
  | .claimRecord =>
    match claimRecord w.store call.idempotencyKey call.requestFingerprint with
    | none => some (w.wait i)
    | some (.execute, store) => some ((w.withStore store).goto i .claimTarget)
    | some (.replay result, _) => some (w.goto i (.done (.replayed result)))
    | some (.conflict result, _) =>
      some (w.goto i (.done (.conflicted (conflictResult call result auditNow))))
  | .claimTarget =>
    match claimTargetExecution w.claims call.confirmationToken call.idempotencyKey with
    | none => some (w.wait i)
    | some claims => some ((w.withClaims claims).goto i .selectConfirmation)
  | .selectConfirmation =>
    match w.connection.rows.confirmations.lookup call.confirmationToken with
    | none => some (w.goto i (.completeRecord (missingResult call auditNow)))
    | some confirmation => some (w.goto i (.selectQuote confirmation))
  | .selectQuote confirmation =>
    match staleResultIfNeeded call confirmation
        (w.connection.rows.quotes.lookup confirmation.quoteId) now auditNow with
    | .error _ => some (w.goto i (.checkTransaction true))
    | .ok (some result) => some (w.goto i (.completeRecord result))
    | .ok none => some (w.goto i (.updateQuote confirmation))
  | .updateQuote confirmation =>
    some ((w.withConnection (w.connection.update (·.bookQuote confirmation.quoteId))).goto i
      (.updateConfirmation confirmation))
  | .updateConfirmation confirmation =>
    some ((w.withConnection
      (w.connection.update (·.consumeConfirmation call.confirmationToken))).goto i
      (.commit confirmation))
  | .commit confirmation =>
    some ((w.withConnection w.connection.commit).goto i
      (.completeRecord (submittedResult call confirmation auditNow)))
  | .completeRecord result =>
    match completeRecord w.store call.idempotencyKey call.requestFingerprint result with
    | none => some (w.goto i (.checkTransaction true))
    | some store => some (((w.withStore store).goto i (.release (.executed result))).notifyAll)
  | .checkTransaction targetClaimed =>
    if w.connection.inTransaction then some (w.goto i (.rollback targetClaimed))
    else some (w.goto i (.abandon targetClaimed))
  | .rollback targetClaimed =>
    some ((w.withConnection w.connection.rollback).goto i (.abandon targetClaimed))
  | .abandon targetClaimed =>
    match abandonRecord w.store call.idempotencyKey call.requestFingerprint with
    | none => some (w.goto i (.afterAbandon targetClaimed))
    | some store => some (((w.withStore store).goto i (.afterAbandon targetClaimed)).notifyAll)
  | .release outcome =>
    match releaseTargetExecution w.claims call.confirmationToken call.idempotencyKey with
    | none => some (w.goto i (.done outcome))
    | some claims => some (((w.withClaims claims).goto i (.done outcome)).notifyAll)
  | .done _ => none

/-- The step of the call `i`; a sleeping call takes none. -/
def step (w : World ι) : ι × Event → Option (World ι)
  | (i, .run now auditNow) => if w.asleep i then none else run (calls i) w i now auditNow
  | (i, .raise) =>
    if w.asleep i then none
    else ((w.pc i).afterRaise w.connection).map (w.goto i)

/-- Everything that a step of the call `i` can do. -/
inductive Move (w : World ι) (i : ι) : Event → World ι → Prop
  | waitRecord {now auditNow} (f : String) (hp : w.pc i = .claimRecord)
      (hr : w.store (calls i).idempotencyKey = some (.inProgress f)) :
      Move w i (.run now auditNow) (w.wait i)
  | execute {now auditNow} (hp : w.pc i = .claimRecord)
      (hr : w.store (calls i).idempotencyKey = none) :
      Move w i (.run now auditNow) ((w.withStore (Function.update w.store (calls i).idempotencyKey
        (some (.inProgress (calls i).requestFingerprint)))).goto i .claimTarget)
  | replay {now auditNow} (r : BookingResult) (hp : w.pc i = .claimRecord)
      (hr : w.store (calls i).idempotencyKey =
        some (.completed (calls i).requestFingerprint r)) :
      Move w i (.run now auditNow) (w.goto i (.done (.replayed r)))
  | conflict {now auditNow} (f : String) (r : BookingResult) (hp : w.pc i = .claimRecord)
      (hr : w.store (calls i).idempotencyKey = some (.completed f r))
      (hf : f ≠ (calls i).requestFingerprint) :
      Move w i (.run now auditNow)
        (w.goto i (.done (.conflicted (conflictResult (calls i) r auditNow))))
  | waitTarget {now auditNow} (k : String) (hp : w.pc i = .claimTarget)
      (ht : w.claims (calls i).confirmationToken = some k) (hk : k ≠ (calls i).idempotencyKey) :
      Move w i (.run now auditNow) (w.wait i)
  | claimTarget {now auditNow} (hp : w.pc i = .claimTarget)
      (ht : w.claims (calls i).confirmationToken = none ∨
        w.claims (calls i).confirmationToken = some (calls i).idempotencyKey) :
      Move w i (.run now auditNow) ((w.withClaims (Function.update w.claims
        (calls i).confirmationToken (some (calls i).idempotencyKey))).goto i .selectConfirmation)
  | missing {now auditNow} (hp : w.pc i = .selectConfirmation)
      (hc : w.connection.rows.confirmations.lookup (calls i).confirmationToken = none) :
      Move w i (.run now auditNow)
        (w.goto i (.completeRecord (missingResult (calls i) auditNow)))
  | selectConfirmation {now auditNow} (confirmation : ConfirmationRow)
      (hp : w.pc i = .selectConfirmation)
      (hc : w.connection.rows.confirmations.lookup (calls i).confirmationToken =
        some confirmation) :
      Move w i (.run now auditNow) (w.goto i (.selectQuote confirmation))
  | checkRaises {now auditNow} (confirmation : ConfirmationRow) (e : TimestampError)
      (hp : w.pc i = .selectQuote confirmation)
      (hs : staleResultIfNeeded (calls i) confirmation
        (w.connection.rows.quotes.lookup confirmation.quoteId) now auditNow = .error e) :
      Move w i (.run now auditNow) (w.goto i (.checkTransaction true))
  | stale {now auditNow} (confirmation : ConfirmationRow)
      (hp : w.pc i = .selectQuote confirmation)
      (hs : staleResultIfNeeded (calls i) confirmation
        (w.connection.rows.quotes.lookup confirmation.quoteId) now auditNow =
          .ok (some (staleResult (calls i) confirmation auditNow))) :
      Move w i (.run now auditNow)
        (w.goto i (.completeRecord (staleResult (calls i) confirmation auditNow)))
  | pass {now auditNow} (confirmation : ConfirmationRow)
      (hp : w.pc i = .selectQuote confirmation)
      (he : Eligible (calls i) confirmation
        (w.connection.rows.quotes.lookup confirmation.quoteId) now) :
      Move w i (.run now auditNow) (w.goto i (.updateQuote confirmation))
  | updateQuote {now auditNow} (confirmation : ConfirmationRow)
      (hp : w.pc i = .updateQuote confirmation) :
      Move w i (.run now auditNow) ((w.withConnection
        (w.connection.update (·.bookQuote confirmation.quoteId))).goto i
          (.updateConfirmation confirmation))
  | updateConfirmation {now auditNow} (confirmation : ConfirmationRow)
      (hp : w.pc i = .updateConfirmation confirmation) :
      Move w i (.run now auditNow) ((w.withConnection
        (w.connection.update (·.consumeConfirmation (calls i).confirmationToken))).goto i
          (.commit confirmation))
  | commit {now auditNow} (confirmation : ConfirmationRow) (hp : w.pc i = .commit confirmation) :
      Move w i (.run now auditNow) ((w.withConnection w.connection.commit).goto i
        (.completeRecord (submittedResult (calls i) confirmation auditNow)))
  | complete {now auditNow} (r : BookingResult) (store : Store BookingResult)
      (hp : w.pc i = .completeRecord r)
      (hs : completeRecord w.store (calls i).idempotencyKey (calls i).requestFingerprint r =
        some store) :
      Move w i (.run now auditNow)
        (((w.withStore store).goto i (.release (.executed r))).notifyAll)
  | completeRaises {now auditNow} (r : BookingResult) (hp : w.pc i = .completeRecord r)
      (hs : completeRecord w.store (calls i).idempotencyKey (calls i).requestFingerprint r =
        none) :
      Move w i (.run now auditNow) (w.goto i (.checkTransaction true))
  | inTransaction {now auditNow} (targetClaimed : Bool)
      (hp : w.pc i = .checkTransaction targetClaimed) (ht : w.connection.inTransaction = true) :
      Move w i (.run now auditNow) (w.goto i (.rollback targetClaimed))
  | noTransaction {now auditNow} (targetClaimed : Bool)
      (hp : w.pc i = .checkTransaction targetClaimed) (ht : w.connection.inTransaction = false) :
      Move w i (.run now auditNow) (w.goto i (.abandon targetClaimed))
  | rollback {now auditNow} (targetClaimed : Bool) (hp : w.pc i = .rollback targetClaimed) :
      Move w i (.run now auditNow)
        ((w.withConnection w.connection.rollback).goto i (.abandon targetClaimed))
  | abandon {now auditNow} (targetClaimed : Bool) (hp : w.pc i = .abandon targetClaimed)
      (hr : w.store (calls i).idempotencyKey = some (.inProgress (calls i).requestFingerprint)) :
      Move w i (.run now auditNow) (((w.withStore
        (Function.update w.store (calls i).idempotencyKey none)).goto i
          (.afterAbandon targetClaimed)).notifyAll)
  | abandonNothing {now auditNow} (targetClaimed : Bool) (hp : w.pc i = .abandon targetClaimed)
      (hr : w.store (calls i).idempotencyKey ≠ some (.inProgress (calls i).requestFingerprint)) :
      Move w i (.run now auditNow) (w.goto i (.afterAbandon targetClaimed))
  | release {now auditNow} (o : Outcome) (hp : w.pc i = .release o)
      (ht : w.claims (calls i).confirmationToken = some (calls i).idempotencyKey) :
      Move w i (.run now auditNow) (((w.withClaims
        (Function.update w.claims (calls i).confirmationToken none)).goto i (.done o)).notifyAll)
  | releaseNothing {now auditNow} (o : Outcome) (hp : w.pc i = .release o)
      (ht : w.claims (calls i).confirmationToken ≠ some (calls i).idempotencyKey) :
      Move w i (.run now auditNow) (w.goto i (.done o))
  | raise (targetClaimed : Bool) (hp : (w.pc i).inTry = some targetClaimed) :
      Move w i .raise (w.goto i (.checkTransaction targetClaimed))
  | rollbackRaises (targetClaimed : Bool) (hp : w.pc i = .rollback targetClaimed)
      (ht : w.connection.inTransaction = false) :
      Move w i .raise (w.goto i (.afterAbandon targetClaimed))

end Step

variable [DecidableEq ι] {calls : ι → Call} {w w' : World ι} {i j : ι} {e : Event}

theorem Move.of_run {now auditNow : UtcTime} (h : run (calls i) w i now auditNow = some w') :
    Move calls w i (.run now auditNow) w' := by
  unfold run at h
  split at h
  case h_1 hp =>
    split at h
    · obtain ⟨f, hf⟩ := claimRecord_eq_none_iff.mp ‹_›
      cases h
      exact .waitRecord f hp hf
    · obtain ⟨hr, rfl⟩ := claimRecord_eq_execute_iff.mp ‹_›
      cases h
      exact .execute hp hr
    · obtain ⟨hr, -⟩ := claimRecord_eq_replay_iff.mp ‹_›
      cases h
      exact .replay _ hp hr
    · obtain ⟨⟨f, hr, hf⟩, -⟩ := claimRecord_eq_conflict_iff.mp ‹_›
      cases h
      exact .conflict f _ hp hr hf
  case h_2 hp =>
    split at h
    · obtain ⟨k, hk, hne⟩ := claimTargetExecution_eq_none_iff.mp ‹_›
      cases h
      exact .waitTarget k hp hk hne
    · obtain ⟨ht, rfl⟩ := claimTargetExecution_eq_some_iff.mp ‹_›
      cases h
      exact .claimTarget hp ht
  case h_3 hp =>
    split at h
    · cases h
      exact .missing hp ‹_›
    · cases h
      exact .selectConfirmation _ hp ‹_›
  case h_4 confirmation hp =>
    split at h
    · cases h
      exact .checkRaises confirmation _ hp ‹_›
    · rename_i r hs
      obtain rfl := staleResultIfNeeded_eq_some hs
      cases h
      exact .stale confirmation hp hs
    · cases h
      exact .pass confirmation hp (staleResultIfNeeded_eq_none_iff.mp ‹_›)
  case h_5 confirmation hp => cases h; exact .updateQuote confirmation hp
  case h_6 confirmation hp => cases h; exact .updateConfirmation confirmation hp
  case h_7 confirmation hp => cases h; exact .commit confirmation hp
  case h_8 r hp =>
    split at h
    · cases h
      exact .completeRaises r hp ‹_›
    · cases h
      exact .complete r _ hp ‹_›
  case h_9 targetClaimed hp =>
    split at h
    · cases h
      exact .inTransaction targetClaimed hp ‹_›
    · rename_i ht
      cases h
      exact .noTransaction targetClaimed hp (Bool.eq_false_iff.mpr ht)
  case h_10 targetClaimed hp => cases h; exact .rollback targetClaimed hp
  case h_11 targetClaimed hp =>
    split at h
    · cases h
      exact .abandonNothing targetClaimed hp (abandonRecord_eq_none_iff.mp ‹_›)
    · obtain ⟨hr, rfl⟩ := abandonRecord_eq_some_iff.mp ‹_›
      cases h
      exact .abandon targetClaimed hp hr
  case h_12 o hp =>
    split at h
    · cases h
      exact .releaseNothing o hp (releaseTargetExecution_eq_none_iff.mp ‹_›)
    · obtain ⟨ht, rfl⟩ := releaseTargetExecution_eq_some_iff.mp ‹_›
      cases h
      exact .release o hp ht
  case h_13 => cases h

theorem Move.of_afterRaise {p : Pc} (h : (w.pc i).afterRaise w.connection = some p) :
    Move calls w i .raise (w.goto i p) := by
  unfold Pc.afterRaise at h
  split at h
  · next targetClaimed hp =>
    rw [Option.ite_none_left_eq_some, Bool.not_eq_true] at h
    obtain ⟨ht, hp'⟩ := h
    cases hp'
    exact .rollbackRaises targetClaimed hp ht
  · obtain ⟨targetClaimed, hp, rfl⟩ := Option.map_eq_some_iff.mp h
    exact .raise targetClaimed hp

/-- An exception inside the `try` block is handled. -/
theorem Pc.afterRaise_of_inTry {p : Pc} {connection : Connection} {targetClaimed : Bool}
    (h : p.inTry = some targetClaimed) :
    p.afterRaise connection = some (.checkTransaction targetClaimed) := by
  cases p with
  | rollback => cases h
  | _ => rw [afterRaise, h, Option.map_some]; nofun

/-- `step` takes exactly the moves of the calls that are awake. -/
theorem step_eq_some_iff :
    step calls w (i, e) = some w' ↔ w.asleep i = false ∧ Move calls w i e w' := by
  constructor
  · intro h
    cases e with
    | run now auditNow =>
      simp only [step, Option.ite_none_left_eq_some, Bool.not_eq_true] at h
      exact ⟨h.1, .of_run h.2⟩
    | raise =>
      simp only [step, Option.ite_none_left_eq_some, Bool.not_eq_true, Option.map_eq_some_iff] at h
      obtain ⟨ha, p, hp, rfl⟩ := h
      exact ⟨ha, .of_afterRaise hp⟩
  · rintro ⟨ha, hm⟩
    cases hm with
    | waitRecord f hp hr => simp [step, ha, run, hp, claimRecord, hr]
    | execute hp hr => simp [step, ha, run, hp, claimRecord, hr]
    | replay r hp hr => simp [step, ha, run, hp, claimRecord, hr]
    | conflict f r hp hr hf => simp [step, ha, run, hp, claimRecord, hr, hf]
    | waitTarget k hp ht hk => simp [step, ha, run, hp, claimTargetExecution, ht, hk]
    | claimTarget hp ht =>
      simp [step, ha, run, hp, claimTargetExecution_eq_some_iff.mpr ⟨ht, rfl⟩]
    | missing hp hc => simp [step, ha, run, hp, hc]
    | selectConfirmation confirmation hp hc => simp [step, ha, run, hp, hc]
    | checkRaises confirmation e hp hs => simp [step, ha, run, hp, hs]
    | stale confirmation hp hs => simp [step, ha, run, hp, hs]
    | @pass now auditNow confirmation hp he =>
      have hs : staleResultIfNeeded (calls i) confirmation
          (w.connection.rows.quotes.lookup confirmation.quoteId) now auditNow = .ok none :=
        staleResultIfNeeded_eq_none_iff.mpr he
      simp [step, ha, run, hp, hs]
    | updateQuote confirmation hp => simp [step, ha, run, hp]
    | updateConfirmation confirmation hp => simp [step, ha, run, hp]
    | commit confirmation hp => simp [step, ha, run, hp]
    | complete r store hp hs => simp [step, ha, run, hp, hs]
    | completeRaises r hp hs => simp [step, ha, run, hp, hs]
    | inTransaction targetClaimed hp ht => simp [step, ha, run, hp, ht]
    | noTransaction targetClaimed hp ht => simp [step, ha, run, hp, ht]
    | rollback targetClaimed hp => simp [step, ha, run, hp]
    | abandon targetClaimed hp hr => simp [step, ha, run, hp, abandonRecord, hr]
    | abandonNothing targetClaimed hp hr =>
      simp [step, ha, run, hp, abandonRecord_eq_none_iff.mpr hr]
    | release o hp ht => simp [step, ha, run, hp, releaseTargetExecution, ht]
    | releaseNothing o hp ht => simp [step, ha, run, hp, releaseTargetExecution, ht]
    | raise targetClaimed hp => simp [step, ha, Pc.afterRaise_of_inTry hp]
    | rollbackRaises targetClaimed hp ht => simp [step, ha, hp, Pc.afterRaise, ht]

/-! ### Bookings as a two-level lease -/

/-- What a call asks of the lease: its record and its confirmation token. -/
def Call.request (call : Call) : Lease.Request String String String :=
  ⟨call.idempotencyKey, call.confirmationToken, call.requestFingerprint⟩

/-- The outcome of a call as the lease sees it. -/
def Outcome.lease : Outcome → Lease.Outcome BookingResult
  | executed result => .executed result
  | replayed result => .replayed result
  | conflicted _ => .conflicted
  | raised => .raised

/-- The place of a call as the lease sees it. -/
def Pc.phase : Pc → Lease.Phase BookingResult
  | claimRecord => .idle
  | claimTarget => .keyed
  | selectConfirmation | selectQuote _ | updateQuote _ | updateConfirmation _ | commit _
  | completeRecord _ => .working
  | checkTransaction targetClaimed | rollback targetClaimed | abandon targetClaimed =>
    .failing targetClaimed
  | release o => .releasing o.lease
  | done o => .ended o.lease

/-- The two-level lease of a state. -/
def World.lease (w : World ι) : Lease.State ι String String String BookingResult where
  records := w.store
  targets := w.claims
  phase i := (w.pc i).phase
  asleep := w.asleep

/-- No call has started and nothing is leased: what `create_app` sets up, or what is left when all
earlier calls have ended. -/
structure Initial (w : World ι) : Prop where
  pc : ∀ i, w.pc i = .claimRecord
  awake : ∀ i, w.asleep i = false
  settled : ∀ k f, w.store k ≠ some (.inProgress f)
  unclaimed : ∀ t, w.claims t = none

namespace World

variable {p : Pc} {store : Store BookingResult} {claims : TargetClaims} {connection : Connection}

@[simp] theorem goto_pc_self : (w.goto i p).pc i = p := Function.update_self ..

theorem goto_pc_of_ne (h : j ≠ i) : (w.goto i p).pc j = w.pc j := Function.update_of_ne h ..

@[simp] theorem lease_goto : (w.goto i p).lease = w.lease.goto i p.phase := by
  have h : (fun j => (Function.update w.pc i p j).phase) =
      Function.update (fun j => (w.pc j).phase) i p.phase := by
    ext j
    by_cases hj : j = i
    · subst hj
      simp
    · simp [hj]
  simp only [lease, goto, Lease.State.goto, h]

/-- A call that proceeds inside a phase does not change the lease. -/
theorem lease_goto_of_phase (h : p.phase = (w.pc i).phase) : (w.goto i p).lease = w.lease := by
  rw [lease_goto, h]
  simp [lease, Lease.State.goto]

section

omit [DecidableEq ι]

@[simp] theorem lease_notifyAll : w.notifyAll.lease = w.lease.notifyAll := rfl

@[simp] theorem lease_withStore_update {k : String}
    {r : Option (Lease.Record String BookingResult)} :
    (w.withStore (Function.update w.store k r)).lease = w.lease.setRecord k r := rfl

@[simp] theorem lease_withClaims_update {t : String} {c : Option String} :
    (w.withClaims (Function.update w.claims t c)).lease = w.lease.setTarget t c := rfl

end

end World

theorem Pc.phase_of_inTry {p : Pc} {targetClaimed : Bool} (h : p.inTry = some targetClaimed) :
    p.phase = if targetClaimed then .working else .keyed := by
  cases p <;> simp [inTry] at h <;> subst h <;> rfl

theorem Pc.phase_afterAbandon (targetClaimed : Bool) :
    (afterAbandon targetClaimed).phase =
      bif targetClaimed then .releasing .raised else .ended .raised := by
  cases targetClaimed <;> rfl

/-- **Bookings refine the two-level lease.** Every move of a call is a step of the lease. -/
theorem Move.lease_step (h : Lease.Inv (fun i => (calls i).request) w.lease)
    (ha : w.asleep i = false) (hm : Move calls w i e w') :
    Lease.Step (fun i => (calls i).request) w.lease i w'.lease := by
  have phase : ∀ {p}, w.pc i = p → w.lease.phase i = p.phase := fun hp => by
    simp only [World.lease, hp]
  have work : ∀ {p p'}, w.pc i = p → p.phase = .working → p'.phase = .working →
      Lease.Step (fun i => (calls i).request) w.lease i (w.goto i p').lease := by
    intro p p' hp hw hw'
    rw [World.lease_goto_of_phase (by rw [hp, hw, hw'])]
    exact .work (by rw [phase hp, hw])
  cases hm with
  | waitRecord f hp hr => exact .waitRecord f (phase hp) hr
  | execute hp hr =>
    rw [World.lease_goto, World.lease_withStore_update]
    exact .acquire (phase hp) hr
  | replay r hp hr =>
    rw [World.lease_goto]
    exact .replay r (phase hp) hr
  | conflict f r hp hr hf =>
    rw [World.lease_goto]
    exact .conflict f r (phase hp) hr hf
  | waitTarget k hp ht hk => exact .waitTarget k (phase hp) ht hk
  | claimTarget hp ht =>
    rw [World.lease_goto, World.lease_withClaims_update]
    exact .claim (phase hp) ht
  | missing hp | selectConfirmation _ hp | stale _ hp | pass _ hp => exact work hp rfl rfl
  | updateQuote _ hp | updateConfirmation _ hp | commit _ hp => exact work hp rfl rfl
  | checkRaises _ _ hp | completeRaises _ hp =>
    rw [World.lease_goto]
    exact .failWorking (phase hp)
  | complete r store hp hs =>
    have hr := h.owned i (by rw [phase hp]; trivial)
    obtain rfl := Option.some.inj (hs.symm.trans (completeRecord_of_inProgress hr))
    rw [World.lease_notifyAll, World.lease_goto]
    exact .complete r (phase hp) hr
  | inTransaction targetClaimed hp | noTransaction targetClaimed hp =>
    rw [World.lease_goto_of_phase (by rw [hp]; rfl)]
    exact .handle targetClaimed (phase hp)
  | rollback targetClaimed hp =>
    have hg : (w.goto i (.abandon targetClaimed)).lease = w.lease :=
      World.lease_goto_of_phase (by rw [hp]; rfl)
    show Lease.Step _ w.lease i (w.goto i (.abandon targetClaimed)).lease
    rw [hg]
    exact .handle targetClaimed (phase hp)
  | abandon targetClaimed hp hr =>
    rw [World.lease_notifyAll, World.lease_goto, World.lease_withStore_update,
      Pc.phase_afterAbandon]
    exact .abandon targetClaimed (phase hp) hr
  | abandonNothing targetClaimed hp hr =>
    exact absurd (h.owned i (by rw [phase hp]; trivial)) hr
  | release o hp ht =>
    rw [World.lease_notifyAll, World.lease_goto, World.lease_withClaims_update]
    exact .release o.lease (phase hp) ht
  | releaseNothing o hp ht =>
    rw [World.lease_goto]
    exact .releaseForeign o.lease (phase hp) ht
  | raise targetClaimed hp =>
    rw [World.lease_goto]
    have hphase := Pc.phase_of_inTry hp
    cases targetClaimed with
    | false => exact .failKeyed hphase ha
    | true => exact .failWorking hphase
  | rollbackRaises targetClaimed hp =>
    rw [World.lease_goto, Pc.phase_afterAbandon]
    exact .lose targetClaimed (phase hp)

/-- No call on a fresh store has started yet. -/
def World.start (db : Database) : World ι where
  store := fun _ => none
  claims := fun _ => none
  connection := .ofDatabase db
  pc := fun _ => .claimRecord
  asleep := fun _ => false

omit [DecidableEq ι] in
theorem Initial.start (db : Database) : Initial (World.start db : World ι) where
  pc _ := rfl
  awake _ := rfl
  settled _ _ := nofun
  unclaimed _ := rfl

/-- No call has started on a connection whose rows have been inserted and not committed. -/
def World.seeded (db : Database) : World ι :=
  (World.start db).withConnection ⟨db, .empty, true, by simp⟩

omit [DecidableEq ι] in
theorem Initial.seeded (db : Database) : Initial (World.seeded db : World ι) where
  pc _ := rfl
  awake _ := rfl
  settled _ _ := nofun
  unclaimed _ := rfl

omit [DecidableEq ι] in
theorem Initial.quiescent (h : Initial w) : Lease.Quiescent w.lease where
  idle i := by simp [World.lease, h.pc i, Pc.phase]
  awake := h.awake
  settled := h.settled
  unclaimed := h.unclaimed

/-- The invariant of the two-level lease, for bookings. -/
def LeaseInv (calls : ι → Call) (w : World ι) : Prop :=
  Lease.Inv (fun i => (calls i).request) w.lease

omit [DecidableEq ι] in
theorem Initial.leaseInv (h : Initial w) : LeaseInv calls w := Lease.Inv.of_quiescent h.quiescent

/-- A call loses its record exactly if its rollback raises. -/
theorem Move.loses_iff (h : LeaseInv calls w) (hm : Move calls w i e w') :
    Lease.Loses w.lease i w'.lease ↔
      ∃ targetClaimed, w.pc i = .rollback targetClaimed ∧ e = .raise := by
  constructor
  · rintro ⟨howns, hnot, hrecords⟩
    have hr := h.owned i howns
    cases hm with
    | rollbackRaises targetClaimed hp => exact ⟨targetClaimed, hp, rfl⟩
    | complete r store hp hs =>
      obtain rfl := Option.some.inj (hs.symm.trans (completeRecord_of_inProgress hr))
      have hsame := congrFun hrecords (calls i).idempotencyKey
      rw [show w.lease.records (calls i).idempotencyKey = _ from hr] at hsame
      simp [World.lease, World.withStore, World.notifyAll, World.goto] at hsame
    | abandon targetClaimed hp =>
      have hsame := congrFun hrecords (calls i).idempotencyKey
      rw [show w.lease.records (calls i).idempotencyKey = _ from hr] at hsame
      simp [World.lease, World.withStore, World.notifyAll, World.goto] at hsame
    | abandonNothing targetClaimed hp hne => exact absurd hr hne
    | waitRecord _ hp | execute hp | replay _ hp | conflict _ _ hp | release _ hp
    | releaseNothing _ hp =>
      simp [World.lease, hp, Pc.phase, Lease.Phase.Owns] at howns
    | waitTarget _ hp => exact absurd howns hnot
    | _ => simp [World.lease, World.goto, Pc.phase, Lease.Phase.Owns] at hnot
  · rintro ⟨targetClaimed, hp, rfl⟩
    cases hm with
    | raise _ hp' => simp [hp, Pc.inTry] at hp'
    | rollbackRaises targetClaimed' hp' =>
      refine ⟨by simp [World.lease, hp, Pc.phase, Lease.Phase.Owns], ?_, rfl⟩
      cases targetClaimed' <;>
        simp [World.lease, World.goto, Pc.afterAbandon, Pc.phase, Lease.Phase.Owns]

theorem LeaseInv.step (h : LeaseInv calls w) (hs : step calls w (i, e) = some w') :
    LeaseInv calls w' := by
  obtain ⟨ha, hm⟩ := step_eq_some_iff.mp hs
  exact Lease.Inv.step h (hm.lease_step h ha)

/-- The invariant of the two-level lease holds in every state reached. -/
theorem leaseInv_of_exec {labels : List (ι × Event)} (h : Initial w)
    (hrun : exec (step calls) w labels = some w') : LeaseInv calls w' :=
  exec_invariant (LeaseInv calls) (fun _ _ _ hi hs => hi.step hs) h.leaseInv hrun

end Meridian.Gateway
