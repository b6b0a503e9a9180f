import Meridian.Foundations.Execution
import Mathlib.Data.List.Induction
import Mathlib.Data.List.Infix

/-!
# Loops that retry

A loop that goes on after every attempt until an attempt is final, or until too many attempts in a
row have been at fault. A fault may also begin a row of its own. Between the attempts the loop
waits, and the delays grow up to a cap.

## Main definitions

* `Foundations.Retry.next`: the number of faults in a row after a further attempt.
* `Foundations.Retry.streak`: the faults in a row at the end of a list of attempts.
* `Foundations.Retry.Paced`: a delay grows by at least a step, up to a cap.

## Main results

* `Foundations.Retry.exec_next_iff`: the loop goes on exactly if no attempt is final and no row is
  too long.
* `Foundations.Retry.Paced.bounds`: the delay after any number of attempts.
-/

namespace Foundations.Retry

/-- What an attempt says to the loop. A fault that is `fresh` begins a row. -/
inductive Signal
  | progress
  | fault (fresh : Bool)
  | final
  deriving DecidableEq

/-- The faults in a row after a further attempt, if the loop goes on. -/
def next (limit count : ℕ) : Signal → Option ℕ
  | .progress => some 0
  | .fault fresh =>
    let count := (if fresh then 0 else count) + 1
    if count < limit then some count else none
  | .final => none

/-- The faults in a row at the end of the attempts. -/
def streak (signals : List Signal) : ℕ :=
  let latest := signals.reverse
  (latest.takeWhile (· = .fault false)).length +
    if (latest.dropWhile (· = .fault false)).head? = some (.fault true) then 1 else 0

variable {limit count : ℕ} {signals : List Signal} {signal : Signal}

/-! ### Rows of faults -/

@[simp] theorem streak_nil : streak [] = 0 := rfl

@[simp] theorem streak_progress : streak (signals ++ [.progress]) = 0 := by
  simp [streak]

@[simp] theorem streak_final : streak (signals ++ [.final]) = 0 := by
  simp [streak]

@[simp] theorem streak_fresh : streak (signals ++ [.fault true]) = 1 := by
  simp [streak]

@[simp] theorem streak_fault : streak (signals ++ [.fault false]) = streak signals + 1 := by
  simp [streak, Nat.add_right_comm]

/-- One attempt goes on exactly if it is not final and does not make the row too long. -/
theorem next_eq_some_iff (hlimit : 0 < limit) :
    next limit (streak signals) signal = some count ↔
      signal ≠ .final ∧ streak (signals ++ [signal]) < limit ∧
        count = streak (signals ++ [signal]) := by
  cases signal with
  | progress => simp [next, hlimit, eq_comm]
  | final => simp [next]
  | fault fresh =>
    cases fresh with
    | true => simp [next, eq_comm]
    | false => simp [next, eq_comm]

/-- **When the loop goes on.** Exactly if no attempt was final and no row of faults has been too
long, and then it counts the faults of the row at the end. -/
theorem exec_next_iff (hlimit : 0 < limit) :
    exec (next limit) 0 signals = some count ↔
      .final ∉ signals ∧ (∀ before, before <+: signals → streak before < limit) ∧
        count = streak signals := by
  induction signals using List.reverseRecOn generalizing count with
  | nil => simp [hlimit, eq_comm]
  | append_singleton signals signal ih =>
    simp only [exec_concat_eq_some, ih, List.prefix_concat_iff, List.mem_append,
      List.mem_singleton, not_or, or_imp, forall_and, forall_eq]
    constructor
    · rintro ⟨_, ⟨hfinal, hrows, rfl⟩, hnext⟩
      obtain ⟨hsignal, hrow, hcount⟩ := (next_eq_some_iff hlimit).mp hnext
      exact ⟨⟨hfinal, Ne.symm hsignal⟩, ⟨hrow, hrows⟩, hcount⟩
    · rintro ⟨⟨hfinal, hsignal⟩, ⟨hrow, hrows⟩, hcount⟩
      exact ⟨_, ⟨hfinal, hrows, rfl⟩,
        (next_eq_some_iff hlimit).mpr ⟨Ne.symm hsignal, hrow, hcount⟩⟩

/-! ### Delays -/

/-- A step grows a delay that is at least `increment` by that much, up to the cap. -/
structure Paced {σ α : Type*} (step : σ → α → Option σ) (delay : σ → ℕ) (increment cap : ℕ) :
    Prop where
  capped : ∀ s a t, step s a = some t → delay t ≤ cap
  grows : ∀ s a t, step s a = some t → increment ≤ delay s → delay s ≤ cap →
    min (delay s + increment) cap ≤ delay t

variable {σ α : Type*} {step : σ → α → Option σ} {delay : σ → ℕ} {increment cap : ℕ} {s t : σ}
  {attempts : List α}

/-- **The delays.** They grow with the attempts and do not exceed the cap. -/
theorem Paced.bounds (h : Paced step delay increment cap) (hs : increment ≤ delay s)
    (hcap : delay s ≤ cap) (hexec : exec step s attempts = some t) :
    min (delay s + increment * attempts.length) cap ≤ delay t ∧ delay t ≤ cap := by
  induction attempts using List.reverseRecOn generalizing t with
  | nil =>
    obtain rfl := Option.some.inj hexec
    exact ⟨min_le_left _ _, hcap⟩
  | append_singleton attempts a ih =>
    obtain ⟨u, hu, hstep⟩ := exec_concat_eq_some.mp hexec
    obtain ⟨hlower, hupper⟩ := ih hu
    have hgrows := h.grows u a t hstep (by omega) hupper
    have hmul : increment * (attempts ++ [a]).length = increment * attempts.length + increment := by
      rw [List.length_append, List.length_singleton, Nat.mul_add, Nat.mul_one]
    refine ⟨?_, h.capped u a t hstep⟩
    rw [hmul]
    omega

end Foundations.Retry
