import Mathlib.Logic.Function.Basic
import Mathlib.Tactic.Common

/-!
# Two-level leases

Processes share a map of records and a map of target claims. Each process has a key, a target and
a fingerprint. It first leases the record of its key, which other processes with that key then
wait for; it next claims its target under its key, which processes with other keys wait for; it
works; and it settles its record, either with a value (complete) or by withdrawing it (abandon),
before it gives the target back. A process that fails may also leave its record leased; the record
is then lost, for nobody else settles it. A process that finds a settled record ends at once, with
the recorded value if the fingerprints agree. Waiting processes sleep until a notification, which
every change they can wait for sends to all of them.

The claim of a target is re-entrant by key: a process whose key already holds the target passes.
Two processes of one key can therefore both hold a target, when the first withdrew its record but
has not given the target back yet.

## Main definitions

* `Foundations.Lease.Step`: what one process does in one atomic step.
* `Foundations.Lease.Inv`: the invariant that ties every owner to its leased record and every
  claimed target to a live process.
* `Foundations.Lease.NoneLost`, `Foundations.Lease.Lost`: every leased record has a live owner, or
  one has none.
* `Foundations.Lease.Blocked`: a process whose next step is to wait.

## Main results

* `Foundations.Lease.Inv.step`: every step preserves the invariant.
* `Foundations.Lease.NoneLost.step`, `Foundations.Lease.Lost.step`: records are lost only by the
  failures that leave them leased, and forever.
* `Foundations.Lease.Inv.exists_unblocked`: if no record is lost, then while a process is
  unfinished, some unfinished process is neither asleep nor about to wait.
* `Foundations.Lease.Inv.no_target_left`, `Foundations.Lease.NoneLost.no_record_left`: what is
  left when all processes have ended.
* `Foundations.Lease.Inv.holder_unique`: without failures a target has one holder.
-/

namespace Foundations.Lease

variable {ι κ τ φ ν : Type*}

/-- The record of a key: leased by a live process, or settled with a value. -/
inductive Record (φ ν : Type*)
  | inProgress (fingerprint : φ)
  | completed (fingerprint : φ) (value : ν)
  deriving DecidableEq

/-- How a process ends. -/
inductive Outcome (ν : Type*)
  | executed (value : ν)
  | replayed (value : ν)
  | conflicted
  | raised
  deriving DecidableEq

/-- Where a process is. The flag of `failing` says whether it has claimed its target. -/
inductive Phase (ν : Type*)
  | idle
  | keyed
  | working
  | failing (held : Bool)
  | releasing (o : Outcome ν)
  | ended (o : Outcome ν)
  deriving DecidableEq

/-- What a process asks for. -/
structure Request (κ τ φ : Type*) where
  key : κ
  target : τ
  fingerprint : φ

/-- The shared maps and the phases of all processes. -/
structure State (ι κ τ φ ν : Type*) where
  records : κ → Option (Record φ ν)
  targets : τ → Option κ
  phase : ι → Phase ν
  asleep : ι → Bool

namespace Phase

/-- The process has leased its record and not settled it yet. -/
def Owns : Phase ν → Prop
  | keyed | working | failing _ => True
  | _ => False

/-- The process has claimed its target and not given it back yet. -/
def Holds : Phase ν → Prop
  | working | failing true | releasing _ => True
  | _ => False

/-- The process settled its record with the value `v`. -/
def Executed (v : ν) (p : Phase ν) : Prop :=
  p = releasing (.executed v) ∨ p = ended (.executed v)

/-- The process has raised. -/
def Failed : Phase ν → Prop
  | failing _ | releasing .raised | ended .raised => True
  | _ => False

/-- The process has ended. -/
def Ended (p : Phase ν) : Prop := ∃ o, p = ended o

/-- What a process gives back a target for: a value or a failure, never a replay. -/
def Settled : Phase ν → Prop
  | releasing (.replayed _) | releasing .conflicted => False
  | _ => True

end Phase

/-! ### The invariant -/

section Invariant

variable (req : ι → Request κ τ φ)

/-- The next step of process `i` would be to wait. -/
def Blocked (s : State ι κ τ φ ν) (i : ι) : Prop :=
  (s.phase i = .idle ∧ ∃ f, s.records (req i).key = some (.inProgress f)) ∨
    (s.phase i = .keyed ∧ ∃ k, s.targets (req i).target = some k ∧ k ≠ (req i).key)

/-- Nothing is leased and no process has started. -/
structure Quiescent (s : State ι κ τ φ ν) : Prop where
  idle : ∀ i, s.phase i = .idle
  awake : ∀ i, s.asleep i = false
  settled : ∀ k f, s.records k ≠ some (.inProgress f)
  unclaimed : ∀ t, s.targets t = none

/-- Every live owner has leased its record, which has no other owner, every claimed target has a
live holder, every sleeper something to wait for, and the ended processes agree with the settled
records. -/
structure Inv (s : State ι κ τ φ ν) : Prop where
  owned : ∀ i, (s.phase i).Owns → s.records (req i).key = some (.inProgress (req i).fingerprint)
  owner_unique : ∀ i j, (s.phase i).Owns → (s.phase j).Owns → (req i).key = (req j).key → i = j
  holder_exists : ∀ t k, s.targets t = some k →
    ∃ i, (s.phase i).Holds ∧ (req i).target = t ∧ (req i).key = k
  asleep_blocked : ∀ i, s.asleep i = true → Blocked req s i
  executed : ∀ i v, (s.phase i).Executed v →
    s.records (req i).key = some (.completed (req i).fingerprint v)
  executed_unique : ∀ i j v w, (s.phase i).Executed v → (s.phase j).Executed w →
    (req i).key = (req j).key → i = j
  replayed : ∀ i v, s.phase i = .ended (.replayed v) →
    s.records (req i).key = some (.completed (req i).fingerprint v)
  conflicted : ∀ i, s.phase i = .ended .conflicted →
    ∃ f v, s.records (req i).key = some (.completed f v) ∧ f ≠ (req i).fingerprint
  releasing_settled : ∀ i, (s.phase i).Settled

/-- Every leased record has a live owner. -/
def NoneLost (s : State ι κ τ φ ν) : Prop :=
  ∀ k f, s.records k = some (.inProgress f) →
    ∃ i, (s.phase i).Owns ∧ (req i).key = k ∧ (req i).fingerprint = f

/-- The record is leased and has no live owner. -/
def Lost (s : State ι κ τ φ ν) (k : κ) (f : φ) : Prop :=
  s.records k = some (.inProgress f) ∧ ∀ i, (s.phase i).Owns → (req i).key ≠ k

end Invariant

/-- Process `i` gives up its record and leaves it leased. -/
def Loses (s : State ι κ τ φ ν) (i : ι) (s' : State ι κ τ φ ν) : Prop :=
  (s.phase i).Owns ∧ ¬ (s'.phase i).Owns ∧ s'.records = s.records

/-! ### Steps -/

namespace State

section

variable [DecidableEq ι]

/-- Process `i` moves to the phase `p`. -/
def goto (s : State ι κ τ φ ν) (i : ι) (p : Phase ν) : State ι κ τ φ ν :=
  { s with phase := Function.update s.phase i p }

/-- Process `i` goes to sleep. -/
def sleep (s : State ι κ τ φ ν) (i : ι) : State ι κ τ φ ν :=
  { s with asleep := Function.update s.asleep i true }

end

/-- All sleeping processes are notified. -/
def notifyAll (s : State ι κ τ φ ν) : State ι κ τ φ ν := { s with asleep := fun _ => false }

/-- The record of the key `k` becomes `r`. -/
def setRecord [DecidableEq κ] (s : State ι κ τ φ ν) (k : κ) (r : Option (Record φ ν)) :
    State ι κ τ φ ν :=
  { s with records := Function.update s.records k r }

/-- The claim of the target `t` becomes `c`. -/
def setTarget [DecidableEq τ] (s : State ι κ τ φ ν) (t : τ) (c : Option κ) : State ι κ τ φ ν :=
  { s with targets := Function.update s.targets t c }

end State

variable [DecidableEq ι] [DecidableEq κ] [DecidableEq τ] (req : ι → Request κ τ φ)

/-- One atomic step of process `i`. A process may fail at any time while it owns its record, except
while it sleeps. -/
inductive Step (s : State ι κ τ φ ν) (i : ι) : State ι κ τ φ ν → Prop
  | waitRecord (f : φ) (hp : s.phase i = .idle)
      (hr : s.records (req i).key = some (.inProgress f)) : Step s i (s.sleep i)
  | acquire (hp : s.phase i = .idle) (hr : s.records (req i).key = none) :
      Step s i ((s.setRecord (req i).key (some (.inProgress (req i).fingerprint))).goto i .keyed)
  | replay (v : ν) (hp : s.phase i = .idle)
      (hr : s.records (req i).key = some (.completed (req i).fingerprint v)) :
      Step s i (s.goto i (.ended (.replayed v)))
  | conflict (f : φ) (v : ν) (hp : s.phase i = .idle)
      (hr : s.records (req i).key = some (.completed f v)) (hf : f ≠ (req i).fingerprint) :
      Step s i (s.goto i (.ended .conflicted))
  | waitTarget (k : κ) (hp : s.phase i = .keyed) (ht : s.targets (req i).target = some k)
      (hk : k ≠ (req i).key) : Step s i (s.sleep i)
  | claim (hp : s.phase i = .keyed)
      (ht : s.targets (req i).target = none ∨ s.targets (req i).target = some (req i).key) :
      Step s i ((s.setTarget (req i).target (some (req i).key)).goto i .working)
  | work (hp : s.phase i = .working) : Step s i s
  | complete (v : ν) (hp : s.phase i = .working)
      (hr : s.records (req i).key = some (.inProgress (req i).fingerprint)) :
      Step s i (((s.setRecord (req i).key (some (.completed (req i).fingerprint v))).goto i
        (.releasing (.executed v))).notifyAll)
  | failKeyed (hp : s.phase i = .keyed) (ha : s.asleep i = false) :
      Step s i (s.goto i (.failing false))
  | failWorking (hp : s.phase i = .working) : Step s i (s.goto i (.failing true))
  | handle (held : Bool) (hp : s.phase i = .failing held) : Step s i s
  | abandon (held : Bool) (hp : s.phase i = .failing held)
      (hr : s.records (req i).key = some (.inProgress (req i).fingerprint)) :
      Step s i (((s.setRecord (req i).key none).goto i
        (bif held then .releasing .raised else .ended .raised)).notifyAll)
  | lose (held : Bool) (hp : s.phase i = .failing held) :
      Step s i (s.goto i (bif held then .releasing .raised else .ended .raised))
  | release (o : Outcome ν) (hp : s.phase i = .releasing o)
      (ht : s.targets (req i).target = some (req i).key) :
      Step s i (((s.setTarget (req i).target none).goto i (.ended o)).notifyAll)
  | releaseForeign (o : Outcome ν) (hp : s.phase i = .releasing o)
      (ht : s.targets (req i).target ≠ some (req i).key) :
      Step s i (s.goto i (.ended o))

variable {req} {s s' : State ι κ τ φ ν} {i j : ι}

/-! ### What a step changes -/

/-- Only the process that moves changes its phase. -/
theorem Step.phase_of_ne (h : Step req s i s') (hj : j ≠ i) : s'.phase j = s.phase j := by
  cases h <;> first | rfl | exact Function.update_of_ne hj _ _

/-- What a step of process `i` does to the records: nothing, or it leases, completes, withdraws or
loses the record of its own key. -/
inductive RecordEffect (req : ι → Request κ τ φ) (s : State ι κ τ φ ν) (i : ι)
    (s' : State ι κ τ φ ν) : Prop
  | keep (hr : s'.records = s.records) (ho : (s'.phase i).Owns ↔ (s.phase i).Owns)
      (he : ∀ v, (s'.phase i).Executed v → (s.phase i).Executed v)
  | lease (hn : s.records (req i).key = none) (ho : (s'.phase i).Owns)
      (hr : s'.records = Function.update s.records (req i).key
        (some (.inProgress (req i).fingerprint)))
      (he : ∀ v, ¬ (s'.phase i).Executed v)
  | complete (v : ν) (ho : (s.phase i).Owns) (hn : ¬ (s'.phase i).Owns)
      (hr : s'.records = Function.update s.records (req i).key
        (some (.completed (req i).fingerprint v)))
      (he : ∀ w, (s'.phase i).Executed w → w = v)
  | withdraw (ho : (s.phase i).Owns) (hn : ¬ (s'.phase i).Owns)
      (hr : s'.records = Function.update s.records (req i).key none)
      (he : ∀ v, ¬ (s'.phase i).Executed v)
  | lose (hl : Loses s i s') (he : ∀ v, ¬ (s'.phase i).Executed v)

theorem Step.recordEffect (h : Step req s i s') : RecordEffect req s i s' := by
  cases h with
  | waitRecord | waitTarget | work | handle => exact .keep rfl Iff.rfl fun _ => id
  | acquire hp hr =>
    exact .lease hr (by simp [State.goto, Phase.Owns]) rfl (by simp [State.goto, Phase.Executed])
  | complete v hp hr =>
    refine .complete v (by simp [hp, Phase.Owns]) ?_ rfl ?_ <;>
      simp [State.goto, State.notifyAll, Phase.Owns, Phase.Executed]
  | abandon held hp hr =>
    refine .withdraw (by simp [hp, Phase.Owns]) ?_ rfl ?_ <;> cases held <;>
      simp [State.goto, State.notifyAll, Phase.Owns, Phase.Executed]
  | lose held hp =>
    refine .lose ⟨by simp [hp, Phase.Owns], ?_, rfl⟩ ?_ <;> cases held <;>
      simp [State.goto, Phase.Owns, Phase.Executed]
  | release o hp | releaseForeign o hp =>
    refine .keep rfl ?_ ?_ <;>
      simp [State.goto, State.notifyAll, State.setTarget, hp, Phase.Owns, Phase.Executed]
  | replay v hp | conflict f v hp | claim hp | failKeyed hp | failWorking hp =>
    refine .keep rfl ?_ ?_ <;>
      simp [State.goto, State.setTarget, hp, Phase.Owns, Phase.Executed]

/-- What a step of process `i` does to the target claims: nothing, or it claims its own target
under its own key, or gives it back. A process that stops holding its target either gives it back
or does not have it under its key any more. -/
inductive TargetEffect (req : ι → Request κ τ φ) (s : State ι κ τ φ ν) (i : ι)
    (s' : State ι κ τ φ ν) : Prop
  | keep (ht : s'.targets = s.targets)
      (hh : (s.phase i).Holds → (s'.phase i).Holds ∨
        s.targets (req i).target ≠ some (req i).key)
      (hh' : (s'.phase i).Holds → (s.phase i).Holds)
  | claim (hh : (s'.phase i).Holds) (hn : ¬ (s.phase i).Holds)
      (hfree : s.targets (req i).target = none ∨ s.targets (req i).target = some (req i).key)
      (ht : s'.targets = Function.update s.targets (req i).target (some (req i).key))
  | release (hh : (s.phase i).Holds) (hn : ¬ (s'.phase i).Holds)
      (ht : s'.targets = Function.update s.targets (req i).target none)

theorem Step.targetEffect (h : Step req s i s') : TargetEffect req s i s' := by
  cases h with
  | waitRecord | waitTarget | work | handle => exact .keep rfl (fun h => .inl h) id
  | claim hp ht =>
    refine .claim ?_ ?_ ht rfl <;> simp [State.goto, State.setTarget, hp, Phase.Holds]
  | release o hp ht =>
    refine .release ?_ ?_ rfl <;>
      simp [State.goto, State.setTarget, State.notifyAll, hp, Phase.Holds]
  | releaseForeign o hp ht => exact .keep rfl (fun _ => .inr ht) (by simp [State.goto, Phase.Holds])
  | abandon held hp | lose held hp =>
    refine .keep rfl ?_ ?_ <;> cases held <;>
      simp [State.goto, State.setRecord, State.notifyAll, hp, Phase.Holds]
  | acquire hp | replay v hp | conflict f v hp | complete v hp | failKeyed hp | failWorking hp =>
    refine .keep rfl ?_ ?_ <;>
      simp [State.goto, State.setRecord, State.notifyAll, hp, Phase.Holds]

/-- What a step does to the sleepers: it wakes all of them, or it puts a process to sleep whose
wait is justified, or it leaves them asleep and takes away nothing they wait for. -/
inductive SleepEffect (req : ι → Request κ τ φ) (s : State ι κ τ φ ν) (i : ι)
    (s' : State ι κ τ φ ν) : Prop
  | wake (h : ∀ j, s'.asleep j = false)
  | sleep (h : s' = s.sleep i) (hb : Blocked req s i)
  | keep (ha : s'.asleep = s.asleep)
      (hp : s.asleep i = true → Blocked req s i → s'.phase i = s.phase i)
      (hr : ∀ k f, s.records k = some (.inProgress f) → s'.records k = some (.inProgress f))
      (ht : ∀ t k, s.targets t = some k → s'.targets t = some k)

theorem Step.sleepEffect (h : Step req s i s') : SleepEffect req s i s' := by
  cases h with
  | waitRecord f hp hr => exact .sleep rfl (.inl ⟨hp, f, hr⟩)
  | waitTarget k hp ht hk => exact .sleep rfl (.inr ⟨hp, k, ht, hk⟩)
  | complete | abandon | release => exact .wake fun _ => rfl
  | work | handle => exact .keep rfl (fun _ _ => rfl) (fun _ _ => id) fun _ _ => id
  | acquire hp hr =>
    refine .keep rfl (by simp [Blocked, hp, hr]) (fun k f hk => ?_) fun _ _ => id
    have hne : k ≠ (req i).key := by rintro rfl; simp [hr] at hk
    simpa [State.goto, State.setRecord, hne] using hk
  | claim hp ht =>
    refine .keep rfl ?_ (fun _ _ => id) fun t k hk => ?_
    · rcases ht with ht | ht <;> simp [Blocked, hp, ht]
    · by_cases hne : t = (req i).target
      · subst hne
        rcases ht with ht | ht <;> simp_all [State.goto, State.setTarget]
      · simpa [State.goto, State.setTarget, hne] using hk
  | replay v hp hr | conflict f v hp hr =>
    exact .keep rfl (by simp [Blocked, hp, hr]) (fun _ _ => id) fun _ _ => id
  | failKeyed hp ha => exact .keep rfl (by simp [ha]) (fun _ _ => id) fun _ _ => id
  | failWorking hp | lose held hp | releaseForeign o hp =>
    exact .keep rfl (by simp [Blocked, hp]) (fun _ _ => id) fun _ _ => id

/-! ### The invariant is preserved -/

namespace Inv

theorem owned_step (h : Inv req s) (hs : Step req s i s') (hj : (s'.phase j).Owns) :
    s'.records (req j).key = some (.inProgress (req j).fingerprint) := by
  by_cases hji : j = i
  · subst hji
    cases hs.recordEffect with
    | keep hr ho => rw [hr, h.owned j (ho.mp hj)]
    | lease hn ho hr => rw [hr, Function.update_self]
    | complete v ho hn | withdraw ho hn => exact absurd hj hn
    | lose hl => exact absurd hj hl.2.1
  · rw [hs.phase_of_ne hji] at hj
    have hjr := h.owned j hj
    cases hs.recordEffect with
    | keep hr => rwa [hr]
    | lose hl => rwa [hl.2.2]
    | lease hn ho hr =>
      have hne : (req j).key ≠ (req i).key := by intro he; rw [he, hn] at hjr; simp at hjr
      rwa [hr, Function.update_of_ne hne]
    | complete v ho hn hr | withdraw ho hn hr =>
      have hne : (req j).key ≠ (req i).key := fun he => hji (h.owner_unique j i hj ho he)
      rwa [hr, Function.update_of_ne hne]

/-- A process that starts to own its record finds no other owner. -/
theorem owner_unique_step (h : Inv req s) (hs : Step req s i s') {j k : ι}
    (hj : (s'.phase j).Owns) (hk : (s'.phase k).Owns) (hjk : (req j).key = (req k).key) :
    j = k := by
  have key : ∀ l, l ≠ i → (s'.phase l).Owns → (s'.phase i).Owns → (req l).key ≠ (req i).key := by
    intro l hl hlo hio he
    rw [hs.phase_of_ne hl] at hlo
    cases hs.recordEffect with
    | keep hr ho => exact hl (h.owner_unique l i hlo (ho.mp hio) he)
    | lease hn =>
      have := h.owned l hlo
      rw [he, hn] at this
      simp at this
    | complete v ho hn | withdraw ho hn => exact hn hio
    | lose hloses => exact hloses.2.1 hio
  by_cases hji : j = i <;> by_cases hki : k = i
  · rw [hji, hki]
  · subst hji
    exact absurd hjk.symm (key k hki hk hj)
  · subst hki
    exact absurd hjk (key j hji hj hk)
  · rw [hs.phase_of_ne hji] at hj
    rw [hs.phase_of_ne hki] at hk
    exact h.owner_unique j k hj hk hjk

theorem holder_exists_step (h : Inv req s) (hs : Step req s i s') {t : τ} {k : κ}
    (ht : s'.targets t = some k) :
    ∃ j, (s'.phase j).Holds ∧ (req j).target = t ∧ (req j).key = k := by
  have old : s.targets t = some k →
      (∀ j, (s.phase j).Holds → (req j).target = t → (req j).key = k → j = i →
        (s'.phase j).Holds) →
      ∃ j, (s'.phase j).Holds ∧ (req j).target = t ∧ (req j).key = k := by
    intro ht hkeep
    obtain ⟨j, hj, hjt, hjk⟩ := h.holder_exists t k ht
    refine ⟨j, ?_, hjt, hjk⟩
    by_cases hji : j = i
    · exact hkeep j hj hjt hjk hji
    · rwa [hs.phase_of_ne hji]
  cases hs.targetEffect with
  | keep hte hh =>
    rw [hte] at ht
    refine old ht ?_
    rintro j hj rfl rfl rfl
    exact (hh hj).resolve_right (not_not.mpr ht)
  | claim hh hn hfree hte =>
    by_cases hti : t = (req i).target
    · subst hti
      rw [hte, Function.update_self] at ht
      exact ⟨i, hh, rfl, by simpa using ht⟩
    · rw [hte, Function.update_of_ne hti] at ht
      exact old ht (by rintro j - hjt - rfl; exact absurd hjt.symm hti)
  | release hh hn hte =>
    by_cases hti : t = (req i).target
    · subst hti
      rw [hte, Function.update_self] at ht
      simp at ht
    · rw [hte, Function.update_of_ne hti] at ht
      exact old ht (by rintro j - hjt - rfl; exact absurd hjt.symm hti)

theorem asleep_blocked_step (h : Inv req s) (hs : Step req s i s') (hj : s'.asleep j = true) :
    Blocked req s' j := by
  cases hs.sleepEffect with
  | wake hw => rw [hw j] at hj; simp at hj
  | sleep he hb =>
    subst he
    by_cases hji : j = i
    · subst hji
      exact hb
    · exact h.asleep_blocked j (by simpa [State.sleep, hji] using hj)
  | keep ha hp hr ht =>
    rw [ha] at hj
    have hb := h.asleep_blocked j hj
    have hphase : s'.phase j = s.phase j := by
      by_cases hji : j = i
      · subst hji
        exact hp hj hb
      · exact hs.phase_of_ne hji
    rcases hb with ⟨hpj, f, hf⟩ | ⟨hpj, k, hk, hne⟩
    · exact .inl ⟨by rw [hphase, hpj], f, hr _ _ hf⟩
    · exact .inr ⟨by rw [hphase, hpj], k, ht _ _ hk, hne⟩

/-- A settled record keeps its value: only an owner changes a record, and it owns a lease. -/
theorem completed_step (h : Inv req s) (hs : Step req s i s') {k : κ} {f : φ} {v : ν}
    (hk : s.records k = some (.completed f v)) : s'.records k = some (.completed f v) := by
  cases hs.recordEffect with
  | keep hr => rwa [hr]
  | lose hl => rwa [hl.2.2]
  | lease hn ho hr =>
    have hne : k ≠ (req i).key := by rintro rfl; simp [hn] at hk
    rwa [hr, Function.update_of_ne hne]
  | complete w ho hn hr | withdraw ho hn hr =>
    have hne : k ≠ (req i).key := by rintro rfl; simp [h.owned i ho] at hk
    rwa [hr, Function.update_of_ne hne]

theorem executed_step (h : Inv req s) (hs : Step req s i s') {v : ν}
    (hj : (s'.phase j).Executed v) :
    s'.records (req j).key = some (.completed (req j).fingerprint v) := by
  by_cases hji : j = i
  · subst hji
    cases hs.recordEffect with
    | keep hr ho he => rw [hr, h.executed j v (he v hj)]
    | lease hn ho hr he | withdraw ho hn hr he => exact absurd hj (he v)
    | lose hl he => exact absurd hj (he v)
    | complete w ho hn hr he => rw [hr, Function.update_self, he v hj]
  · rw [hs.phase_of_ne hji] at hj
    exact h.completed_step hs (h.executed j v hj)

/-- A process that settles its record with a value finds no other process that did. -/
theorem executed_unique_step (h : Inv req s) (hs : Step req s i s') {j k : ι} {v w : ν}
    (hj : (s'.phase j).Executed v) (hk : (s'.phase k).Executed w)
    (hjk : (req j).key = (req k).key) : j = k := by
  have key : ∀ l u v, l ≠ i → (s'.phase l).Executed u → (s'.phase i).Executed v →
      (req l).key ≠ (req i).key := by
    intro l u v hl hlu hiv he
    rw [hs.phase_of_ne hl] at hlu
    cases hs.recordEffect with
    | keep hr ho hex => exact hl (h.executed_unique l i u v hlu (hex v hiv) he)
    | lease hn ho hr hex | withdraw ho hn hr hex => exact hex v hiv
    | lose hloses hex => exact hex v hiv
    | complete x ho =>
      have hlr := h.executed l u hlu
      rw [he, h.owned i ho] at hlr
      simp at hlr
  by_cases hji : j = i <;> by_cases hki : k = i
  · rw [hji, hki]
  · subst hji
    exact absurd hjk.symm (key k w v hki hk hj)
  · subst hki
    exact absurd hjk (key j v w hji hj hk)
  · rw [hs.phase_of_ne hji] at hj
    rw [hs.phase_of_ne hki] at hk
    exact h.executed_unique j k v w hj hk hjk

theorem releasing_settled_step (h : Inv req s) (hs : Step req s i s') (j : ι) :
    (s'.phase j).Settled := by
  by_cases hji : j = i
  · subst hji
    have hj := h.releasing_settled j
    cases hs with
    | waitRecord | waitTarget | work | handle => exact hj
    | abandon held | lose held =>
      cases held <;> simp [State.goto, State.notifyAll, Phase.Settled]
    | _ => simp [State.goto, State.notifyAll, Phase.Settled]
  · rw [hs.phase_of_ne hji]
    exact h.releasing_settled j

end Inv

/-- How a process comes to be ended: it was, or it found a settled record, or it gave its target
back, or it failed. -/
theorem Step.ended_cases (h : Step req s i s') {o : Outcome ν} (ho : s'.phase i = .ended o) :
    s.phase i = .ended o ∨ s.phase i = .releasing o ∨ o = .raised ∨
      (∃ v, o = .replayed v ∧ s'.records = s.records ∧
        s.records (req i).key = some (.completed (req i).fingerprint v)) ∨
      o = .conflicted ∧ s'.records = s.records ∧
        ∃ f v, s.records (req i).key = some (.completed f v) ∧ f ≠ (req i).fingerprint := by
  cases h with
  | waitRecord | waitTarget | work | handle => exact .inl ho
  | replay v hp hr =>
    obtain rfl : .replayed v = o := by simpa [State.goto] using ho
    exact .inr (.inr (.inr (.inl ⟨v, rfl, rfl, hr⟩)))
  | conflict f v hp hr hf =>
    obtain rfl : .conflicted = o := by simpa [State.goto] using ho
    exact .inr (.inr (.inr (.inr ⟨rfl, rfl, f, v, hr, hf⟩)))
  | abandon held | lose held =>
    cases held with
    | false =>
      obtain rfl : .raised = o := by simpa [State.goto, State.notifyAll] using ho
      exact .inr (.inr (.inl rfl))
    | true => simp [State.goto, State.notifyAll] at ho
  | release o' hp | releaseForeign o' hp =>
    obtain rfl : o' = o := by simpa [State.goto, State.notifyAll] using ho
    exact .inr (.inl hp)
  | acquire | claim | complete | failKeyed | failWorking =>
    simp [State.goto, State.notifyAll] at ho

namespace Inv

theorem replayed_step (h : Inv req s) (hs : Step req s i s') {v : ν}
    (hj : s'.phase j = .ended (.replayed v)) :
    s'.records (req j).key = some (.completed (req j).fingerprint v) := by
  by_cases hji : j = i
  · subst hji
    rcases hs.ended_cases hj with hp | hp | ho | ⟨w, hw, hr, hk⟩ | ⟨ho, -⟩
    · exact h.completed_step hs (h.replayed j v hp)
    · exact absurd (h.releasing_settled j) (by simp [hp, Phase.Settled])
    · simp at ho
    · obtain rfl : v = w := by simpa using hw
      rwa [hr]
    · simp at ho
  · rw [hs.phase_of_ne hji] at hj
    exact h.completed_step hs (h.replayed j v hj)

theorem conflicted_step (h : Inv req s) (hs : Step req s i s')
    (hj : s'.phase j = .ended .conflicted) :
    ∃ f v, s'.records (req j).key = some (.completed f v) ∧ f ≠ (req j).fingerprint := by
  have old : s.phase j = .ended .conflicted →
      ∃ f v, s'.records (req j).key = some (.completed f v) ∧ f ≠ (req j).fingerprint := by
    intro hp
    obtain ⟨f, v, hk, hf⟩ := h.conflicted j hp
    exact ⟨f, v, h.completed_step hs hk, hf⟩
  by_cases hji : j = i
  · subst hji
    rcases hs.ended_cases hj with hp | hp | ho | ⟨w, hw, -⟩ | ⟨-, hr, f, v, hk, hf⟩
    · exact old hp
    · exact absurd (h.releasing_settled j) (by simp [hp, Phase.Settled])
    · simp at ho
    · simp at hw
    · exact ⟨f, v, by rw [hr, hk], hf⟩
  · exact old (by rwa [hs.phase_of_ne hji] at hj)

/-- **Invariant of the two-level lease.** -/
theorem step (h : Inv req s) (hs : Step req s i s') : Inv req s' where
  owned _ hj := h.owned_step hs hj
  owner_unique _ _ hj hk hjk := h.owner_unique_step hs hj hk hjk
  holder_exists _ _ ht := h.holder_exists_step hs ht
  asleep_blocked _ hj := h.asleep_blocked_step hs hj
  executed _ _ hj := h.executed_step hs hj
  executed_unique _ _ _ _ hj hk hjk := h.executed_unique_step hs hj hk hjk
  replayed _ _ hj := h.replayed_step hs hj
  conflicted _ hj := h.conflicted_step hs hj
  releasing_settled := h.releasing_settled_step hs

omit [DecidableEq ι] [DecidableEq κ] [DecidableEq τ] in
theorem of_quiescent (h : Quiescent s) : Inv req s where
  owned i hi := by simp [h.idle i, Phase.Owns] at hi
  owner_unique i j hi := by simp [h.idle i, Phase.Owns] at hi
  holder_exists t k ht := by simp [h.unclaimed t] at ht
  asleep_blocked i hi := by simp [h.awake i] at hi
  executed i v hi := by simp [h.idle i, Phase.Executed] at hi
  executed_unique i j v w hi := by simp [h.idle i, Phase.Executed] at hi
  replayed i v hi := by simp [h.idle i] at hi
  conflicted i hi := by simp [h.idle i] at hi
  releasing_settled i := by simp [h.idle i, Phase.Settled]

end Inv

/-! ### Lost records -/

omit [DecidableEq ι] [DecidableEq κ] [DecidableEq τ] in
theorem NoneLost.of_quiescent (h : Quiescent s) : NoneLost req s :=
  fun k f hk => absurd hk (h.settled k f)

omit [DecidableEq ι] [DecidableEq κ] [DecidableEq τ] in
theorem Lost.not_noneLost {k : κ} {f : φ} (h : Lost req s k f) : ¬ NoneLost req s := by
  intro hnone
  obtain ⟨i, hi, hk, -⟩ := hnone k f h.1
  exact h.2 i hi hk

omit [DecidableEq ι] [DecidableEq κ] [DecidableEq τ] in
theorem Inv.noneLost_iff (h : Inv req s) : NoneLost req s ↔ ∀ k f, ¬ Lost req s k f := by
  constructor
  · exact fun hnone k f hlost => hlost.not_noneLost hnone
  · intro hnone k f hk
    by_contra hno
    refine hnone k f ⟨hk, fun i hi hik => hno ⟨i, hi, hik, ?_⟩⟩
    have hi' := h.owned i hi
    rw [hik, hk] at hi'
    exact (Record.inProgress.inj (Option.some.inj hi')).symm

/-- A process that does not leave its record leased loses none. -/
theorem NoneLost.step (h : NoneLost req s) (hs : Step req s i s') (hkeep : ¬ Loses s i s') :
    NoneLost req s' := by
  intro k f hk
  -- The old owner is still the owner, unless it is `i` itself and it settles the record.
  have old : s.records k = some (.inProgress f) →
      (∀ j, (s.phase j).Owns → (req j).key = k → j = i → (s'.phase j).Owns) →
      ∃ j, (s'.phase j).Owns ∧ (req j).key = k ∧ (req j).fingerprint = f := by
    intro hk hstill
    obtain ⟨j, hj, hjk, hjf⟩ := h k f hk
    refine ⟨j, ?_, hjk, hjf⟩
    by_cases hji : j = i
    · exact hstill j hj hjk hji
    · rwa [hs.phase_of_ne hji]
  cases hs.recordEffect with
  | keep hr ho =>
    rw [hr] at hk
    exact old hk (by rintro j hj - rfl; exact ho.mpr hj)
  | lease hn ho hr =>
    by_cases hki : k = (req i).key
    · subst hki
      rw [hr, Function.update_self] at hk
      exact ⟨i, ho, rfl, by simpa using hk⟩
    · rw [hr, Function.update_of_ne hki] at hk
      exact old hk (by rintro j - hjk rfl; exact absurd hjk.symm hki)
  | complete v ho hn hr | withdraw ho hn hr =>
    by_cases hki : k = (req i).key
    · subst hki
      rw [hr, Function.update_self] at hk
      simp at hk
    · rw [hr, Function.update_of_ne hki] at hk
      exact old hk (by rintro j - hjk rfl; exact absurd hjk.symm hki)
  | lose hl => exact absurd hl hkeep

/-- A record that is left leased is lost. -/
theorem Inv.lost_of_loses (h : Inv req s) (hs : Step req s i s') (hl : Loses s i s') :
    Lost req s' (req i).key (req i).fingerprint := by
  refine ⟨by rw [hl.2.2, h.owned i hl.1], fun j hj hji => ?_⟩
  by_cases he : j = i
  · subst he
    exact hl.2.1 hj
  · rw [hs.phase_of_ne he] at hj
    exact he (h.owner_unique j i hj hl.1 hji)

/-- **A lost record stays lost**, for who finds it waits. -/
theorem Lost.step {k : κ} {f : φ} (h : Lost req s k f) (hs : Step req s i s') :
    Lost req s' k f := by
  obtain ⟨hk, hnone⟩ := h
  -- A process that owns its record now did so before, or it has found no record.
  have old : ((s'.phase i).Owns → (req i).key ≠ k) →
      ∀ j, (s'.phase j).Owns → (req j).key ≠ k := by
    intro hi j hj
    by_cases hji : j = i
    · subst hji
      exact hi hj
    · rw [hs.phase_of_ne hji] at hj
      exact hnone j hj
  cases hs.recordEffect with
  | keep hr ho => exact ⟨by rw [hr, hk], old fun hi => hnone i (ho.mp hi)⟩
  | lease hn ho hr =>
    have hne : k ≠ (req i).key := by rintro rfl; simp [hn] at hk
    exact ⟨by rw [hr, Function.update_of_ne hne, hk], old fun _ => hne.symm⟩
  | complete v ho hn hr | withdraw ho hn hr =>
    have hne : k ≠ (req i).key := (hnone i ho).symm
    exact ⟨by rw [hr, Function.update_of_ne hne, hk], old fun hi => absurd hi hn⟩
  | lose hl => exact ⟨by rw [hl.2.2, hk], old fun hi => absurd hi hl.2.1⟩

/-! ### Progress and release -/

section

omit [DecidableEq ι] [DecidableEq κ] [DecidableEq τ]

theorem Phase.Owns.not_ended {p : Phase ν} (h : p.Owns) : ¬ p.Ended := by
  rintro ⟨o, rfl⟩
  exact h

theorem Phase.Holds.not_ended {p : Phase ν} (h : p.Holds) : ¬ p.Ended := by
  rintro ⟨o, rfl⟩
  exact h

/-- A process that holds its target has nothing left to wait for. -/
theorem Phase.Holds.not_blocked (h : (s.phase i).Holds) : ¬ Blocked req s i := by
  rintro (⟨hp, -⟩ | ⟨hp, -⟩) <;> simp [hp, Phase.Holds] at h

namespace Inv

/-- If no record is lost, then while a process is unfinished, some unfinished process is neither
asleep nor about to wait: who waits for a record waits for its owner, who waits for a target waits
for its holder, and a holder does not wait. -/
theorem exists_unblocked (h : Inv req s) (hnone : NoneLost req s) (hi : ¬ (s.phase i).Ended) :
    ∃ j, ¬ (s.phase j).Ended ∧ s.asleep j = false ∧ ¬ Blocked req s j := by
  have done : ∀ j, ¬ (s.phase j).Ended → ¬ Blocked req s j →
      ∃ j, ¬ (s.phase j).Ended ∧ s.asleep j = false ∧ ¬ Blocked req s j := by
    intro j hj hb
    refine ⟨j, hj, ?_, hb⟩
    cases ha : s.asleep j with
    | false => rfl
    | true => exact absurd (h.asleep_blocked j ha) hb
  have target : ∀ t k, s.targets t = some k →
      ∃ j, ¬ (s.phase j).Ended ∧ s.asleep j = false ∧ ¬ Blocked req s j := by
    intro t k ht
    obtain ⟨j, hj, -⟩ := h.holder_exists t k ht
    exact done j hj.not_ended hj.not_blocked
  by_cases hb : Blocked req s i
  · rcases hb with ⟨-, f, hr⟩ | ⟨-, k, ht, -⟩
    · obtain ⟨j, hj, -⟩ := hnone _ f hr
      by_cases hbj : Blocked req s j
      · rcases hbj with ⟨hp, -⟩ | ⟨-, k, ht, -⟩
        · simp [hp, Phase.Owns] at hj
        · exact target _ k ht
      · exact done j hj.not_ended hbj
    · exact target _ k ht
  · exact done i hi hb

/-- When all processes have ended, no target is claimed. -/
theorem no_target_left (h : Inv req s) (hall : ∀ i, (s.phase i).Ended) (t : τ) :
    s.targets t = none := by
  cases ht : s.targets t with
  | none => rfl
  | some k =>
    obtain ⟨i, hi, -⟩ := h.holder_exists t k ht
    exact absurd (hall i) hi.not_ended

end Inv

/-- When all processes have ended and no record is lost, none is leased. -/
theorem NoneLost.no_record_left (h : NoneLost req s) (hall : ∀ i, (s.phase i).Ended) (k : κ)
    (f : φ) : s.records k ≠ some (.inProgress f) := by
  intro hk
  obtain ⟨i, hi, -⟩ := h k f hk
  exact hi.not_ended (hall i)

end

/-! ### Runs without failures -/

/-- Every holder has its target claimed under its own key. -/
def Held (req : ι → Request κ τ φ) (s : State ι κ τ φ ν) : Prop :=
  ∀ i, (s.phase i).Holds → s.targets (req i).target = some (req i).key

namespace Inv

omit [DecidableEq ι] [DecidableEq κ] [DecidableEq τ] in
/-- Two processes with one key cannot both lease or have settled its record. -/
theorem settler_unique (h : Inv req s) (hi : (s.phase i).Owns ∨ ∃ v, (s.phase i).Executed v)
    (hj : (s.phase j).Owns ∨ ∃ v, (s.phase j).Executed v) (hij : (req i).key = (req j).key) :
    i = j := by
  have mixed : ∀ k l v, (s.phase k).Owns → (s.phase l).Executed v → (req k).key ≠ (req l).key := by
    intro k l v hk hl he
    have hkr := h.owned k hk
    rw [he, h.executed l v hl] at hkr
    simp at hkr
  rcases hi with hi | ⟨v, hi⟩ <;> rcases hj with hj | ⟨w, hj⟩
  · exact h.owner_unique i j hi hj hij
  · exact absurd hij (mixed i j w hi hj)
  · exact absurd hij.symm (mixed j i v hj hi)
  · exact h.executed_unique i j v w hi hj hij

omit [DecidableEq ι] [DecidableEq κ] [DecidableEq τ] in
/-- A holder that has not failed works on its lease or has settled it with a value. -/
theorem settler_of_holds (h : Inv req s) (hf : ¬ (s.phase i).Failed) (hi : (s.phase i).Holds) :
    (s.phase i).Owns ∨ ∃ v, (s.phase i).Executed v := by
  have hr := h.releasing_settled i
  cases hp : s.phase i with
  | working => exact .inl trivial
  | releasing o =>
    rw [hp] at hr hf
    cases o with
    | executed v => exact .inr ⟨v, .inl rfl⟩
    | replayed | conflicted => exact absurd hr id
    | raised => exact absurd trivial hf
  | failing held =>
    rw [hp] at hf
    exact absurd trivial hf
  | idle | keyed | ended => simp [hp, Phase.Holds] at hi

omit [DecidableEq ι] [DecidableEq κ] [DecidableEq τ] in
/-- Without failures a target has one holder. -/
theorem holder_unique (h : Inv req s) (hh : Held req s) (hf : ∀ i, ¬ (s.phase i).Failed)
    (hi : (s.phase i).Holds) (hj : (s.phase j).Holds) (hij : (req i).target = (req j).target) :
    i = j := by
  have hk : (req i).key = (req j).key := by
    have hki := hh i hi
    rw [hij, hh j hj] at hki
    exact (Option.some.inj hki).symm
  exact h.settler_unique (h.settler_of_holds (hf i) hi) (h.settler_of_holds (hf j) hj) hk

theorem held_step (h : Inv req s) (hh : Held req s) (hf : ∀ i, ¬ (s.phase i).Failed)
    (hs : Step req s i s') : Held req s' := by
  intro j hj
  -- `j` held its target before, unless it is `i` and has just claimed it.
  have old : j ≠ i → s.targets (req j).target = some (req j).key := by
    intro hji
    rw [hs.phase_of_ne hji] at hj
    exact hh j hj
  cases hs.targetEffect with
  | keep ht _ hh' =>
    rw [ht]
    by_cases hji : j = i
    · subst hji
      exact hh j (hh' hj)
    · exact old hji
  | claim hi hn hfree ht =>
    rw [ht]
    by_cases hji : j = i
    · rw [hji, Function.update_self]
    · by_cases hjt : (req j).target = (req i).target
      · rw [hjt, Function.update_self]
        have hold := old hji
        rw [hjt] at hold
        rcases hfree with hfree | hfree
        · simp [hfree] at hold
        · rwa [hfree] at hold
      · rw [Function.update_of_ne hjt, old hji]
  | release hi hn ht =>
    rw [ht]
    have hji : j ≠ i := by rintro rfl; exact hn hj
    have hjt : (req j).target ≠ (req i).target := by
      intro hjt
      rw [hs.phase_of_ne hji] at hj
      exact hji (h.holder_unique hh hf hj hi hjt)
    rw [Function.update_of_ne hjt, old hji]

end Inv

end Foundations.Lease
