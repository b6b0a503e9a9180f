import Meridian.Foundations.Retry
import Meridian.Frontend.JobPolling

/-!
# Polls that fail

`getJobPollFailureAction` of `frontend/src/job-polling.js` and the polling effect of
`frontend/src/App.jsx` with the polls that throw: on an answer that is no `200`, on a connection
that fails, and on a payload that is `null`, which the client takes apart after it has forgotten the
failures before. The status of an error is that of an answer.

## Main definitions

* `Meridian.Frontend.getJobPollFailureAction`: what the client does on an error.
* `Meridian.Frontend.pollStep`: one poll of the effect.
* `Meridian.Frontend.PollOutcome.signal`: what a poll says to the loop.

## Main results

* `Meridian.Frontend.polling_goes_on_iff`: the loop goes on exactly if no poll was final and no four
  polls in a row have failed.
* `Meridian.Frontend.poll_delays`: the delays between the polls.
-/

namespace Meridian.Frontend

open Foundations Retry

/-! ### The client -/

/-- `MAX_JOB_POLL_FAILURES`. -/
def maxJobPollFailures : ℕ := 4

/-- What a poll throws: the message, if it is an `Error`, and the status, if it is a number. -/
structure PollError where
  message : Option String
  status : Option ℕ

/-- What the client does on an error. -/
inductive JobPollFailure
  | retry (message : String) (consecutiveFailures delayMs : ℕ)
  | giveUp (message : String) (consecutiveFailures : ℕ)

/-- Whether a status is that of a request which is not made again. -/
def isPermanent (status : Option ℕ) : Bool :=
  status.any fun status => 400 ≤ status && status < 500 && status ≠ 408 && status ≠ 429

/-- `getJobPollFailureAction`. -/
def getJobPollFailureAction (error : PollError) (delayMs consecutiveFailures : ℕ) :
    JobPollFailure :=
  let message := error.message.getD "Background polling failed."
  let nextFailures := consecutiveFailures + 1
  if isPermanent error.status then .giveUp message nextFailures
  else if maxJobPollFailures ≤ nextFailures then .giveUp message nextFailures
  else .retry message nextFailures (min (delayMs * 2) maxJobPollDelayMs)

/-- What a poll comes to. -/
inductive PollOutcome
  | answer (job : Json)
  | failure (error : PollError)

/-- Where the effect is: its timer runs, or it has ended. -/
inductive PollPhase
  | scheduled (delayMs consecutiveFailures : ℕ)
  | completed (result : Json)
  | stopped

/-- The effect and the error that the shell shows. -/
structure PollLoop where
  phase : PollPhase
  errorMessage : Option Json

/-- `schedulePoll(INITIAL_JOB_POLL_DELAY_MS)`. -/
def PollLoop.start (errorMessage : Option Json) : PollLoop :=
  ⟨.scheduled initialJobPollDelayMs 0, errorMessage⟩

/-- The effect after an error. -/
def failed (error : PollError) (delayMs consecutiveFailures : ℕ) : PollLoop :=
  match getJobPollFailureAction error delayMs consecutiveFailures with
  | .retry message consecutiveFailures delayMs =>
    ⟨.scheduled delayMs consecutiveFailures, some (.str message)⟩
  | .giveUp message _ => ⟨.stopped, some (.str message)⟩

section Step

variable (numberText : ℚ → String) (nullMessage : String)

/-- The effect after an answer. To take `null` apart is an error. -/
def answered (job : Json) (delayMs : ℕ) : PollLoop :=
  match job with
  | .null => failed ⟨some nullMessage, none⟩ delayMs 0
  | job =>
    match getJobPollResultAction numberText job delayMs with
    | .complete _ result => ⟨.completed result, none⟩
    | .retry _ _ delayMs => ⟨.scheduled delayMs 0, none⟩
    | .fail _ message _ => ⟨.stopped, some message⟩

/-- One poll. -/
def pollStep (loop : PollLoop) (outcome : PollOutcome) : Option PollLoop :=
  match loop.phase with
  | .scheduled delayMs consecutiveFailures =>
    some <| match outcome with
      | .answer job => answered numberText nullMessage job delayMs
      | .failure error => failed error delayMs consecutiveFailures
  | _ => none

end Step

/-! ### What a poll says to the loop -/

/-- Whether the answer is that of a job which goes on. -/
def isUnderWay (job : Json) : Bool :=
  match job.get? "status" with
  | some (.str status) => status = "queued" || status = "running"
  | _ => false

/-- What a poll says to the loop. -/
def PollOutcome.signal : PollOutcome → Signal
  | .answer .null => .fault true
  | .answer job => if isUnderWay job then .progress else .final
  | .failure error => if isPermanent error.status then .final else .fault false

/-- The polls in a row that have failed. -/
def failuresInRow (outcomes : List PollOutcome) : ℕ := streak (outcomes.map PollOutcome.signal)

/-- The delay until the next poll; there is none after the end. -/
def PollLoop.delayMs (loop : PollLoop) : ℕ :=
  match loop.phase with
  | .scheduled delayMs _ => delayMs
  | _ => maxJobPollDelayMs

variable {numberText : ℚ → String} {nullMessage : String} {loop loop' : PollLoop}
  {outcome : PollOutcome} {outcomes : List PollOutcome} {delayMs consecutiveFailures : ℕ}
  {errorMessage : Option Json}

/-! ### One poll -/

/-- The effect after an error: a permanent one ends it, and so does one too many. -/
theorem failed_eq (error : PollError) :
    failed error delayMs consecutiveFailures =
      if isPermanent error.status = false ∧ consecutiveFailures + 1 < maxJobPollFailures then
        ⟨.scheduled (min (delayMs * 2) maxJobPollDelayMs) (consecutiveFailures + 1),
          some (.str (error.message.getD "Background polling failed."))⟩
      else ⟨.stopped, some (.str (error.message.getD "Background polling failed."))⟩ := by
  unfold failed getJobPollFailureAction
  cases isPermanent error.status with
  | true => simp
  | false =>
    by_cases h : consecutiveFailures + 1 < maxJobPollFailures
    · simp [h, Nat.not_le.mpr h]
    · simp [h, Nat.not_lt.mp h]

/-- The effect after an answer that can be taken apart. -/
theorem answered_of_ne_null {job : Json} (hnull : job ≠ .null) :
    answered numberText nullMessage job delayMs =
      match getJobPollResultAction numberText job delayMs with
      | .complete _ result => ⟨.completed result, none⟩
      | .retry _ _ delayMs => ⟨.scheduled delayMs 0, none⟩
      | .fail _ message _ => ⟨.stopped, some message⟩ := by
  unfold answered
  split
  · exact absurd rfl hnull
  · rfl

/-- The client polls a job under way again. -/
theorem getJobPollResultAction_of_isUnderWay {job : Json} (h : isUnderWay job = true) :
    ∃ status message, getJobPollResultAction numberText job delayMs =
      .retry status message (nextRunningJobPollDelay delayMs) := by
  rw [isUnderWay] at h
  split at h
  · next status hstatus =>
    simp only [Bool.or_eq_true, decide_eq_true_eq] at h
    rcases h with rfl | rfl
    · simp only [getJobPollResultAction, hstatus]
      exact ⟨_, _, rfl⟩
    · simp only [getJobPollResultAction, hstatus]
      exact ⟨_, _, rfl⟩
  · cases h

/-- It does not poll any other again. -/
theorem isUnderWay_of_retry {job : Json} {status : String} {message : Json} {delayMs' : ℕ}
    (h : getJobPollResultAction numberText job delayMs = .retry status message delayMs') :
    isUnderWay job = true := by
  unfold getJobPollResultAction at h
  unfold isUnderWay
  split at h
  · next hstatus => rw [hstatus]; rfl
  · next hstatus => rw [hstatus]; rfl
  · split at h <;> cases h
  all_goals cases h

/-- The effect polls again. -/
def PollLoop.goesOn (loop : PollLoop) : Bool :=
  match loop.phase with
  | .scheduled _ _ => true
  | _ => false

theorem delayMs_of_goesOn (h : loop.goesOn = false) : loop.delayMs = maxJobPollDelayMs := by
  unfold PollLoop.goesOn at h
  unfold PollLoop.delayMs
  cases hphase : loop.phase with
  | scheduled delayMs count => rw [hphase] at h; cases h
  | _ => rfl

/-- What one poll does: it goes on with a job under way, it goes on after an error, or it ends. -/
theorem pollStep_cases (hphase : loop.phase = .scheduled delayMs consecutiveFailures)
    (hstep : pollStep numberText nullMessage loop outcome = some loop') :
    (outcome.signal = .progress ∧
        loop' = ⟨.scheduled (nextRunningJobPollDelay delayMs) 0, none⟩) ∨
      (∃ fresh count message, outcome.signal = .fault fresh ∧
        next maxJobPollFailures consecutiveFailures (.fault fresh) = some count ∧
        loop' = ⟨.scheduled (min (delayMs * 2) maxJobPollDelayMs) count, some message⟩) ∨
      (next maxJobPollFailures consecutiveFailures outcome.signal = none ∧
        loop'.goesOn = false ∧
        (loop'.errorMessage = none ↔ ∃ result, loop'.phase = .completed result)) := by
  simp only [pollStep, hphase, Option.some.injEq] at hstep
  subst hstep
  cases outcome with
  | failure error =>
    simp only [PollOutcome.signal, failed_eq]
    cases isPermanent error.status with
    | true => exact .inr (.inr ⟨rfl, rfl, by simp⟩)
    | false =>
      by_cases h : consecutiveFailures + 1 < maxJobPollFailures
      · exact .inr (.inl ⟨false, consecutiveFailures + 1, _, rfl, if_pos h, if_pos ⟨rfl, h⟩⟩)
      · refine .inr (.inr ⟨if_neg h, ?_⟩)
        rw [if_neg fun hand => h hand.2]
        exact ⟨rfl, by simp⟩
  | answer job =>
    by_cases hnull : job = .null
    · subst hnull
      exact .inr (.inl ⟨true, 1, .str nullMessage, rfl, rfl, rfl⟩)
    · have hsignal : (PollOutcome.answer job).signal =
          if isUnderWay job then .progress else .final := by
        unfold PollOutcome.signal
        split
        · next heq => cases heq; exact absurd rfl hnull
        · next heq => cases heq; rfl
        · next heq => cases heq
      simp only [hsignal, answered_of_ne_null hnull]
      by_cases h : isUnderWay job = true
      · obtain ⟨status, message, haction⟩ := getJobPollResultAction_of_isUnderWay h
        rw [if_pos h, haction]
        exact .inl ⟨rfl, rfl⟩
      · rw [if_neg h]
        refine .inr (.inr ⟨rfl, ?_⟩)
        cases haction : getJobPollResultAction numberText job delayMs with
        | retry status message delayMs' => exact absurd (isUnderWay_of_retry haction) h
        | complete status result => exact ⟨rfl, by simp⟩
        | fail status message retryAllowed => exact ⟨rfl, by simp⟩

/-- The loop goes on after a poll as the signal says. -/
theorem pollStep_scheduled_iff {count : ℕ}
    (hphase : loop.phase = .scheduled delayMs consecutiveFailures)
    (hstep : pollStep numberText nullMessage loop outcome = some loop') :
    (∃ delayMs', loop'.phase = .scheduled delayMs' count) ↔
      next maxJobPollFailures consecutiveFailures outcome.signal = some count := by
  rcases pollStep_cases hphase hstep with ⟨hsignal, rfl⟩ | ⟨fresh, count', _, hsignal, hnext, rfl⟩ |
    ⟨hnext, hends, -⟩
  · rw [hsignal]
    simp [next]
  · rw [hsignal, hnext]
    simp
  · rw [hnext]
    refine iff_of_false ?_ (by simp)
    rintro ⟨delayMs', hphase'⟩
    rw [PollLoop.goesOn, hphase'] at hends
    cases hends

/-- An effect that has ended polls no more. -/
theorem exists_of_pollStep (hstep : pollStep numberText nullMessage loop outcome = some loop') :
    ∃ delayMs count, loop.phase = .scheduled delayMs count := by
  unfold pollStep at hstep
  split at hstep
  · next delayMs count hphase => exact ⟨delayMs, count, hphase⟩
  · cases hstep

/-! ### Runs of the effect -/

/-- The effect counts as the loop of its signals does. -/
theorem exec_pollStep_iff {count : ℕ} :
    (∃ loop delayMs, exec (pollStep numberText nullMessage) (.start errorMessage) outcomes =
        some loop ∧ loop.phase = .scheduled delayMs count) ↔
      exec (next maxJobPollFailures) 0 (outcomes.map PollOutcome.signal) = some count := by
  induction outcomes using List.reverseRecOn generalizing count with
  | nil =>
    rw [exec_nil, List.map_nil, exec_nil, Option.some.injEq]
    constructor
    · rintro ⟨_, delayMs, ⟨⟩, hphase⟩
      exact (PollPhase.scheduled.inj hphase).2
    · rintro rfl
      exact ⟨_, _, rfl, rfl⟩
  | append_singleton outcomes outcome ih =>
    rw [List.map_append, List.map_singleton, exec_concat_eq_some]
    constructor
    · rintro ⟨loop', delayMs', hexec, hphase'⟩
      obtain ⟨loop, hloop, hstep⟩ := exec_concat_eq_some.mp hexec
      obtain ⟨delayMs, consecutiveFailures, hphase⟩ := exists_of_pollStep hstep
      exact ⟨consecutiveFailures, ih.mp ⟨loop, delayMs, hloop, hphase⟩,
        (pollStep_scheduled_iff hphase hstep).mp ⟨delayMs', hphase'⟩⟩
    · rintro ⟨consecutiveFailures, hexec, hnext⟩
      obtain ⟨loop, delayMs, hloop, hphase⟩ := ih.mpr hexec
      obtain ⟨loop', hstep⟩ : ∃ loop', pollStep numberText nullMessage loop outcome =
          some loop' := by
        rw [pollStep, hphase]
        exact ⟨_, rfl⟩
      obtain ⟨delayMs', hphase'⟩ := (pollStep_scheduled_iff hphase hstep).mpr hnext
      exact ⟨loop', delayMs', exec_concat_eq_some.mpr ⟨loop, hloop, hstep⟩, hphase'⟩

/-- **When the client goes on polling.** After any polls it does exactly if none of them was final
(an answer for a job that is not under way, or an error of the client but 408 and 429), and no four
of them in a row have failed. An answer that is `null` begins a row anew. -/
theorem polling_goes_on_iff {count : ℕ} :
    (∃ loop delayMs, exec (pollStep numberText nullMessage) (.start errorMessage) outcomes =
        some loop ∧ loop.phase = .scheduled delayMs count) ↔
      (∀ outcome ∈ outcomes, outcome.signal ≠ .final) ∧
        (∀ before, before <+: outcomes → failuresInRow before < maxJobPollFailures) ∧
        count = failuresInRow outcomes := by
  rw [exec_pollStep_iff, exec_next_iff (by decide)]
  refine and_congr ?_ (and_congr_left fun _ => ?_)
  · simp only [List.mem_map, not_exists, not_and, ne_eq]
  · constructor
    · intro h before hbefore
      exact h _ (hbefore.map _)
    · rintro h before hbefore
      obtain ⟨after, heq⟩ := hbefore
      obtain ⟨before, after, rfl, rfl, -⟩ := List.map_eq_append_iff.mp heq.symm
      exact h before (List.prefix_append _ _)

/-- The delays of the client grow by at least 400 ms, up to four seconds. -/
theorem paced_pollStep :
    Paced (pollStep numberText nullMessage) PollLoop.delayMs 400 maxJobPollDelayMs where
  capped loop outcome loop' hstep := by
    obtain ⟨delayMs, count, hphase⟩ := exists_of_pollStep hstep
    rcases pollStep_cases hphase hstep with ⟨-, rfl⟩ | ⟨_, _, _, -, -, rfl⟩ | ⟨-, hends, -⟩
    · exact min_le_right _ _
    · exact min_le_right _ _
    · exact (delayMs_of_goesOn hends).le
  grows loop outcome loop' hstep hincrement hcap := by
    obtain ⟨delayMs, count, hphase⟩ := exists_of_pollStep hstep
    have hdelay : loop.delayMs = delayMs := by rw [PollLoop.delayMs, hphase]
    rw [hdelay] at hincrement ⊢
    rcases pollStep_cases hphase hstep with ⟨-, rfl⟩ | ⟨_, _, _, -, -, rfl⟩ | ⟨-, hends, -⟩
    · exact le_refl _
    · show min (delayMs + 400) maxJobPollDelayMs ≤ min (delayMs * 2) maxJobPollDelayMs
      omega
    · rw [delayMs_of_goesOn hends]
      exact min_le_right _ _

/-- **The delays between the polls.** They never shrink, whatever the polls come to. They are at
least 1.2 s and at most 4 s, and from the eighth poll on they are 4 s. -/
theorem poll_delays {before after : List PollOutcome}
    (hbefore : exec (pollStep numberText nullMessage) (.start errorMessage) before = some loop)
    (hafter : exec (pollStep numberText nullMessage) loop after = some loop') :
    initialJobPollDelayMs ≤ loop.delayMs ∧ loop.delayMs ≤ loop'.delayMs ∧
      loop'.delayMs ≤ maxJobPollDelayMs ∧
      (7 ≤ before.length → loop.delayMs = maxJobPollDelayMs) := by
  have hstart : (PollLoop.start errorMessage).delayMs = 1200 := rfl
  obtain ⟨hlower, hupper⟩ := paced_pollStep.bounds (by rw [hstart]; decide)
    (by rw [hstart]; decide) hbefore
  have hmax : maxJobPollDelayMs = 4000 := rfl
  obtain ⟨hlower', hupper'⟩ := paced_pollStep.bounds (by omega) hupper hafter
  have hinitial : initialJobPollDelayMs = 1200 := rfl
  refine ⟨by omega, by omega, hupper', fun hlength => by omega⟩

theorem poll_delays_refresh : ∃ loop loop',
    exec (pollStep plainNumber "null") (.start none)
        [.answer (.obj [("status", .str "running")])] = some loop ∧
      exec (pollStep plainNumber "null") loop [.failure ⟨some "Failed to fetch", none⟩] =
        some loop' ∧ loop.delayMs ≤ loop'.delayMs ∧ loop'.delayMs = 3200 := by
  obtain ⟨loop, loop', hbefore, hafter, hdelay⟩ : ∃ loop loop',
      exec (pollStep plainNumber "null") (.start none)
        [.answer (.obj [("status", .str "running")])] = some loop ∧
      exec (pollStep plainNumber "null") loop [.failure ⟨some "Failed to fetch", none⟩] =
        some loop' ∧ loop'.delayMs = 3200 := ⟨_, _, rfl, rfl, rfl⟩
  exact ⟨loop, loop', hbefore, hafter, (poll_delays hbefore hafter).2.1, hdelay⟩

end Meridian.Frontend
