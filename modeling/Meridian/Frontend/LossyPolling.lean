import Meridian.Frontend.PollBackoff

/-!
# Polling over a connection that loses answers

The polling effect against a store of jobs under any calls, where a poll can throw instead of being
answered, at any time after it was sent. One poll is under way at a time, as the timer of the next
is set when the one before has come to something.

## Main definitions

* `Meridian.Frontend.lossyStep`: a call of the store, or a step of a poll.
* `Meridian.Frontend.Tolerable`: a step that gives the client no reason to give up.

## Main results

* `Meridian.Frontend.lossy_result_stored`: what the client shows as the result is the stored result,
  whatever was lost before.
* `Meridian.Frontend.tolerable_never_abandons`: in tolerable runs it gives up no job that goes on.
* `Meridian.Frontend.delivered_after_losses`: it delivers the result of a job after up to as many
  lost polls as are left of three in a row.
-/

namespace Meridian.Frontend

open Foundations Retry Jobs Api.Chat

/-! ### Runs -/

/-- The jobs, the effect, and the poll under way with its answer, if there is one. -/
structure LossyPolling where
  jobs : JobTable Json Json
  loop : PollLoop
  inFlight : Option (Option Json)

/-- A call of the store; a poll is sent, answered by the server, received or lost. -/
inductive LossyLabel
  | call (now : String) (call : JobCall Json Json)
  | send
  | respond
  | receive
  | lose (error : PollError)

section Step

variable (completionRefreshPolls : ℤ) (numberText : ℚ → String) (nullMessage jobId : String)

/-- The poll under way comes to something. -/
def settle (s : LossyPolling) (outcome : PollOutcome) : Option LossyPolling :=
  (pollStep numberText nullMessage s.loop outcome).map fun loop =>
    { s with loop := loop, inFlight := none }

/-- One step. -/
def lossyStep (s : LossyPolling) : LossyLabel → Option LossyPolling
  | .call now call =>
    some { s with jobs := (callJob (storeConfig completionRefreshPolls) s.jobs now call).1 }
  | .send =>
    if s.loop.goesOn = true ∧ s.inFlight.isNone then some { s with inFlight := some none } else none
  | .respond =>
    match s.inFlight, s.jobs.lookup jobId with
    | some none, some job => some { s with inFlight := some (some (toApiDict job)) }
    | _, _ => none
  | .receive =>
    match s.inFlight with
    | some (some body) => settle numberText nullMessage s (.answer body)
    | _ => none
  | .lose error =>
    if s.inFlight.isSome then settle numberText nullMessage s (.failure error) else none

/-- The effect begins on a job that has just been created. -/
def lossyCreated (jobs : JobTable Json Json) (now jobPollToken : String) (new : NewJob) :
    LossyPolling :=
  { jobs := (callJob (storeConfig completionRefreshPolls) jobs now
      (.createJob jobId jobPollToken new)).1
    loop := .start none
    inFlight := none }

end Step

/-- A step that gives the client no reason to give up: no answer that says that the job is pending,
no permanent error, and not the fourth error in a row. -/
def Tolerable (s : LossyPolling) : LossyLabel → Prop
  | .receive => ∀ body, s.inFlight = some (some body) →
      body.get? "status" ≠ some (.str "pending")
  | .lose error => isPermanent error.status = false ∧
      ∀ delayMs count, s.loop.phase = .scheduled delayMs count → count + 1 < maxJobPollFailures
  | _ => True

variable {completionRefreshPolls : ℤ} {numberText : ℚ → String} {nullMessage jobId : String}
  {s t : LossyPolling} {l : LossyLabel} {job : GenerationJob Json Json}

/-! ### What holds in every state -/

/-- The job is stored and consistent, an answer on its way is the job as it was, and what the client
shows as the result is stored. -/
structure LossySound (jobId : String) (s : LossyPolling) (job : GenerationJob Json Json) :
    Prop where
  stored : s.jobs.lookup jobId = some job
  consistent : job.Consistent envelopeReader
  inFlight : ∀ body, s.inFlight = some (some body) →
    ∃ snapshot : GenerationJob Json Json, body = toApiDict snapshot ∧
      snapshot.Consistent envelopeReader ∧
      (snapshot.jobStatus.isTerminal = true → job.outcome = snapshot.outcome)
  completed : ∀ result, s.loop.phase = .completed result →
    job.jobStatus = .succeeded ∧ job.resultPayload = some result

/-- What the effect does on the answer for a consistent job. -/
theorem answered_toApiDict {snapshot : GenerationJob Json Json}
    (h : snapshot.Consistent envelopeReader) (delayMs : ℕ) :
    (snapshot.jobStatus = .running ∧ ∃ delayMs',
      answered numberText nullMessage (toApiDict snapshot) delayMs =
        ⟨.scheduled delayMs' 0, none⟩) ∨
    (snapshot.jobStatus = .succeeded ∧ ∃ result, snapshot.resultPayload = some result ∧
      answered numberText nullMessage (toApiDict snapshot) delayMs = ⟨.completed result, none⟩) ∨
    (snapshot.jobStatus ≠ .running ∧ snapshot.jobStatus ≠ .succeeded ∧ ∃ message,
      answered numberText nullMessage (toApiDict snapshot) delayMs = ⟨.stopped, some message⟩) := by
  have hnull : toApiDict snapshot ≠ .null := nofun
  rw [answered_of_ne_null hnull]
  have hreceived := received_toApiDict h numberText delayMs
  simp only [received] at hreceived
  cases haction : getJobPollResultAction numberText (toApiDict snapshot) delayMs with
  | retry status message delayMs' =>
    simp only [haction, reduceCtorEq, and_false, exists_false, or_false] at hreceived
    exact .inl ⟨hreceived.1, _, rfl⟩
  | complete status result =>
    simp only [haction, reduceCtorEq, and_false, exists_false, or_false, false_or,
      Client.completed.injEq] at hreceived
    obtain ⟨hstatus, result', hresult, rfl⟩ := hreceived
    exact .inr (.inl ⟨hstatus, _, hresult, rfl⟩)
  | fail status message retryAllowed =>
    simp only [haction, reduceCtorEq, and_false, exists_false, false_or] at hreceived
    exact .inr (.inr ⟨hreceived.1, hreceived.2.1, _, rfl⟩)

/-- An error completes nothing. -/
theorem failed_ne_completed (error : PollError) (delayMs count : ℕ) (result : Json) :
    (failed error delayMs count).phase ≠ .completed result := by
  rw [failed_eq]
  split_ifs <;> simp

/-- A poll comes to something while the effect is at work. -/
theorem settle_eq_some_iff {outcome : PollOutcome} :
    settle numberText nullMessage s outcome = some t ↔
      ∃ loop, pollStep numberText nullMessage s.loop outcome = some loop ∧
        t = { s with loop := loop, inFlight := none } := by
  rw [settle, Option.map_eq_some_iff]
  exact exists_congr fun loop => and_congr_right fun _ => eq_comm

/-- What a received answer or an error does to the effect of a sound job: it goes on, it shows the
stored result, or it gives up. -/
theorem LossySound.phase_of_received (h : LossySound jobId s job) {body : Json} {loop : PollLoop}
    (hbody : s.inFlight = some (some body))
    (hstep : pollStep numberText nullMessage s.loop (.answer body) = some loop) :
    loop.goesOn = true ∨
      (∃ result, loop.phase = .completed result ∧ job.jobStatus = .succeeded ∧
        job.resultPayload = some result) ∨
      (loop.phase = .stopped ∧
        (body.get? "status" ≠ some (.str "pending") → EndedWithoutResult job.toJobRow)) := by
  obtain ⟨delayMs, count, hphase⟩ := exists_of_pollStep hstep
  simp only [pollStep, hphase, Option.some.injEq] at hstep
  obtain ⟨snapshot, rfl, hsnapshot, houtcome⟩ := h.inFlight body hbody
  obtain ⟨-, delayMs', hanswered⟩ | ⟨hstatus, result, hresult, hanswered⟩ |
      ⟨hrunning, hsucceeded, message, hanswered⟩ :=
    answered_toApiDict hsnapshot delayMs
  · rw [hanswered] at hstep
    subst hstep
    exact .inl rfl
  · rw [hanswered] at hstep
    subst hstep
    have hsame := houtcome (by rw [hstatus]; rfl)
    exact .inr (.inl ⟨result, rfl, (congrArg Prod.fst hsame).trans hstatus,
      (congrArg (·.2.1) hsame).trans hresult⟩)
  · rw [hanswered] at hstep
    subst hstep
    refine .inr (.inr ⟨rfl, fun hpending => ?_⟩)
    have hterminal : snapshot.jobStatus.isTerminal = true := by
      rw [get?_status] at hpending
      revert hpending hrunning
      cases snapshot.jobStatus <;> simp [JobStatus.isTerminal, statusLiteral]
    exact EndedWithoutResult.of_outcome ⟨hterminal, fun h => hsucceeded h.1⟩ (houtcome hterminal)

/-- A call of the store keeps the job sound. -/
theorem LossySound.call (h : LossySound jobId s job) (completionRefreshPolls : ℤ) (now : String)
    (call : JobCall Json Json) :
    ∃ job', LossySound jobId
        { s with jobs := (callJob (storeConfig completionRefreshPolls) s.jobs now call).1 } job' ∧
      (job.jobStatus.isTerminal = true → job'.outcome = job.outcome) := by
  obtain ⟨job', hjob', hfollows⟩ : ∃ job',
      (callJob (storeConfig completionRefreshPolls) s.jobs now call).1.lookup jobId = some job' ∧
        job.Follows envelopeReader job'.toJobRow := callJob_follows h.stored h.consistent
  have hkept : job.jobStatus.isTerminal = true → job'.outcome = job.outcome := hfollows.outcome_eq
  refine ⟨job', ⟨hjob', hfollows.consistent h.consistent, fun body hbody => ?_,
    fun result hresult => ?_⟩, hkept⟩
  · obtain ⟨snapshot, heq, hsnapshot, houtcome⟩ := h.inFlight body hbody
    refine ⟨snapshot, heq, hsnapshot, fun hterminal => ?_⟩
    have hsame := houtcome hterminal
    have hstatus : job.jobStatus = snapshot.jobStatus := congrArg Prod.fst hsame
    rw [hkept (by rw [hstatus, hterminal]), hsame]
  · obtain ⟨hsucceeded, hpayload⟩ := h.completed result hresult
    have hsame := hkept (by rw [hsucceeded]; rfl)
    exact ⟨(congrArg Prod.fst hsame).trans hsucceeded, (congrArg (·.2.1) hsame).trans hpayload⟩

/-- Every step keeps the job sound. -/
theorem LossySound.step (h : ∃ job, LossySound jobId s job)
    (hstep : lossyStep completionRefreshPolls numberText nullMessage jobId s l = some t) :
    ∃ job, LossySound jobId t job := by
  obtain ⟨job, h⟩ := h
  cases l with
  | call now call =>
    obtain rfl := Option.some.inj hstep
    obtain ⟨job', h', -⟩ := h.call completionRefreshPolls now call
    exact ⟨job', h'⟩
  | send =>
    simp only [lossyStep] at hstep
    split_ifs at hstep
    obtain rfl := Option.some.inj hstep
    exact ⟨job, h.stored, h.consistent, fun _ hbody => (by cases hbody), h.completed⟩
  | respond =>
    simp only [lossyStep, h.stored] at hstep
    split at hstep
    · next job' _ hjob' =>
      obtain rfl := Option.some.inj hjob'
      obtain rfl := Option.some.inj hstep
      refine ⟨job, h.stored, h.consistent, fun body hbody => ?_, h.completed⟩
      cases hbody
      exact ⟨job, rfl, h.consistent, fun _ => rfl⟩
    · cases hstep
  | receive =>
    simp only [lossyStep] at hstep
    split at hstep
    · next body hbody =>
      obtain ⟨loop, hloop, rfl⟩ := settle_eq_some_iff.mp hstep
      refine ⟨job, h.stored, h.consistent, fun _ hbody => (by cases hbody),
        fun result hresult => ?_⟩
      replace hresult : loop.phase = .completed result := hresult
      rcases h.phase_of_received hbody hloop with hgoes | ⟨result', hphase, hjob⟩ | ⟨hphase, -⟩
      · rw [PollLoop.goesOn, hresult] at hgoes
        cases hgoes
      · obtain rfl := PollPhase.completed.inj (hphase.symm.trans hresult)
        exact hjob
      · rw [hphase] at hresult
        cases hresult
    · cases hstep
  | lose error =>
    simp only [lossyStep] at hstep
    split_ifs at hstep
    obtain ⟨loop, hloop, rfl⟩ := settle_eq_some_iff.mp hstep
    refine ⟨job, h.stored, h.consistent, fun _ hbody => (by cases hbody), fun result hresult => ?_⟩
    obtain ⟨delayMs, count, hphase⟩ := exists_of_pollStep hloop
    simp only [pollStep, hphase, Option.some.injEq] at hloop
    subst hloop
    exact absurd hresult (failed_ne_completed error delayMs count result)

variable {jobs : JobTable Json Json} {now jobPollToken : String} {new : NewJob}

/-- The effect begins with a pending job. -/
theorem lossySound_created (hnew : jobs.lookup jobId = none) :
    LossySound jobId (lossyCreated completionRefreshPolls jobId jobs now jobPollToken new)
      (new.row jobId jobPollToken now) := by
  have hsound : Sound jobId (created completionRefreshPolls jobId jobs now jobPollToken new)
      (new.row jobId jobPollToken now) := sound_created hnew
  exact ⟨hsound.stored, new.row_consistent jobId jobPollToken now, fun _ hbody => (by cases hbody),
    fun _ hresult => (by cases hresult)⟩

/-- **The result that is shown is stored.** In every run, whatever was lost or answered before, the
effect has completed only with the result of the job that has succeeded. -/
theorem lossy_result_stored (hnew : jobs.lookup jobId = none) {labels : List LossyLabel}
    (hexec : exec (lossyStep completionRefreshPolls numberText nullMessage jobId)
      (lossyCreated completionRefreshPolls jobId jobs now jobPollToken new) labels = some t)
    {result : Json} (hresult : t.loop.phase = .completed result) :
    ∃ job, t.jobs.lookup jobId = some job ∧ job.jobStatus = .succeeded ∧
      job.resultPayload = some result := by
  obtain ⟨job, h⟩ := exec_invariant (fun s => ∃ job, LossySound jobId s job)
    (fun _ _ _ => LossySound.step) ⟨_, lossySound_created hnew⟩ hexec
  exact ⟨job, h.stored, h.completed result hresult⟩

/-! ### Giving up -/

/-- The job is sound, and if the effect has given up, the job has ended without a result. -/
def StoppedRightly (jobId : String) (s : LossyPolling) : Prop :=
  ∃ job, LossySound jobId s job ∧ (s.loop.phase = .stopped → EndedWithoutResult job.toJobRow)

/-- A tolerable step gives the effect no reason to give up a job that goes on. -/
theorem StoppedRightly.step (h : StoppedRightly jobId s) (htolerable : Tolerable s l)
    (hstep : lossyStep completionRefreshPolls numberText nullMessage jobId s l = some t) :
    StoppedRightly jobId t := by
  obtain ⟨job, hsound, hstopped⟩ := h
  cases l with
  | call now call =>
    obtain rfl := Option.some.inj hstep
    obtain ⟨job', hsound', hkept⟩ := hsound.call completionRefreshPolls now call
    exact ⟨job', hsound', fun hphase =>
      (hstopped hphase).of_outcome (hkept (hstopped hphase).1)⟩
  | send =>
    obtain ⟨job', hsound'⟩ := LossySound.step ⟨job, hsound⟩ hstep
    simp only [lossyStep] at hstep
    split_ifs at hstep
    obtain rfl := Option.some.inj hstep
    obtain rfl := Option.some.inj (hsound.stored.symm.trans hsound'.stored)
    exact ⟨job, hsound', hstopped⟩
  | respond =>
    obtain ⟨job', hsound'⟩ := LossySound.step ⟨job, hsound⟩ hstep
    simp only [lossyStep, hsound.stored] at hstep
    split at hstep
    · obtain rfl := Option.some.inj hstep
      obtain rfl := Option.some.inj (hsound.stored.symm.trans hsound'.stored)
      exact ⟨job, hsound', hstopped⟩
    · cases hstep
  | receive =>
    obtain ⟨job', hsound'⟩ := LossySound.step ⟨job, hsound⟩ hstep
    simp only [lossyStep] at hstep
    split at hstep
    · next body hbody =>
      obtain ⟨loop, hloop, rfl⟩ := settle_eq_some_iff.mp hstep
      obtain rfl := Option.some.inj (hsound.stored.symm.trans hsound'.stored)
      refine ⟨job, hsound', fun hphase => ?_⟩
      replace hphase : loop.phase = .stopped := hphase
      rcases hsound.phase_of_received hbody hloop with hgoes | ⟨_, hcompleted, -⟩ | ⟨-, hended⟩
      · rw [PollLoop.goesOn, hphase] at hgoes
        cases hgoes
      · rw [hphase] at hcompleted
        cases hcompleted
      · exact hended (htolerable body hbody)
    · cases hstep
  | lose error =>
    obtain ⟨job', hsound'⟩ := LossySound.step ⟨job, hsound⟩ hstep
    simp only [lossyStep] at hstep
    split_ifs at hstep
    obtain ⟨loop, hloop, rfl⟩ := settle_eq_some_iff.mp hstep
    obtain rfl := Option.some.inj (hsound.stored.symm.trans hsound'.stored)
    refine ⟨job, hsound', fun hphase => ?_⟩
    replace hphase : loop.phase = .stopped := hphase
    obtain ⟨delayMs, count, hscheduled⟩ := exists_of_pollStep hloop
    simp only [pollStep, hscheduled, Option.some.injEq, failed_eq] at hloop
    rw [if_pos ⟨htolerable.1, htolerable.2 delayMs count hscheduled⟩] at hloop
    subst hloop
    cases hphase

/-- **Lost polls alone do not make the client give up a job.** In every run of tolerable steps, the
effect has given up only a job that has ended without a result. -/
theorem tolerable_never_abandons (hnew : jobs.lookup jobId = none) {labels : List LossyLabel}
    (htolerable : Along (lossyStep completionRefreshPolls numberText nullMessage jobId)
      (fun s l _ => Tolerable s l)
      (lossyCreated completionRefreshPolls jobId jobs now jobPollToken new) labels)
    (hexec : exec (lossyStep completionRefreshPolls numberText nullMessage jobId)
      (lossyCreated completionRefreshPolls jobId jobs now jobPollToken new) labels = some t)
    (hstopped : t.loop.phase = .stopped) :
    ∃ job, t.jobs.lookup jobId = some job ∧ EndedWithoutResult job.toJobRow := by
  have hcreated : StoppedRightly jobId
      (lossyCreated completionRefreshPolls jobId jobs now jobPollToken new) :=
    ⟨_, lossySound_created hnew, fun hphase => by cases hphase⟩
  have hstep : ∀ s l t, StoppedRightly jobId s → Tolerable s l →
      lossyStep completionRefreshPolls numberText nullMessage jobId s l = some t →
        StoppedRightly jobId t := fun _ _ _ h htolerable hstep => h.step htolerable hstep
  obtain ⟨job, hsound, hended⟩ :=
    along_invariant (StoppedRightly jobId) hstep hcreated htolerable hexec
  exact ⟨job, hsound.stored, hended hstopped⟩

/-! ### Delivery -/

/-- A poll that is sent and lost. -/
def lostPoll (error : PollError) : List LossyLabel := [.send, .lose error]

/-- A poll that is sent, answered and received. -/
def answeredPoll : List LossyLabel := [.send, .respond, .receive]

/-- A poll that is answered delivers the result of a job that has succeeded. -/
theorem exec_answeredPoll (h : LossySound jobId s job) (hidle : s.inFlight = none)
    {delayMs count : ℕ} (hphase : s.loop.phase = .scheduled delayMs count)
    (hsucceeded : job.jobStatus = .succeeded) {result : Json}
    (hresult : job.resultPayload = some result) :
    exec (lossyStep completionRefreshPolls numberText nullMessage jobId) s answeredPoll =
      some ⟨s.jobs, ⟨.completed result, none⟩, none⟩ := by
  have hgoes : s.loop.goesOn = true := by rw [PollLoop.goesOn, hphase]
  have hanswered :
      answered numberText nullMessage (toApiDict job) delayMs = ⟨.completed result, none⟩ := by
    obtain ⟨hrunning, -⟩ | ⟨-, result', hresult', hanswered⟩ | ⟨-, hne, -⟩ :=
      answered_toApiDict h.consistent delayMs
    · rw [hsucceeded] at hrunning
      cases hrunning
    · obtain rfl := Option.some.inj (hresult'.symm.trans hresult)
      exact hanswered
    · exact absurd hsucceeded hne
  rw [answeredPoll, exec_cons, lossyStep, hidle, if_pos ⟨hgoes, rfl⟩, Option.bind_some, exec_cons]
  simp only [lossyStep, h.stored, Option.bind_some, exec_cons, settle, pollStep, hphase, hanswered,
    Option.map_some, exec_nil]

/-- A lost poll is followed by another, if the error is not permanent and not the fourth. -/
theorem exec_lostPoll (hidle : s.inFlight = none) {delayMs count : ℕ}
    (hphase : s.loop.phase = .scheduled delayMs count) {error : PollError}
    (herror : isPermanent error.status = false) (hcount : count + 1 < maxJobPollFailures) :
    ∃ delayMs' message,
      exec (lossyStep completionRefreshPolls numberText nullMessage jobId) s (lostPoll error) =
        some ⟨s.jobs, ⟨.scheduled delayMs' (count + 1), message⟩, none⟩ := by
  have hgoes : s.loop.goesOn = true := by rw [PollLoop.goesOn, hphase]
  refine ⟨min (delayMs * 2) maxJobPollDelayMs,
    some (.str (error.message.getD "Background polling failed.")), ?_⟩
  rw [lostPoll, exec_cons, lossyStep, hidle, if_pos ⟨hgoes, rfl⟩, Option.bind_some, exec_cons]
  simp only [lossyStep, Option.isSome_some, if_true, settle, pollStep, hphase, failed_eq, herror,
    hcount, and_self, Option.map_some, Option.bind_some, exec_nil]

/-- The result is delivered after losses, from any sound state. -/
theorem exec_losses (h : LossySound jobId s job) (hidle : s.inFlight = none) {delayMs count : ℕ}
    (hphase : s.loop.phase = .scheduled delayMs count) (hsucceeded : job.jobStatus = .succeeded)
    {result : Json} (hresult : job.resultPayload = some result) {errors : List PollError}
    (herrors : ∀ error ∈ errors, isPermanent error.status = false)
    (hcount : count + errors.length < maxJobPollFailures) :
    exec (lossyStep completionRefreshPolls numberText nullMessage jobId) s
        (errors.flatMap lostPoll ++ answeredPoll) =
      some ⟨s.jobs, ⟨.completed result, none⟩, none⟩ := by
  induction errors generalizing s delayMs count with
  | nil => exact exec_answeredPoll h hidle hphase hsucceeded hresult
  | cons error errors ih =>
    rw [List.length_cons] at hcount
    obtain ⟨delayMs', message, hlost⟩ : ∃ delayMs' message,
        exec (lossyStep completionRefreshPolls numberText nullMessage jobId) s (lostPoll error) =
          some ⟨s.jobs, ⟨.scheduled delayMs' (count + 1), message⟩, none⟩ :=
      exec_lostPoll hidle hphase (herrors error List.mem_cons_self) (by omega)
    rw [List.flatMap_cons, List.append_assoc, exec_append, hlost, Option.bind_some]
    refine ih (s := ⟨s.jobs, ⟨.scheduled delayMs' (count + 1), message⟩, none⟩) ?_ rfl rfl
      (fun error' herror' => herrors error' (List.mem_cons_of_mem _ herror')) (by omega)
    exact ⟨h.stored, h.consistent, fun _ hbody => (by cases hbody),
      fun _ hphase => (by cases hphase)⟩

/-- **The result is delivered.** In every state of a run in which the job has succeeded, the effect
still polls and no poll is under way, the next poll that is answered delivers the stored result,
after any errors in between that are not permanent and do not make four in a row. -/
theorem delivered_after_losses (hnew : jobs.lookup jobId = none) {labels : List LossyLabel}
    (hexec : exec (lossyStep completionRefreshPolls numberText nullMessage jobId)
      (lossyCreated completionRefreshPolls jobId jobs now jobPollToken new) labels = some s)
    (hjob : s.jobs.lookup jobId = some job) (hsucceeded : job.jobStatus = .succeeded)
    (hidle : s.inFlight = none) {delayMs count : ℕ}
    (hphase : s.loop.phase = .scheduled delayMs count) {errors : List PollError}
    (herrors : ∀ error ∈ errors, isPermanent error.status = false)
    (hcount : count + errors.length < maxJobPollFailures) :
    ∃ t result, job.resultPayload = some result ∧
      exec (lossyStep completionRefreshPolls numberText nullMessage jobId) s
        (errors.flatMap lostPoll ++ answeredPoll) = some t ∧ t.loop.phase = .completed result := by
  obtain ⟨job', h⟩ := exec_invariant (fun s => ∃ job, LossySound jobId s job)
    (fun _ _ _ => LossySound.step) ⟨_, lossySound_created hnew⟩ hexec
  obtain rfl := Option.some.inj (h.stored.symm.trans hjob)
  obtain ⟨result, hresult⟩ :=
    Option.isSome_iff_exists.mp (h.consistent.resultPayload.mpr hsucceeded)
  exact ⟨_, result, hresult, exec_losses h hidle hphase hsucceeded hresult herrors hcount, rfl⟩

/-! ### A poll that times out -/

/-- An error without a status. -/
def connectionError : PollError := ⟨some "Failed to fetch", none⟩

/-- The effect on a job that has just been created in an empty store. -/
def newLossyPolling : LossyPolling :=
  lossyCreated 2 "job_1" .empty "2026-03-16T09:00:00Z" "token-1" refreshRequest

/-- The calls that start the job and complete it. -/
def startThenComplete : List LossyLabel :=
  [.call "t1" (.operate "job_1" (.startJob "Refreshing.")),
   .call "t2" (.operate "job_1" (.completeJob refreshResult "Done."))]

/-- The calls that start the job and fail it. -/
def startThenFail : List LossyLabel :=
  [.call "t1" (.operate "job_1" (.startJob "Refreshing.")),
   .call "t2" (.operate "job_1" (.failJob "No answer." none))]

theorem lossy_result_stored_refresh : ∃ t,
    exec (lossyStep 2 plainNumber "null" "job_1") newLossyPolling
        (startThenComplete ++ lostPoll connectionError ++ answeredPoll) = some t ∧
      t.loop.phase = .completed refreshResult ∧
      ∃ job, t.jobs.lookup "job_1" = some job ∧ job.jobStatus = .succeeded ∧
        job.resultPayload = some refreshResult := by
  obtain ⟨t, hexec, hresult⟩ : ∃ t,
      exec (lossyStep 2 plainNumber "null" "job_1") newLossyPolling
        (startThenComplete ++ lostPoll connectionError ++ answeredPoll) = some t ∧
      t.loop.phase = .completed refreshResult := ⟨_, rfl, rfl⟩
  exact ⟨t, hexec, hresult, lossy_result_stored rfl hexec hresult⟩

theorem tolerable_never_abandons_failed : ∃ t,
    exec (lossyStep 2 plainNumber "null" "job_1") newLossyPolling
        (startThenFail ++ lostPoll connectionError ++ answeredPoll) = some t ∧
      t.loop.phase = .stopped ∧
      ∃ job, t.jobs.lookup "job_1" = some job ∧ EndedWithoutResult job.toJobRow := by
  obtain ⟨t, hexec, hstopped⟩ : ∃ t,
      exec (lossyStep 2 plainNumber "null" "job_1") newLossyPolling
        (startThenFail ++ lostPoll connectionError ++ answeredPoll) = some t ∧
      t.loop.phase = .stopped := ⟨_, rfl, rfl⟩
  refine ⟨t, hexec, hstopped, tolerable_never_abandons rfl ?_ hexec hstopped⟩
  refine .cons rfl trivial (.cons rfl trivial (.cons rfl trivial (.cons rfl ⟨rfl, ?_⟩
    (.cons rfl trivial (.cons rfl trivial (.cons rfl ?_ trivial))))))
  · rintro delayMs count hphase
    cases hphase
    decide
  · rintro body hbody hpending
    cases hbody
    exact absurd (congrArg (Option.map Json.toStr) hpending) (by decide)

theorem delivered_after_losses_refresh : ∃ s t,
    exec (lossyStep 2 plainNumber "null" "job_1") newLossyPolling startThenComplete = some s ∧
      exec (lossyStep 2 plainNumber "null" "job_1") s
        ([connectionError, connectionError, connectionError].flatMap lostPoll ++ answeredPoll) =
          some t ∧ t.loop.phase = .completed refreshResult := by
  obtain ⟨s, job, hexec, hjob, hsucceeded, hidle, hphase, hresult⟩ : ∃ s job,
      exec (lossyStep 2 plainNumber "null" "job_1") newLossyPolling startThenComplete = some s ∧
      s.jobs.lookup "job_1" = some job ∧ job.jobStatus = .succeeded ∧ s.inFlight = none ∧
      s.loop.phase = .scheduled initialJobPollDelayMs 0 ∧
      job.resultPayload = some refreshResult := ⟨_, _, rfl, rfl, rfl, rfl, rfl, rfl⟩
  have herrors : ∀ error ∈ [connectionError, connectionError, connectionError],
      isPermanent error.status = false := by
    simp only [List.mem_cons, List.not_mem_nil, or_false, or_self, forall_eq]
    rfl
  obtain ⟨t, result, hresult', hdelivered, hcompleted⟩ := delivered_after_losses rfl hexec hjob
    hsucceeded hidle hphase herrors (by decide)
  obtain rfl := Option.some.inj (hresult'.symm.trans hresult)
  exact ⟨s, t, hexec, hdelivered, hcompleted⟩

end Meridian.Frontend
