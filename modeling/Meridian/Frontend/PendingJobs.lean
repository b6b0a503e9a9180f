import Meridian.Frontend.ChatState

/-!
# Pending jobs of the shell

The reducers as `frontend/src/App.jsx` applies them: a prompt can be sent while the session is not
loading, the answer to a prompt or to a confirmed action comes at any later time, and the answers to
the polls of a job come while it is tracked. Job ids of answers are fresh. Actions that change a
response locally are left out.

## Main definitions

* `Meridian.Frontend.Shell`: the state of the shell with what has become of its jobs.
* `Meridian.Frontend.shellStep`: one step of the application.
* `Meridian.Frontend.NothingLost`: every message of a pending job is that of the tracked job.
* `Meridian.Frontend.InTurn`: the condition on a step.

## Main results

* `Meridian.Frontend.nothing_lost_iff`: in every run no pending job is lost exactly if no answer
  comes while a job is tracked and a completed job is completed with its own result.
* `Meridian.Frontend.inTurn_of_confirmed_idle`: prompts alone keep the condition.
* `Meridian.Frontend.confirmation_loses_job`: a confirmed action after which a job is not tracked.
-/

namespace Meridian.Frontend

open Foundations

/-! ### The application -/

/-- The job of a message. -/
def Message.jobId : Message → Option String
  | user _ _ => none
  | assistant _ response => response.jobId

/-- The state of the shell, the jobs that have been completed or reported as failed, and how many
prompts have not been answered. -/
structure Shell where
  state : ShellState
  settled : List String
  chatRequests : ℕ

/-- The beginning of a run. -/
def Shell.initial : Shell := ⟨createInitialChatShellState, [], 0⟩

/-- The answer has no job, or one that has not been seen. -/
def Shell.isFresh (s : Shell) (response : Response) : Bool :=
  response.jobId.all fun jobId =>
    decide (jobId ∉ s.settled) && s.state.messages.all (·.jobId ≠ some jobId)

/-- The effect that polls is at work. -/
def Shell.isPolling (s : Shell) : Bool :=
  hasText s.state.activeJobId && hasText s.state.activeJobPollToken

/-- A prompt is sent, answered or fails; a confirmed action is answered; a poll is answered. -/
inductive ShellEvent
  | submit
  | chatAnswer (response : Response) (prompt : String)
  | chatFailure
  | confirmAnswer (response : Response)
  | pollRetry (status message : Option String)
  | pollComplete (result : Response)
  | pollFail (message : Option String)

/-- One step of the application. -/
def shellStep (s : Shell) : ShellEvent → Option Shell
  | .submit =>
    if s.state.sessionState = .loading then none
    else some { s with
      state := { s.state with sessionState := .loading }
      chatRequests := s.chatRequests + 1 }
  | .chatAnswer response prompt =>
    if 0 < s.chatRequests ∧ s.isFresh response = true then some { s with
      state := applyChatResponse s.state response (some prompt)
      chatRequests := s.chatRequests - 1 }
    else none
  | .chatFailure =>
    if 0 < s.chatRequests then some { s with
      state := { s.state with sessionState := .error }
      chatRequests := s.chatRequests - 1 }
    else none
  | .confirmAnswer response =>
    if s.isFresh response = true then some { s with
      state := applyChatResponse s.state response none }
    else none
  | .pollRetry status message =>
    if s.isPolling = true then some { s with
      state := updateJobPollingState s.state status message }
    else none
  | .pollComplete result =>
    if s.isPolling = true then some { s with
      state := replacePendingJobResponse s.state result
      settled := s.settled ++ result.jobId.toList }
    else none
  | .pollFail message =>
    if s.isPolling = true then some { s with
      state := markJobError s.state message
      settled := s.settled ++ s.state.activeJobId.toList }
    else none

/-- Every message of a job that has neither been completed nor reported as failed is that of the
tracked job, with its poll token. -/
def NothingLost (s : Shell) : Prop :=
  ∀ id response jobId, Message.assistant id response ∈ s.state.messages →
    response.jobId = some jobId → jobId ≠ "" → jobId ∉ s.settled →
    s.state.activeJobId = some jobId ∧ s.state.activeJobPollToken = response.jobPollToken

/-- An answer comes while no job is tracked, and a job is completed with a result of its own. -/
def InTurn (s : Shell) : ShellEvent → Prop
  | .chatAnswer _ _ | .confirmAnswer _ => hasText s.state.activeJobId = false
  | .pollComplete result => result.jobId = s.state.activeJobId
  | _ => True

variable {s t : Shell} {event : ShellEvent} {state : ShellState} {response : Response}
  {id jobId : String}

/-! ### Messages -/

theorem mem_messages_applyChatResponse {prompt : Option String} {pending : Response} :
    Message.assistant id pending ∈ (applyChatResponse state response prompt).messages ↔
      Message.assistant id pending ∈ state.messages ∨
        id = response.responseId ∧ pending = response := by
  unfold applyChatResponse
  cases prompt.filter (· ≠ "") with
  | none => simp
  | some prompt => simp

theorem mem_messages_of_replacePendingJobResponse {result : Response}
    (h : Message.assistant id response ∈ (replacePendingJobResponse state result).messages) :
    response = result ∨ Message.assistant id response ∈ state.messages := by
  obtain ⟨message, hmem, hmessage⟩ := List.mem_map.mp h
  cases message with
  | user id' prompt => cases hmessage
  | assistant id' pending =>
    simp only [Message.completedBy] at hmessage
    split_ifs at hmessage
    · obtain ⟨-, rfl⟩ := Message.assistant.inj hmessage
      exact .inl rfl
    · rw [hmessage] at hmem
      exact .inr hmem

/-- A message of another job stays. -/
theorem mem_messages_replacePendingJobResponse {result : Response}
    (h : Message.assistant id response ∈ state.messages) (hother : response.jobId ≠ result.jobId) :
    Message.assistant id response ∈ (replacePendingJobResponse state result).messages :=
  List.mem_map.mpr ⟨_, h, if_neg fun hsame => hother hsame.2⟩

theorem Shell.isFresh_iff :
    s.isFresh response = true ↔ ∀ jobId, response.jobId = some jobId → jobId ∉ s.settled ∧
      ∀ message ∈ s.state.messages, message.jobId ≠ some jobId := by
  cases hjob : response.jobId with
  | none => simp [isFresh, hjob]
  | some jobId => simp [isFresh, hjob]

/-! ### One step -/

/-- What a step can do: it leaves the jobs alone, it applies an answer, or it ends a polled job. -/
theorem shellStep_cases (h : shellStep s event = some t) :
    (InTurn s event ∧ t.settled = s.settled ∧ t.state.messages = s.state.messages ∧
        t.state.activeJobId = s.state.activeJobId ∧
        t.state.activeJobPollToken = s.state.activeJobPollToken) ∨
      (∃ response prompt, (InTurn s event ↔ hasText s.state.activeJobId = false) ∧
        s.isFresh response = true ∧ t.settled = s.settled ∧
        t.state = applyChatResponse s.state response prompt) ∨
      (∃ result, event = .pollComplete result ∧ hasText s.state.activeJobId = true ∧
        t.settled = s.settled ++ result.jobId.toList ∧
        t.state = replacePendingJobResponse s.state result) ∨
      ∃ message, InTurn s event ∧ t.settled = s.settled ++ s.state.activeJobId.toList ∧
        t.state = markJobError s.state message := by
  cases event with
  | submit | chatFailure | pollRetry status message =>
    simp only [shellStep] at h
    split_ifs at h
    obtain rfl := Option.some.inj h
    exact .inl ⟨trivial, rfl, rfl, rfl, rfl⟩
  | chatAnswer response prompt =>
    simp only [shellStep] at h
    split_ifs at h with hanswer
    obtain rfl := Option.some.inj h
    exact .inr (.inl ⟨response, some prompt, Iff.rfl, hanswer.2, rfl, rfl⟩)
  | confirmAnswer response =>
    simp only [shellStep] at h
    split_ifs at h with hfresh
    obtain rfl := Option.some.inj h
    exact .inr (.inl ⟨response, none, Iff.rfl, hfresh, rfl, rfl⟩)
  | pollComplete result =>
    simp only [shellStep] at h
    split_ifs at h with hpolling
    obtain rfl := Option.some.inj h
    exact .inr (.inr (.inl ⟨result, rfl, (Bool.and_eq_true_iff.mp hpolling).1, rfl, rfl⟩))
  | pollFail message =>
    simp only [shellStep] at h
    split_ifs at h
    obtain rfl := Option.some.inj h
    exact .inr (.inr (.inr ⟨message, trivial, rfl, rfl⟩))

/-- The tracked job has a message, and has neither been completed nor reported as failed. -/
def TracksPending (s : Shell) : Prop :=
  ∀ jobId, s.state.activeJobId = some jobId → jobId ≠ "" → jobId ∉ s.settled ∧
    ∃ id response, Message.assistant id response ∈ s.state.messages ∧ response.jobId = some jobId

theorem TracksPending.step (hs : TracksPending s) (h : shellStep s event = some t) :
    TracksPending t := by
  intro jobId hactive hne
  rcases shellStep_cases h with ⟨-, hsettled, hmessages, hid, -⟩ |
    ⟨response, prompt, -, hfresh, hsettled, hstate⟩ | ⟨result, -, -, -, hstate⟩ |
    ⟨message, -, -, hstate⟩
  · rw [hsettled, hmessages]
    exact hs jobId (hid.symm.trans hactive) hne
  · rw [hstate] at hactive
    have hjob : response.jobId = some jobId := hactive
    rw [hsettled, hstate]
    exact ⟨(Shell.isFresh_iff.mp hfresh jobId hjob).1, response.responseId, response,
      mem_messages_applyChatResponse.mpr (.inr ⟨rfl, rfl⟩), hjob⟩
  · rw [hstate] at hactive
    cases hactive
  · rw [hstate] at hactive
    cases hactive

/-- What is tracked has an id. -/
theorem exists_of_hasText {text : Option String} (h : hasText text = true) :
    ∃ value, text = some value ∧ value ≠ "" := by
  obtain ⟨value, hvalue, hne⟩ := (Option.any_eq_true _ _).mp h
  exact ⟨value, hvalue, of_decide_eq_true hne⟩

/-- An answer loses nothing exactly if no job is tracked when it comes. -/
theorem nothingLost_answer_iff (prompt : Option String) (hs : TracksPending s)
    (hlost : NothingLost s) (hfresh : s.isFresh response = true)
    (hstate : t.state = applyChatResponse s.state response prompt)
    (hsettled : t.settled = s.settled) :
    NothingLost t ↔ hasText s.state.activeJobId = false := by
  constructor
  · intro hkept
    rw [Bool.eq_false_iff]
    intro htext
    obtain ⟨jobId, hactive, hne⟩ := exists_of_hasText htext
    obtain ⟨hnot, id, pending, hmem, hjob⟩ := hs jobId hactive hne
    have hstill : Message.assistant id pending ∈ t.state.messages := by
      rw [hstate]
      exact mem_messages_applyChatResponse.mpr (.inl hmem)
    have htracked := (hkept id pending jobId hstill hjob hne (hsettled ▸ hnot)).1
    rw [hstate] at htracked
    -- The new answer would be for a job that has been seen.
    exact (Shell.isFresh_iff.mp hfresh jobId htracked).2 _ hmem hjob
  · intro hidle id pending jobId hmem hjob hne hnot
    rw [hsettled] at hnot
    rw [hstate] at hmem ⊢
    rcases mem_messages_applyChatResponse.mp hmem with hmem | ⟨-, rfl⟩
    · rw [(hlost id pending jobId hmem hjob hne hnot).1, hasText_some.mpr hne] at hidle
      cases hidle
    · exact ⟨hjob, rfl⟩

/-- A completed job loses nothing exactly if the result is its own. -/
theorem nothingLost_pollComplete_iff {result : Response} (hs : TracksPending s)
    (hlost : NothingLost s) (hactive : hasText s.state.activeJobId = true)
    (hstate : t.state = replacePendingJobResponse s.state result)
    (hsettled : t.settled = s.settled ++ result.jobId.toList) :
    NothingLost t ↔ result.jobId = s.state.activeJobId := by
  obtain ⟨tracked, htracked, hne⟩ := exists_of_hasText hactive
  constructor
  · intro hkept
    by_contra hother
    rw [htracked] at hother
    obtain ⟨hnot, id, pending, hmem, hjob⟩ := hs tracked htracked hne
    have hstill : Message.assistant id pending ∈ t.state.messages := by
      rw [hstate]
      refine mem_messages_replacePendingJobResponse hmem ?_
      rw [hjob]
      exact Ne.symm hother
    have hopen : tracked ∉ t.settled := by
      rw [hsettled, List.mem_append, Option.mem_toList]
      exact not_or.mpr ⟨hnot, hother⟩
    have hnone := (hkept id pending tracked hstill hjob hne hopen).1
    rw [hstate] at hnone
    cases hnone
  · intro hown id pending jobId hmem hjob hne hnot
    rw [hsettled, List.mem_append, Option.mem_toList] at hnot
    rw [hstate] at hmem
    obtain ⟨hnot, hresult⟩ := not_or.mp hnot
    refine absurd ?_ hresult
    rcases mem_messages_of_replacePendingJobResponse hmem with rfl | hmem
    · exact hjob
    · rw [hown]
      exact (hlost id pending jobId hmem hjob hne hnot).1

/-- A step loses nothing exactly if it is in turn. -/
theorem nothingLost_step_iff (hs : TracksPending s) (hlost : NothingLost s)
    (h : shellStep s event = some t) : NothingLost t ↔ InTurn s event := by
  rcases shellStep_cases h with ⟨hturn, hsettled, hmessages, hid, htoken⟩ |
    ⟨response, prompt, hturn, hfresh, hsettled, hstate⟩ | ⟨result, rfl, hactive, hsettled, hstate⟩ |
    ⟨message, hturn, hsettled, hstate⟩
  · refine iff_of_true (fun id pending jobId hmem hjob hne hnot => ?_) hturn
    rw [hmessages] at hmem
    rw [hsettled] at hnot
    rw [hid, htoken]
    exact hlost id pending jobId hmem hjob hne hnot
  · rw [hturn]
    exact nothingLost_answer_iff prompt hs hlost hfresh hstate hsettled
  · exact nothingLost_pollComplete_iff hs hlost hactive hstate hsettled
  · refine iff_of_true (fun id pending jobId hmem hjob hne hnot => ?_) hturn
    rw [hsettled, List.mem_append, Option.mem_toList] at hnot
    rw [hstate] at hmem
    obtain ⟨hnot, hactive⟩ := not_or.mp hnot
    exact absurd (hlost id pending jobId hmem hjob hne hnot).1 hactive

/-! ### Runs -/

theorem tracksPending_initial : TracksPending .initial := by
  intro jobId hactive
  cases hactive

theorem nothingLost_initial : NothingLost .initial := by
  intro id response jobId hmem
  cases hmem

/-- **When no pending job is lost.** In every run of the application from the initial state, every
message of a job that has neither been completed nor reported as failed is that of the tracked job,
in every state, exactly if no answer comes while a job is tracked and every completed job is
completed with its own result. -/
theorem nothing_lost_iff (events : List ShellEvent) :
    Along shellStep (fun _ _ t => NothingLost t) .initial events ↔
      Along shellStep (fun s event _ => InTurn s event) .initial events :=
  along_state_iff TracksPending NothingLost (fun _ _ _ => TracksPending.step)
    (fun _ _ _ hs hlost h => nothingLost_step_iff hs hlost h) tracksPending_initial
    nothingLost_initial

/-- The confirmation of a booking, which has no job. -/
def confirmedResponse : Response := { responseId := "resp-confirmed" }

/-- **A confirmed action loses a pending job.** The job of a prompt is tracked when the answer to a
confirmed action comes; its message is still pending, and nothing polls it any more. -/
theorem confirmation_loses_job :
    ∃ t, exec shellStep .initial
        [.submit, .chatAnswer (pendingResponse "resp-1" "job-1") "Refresh analytics",
          .confirmAnswer confirmedResponse] = some t ∧
      t.state.activeJobId = none ∧ t.isPolling = false ∧ t.settled = [] ∧
      Message.assistant "resp-1" (pendingResponse "resp-1" "job-1") ∈ t.state.messages ∧
      ¬ NothingLost t := by
  refine ⟨_, rfl, rfl, rfl, rfl, .tail _ (.head _), fun hkept => ?_⟩
  have htracked := hkept "resp-1" (pendingResponse "resp-1" "job-1") "job-1" (.tail _ (.head _)) rfl
    (by decide) (by exact List.not_mem_nil)
  cases htracked.1

/-! ### Confirmations of an idle session -/

/-- A confirmed action is answered while the session is not loading, and a job is completed with a
result of its own. -/
def ConfirmedIdle (s : Shell) : ShellEvent → Prop
  | .confirmAnswer _ => s.state.sessionState ≠ .loading
  | .pollComplete result => result.jobId = s.state.activeJobId
  | _ => True

/-- A session that is tracking a job or waiting for an answer is loading, and does one of both. -/
structure Exclusive (s : Shell) : Prop where
  tracking : hasText s.state.activeJobId = true →
    s.state.sessionState = .loading ∧ s.chatRequests = 0
  waiting : 0 < s.chatRequests → s.state.sessionState = .loading ∧ s.chatRequests = 1

theorem Exclusive.of_answer (prompt : Option String) (hrequests : t.chatRequests = 0)
    (hstate : t.state = applyChatResponse s.state response prompt) : Exclusive t where
  tracking := by
    intro htext
    rw [hstate] at htext ⊢
    exact ⟨if_pos htext, hrequests⟩
  waiting := by
    rw [hrequests]
    exact fun h => absurd h (by decide)

theorem Exclusive.not_tracking (hs : Exclusive s) (h : 0 < s.chatRequests) :
    hasText s.state.activeJobId = false :=
  Bool.eq_false_iff.mpr fun htext => h.ne' (hs.tracking htext).2

theorem Exclusive.step (hs : Exclusive s) (hidle : ConfirmedIdle s event)
    (h : shellStep s event = some t) : Exclusive t := by
  cases event with
  | submit =>
    simp only [shellStep] at h
    split_ifs at h with hloading
    obtain rfl := Option.some.inj h
    have hrequests : s.chatRequests = 0 :=
      Nat.eq_zero_of_not_pos fun hpos => hloading (hs.waiting hpos).1
    exact ⟨fun htext => absurd (hs.tracking htext).1 hloading, fun _ => ⟨rfl, by rw [hrequests]⟩⟩
  | chatAnswer response prompt =>
    simp only [shellStep] at h
    split_ifs at h with hanswer
    obtain rfl := Option.some.inj h
    refine .of_answer (some prompt) ?_ rfl
    rw [(hs.waiting hanswer.1).2]
  | chatFailure =>
    simp only [shellStep] at h
    split_ifs at h with hpos
    obtain rfl := Option.some.inj h
    have hone := (hs.waiting hpos).2
    refine ⟨fun htext => ?_, fun hstill => ?_⟩
    · exact absurd htext (Bool.eq_false_iff.mp (hs.not_tracking hpos))
    · change 0 < s.chatRequests - 1 at hstill
      omega
  | confirmAnswer response =>
    simp only [shellStep] at h
    split_ifs at h
    obtain rfl := Option.some.inj h
    exact .of_answer none
      (Nat.eq_zero_of_not_pos fun hpos => hidle (hs.waiting hpos).1) rfl
  | pollRetry status message =>
    simp only [shellStep] at h
    split_ifs at h
    obtain rfl := Option.some.inj h
    exact ⟨hs.tracking, hs.waiting⟩
  | pollComplete result | pollFail message =>
    simp only [shellStep] at h
    split_ifs at h with hpolling
    obtain rfl := Option.some.inj h
    have hrequests := (hs.tracking (Bool.and_eq_true_iff.mp hpolling).1).2
    exact ⟨fun htext => absurd htext Bool.noConfusion,
      fun hpos => absurd hrequests hpos.ne'⟩

theorem Exclusive.inTurn (hs : Exclusive s) (hidle : ConfirmedIdle s event)
    (h : shellStep s event = some t) : InTurn s event := by
  cases event with
  | chatAnswer response prompt =>
    simp only [shellStep] at h
    split_ifs at h with hanswer
    exact hs.not_tracking hanswer.1
  | confirmAnswer response =>
    exact Bool.eq_false_iff.mpr fun htext => hidle (hs.tracking htext).1
  | pollComplete result => exact hidle
  | submit | chatFailure | pollRetry status message | pollFail message => exact trivial

theorem exclusive_initial : Exclusive .initial where
  tracking := fun htext => absurd htext Bool.noConfusion
  waiting := fun hpos => absurd rfl hpos.ne

/-- Where confirmed actions are answered only while the session is not loading, as prompts are sent,
no answer comes while a job is tracked. -/
theorem inTurn_of_confirmed_idle {events : List ShellEvent}
    (h : Along shellStep (fun s event _ => ConfirmedIdle s event) .initial events) :
    Along shellStep (fun s event _ => InTurn s event) .initial events := by
  refine along_of_invariant Exclusive ?_ ?_ exclusive_initial h
  · exact fun s event t hs hidle ht => hs.step hidle ht
  · exact fun s event t hs hidle ht => hs.inTurn hidle ht

end Meridian.Frontend
