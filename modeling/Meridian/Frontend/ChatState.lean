import Meridian.Foundations.Execution
import Meridian.Foundations.Json

/-!
# The state of the chat shell

The reducers of `frontend/src/chat-state.js` on the part of the state that they read or write, in
any order. A poll is that of the job which is tracked when its answer is applied. Texts that are
`null` or missing are both none, which no operation here tells apart.

## Main definitions

* `Meridian.Frontend.ShellState`: the state of the shell.
* `Meridian.Frontend.applyChatResponse` and the other reducers.
* `Meridian.Frontend.getJobDisplayState`: what is shown of the tracked job.
* `Meridian.Frontend.statusStep`: a reducer with a record of who wrote the status last.

## Main results

* `Meridian.Frontend.shows_own_status_iff`: in every run, what is shown of a job is its own exactly
  if no answer starts a job while the status of another job, or of an error, is still there.
* `Meridian.Frontend.status_left_over`: a job that is shown with the status of the one before it.
-/

namespace Meridian.Frontend

open Foundations

/-! ### Data -/

/-- `sessionState`. -/
inductive SessionState
  | idle
  | loading
  | ready
  | error
  deriving DecidableEq

/-- What the reducers read of a response. -/
structure Response where
  responseId : String
  sessionId : Option String := none
  sessionAccessToken : Option String := none
  conversationScope : Option String := none
  contextBindingState : Option String := none
  screenSyncState : Option String := none
  activeResource : Option Json := none
  jobId : Option String := none
  jobPollToken : Option String := none

/-- A message of the transcript. -/
inductive Message
  | user (id prompt : String)
  | assistant (id : String) (response : Response)

/-- The state of the shell; the state of the panel is left out. -/
structure ShellState where
  sessionState : SessionState
  sessionId : Option String
  sessionAccessToken : Option String
  conversationScope : String
  contextBindingState : String
  screenSyncState : String
  activeResource : Option Json
  activeJobId : Option String
  activeJobPollToken : Option String
  activeJobStatus : Option String
  activeJobProgressMessage : Option String
  messages : List Message

/-- `createInitialChatShellState`. -/
def createInitialChatShellState : ShellState where
  sessionState := .idle
  sessionId := none
  sessionAccessToken := none
  conversationScope := "global"
  contextBindingState := "missing"
  screenSyncState := "not_applicable"
  activeResource := none
  activeJobId := none
  activeJobPollToken := none
  activeJobStatus := none
  activeJobProgressMessage := none
  messages := []

/-- Whether a condition takes the text for true. -/
def hasText (text : Option String) : Bool := text.any (· ≠ "")

/-! ### Reducers -/

/-- `applyChatResponse`. -/
def applyChatResponse (state : ShellState) (response : Response) (prompt : Option String) :
    ShellState :=
  let userMessages :=
    match prompt.filter (· ≠ "") with
    | some prompt => [Message.user ("user-" ++ toString (state.messages.length + 1)) prompt]
    | none => []
  { state with
    sessionState := if hasText response.jobId then .loading else .ready
    sessionId := response.sessionId
    sessionAccessToken := response.sessionAccessToken.or state.sessionAccessToken
    conversationScope := response.conversationScope.getD state.conversationScope
    contextBindingState := response.contextBindingState.getD state.contextBindingState
    screenSyncState := response.screenSyncState.getD state.screenSyncState
    activeResource := response.activeResource
    activeJobId := response.jobId
    activeJobPollToken := response.jobPollToken
    messages := state.messages ++ userMessages ++ [.assistant response.responseId response] }

/-- A message after its job has been completed with the response. -/
def Message.completedBy (response : Response) : Message → Message
  | user id prompt => user id prompt
  | assistant id pending =>
    if hasText pending.jobId ∧ pending.jobId = response.jobId then
      assistant response.responseId response
    else assistant id pending

/-- `replacePendingJobResponse`. -/
def replacePendingJobResponse (state : ShellState) (response : Response) : ShellState :=
  { state with
    sessionState := .ready
    activeJobId := none
    activeJobPollToken := none
    messages := state.messages.map (Message.completedBy response) }

/-- `updateJobPollingState`. -/
def updateJobPollingState (state : ShellState) (status message : Option String) : ShellState :=
  { state with activeJobStatus := status, activeJobProgressMessage := message }

/-- `clearJobState`. -/
def clearJobState (state : ShellState) : ShellState :=
  { state with
    sessionState := .ready
    activeJobId := none
    activeJobPollToken := none
    activeJobStatus := none
    activeJobProgressMessage := none }

/-- `markJobError`. -/
def markJobError (state : ShellState) (message : Option String) : ShellState :=
  { state with
    sessionState := .error
    activeJobId := none
    activeJobPollToken := none
    activeJobStatus := some "error"
    activeJobProgressMessage := message }

/-! ### What is shown of a job -/

/-- `getJobDisplayState`: its result. -/
structure JobDisplay where
  hasJob : Bool
  status : Option String
  message : String
  deriving DecidableEq

/-- `statusMessages`. -/
def statusMessages : List (String × String) :=
  [("queued", "Queued, waiting to start"), ("running", "In progress"), ("succeeded", "Completed"),
   ("failed", "Failed"), ("cancelled", "Cancelled"), ("expired", "Expired"), ("error", "Error"),
   ("unknown", "Unknown status")]

/-- What is shown of a job with the status and the progress message. -/
def shownJob (status progressMessage : Option String) : JobDisplay :=
  let status := status.getD "unknown"
  { hasJob := true
    status := some status
    message := progressMessage.getD ((statusMessages.lookup status).getD "Unknown status") }

/-- `getJobDisplayState`. -/
def getJobDisplayState (state : ShellState) : JobDisplay :=
  if hasText state.activeJobId then shownJob state.activeJobStatus state.activeJobProgressMessage
  else { hasJob := false, status := none, message := "No background task in flight." }

/-! ### Runs -/

/-- The reducers with their arguments; a poll is that of a job. -/
inductive StateEvent
  | chatResponse (response : Response) (prompt : Option String)
  | pendingReplaced (response : Response)
  | polled (jobId : String) (status message : Option String)
  | cleared
  | failed (message : Option String)

/-- Who writes a status. -/
inductive Writer
  | poll (jobId : String)
  | error
  deriving DecidableEq

/-- A status and a progress message, with who wrote them. -/
structure Written where
  writer : Writer
  status : Option String
  message : Option String

/-- The state of the shell, and what was written last since the status was empty. -/
structure StatusRun where
  shell : ShellState
  written : Option Written

/-- The beginning of a run. -/
def StatusRun.initial : StatusRun := ⟨createInitialChatShellState, none⟩

/-- One reducer. A poll is applied only for the job that is tracked. -/
def statusStep (s : StatusRun) : StateEvent → Option StatusRun
  | .chatResponse response prompt =>
    some { s with shell := applyChatResponse s.shell response prompt }
  | .pendingReplaced response => some { s with shell := replacePendingJobResponse s.shell response }
  | .polled jobId status message =>
    if s.shell.activeJobId = some jobId then
      some ⟨updateJobPollingState s.shell status message, some ⟨.poll jobId, status, message⟩⟩
    else none
  | .cleared => some ⟨clearJobState s.shell, none⟩
  | .failed message => some ⟨markJobError s.shell message, some ⟨.error, some "error", message⟩⟩

/-- What is shown of a job is the default, or was written by a poll of this job. -/
def OwnStatus (s : StatusRun) : Prop :=
  (getJobDisplayState s.shell).hasJob = true → ∀ jobId, s.shell.activeJobId = some jobId →
    getJobDisplayState s.shell = shownJob none none ∨
      ∃ status message, s.written = some ⟨.poll jobId, status, message⟩ ∧
        getJobDisplayState s.shell = shownJob status message

/-- An answer with a job comes when the status shows the default, or was written by a poll of the
same job. -/
def StartsClean (s : StatusRun) : StateEvent → Prop
  | .chatResponse response _ => ∀ jobId, response.jobId = some jobId → jobId ≠ "" →
    shownJob s.shell.activeJobStatus s.shell.activeJobProgressMessage = shownJob none none ∨
      ∃ status message, s.written = some ⟨.poll jobId, status, message⟩
  | _ => True

variable {s t : StatusRun} {event : StateEvent}

/-- The record is that of the state. -/
def Recorded (s : StatusRun) : Prop :=
  match s.written with
  | none => s.shell.activeJobStatus = none ∧ s.shell.activeJobProgressMessage = none
  | some written =>
    s.shell.activeJobStatus = written.status ∧ s.shell.activeJobProgressMessage = written.message

theorem Recorded.step (hs : Recorded s) (h : statusStep s event = some t) : Recorded t := by
  cases event with
  | chatResponse response prompt =>
    obtain rfl := Option.some.inj h
    exact hs
  | pendingReplaced response =>
    obtain rfl := Option.some.inj h
    exact hs
  | polled jobId status message =>
    simp only [statusStep] at h
    split_ifs at h
    obtain rfl := Option.some.inj h
    exact ⟨rfl, rfl⟩
  | cleared =>
    obtain rfl := Option.some.inj h
    exact ⟨rfl, rfl⟩
  | failed message =>
    obtain rfl := Option.some.inj h
    exact ⟨rfl, rfl⟩

theorem hasText_some {text : String} : hasText (some text) = true ↔ text ≠ "" := by
  simp [hasText]

/-- The status is its own in terms of the fields. -/
theorem ownStatus_iff (hs : Recorded s) :
    OwnStatus s ↔ ∀ jobId, s.shell.activeJobId = some jobId → jobId ≠ "" →
      shownJob s.shell.activeJobStatus s.shell.activeJobProgressMessage = shownJob none none ∨
        ∃ status message, s.written = some ⟨.poll jobId, status, message⟩ := by
  have hshown {jobId : String} (hid : s.shell.activeJobId = some jobId) (hjob : jobId ≠ "") :
      getJobDisplayState s.shell =
        shownJob s.shell.activeJobStatus s.shell.activeJobProgressMessage := by
    rw [getJobDisplayState, hid, if_pos (hasText_some.mpr hjob)]
  constructor
  · intro hown jobId hid hjob
    rw [← hshown hid hjob]
    have hhas : (getJobDisplayState s.shell).hasJob = true := by
      rw [hshown hid hjob]
      rfl
    exact (hown hhas jobId hid).imp_right fun ⟨status, message, hwritten, _⟩ =>
      ⟨status, message, hwritten⟩
  · intro hfields hhas jobId hid
    have hjob : jobId ≠ "" := by
      rintro rfl
      rw [getJobDisplayState, hid, if_neg (by simp [hasText])] at hhas
      cases hhas
    rw [hshown hid hjob]
    refine (hfields jobId hid hjob).imp_right ?_
    rintro ⟨status, message, hwritten⟩
    rw [Recorded, hwritten] at hs
    exact ⟨status, message, hwritten, by rw [hs.1, hs.2]⟩

/-- A reducer leaves what is shown its own exactly if an answer with a job finds it clean. -/
theorem ownStatus_step_iff (hs : Recorded s) (h : statusStep s event = some t) :
    OwnStatus t ↔ StartsClean s event := by
  rw [ownStatus_iff (hs.step h)]
  cases event with
  | chatResponse response prompt =>
    obtain rfl := Option.some.inj h
    exact Iff.rfl
  | polled jobId status message =>
    simp only [statusStep] at h
    split_ifs at h with hid
    obtain rfl := Option.some.inj h
    refine iff_of_true (fun jobId' hid' _ => .inr ⟨status, message, ?_⟩) trivial
    obtain rfl := Option.some.inj (hid.symm.trans hid')
    rfl
  | pendingReplaced response | cleared | failed message =>
    obtain rfl := Option.some.inj h
    exact iff_of_true (fun _ hid => nomatch hid) trivial

/-- **When the status shown is the job's own.** In every run of the reducers from the initial state,
with polls of the tracked job only, what is shown of a job is in every state the default or what a
poll of this job wrote, exactly if every answer with a job comes when no status of another job, or
of an error, is left over. -/
theorem shows_own_status_iff (events : List StateEvent) :
    Along statusStep (fun _ _ t => OwnStatus t) .initial events ↔
      Along statusStep (fun s event _ => StartsClean s event) .initial events :=
  along_state_iff Recorded OwnStatus (fun _ _ _ => Recorded.step)
    (fun _ _ _ hs _ h => ownStatus_step_iff hs h) ⟨rfl, rfl⟩ nofun

/-- The pending answer for a job. -/
def pendingResponse (responseId jobId : String) : Response :=
  { responseId := responseId, jobId := some jobId, jobPollToken := some ("token-" ++ jobId) }

/-- **A status is left over.** The first job is polled and completed; the second one is shown as
running with the progress of the first before any poll of it. An error is left over in the same
way. -/
theorem status_left_over :
    (∃ t, exec statusStep .initial
        [.chatResponse (pendingResponse "resp-1" "job-1") (some "Refresh"),
          .polled "job-1" (some "running") (some "Refreshing Memphis analytics..."),
          .pendingReplaced { responseId := "resp-1-done", jobId := some "job-1" },
          .chatResponse (pendingResponse "resp-2" "job-2") (some "Refresh again")] = some t ∧
      t.shell.activeJobId = some "job-2" ∧
      getJobDisplayState t.shell =
        ⟨true, some "running", "Refreshing Memphis analytics..."⟩ ∧ ¬ OwnStatus t) ∧
    ∃ t, exec statusStep .initial
        [.chatResponse (pendingResponse "resp-1" "job-1") (some "Refresh"),
          .failed (some "Job expired before completion."),
          .chatResponse (pendingResponse "resp-2" "job-2") (some "Refresh again")] = some t ∧
      getJobDisplayState t.shell = ⟨true, some "error", "Job expired before completion."⟩ ∧
        ¬ OwnStatus t := by
  refine ⟨⟨_, rfl, rfl, rfl, fun hown => ?_⟩, _, rfl, rfl, fun hown => ?_⟩
  · rcases hown rfl "job-2" rfl with hdefault | ⟨status, message, hwritten, -⟩
    · exact absurd hdefault (by decide)
    · have hwriter : Writer.poll "job-1" = .poll "job-2" :=
        congrArg Written.writer (Option.some.inj hwritten)
      exact absurd hwriter (by decide)
  · rcases hown rfl "job-2" rfl with hdefault | ⟨status, message, hwritten, -⟩
    · exact absurd hdefault (by decide)
    · cases hwritten

end Meridian.Frontend
