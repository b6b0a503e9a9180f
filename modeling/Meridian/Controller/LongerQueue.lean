import Meridian.Controller.Choice

/-!
# Decisions on a longer queue

Items are put into a queue at any places, with the same next stage and nothing that stops the
controller. The scans of `next_terminal_or_runnable_state` take an item of the first class that has
one, and the next stage comes between two classes.

## Main definitions

* `Meridian.Controller.canPromoteNextWave`: whether an eligible `auto` wave is in the queue.
* `Meridian.Controller.WaveClass`: where the next wave is taken from.
* `Meridian.Controller.Earliest`: the earliest item of a class.

## Main results

* `Meridian.Controller.more_work`: a longer queue does not stop the controller, and the wave that is
  named is that of the earliest item of the winning class, or the next stage.
* `Meridian.Controller.stage_before_item`: the next stage is named before an item of the queue.
-/

namespace Meridian.Controller

/-- `can_promote_next_wave`. -/
def canPromoteNextWave (items : List QueueItem) (blockerPacketPresent : Bool) : Bool :=
  if blockerPacketPresent then false
  else items.any fun item => item.runPolicy = "auto" && item.eligible

/-- Where the next wave is taken from, in the order in which these are tried. -/
inductive WaveClass
  | eligibleAuto
  | selfApprovable
  | nextStage
  | explicitRequest

/-- The items of a class. The next stage is no item of the queue. -/
def WaveClass.has : WaveClass → QueueItem → Bool
  | eligibleAuto, item => item.isEligibleAuto
  | selfApprovable, item => item.isSelfApprovable
  | nextStage, _ => false
  | explicitRequest, item => item.isExplicit

/-- The first class from which a wave can be taken. -/
def winningClass (items : List QueueItem) (candidate : Option StageCandidate) : Option WaveClass :=
  if items.any QueueItem.isEligibleAuto then some .eligibleAuto
  else if items.any QueueItem.isSelfApprovable then some .selfApprovable
  else if candidate.any StageCandidate.canAutoInstantiate then some .nextStage
  else if items.any QueueItem.isExplicit then some .explicitRequest
  else none

/-- The item is the earliest of its class in the queue. -/
def Earliest (cls : WaveClass) (items : List QueueItem) (item : QueueItem) : Prop :=
  cls.has item = true ∧ ∃ before after, items = before ++ item :: after ∧
    ∀ earlier ∈ before, cls.has earlier = false

/-- The decision names the earliest item of the winning class, the next stage where that wins, and
no wave where nothing does. -/
def NamesWinner (items : List QueueItem) (candidate : Option StageCandidate)
    (decision : QueueDecision) : Prop :=
  match winningClass items candidate with
  | none => decision.nextWaveName = none
  | some .nextStage =>
    ∃ stage, candidate = some stage ∧ stage.canAutoInstantiate = true ∧
      decision.nextWaveName = some stage.waveName
  | some cls => ∃ item, Earliest cls items item ∧ decision.nextWaveName = some item.waveName

/-- The decision names an eligible `auto` item, the earliest of the winning class. -/
def NamesEligible (items : List QueueItem) (candidate : Option StageCandidate)
    (decision : QueueDecision) : Prop :=
  ∃ cls item, winningClass items candidate = some cls ∧ Earliest cls items item ∧
    decision.nextWaveName = some item.waveName ∧ item.isEligibleAuto = true

variable {items items' : List QueueItem} {candidate : Option StageCandidate} {item : QueueItem}
  {cls : WaveClass}

/-! ### The earliest item -/

theorem any_of_find?_eq_some {p : QueueItem → Bool} (h : items.find? p = some item) :
    items.any p = true :=
  List.any_eq_true.mpr ⟨item, List.mem_of_find?_eq_some h, List.find?_some h⟩

theorem any_of_find?_eq_none {p : QueueItem → Bool} (h : items.find? p = none) :
    items.any p = false := by
  rw [List.any_eq_false]
  exact List.find?_eq_none.mp h

theorem any_of_filter_eq_none
    (h : candidate.filter StageCandidate.canAutoInstantiate = none) :
    candidate.any StageCandidate.canAutoInstantiate = false := by
  cases candidate with
  | none => rfl
  | some stage => simpa only [Option.any_some, Bool.not_eq_true] using
      Option.filter_eq_none_iff.mp h stage rfl

/-- A scan for a class stops at the earliest item. -/
theorem earliest_of_find? (h : items.find? cls.has = some item) : Earliest cls items item := by
  obtain ⟨hitem, before, after, hsplit, hbefore⟩ := List.find?_eq_some_iff_append.mp h
  refine ⟨hitem, before, after, hsplit, fun earlier hmem => ?_⟩
  simpa only [Bool.not_eq_eq_eq_not, Bool.not_true] using hbefore earlier hmem

/-! ### What is named -/

theorem namesWinner_choose :
    NamesWinner items candidate (choose items false candidate false).decision := by
  unfold NamesWinner winningClass
  have hchoice : Chooses items false candidate false (choose items false candidate false) :=
    chooses_choose
  generalize choose items false candidate false = choice at hchoice ⊢
  cases hchoice with
  | abort habort => cases habort
  | block _ hblocker => cases hblocker
  | activate item _ _ hitem =>
    rw [if_pos (any_of_find?_eq_some hitem)]
    exact ⟨item, earliest_of_find? hitem, rfl⟩
  | selfApprove item _ _ heligible hitem =>
    rw [any_of_find?_eq_none heligible, any_of_find?_eq_some hitem]
    exact ⟨item, earliest_of_find? hitem, rfl⟩
  | instantiate stage hpasses hstage =>
    obtain ⟨rfl, hsafe⟩ := Option.filter_eq_some_iff.mp hstage
    rw [any_of_find?_eq_none hpasses.eligible, any_of_find?_eq_none hpasses.selfApprovable,
      Option.any_some, hsafe]
    exact ⟨stage, rfl, hsafe, rfl⟩
  | wait item hpasses hstage hitem =>
    have hnone := any_of_filter_eq_none hstage
    rw [any_of_find?_eq_none hpasses.eligible, any_of_find?_eq_none hpasses.selfApprovable, hnone,
      any_of_find?_eq_some hitem]
    exact ⟨item, earliest_of_find? hitem, rfl⟩
  | done hpasses hstage hitem =>
    have hnone := any_of_filter_eq_none hstage
    rw [any_of_find?_eq_none hpasses.eligible, any_of_find?_eq_none hpasses.selfApprovable, hnone,
      any_of_find?_eq_none hitem]
    rfl

theorem namesEligible_iff :
    NamesEligible items candidate (choose items false candidate false).decision ↔
      canPromoteNextWave items false = true := by
  constructor
  · rintro ⟨cls, item, -, ⟨-, before, after, rfl, -⟩, -, helig⟩
    exact List.any_eq_true.mpr ⟨item, by simp, helig⟩
  · intro hpromote
    have hany : items.any QueueItem.isEligibleAuto = true := hpromote
    have hwins : winningClass items candidate = some .eligibleAuto := if_pos hany
    have hnames : NamesWinner items candidate (choose items false candidate false).decision :=
      namesWinner_choose
    rw [NamesWinner, hwins] at hnames
    obtain ⟨item, hearliest, hnamed⟩ := hnames
    exact ⟨.eligibleAuto, item, hwins, hearliest, hnamed, hearliest.1⟩

/-! ### More work -/

/-- A wave can be started without the user. -/
def Runnable (items : List QueueItem) (candidate : Option StageCandidate) : Prop :=
  items.any QueueItem.isEligibleAuto = true ∨ items.any QueueItem.isSelfApprovable = true ∨
    candidate.any StageCandidate.canAutoInstantiate = true

theorem any_of_sublist {p : QueueItem → Bool} (hmore : items.Sublist items')
    (h : items.any p = true) : items'.any p = true := by
  obtain ⟨item, hmem, hitem⟩ := List.any_eq_true.mp h
  exact List.any_eq_true.mpr ⟨item, hmore.subset hmem, hitem⟩

theorem Runnable.of_sublist (hmore : items.Sublist items') (h : Runnable items candidate) :
    Runnable items' candidate :=
  h.imp (any_of_sublist hmore) (Or.imp_left (any_of_sublist hmore))

theorem continues_iff_runnable :
    (choose items false candidate false).decision.action = .continue ↔
      Runnable items candidate := by
  have hchoice : Chooses items false candidate false (choose items false candidate false) :=
    chooses_choose
  generalize choose items false candidate false = choice at hchoice ⊢
  cases hchoice with
  | abort habort => cases habort
  | block _ hblocker => cases hblocker
  | activate item _ _ hitem => simp [Choice.decision, Runnable, any_of_find?_eq_some hitem]
  | selfApprove item _ _ _ hitem => simp [Choice.decision, Runnable, any_of_find?_eq_some hitem]
  | instantiate stage _ hstage =>
    obtain ⟨rfl, hsafe⟩ := Option.filter_eq_some_iff.mp hstage
    simp [Choice.decision, Runnable, hsafe]
  | wait item hpasses hstage =>
    simp [Choice.decision, Runnable, any_of_find?_eq_none hpasses.eligible,
      any_of_find?_eq_none hpasses.selfApprovable, any_of_filter_eq_none hstage]
  | done hpasses hstage =>
    simp [Choice.decision, Runnable, any_of_find?_eq_none hpasses.eligible,
      any_of_find?_eq_none hpasses.selfApprovable, any_of_filter_eq_none hstage]

theorem explicit_of_waits
    (h : (choose items false candidate false).decision.action = .waitingUserApproval) :
    items.any QueueItem.isExplicit = true := by
  have hchoice : Chooses items false candidate false (choose items false candidate false) :=
    chooses_choose
  generalize choose items false candidate false = choice at hchoice h
  cases hchoice with
  | wait item _ _ hitem => exact any_of_find?_eq_some hitem
  | _ => cases h

theorem no_explicit_of_done (h : (choose items false candidate false).decision.action = .done) :
    items.any QueueItem.isExplicit = false := by
  have hchoice : Chooses items false candidate false (choose items false candidate false) :=
    chooses_choose
  generalize choose items false candidate false = choice at hchoice h
  cases hchoice with
  | done _ _ hitem => exact any_of_find?_eq_none hitem
  | _ => cases h

/-- **More work does not stop the controller.** With items put in anywhere, a decision to continue
stays one and a decision to wait for the user does not become one that nothing remains. Every
decision names the wave of the earliest item of the winning class, or the next stage where no item
runs without the user; and it names an eligible `auto` item exactly if the queue can promote one. -/
theorem more_work (candidate : Option StageCandidate) (hmore : items.Sublist items') :
    ((nextTerminalOrRunnableState items false candidate false).action = .continue →
      (nextTerminalOrRunnableState items' false candidate false).action = .continue) ∧
    ((nextTerminalOrRunnableState items false candidate false).action = .waitingUserApproval →
      (nextTerminalOrRunnableState items' false candidate false).action ≠ .done) ∧
    NamesWinner items candidate (nextTerminalOrRunnableState items false candidate false) ∧
    (NamesEligible items candidate (nextTerminalOrRunnableState items false candidate false) ↔
      canPromoteNextWave items false = true) := by
  simp only [nextTerminalOrRunnableState_eq]
  refine ⟨?_, ?_, namesWinner_choose, namesEligible_iff⟩
  · rw [continues_iff_runnable, continues_iff_runnable]
    exact Runnable.of_sublist hmore
  · intro hwaits hdone
    have hexplicit := any_of_sublist hmore (explicit_of_waits hwaits)
    rw [no_explicit_of_done hdone] at hexplicit
    cases hexplicit

/-- A wave that the user has to approve. -/
def flagOnValidation : QueueItem :=
  { waveName := "Controlled Flag-On Validation"
    status := "queued"
    runPolicy := "explicit_request"
    eligible := false }

/-- A queue that waits for the user still waits after an ineligible wave is put before its item. -/
theorem more_work_waiting :
    (nextTerminalOrRunnableState [flagOnValidation] false none false).action =
        .waitingUserApproval ∧
      (nextTerminalOrRunnableState
        [{ flagOnValidation with runPolicy := "auto" }, flagOnValidation] false none false).action ≠
          .done :=
  have hmore : List.Sublist [flagOnValidation]
      [{ flagOnValidation with runPolicy := "auto" }, flagOnValidation] :=
    .cons _ (List.Sublist.refl _)
  ⟨rfl, (more_work none hmore).2.1 rfl⟩

/-- **The next stage is named before an item of the queue**, and it is started as an eligible `auto`
wave although the queue has none to promote. -/
theorem stage_before_item :
    let stage : StageCandidate :=
      { waveName := "Controller Docs Sync"
        withinApprovedScope := true
        nonDestructive := true
        requiresExplicitApproval := false
        repoGrounded := true }
    let decision := nextTerminalOrRunnableState [flagOnValidation] false (some stage) false
    decision.action = .continue ∧ decision.nextWaveName = some "Controller Docs Sync" ∧
      (¬ ∃ item ∈ [flagOnValidation], decision.nextWaveName = some item.waveName) ∧
      (decision.instantiatedWave.any fun wave => wave.runPolicy = "auto" && wave.eligible) = true ∧
      canPromoteNextWave [flagOnValidation] false = false := by
  refine ⟨rfl, rfl, ?_, rfl, rfl⟩
  rintro ⟨item, hmem, hnamed⟩
  obtain rfl := List.mem_singleton.mp hmem
  exact absurd hnamed (by decide)

end Meridian.Controller
