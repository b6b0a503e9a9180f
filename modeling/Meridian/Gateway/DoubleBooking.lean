import Meridian.Gateway.BookingRuns
import Meridian.Gateway.IdempotentBooking

/-!
# Bookings of one quote

A call checks in one statement that its quote is eligible and books it in a later one, and what
keeps calls apart is the claim of the confirmation token, not of the quote. Two calls with different
tokens of one quote can therefore both pass the check and both book. This is the only way: if no
call passes the check while a call with another token stands between its own check and its update,
no quote is booked twice.

## Main definitions

* `Meridian.Gateway.Pc.Passed`: a call has passed the check and not yet updated its quote.
* `Meridian.Gateway.Pc.Booked`: a call has updated its quote and is on its way to `submitted`.
* `Meridian.Gateway.PassesAlone`: the condition on the steps that pass the check.

## Main results

* `Meridian.Gateway.booked_once_iff`: the condition is sufficient in every run without exceptions
  and necessary in every complete one.
* `Meridian.Gateway.quote_booked_twice`: a run in which it fails.
-/

namespace Meridian.Gateway

open Foundations Db

/-- The call has passed the check and is about to update the quote. -/
def Pc.Passed (quoteId : String) : Pc → Prop
  | updateQuote confirmation => confirmation.quoteId = quoteId
  | _ => False

/-- A result that reports a booking of the quote. -/
def BookingResult.Submits (quoteId : String) (r : BookingResult) : Prop :=
  r.status = .submitted ∧ r.quoteId = some quoteId

/-- The call has updated the quote and reports, or is about to report, the booking. -/
def Pc.Booked (quoteId : String) : Pc → Prop
  | updateConfirmation confirmation | commit confirmation => confirmation.quoteId = quoteId
  | completeRecord r | release (.executed r) | done (.executed r) => r.Submits quoteId
  | _ => False

variable {ι : Type*}

/-- The call `i` has recorded a `submitted` result of its own for the quote. -/
def World.FreshSubmitted (w : World ι) (i : ι) (quoteId : String) : Prop :=
  ∃ r, w.Executed i r ∧ r.Submits quoteId

/-- No quote has two fresh `submitted` results. -/
def World.BookedOnce (w : World ι) : Prop :=
  ∀ i j quoteId, w.FreshSubmitted i quoteId → w.FreshSubmitted j quoteId → i = j

/-- If the step of the label passes the check for a quote, no call with another token stands between
its check and its update of that quote. -/
def PassesAlone (calls : ι → Call) (w : World ι) : ι × Event → Prop
  | (i, .run now auditNow) => ∀ confirmation, w.pc i = .selectQuote confirmation →
      staleResultIfNeeded (calls i) confirmation
        (w.connection.rows.quotes.lookup confirmation.quoteId) now auditNow = .ok none →
      ∀ j, (calls j).confirmationToken ≠ (calls i).confirmationToken →
        ¬ (w.pc j).Passed confirmation.quoteId
  | (_, .raise) => True

variable {w w' w₀ : World ι} {i j k : ι} {quoteId : String}

theorem Pc.Passed.holds {p : Pc} (h : p.Passed quoteId) : p.phase.Holds := by
  cases p <;> first | exact h.elim | trivial

theorem Pc.Passed.not_booked {p : Pc} (h : p.Passed quoteId) : ¬ p.Booked quoteId := by
  cases p <;> first | exact h.elim | exact id

theorem Pc.booked_of_freshSubmitted (h : w.FreshSubmitted i quoteId) :
    (w.pc i).Booked quoteId := by
  obtain ⟨r, hr, hsub⟩ := h
  unfold World.Executed at hr
  cases hp : w.pc i <;> simp_all [Pc.outcome?, Pc.Booked]

theorem freshSubmitted_of_booked (h : (w.pc i).Booked quoteId) (hi : w.Ended i) :
    w.FreshSubmitted i quoteId := by
  obtain ⟨o, ho⟩ := hi
  rw [ho] at h
  cases o with
  | executed r => exact ⟨r, by simp [World.Executed, ho, Pc.outcome?], h⟩
  | replayed | conflicted | raised => exact h.elim

variable [DecidableEq ι] {calls : ι → Call} {e : Event} {labels : List (ι × Event)}

/-! ### Moves -/

/-- A call passes the check only by its own step, on an eligible quote. -/
theorem Move.passed (h : Move calls w i e w') (hi : (w'.pc i).Passed quoteId) :
    ∃ now auditNow confirmation, e = .run now auditNow ∧ w.pc i = .selectQuote confirmation ∧
      confirmation.quoteId = quoteId ∧
      Eligible (calls i) confirmation (w.connection.rows.quotes.lookup quoteId) now := by
  cases h with
  | @pass now auditNow confirmation hp he =>
    obtain rfl : confirmation.quoteId = quoteId := by simpa [Pc.Passed] using hi
    exact ⟨now, auditNow, confirmation, rfl, hp, rfl, he⟩
  | waitRecord _ hp | waitTarget _ hp => simp [World.wait, hp, Pc.Passed] at hi
  | abandon targetClaimed | abandonNothing targetClaimed | rollbackRaises targetClaimed =>
    cases targetClaimed <;> simp [World.notifyAll, Pc.afterAbandon, Pc.Passed] at hi
  | _ => simp [World.notifyAll, Pc.Passed] at hi

/-- A call comes to have booked a quote by updating it. -/
theorem Move.booked (h : Move calls w i e w') (hi : (w'.pc i).Booked quoteId) :
    (w.pc i).Booked quoteId ∨ (w.pc i).Passed quoteId ∧
      w'.connection.rows.quotes = (w.connection.rows.bookQuote quoteId).quotes := by
  cases h with
  | waitRecord | waitTarget => exact .inl hi
  | updateQuote confirmation hp =>
    obtain rfl : confirmation.quoteId = quoteId := by simpa [Pc.Booked] using hi
    exact .inr ⟨by rw [hp]; rfl, rfl⟩
  | updateConfirmation confirmation hp =>
    left
    simpa [hp, Pc.Booked] using hi
  | commit confirmation hp =>
    left
    simpa [hp, Pc.Booked, BookingResult.Submits, submittedResult] using hi
  | complete r _ hp =>
    left
    simpa [hp, World.notifyAll, Pc.Booked] using hi
  | release o hp | releaseNothing o hp =>
    left
    cases o <;> simp_all [World.notifyAll, Pc.Booked]
  | abandon targetClaimed | abandonNothing targetClaimed | rollbackRaises targetClaimed =>
    cases targetClaimed <;> simp [World.notifyAll, Pc.afterAbandon, Pc.Booked] at hi
  | missing | stale =>
    simp [Pc.Booked, BookingResult.Submits, missingResult, staleResult, deniedResult] at hi
  | _ => simp [Pc.Booked] at hi

/-- A move that raises nothing leaves each quote alone or sets it to `booked`. -/
theorem Move.quotes (h : Move calls w i e w') (hno : ¬ w'.Raised i) :
    w'.connection.rows.quotes = w.connection.rows.quotes ∨
      ∃ q, w'.connection.rows.quotes = (w.connection.rows.bookQuote q).quotes := by
  cases h with
  | updateQuote confirmation => exact .inr ⟨confirmation.quoteId, rfl⟩
  | rollback => exact absurd (by simp [World.Raised, Pc.phase, Lease.Phase.Failed]) hno
  | _ => exact .inl rfl

/-- A row after a booking update is the row before it or that of the booked quote. -/
theorem quoteStatus_of_lookup_bookQuote {db : Database} {q : String} {row : QuoteRow}
    (h : (db.bookQuote q).quotes.lookup quoteId = some row) :
    (quoteId ≠ q ∧ db.quotes.lookup quoteId = some row) ∨
      (quoteId = q ∧ row.quoteStatus = "booked") := by
  rw [Database.lookup_quotes_bookQuote] at h
  split_ifs at h with hq
  · obtain ⟨old, -, rfl⟩ := Option.map_eq_some_iff.mp h
    exact .inr ⟨hq, rfl⟩
  · exact .inl ⟨hq, h⟩

/-! ### The invariant -/

/-- A booked quote has the status `booked`, one call at a time stands between check and update of a
quote and none does after a booking, and no quote is booked twice. -/
structure QuoteInv (calls : ι → Call) (w : World ι) : Prop where
  claimed : Claimed calls w
  booked : ∀ i q row, (w.pc i).Booked q → w.connection.rows.quotes.lookup q = some row →
    row.quoteStatus = "booked"
  alone : ∀ i j q, (w.pc i).Passed q → (w.pc j).Passed q → i = j
  fresh : ∀ i j q, (w.pc i).Passed q → ¬ (w.pc j).Booked q
  once : ∀ i j q, (w.pc i).Booked q → (w.pc j).Booked q → i = j

namespace QuoteInv

/-- A call that passes the check finds no call that has booked the quote or is about to. -/
theorem passed_step (h : QuoteInv calls w) (hm : Move calls w i e w')
    (hC : PassesAlone calls w (i, e)) (hi : (w'.pc i).Passed quoteId) (hj : j ≠ i) :
    ¬ (w.pc j).Passed quoteId ∧ ¬ (w.pc j).Booked quoteId := by
  obtain ⟨now, auditNow, confirmation, rfl, hp, rfl, he⟩ := hm.passed hi
  refine ⟨fun hjp => ?_, fun hjb => ?_⟩
  · by_cases htoken : (calls j).confirmationToken = (calls i).confirmationToken
    · exact hj (holder_unique_of_not_raised h.claimed hjp.holds (by rw [hp]; trivial) htoken)
    · exact hC confirmation hp (staleResultIfNeeded_eq_none_iff.mpr he) j htoken hjp
  · obtain ⟨row, hrow, hq⟩ := he.quote
    have hbooked := h.booked j _ row hjb hrow
    rw [hq.quoteStatus] at hbooked
    exact absurd hbooked (by decide)

/-- A quote that a call has booked has the status `booked`, and nothing changes it again. -/
theorem booked_step (h : QuoteInv calls w) (hm : Move calls w i e w') (hno : ¬ w'.Raised i)
    {row : QuoteRow} (hj : (w'.pc j).Booked quoteId)
    (hrow : w'.connection.rows.quotes.lookup quoteId = some row) : row.quoteStatus = "booked" := by
  have hold : (w.pc j).Booked quoteId ∨
      w'.connection.rows.quotes = (w.connection.rows.bookQuote quoteId).quotes := by
    by_cases hji : j = i
    · subst hji
      exact (hm.booked hj).imp_right And.right
    · exact .inl (by rwa [hm.pc_of_ne hji] at hj)
  rcases hold with hold | hq
  · rcases hm.quotes hno with hq | ⟨q, hq⟩
    · exact h.booked j quoteId row hold (by rwa [hq] at hrow)
    · rcases quoteStatus_of_lookup_bookQuote (by rwa [hq] at hrow) with hsame | ⟨-, hdone⟩
      · exact h.booked j quoteId row hold hsame.2
      · exact hdone
  · rcases quoteStatus_of_lookup_bookQuote (by rwa [hq] at hrow) with hsame | ⟨-, hdone⟩
    · exact absurd rfl hsame.1
    · exact hdone

theorem alone_step (h : QuoteInv calls w) (hm : Move calls w i e w')
    (hC : PassesAlone calls w (i, e)) (hj : (w'.pc j).Passed quoteId)
    (hk : (w'.pc k).Passed quoteId) : j = k := by
  by_cases hji : j = i <;> by_cases hki : k = i
  · rw [hji, hki]
  · subst hji
    rw [hm.pc_of_ne hki] at hk
    exact absurd hk (h.passed_step hm hC hj hki).1
  · subst hki
    rw [hm.pc_of_ne hji] at hj
    exact absurd hj (h.passed_step hm hC hk hji).1
  · rw [hm.pc_of_ne hji] at hj
    rw [hm.pc_of_ne hki] at hk
    exact h.alone j k quoteId hj hk

theorem fresh_step (h : QuoteInv calls w) (hm : Move calls w i e w')
    (hC : PassesAlone calls w (i, e)) (hj : (w'.pc j).Passed quoteId) :
    ¬ (w'.pc k).Booked quoteId := by
  intro hk
  by_cases hji : j = i <;> by_cases hki : k = i
  · subst hji
    subst hki
    exact hj.not_booked hk
  · subst hji
    rw [hm.pc_of_ne hki] at hk
    exact (h.passed_step hm hC hj hki).2 hk
  · subst hki
    rw [hm.pc_of_ne hji] at hj
    rcases hm.booked hk with hk | ⟨hk, -⟩
    · exact h.fresh j k quoteId hj hk
    · exact hji (h.alone j k quoteId hj hk)
  · rw [hm.pc_of_ne hji] at hj
    rw [hm.pc_of_ne hki] at hk
    exact h.fresh j k quoteId hj hk

theorem once_step (h : QuoteInv calls w) (hm : Move calls w i e w')
    (hj : (w'.pc j).Booked quoteId) (hk : (w'.pc k).Booked quoteId) : j = k := by
  have mixed : ∀ l, l ≠ i → (w'.pc l).Booked quoteId → (w'.pc i).Booked quoteId → l = i := by
    intro l hl hlb hib
    rw [hm.pc_of_ne hl] at hlb
    rcases hm.booked hib with hib | ⟨hip, -⟩
    · exact h.once l i quoteId hlb hib
    · exact absurd hlb (h.fresh i l quoteId hip)
  by_cases hji : j = i <;> by_cases hki : k = i
  · rw [hji, hki]
  · subst hji
    exact (mixed k hki hk hj).symm
  · subst hki
    exact mixed j hji hj hk
  · rw [hm.pc_of_ne hji] at hj
    rw [hm.pc_of_ne hki] at hk
    exact h.once j k quoteId hj hk

theorem step (h : QuoteInv calls w) (hs : step calls w (i, e) = some w')
    (hno : ∀ j, ¬ w'.Raised j) (hC : PassesAlone calls w (i, e)) : QuoteInv calls w' := by
  obtain ⟨-, hm⟩ := step_eq_some_iff.mp hs
  exact
    { claimed := h.claimed.step hs hno
      booked := fun _ _ _ => h.booked_step hm (hno i)
      alone := fun _ _ _ => h.alone_step hm hC
      fresh := fun _ _ _ => h.fresh_step hm hC
      once := fun _ _ _ => h.once_step hm }

omit [DecidableEq ι] in
theorem of_initial (h : Initial w) : QuoteInv calls w := by
  refine ⟨h.claimed, fun i q row hi => ?_, fun i j q hi => ?_, fun i j q hi => ?_,
    fun i j q hi => ?_⟩ <;> simp [h.pc i, Pc.Booked, Pc.Passed] at hi

end QuoteInv

/-! ### Complete runs -/

/-- A call that has passed the check goes on to report the booking, unless it raises. -/
theorem Move.submitting (h : Move calls w i e w') (hno : ¬ w'.Raised i)
    (hi : (w.pc i).Passed quoteId ∨ (w.pc i).Booked quoteId) : (w'.pc i).Booked quoteId := by
  cases h with
  | updateQuote confirmation hp =>
    rw [hp] at hi
    simpa [Pc.Booked, Pc.Passed] using hi
  | updateConfirmation confirmation hp | commit confirmation hp =>
    rw [hp] at hi
    simpa [Pc.Booked, Pc.Passed, BookingResult.Submits, submittedResult] using hi
  | complete r _ hp =>
    rw [hp] at hi
    simpa [World.notifyAll, Pc.Booked, Pc.Passed] using hi
  | release o hp | releaseNothing o hp =>
    rw [hp] at hi
    cases o <;> simp_all [World.notifyAll, Pc.Booked, Pc.Passed]
  | completeRaises | raise =>
    exact absurd (by simp [World.Raised, Pc.phase, Lease.Phase.Failed]) hno
  | waitRecord _ hp | execute hp | replay _ hp | conflict _ _ hp | waitTarget _ hp
  | claimTarget hp | missing hp | selectConfirmation _ hp | checkRaises _ _ hp | stale _ hp
  | pass _ hp | inTransaction _ hp | noTransaction _ hp | rollback _ hp | abandon _ hp
  | abandonNothing _ hp | rollbackRaises _ hp => simp [hp, Pc.Booked, Pc.Passed] at hi

theorem submitting_of_exec (hno : ∀ j, ¬ w'.Raised j) :
    {labels : List (ι × Event)} → {w : World ι} → exec (step calls) w labels = some w' →
      (w.pc i).Passed quoteId ∨ (w.pc i).Booked quoteId →
        (w'.pc i).Passed quoteId ∨ (w'.pc i).Booked quoteId
  | [], _, h, hi => by cases h; exact hi
  | (j, e) :: labels, w, h, hi => by
      obtain ⟨t, ht, hrest⟩ := exec_cons_eq_some.mp h
      refine submitting_of_exec hno hrest ?_
      obtain ⟨-, hm⟩ := step_eq_some_iff.mp ht
      by_cases hij : i = j
      · subst hij
        exact .inr (hm.submitting (fun hr => hno i (raised_of_exec hrest hr)) hi)
      · rwa [hm.pc_of_ne hij]

/-- In a complete run, a call that has passed the check has reported the booking. -/
theorem freshSubmitted_of_passed (hno : ∀ j, ¬ w'.Raised j)
    (h : exec (step calls) w labels = some w') (hi : (w.pc i).Passed quoteId)
    (hend : w'.Ended i) : w'.FreshSubmitted i quoteId := by
  rcases submitting_of_exec hno h (.inl hi) with hi | hi
  · obtain ⟨o, ho⟩ := hend
    simp [ho, Pc.Passed] at hi
  · exact freshSubmitted_of_booked hi hend

/-! ### The exact condition -/

theorem bookedOnce_of_passesAlone (h : Initial w₀) (hno : ∀ j, ¬ w.Raised j)
    (hrun : exec (step calls) w₀ labels = some w)
    (hC : Along (step calls) (fun s l _ => PassesAlone calls s l) w₀ labels) : w.BookedOnce := by
  have hC' := along_and.mpr ⟨hC, along_not_raised hno hrun⟩
  have hinv : QuoteInv calls w :=
    along_invariant (QuoteInv calls) (fun _ _ _ hi hc hs => hi.step hs hc.2 hc.1)
      (.of_initial h) hC' hrun
  intro i j q hi hj
  exact hinv.once i j q (Pc.booked_of_freshSubmitted hi) (Pc.booked_of_freshSubmitted hj)

theorem passesAlone_of_bookedOnce (hno : ∀ j, ¬ w.Raised j)
    (hrun : exec (step calls) w₀ labels = some w) (hend : ∀ i, w.Ended i) (hw : w.BookedOnce) :
    Along (step calls) (fun s l _ => PassesAlone calls s l) w₀ labels := by
  rw [along_iff_split]
  rintro pre ⟨i, e⟩ post t u rfl hpre hu
  cases e with
  | raise => trivial
  | run now auditNow =>
    intro confirmation hp hs j htoken hj
    -- Both calls end with a `submitted` result for the quote, so they are the same call.
    obtain ⟨t', ht', hpost⟩ := exec_append_eq_some.mp hrun
    obtain rfl := Option.some.inj (hpre.symm.trans ht')
    obtain ⟨u', hu', hrest⟩ := exec_cons_eq_some.mp hpost
    obtain rfl := Option.some.inj (hu.symm.trans hu')
    obtain ⟨ha, -⟩ := step_eq_some_iff.mp hu
    have hpass : u.pc i = .updateQuote confirmation := by
      simp only [step, ha, run, hp, hs, Bool.false_eq_true, if_false, Option.some.injEq] at hu
      rw [← hu, World.goto_pc_self]
    have hi : w.FreshSubmitted i confirmation.quoteId :=
      freshSubmitted_of_passed hno hrest (by rw [hpass]; rfl) (hend i)
    have hj' : w.FreshSubmitted j confirmation.quoteId :=
      freshSubmitted_of_passed hno hpost hj (hend j)
    exact htoken (by rw [hw i j _ hi hj'])

/-- **No quote is booked twice, exactly if no two calls with different tokens stand between check
and update of one quote.** In a run without exceptions the condition on the steps that pass the
check implies that no quote has two fresh `submitted` results; in a complete run it is necessary. -/
theorem booked_once_iff (h : Initial w₀) (hrun : exec (step calls) w₀ labels = some w)
    (hno : ∀ i, ¬ w.Raised i) :
    (Along (step calls) (fun s l _ => PassesAlone calls s l) w₀ labels → w.BookedOnce) ∧
      ((∀ i, w.Ended i) → w.BookedOnce →
        Along (step calls) (fun s l _ => PassesAlone calls s l) w₀ labels) :=
  ⟨bookedOnce_of_passesAlone h hno hrun, passesAlone_of_bookedOnce hno hrun⟩

/-! ### Two calls for one quote -/

omit [DecidableEq ι] in
/-- A call that has returned a result of its own has ended without raising. -/
theorem ended_of_executed {r : BookingResult} (h : w.pc i = .done (.executed r)) :
    w.Ended i ∧ ¬ w.Raised i ∧ w.Executed i r :=
  ⟨⟨_, h⟩, by simp [World.Raised, h, Pc.phase, Outcome.lease, Lease.Phase.Failed],
    by simp [World.Executed, h, Pc.outcome?]⟩

/-- A second call with the token of a booked quote is denied, and the condition holds. -/
theorem booked_once_iff_second_call :
    ∃ w : World Bool,
      exec (step fun i => memphisCall "confirm-quote-88219" (if i then "v1" else "v2"))
        (.start memphisDatabase)
        (List.replicate 9 (goOn true) ++ List.replicate 6 (goOn false)) = some w ∧
      w.BookedOnce ∧ Along
        (step fun i => memphisCall "confirm-quote-88219" (if i then "v1" else "v2"))
        (fun s l _ => PassesAlone
          (fun i => memphisCall "confirm-quote-88219" (if i then "v1" else "v2")) s l)
        (.start memphisDatabase)
        (List.replicate 9 (goOn true) ++ List.replicate 6 (goOn false)) := by
  let calls : Bool → Call := fun i => memphisCall "confirm-quote-88219" (if i then "v1" else "v2")
  have hpc : (exec (step calls) (.start memphisDatabase)
      (List.replicate 9 (goOn true) ++ List.replicate 6 (goOn false))).map
      (fun w => (w.pc true, w.pc false)) =
      some (.done (.executed (submittedResult (calls true) memphisConfirmation .first)),
        .done (.executed (staleResult (calls false) memphisConfirmation.consumed .first))) := by
    rfl
  obtain ⟨w, hw, hpc⟩ := Option.map_eq_some_iff.mp hpc
  obtain ⟨ht, hf⟩ := Prod.mk.inj hpc
  have ht := ended_of_executed ht
  have hf := ended_of_executed hf
  have hend : ∀ i, w.Ended i ∧ ¬ w.Raised i := by
    rintro (_ | _)
    · exact ⟨hf.1, hf.2.1⟩
    · exact ⟨ht.1, ht.2.1⟩
  have htrue : ∀ i q, w.FreshSubmitted i q → i = true := by
    rintro (_ | _) q ⟨r, hr, hs, -⟩
    · obtain rfl : staleResult (calls false) memphisConfirmation.consumed .first = r := by
        simpa [World.Executed] using hf.2.2.symm.trans hr
      simp [staleResult, deniedResult] at hs
    · rfl
  have honce : w.BookedOnce := fun i j q hi hj => (htrue i q hi).trans (htrue j q hj).symm
  exact ⟨w, hw, honce,
    (booked_once_iff (.start memphisDatabase) hw fun i => (hend i).2).2 (fun i => (hend i).1)
      honce⟩

def secondConfirmation : ConfirmationRow :=
  { memphisConfirmation with confirmationToken := "confirm-quote-88219-b" }

/-- The Memphis quote with two pending confirmations. -/
def twoTokenDatabase : Database :=
  { memphisDatabase with
    confirmations := ⟨[memphisConfirmation, secondConfirmation], by decide⟩ }

/-- Two calls that differ in token and key. -/
def twoTokenCalls : Bool → Call
  | true => memphisCall "confirm-quote-88219" "v1"
  | false => memphisCall "confirm-quote-88219-b" "v2"

/-- Each call runs up to its update before either updates. -/
def crossedRun : List (Bool × Event) :=
  List.replicate 4 (goOn true) ++ List.replicate 4 (goOn false) ++
    List.replicate 5 (goOn true) ++ List.replicate 5 (goOn false)

/-- **A quote is booked twice.** Two calls with different tokens of one quote both pass the check
before either updates the quote; neither raises and both return a fresh `submitted` result. -/
theorem quote_booked_twice :
    ∃ w : World Bool, exec (step twoTokenCalls) (.start twoTokenDatabase) crossedRun = some w ∧
      (∀ i, w.Ended i ∧ ¬ w.Raised i ∧ w.FreshSubmitted i "quote-88219") ∧ ¬ w.BookedOnce := by
  have hpc : (exec (step twoTokenCalls) (.start twoTokenDatabase) crossedRun).map
      (fun w => (w.pc true, w.pc false)) =
      some (.done (.executed (submittedResult (twoTokenCalls true) memphisConfirmation .first)),
        .done (.executed (submittedResult (twoTokenCalls false) secondConfirmation .first))) := by
    rfl
  obtain ⟨w, hw, hpc⟩ := Option.map_eq_some_iff.mp hpc
  obtain ⟨ht, hf⟩ := Prod.mk.inj hpc
  have hall : ∀ i, w.Ended i ∧ ¬ w.Raised i ∧ w.FreshSubmitted i "quote-88219" := by
    rintro (_ | _)
    · obtain ⟨hend, hno, hex⟩ := ended_of_executed hf
      exact ⟨hend, hno, _, hex, rfl, rfl⟩
    · obtain ⟨hend, hno, hex⟩ := ended_of_executed ht
      exact ⟨hend, hno, _, hex, rfl, rfl⟩
  refine ⟨w, hw, hall, fun honce => ?_⟩
  exact absurd (honce true false _ (hall true).2.2 (hall false).2.2) (by decide)

end Meridian.Gateway
