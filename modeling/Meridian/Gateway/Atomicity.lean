import Meridian.Gateway.BookingRuns
import Meridian.Gateway.IdempotentBooking

/-!
# Bookings on the shared transaction

Calls on different tokens and different quotes share one transaction. A rollback of one call undoes
whatever another has updated and not committed, and a commit of one call makes permanent whatever
another has updated and may still want to roll back. Bookings are all or nothing in the runs in
which neither happens to a call that handles an exception.

## Main definitions

* `Meridian.Gateway.SameRows`: two databases agree on the rows of a call.
* `Meridian.Gateway.SettlesAlone`: the condition on the steps of a call that handles an exception.
* `Meridian.Gateway.AllOrNothing`: the calls that have booked have booked both rows, the calls that
  have raised have changed none.

## Main results

* `Meridian.Gateway.bookings_all_or_nothing`: the condition is sufficient.
* `Meridian.Gateway.booking_half_lost`: a run in which a rollback undoes half a booking.
-/

namespace Meridian.Gateway

open Foundations Db

/-! ### The rows of a call -/

/-- `db` and `db'` agree on the confirmation of the call and on its quote, the one that the
confirmation refers to in `db₀`. -/
structure SameRows (db₀ : Database) (call : Call) (db db' : Database) : Prop where
  confirmation : db.confirmations.lookup call.confirmationToken =
    db'.confirmations.lookup call.confirmationToken
  quote : ∀ c, db₀.confirmations.lookup call.confirmationToken = some c →
    db.quotes.lookup c.quoteId = db'.quotes.lookup c.quoteId

/-- The confirmation and the quote of the call in `db₀` have become `f` and `g` of themselves in
`db`. -/
def RowsBecome (db₀ : Database) (call : Call) (f : ConfirmationRow → ConfirmationRow)
    (g : QuoteRow → QuoteRow) (db : Database) : Prop :=
  ∃ c q, db₀.confirmations.lookup call.confirmationToken = some c ∧
    db₀.quotes.lookup c.quoteId = some q ∧
    db.confirmations.lookup call.confirmationToken = some (f c) ∧
    db.quotes.lookup c.quoteId = some (g q)

/-- The confirmation of the call is consumed and its quote is booked. -/
def FullyBooked (db₀ : Database) (call : Call) : Database → Prop :=
  RowsBecome db₀ call ConfirmationRow.consumed QuoteRow.booked

/-- What has become of the rows of a call when it returns the result `r`. -/
def ResultRows (db₀ : Database) (call : Call) (db : Database) (r : BookingResult) : Prop :=
  if r.status = .submitted then FullyBooked db₀ call db else SameRows db₀ call db db₀

/-- What has become of the rows of a call at each place. Between the exception and the rollback
anything may be true of them. -/
def PcRows (db₀ : Database) (call : Call) (db : Database) : Pc → Prop
  | .claimRecord | .claimTarget | .selectConfirmation | .abandon _ => SameRows db₀ call db db₀
  | .selectQuote c =>
    SameRows db₀ call db db₀ ∧ db₀.confirmations.lookup call.confirmationToken = some c
  | .updateQuote c =>
    SameRows db₀ call db db₀ ∧ db₀.confirmations.lookup call.confirmationToken = some c ∧
      ∃ q, db₀.quotes.lookup c.quoteId = some q
  | .updateConfirmation _ => RowsBecome db₀ call id QuoteRow.booked db
  | .commit _ => FullyBooked db₀ call db
  | .completeRecord r => ResultRows db₀ call db r
  | .checkTransaction _ | .rollback _ => True
  | .release o | .done o =>
    match o with
    | .executed r => ResultRows db₀ call db r
    | .replayed _ | .conflicted _ | .raised => SameRows db₀ call db db₀

variable {db₀ db db' db'' : Database} {call call' : Call}

theorem SameRows.refl (db₀ : Database) (call : Call) (db : Database) : SameRows db₀ call db db :=
  ⟨rfl, fun _ _ => rfl⟩

theorem SameRows.trans (h : SameRows db₀ call db db') (h' : SameRows db₀ call db' db'') :
    SameRows db₀ call db db'' :=
  ⟨h.confirmation.trans h'.confirmation, fun c hc => (h.quote c hc).trans (h'.quote c hc)⟩

theorem RowsBecome.congr {f : ConfirmationRow → ConfirmationRow} {g : QuoteRow → QuoteRow}
    (h : RowsBecome db₀ call f g db) (hs : SameRows db₀ call db' db) :
    RowsBecome db₀ call f g db' := by
  obtain ⟨c, q, hc, hq, hc', hq'⟩ := h
  exact ⟨c, q, hc, hq, hs.confirmation.trans hc', (hs.quote c hc).trans hq'⟩

theorem ResultRows.congr {r : BookingResult} (h : ResultRows db₀ call db r)
    (hs : SameRows db₀ call db' db) : ResultRows db₀ call db' r := by
  unfold ResultRows at h ⊢
  split at h
  · rename_i hr
    rw [if_pos hr]
    exact RowsBecome.congr h hs
  · rename_i hr
    rw [if_neg hr]
    exact hs.trans h

/-- What is known at a place depends only on the rows of the call. -/
theorem PcRows.congr {p : Pc} (h : PcRows db₀ call db p) (hs : SameRows db₀ call db' db) :
    PcRows db₀ call db' p := by
  cases p with
  | claimRecord | claimTarget | selectConfirmation | abandon => exact hs.trans h
  | selectQuote | updateQuote => exact ⟨hs.trans h.1, h.2⟩
  | updateConfirmation | commit => exact RowsBecome.congr h hs
  | completeRecord => exact ResultRows.congr h hs
  | checkTransaction | rollback => trivial
  | release o | done o =>
    cases o with
    | executed => exact ResultRows.congr h hs
    | replayed | conflicted | raised => exact hs.trans h

/-! ### The condition -/

variable {ι : Type*}

/-- When a call that handles an exception finds no transaction, its own rows are committed as they
were at first; when it rolls back, that holds as well and no other call has uncommitted updates. -/
def SettlesAlone (calls : ι → Call) (db₀ : Database) (w : World ι) (l : ι × Event) : Prop :=
  match w.pc l.1 with
  | .checkTransaction _ => w.connection.inTransaction = false →
      SameRows db₀ (calls l.1) w.connection.committed db₀
  | .rollback _ => SameRows db₀ (calls l.1) w.connection.committed db₀ ∧
      ∀ j, j ≠ l.1 → SameRows db₀ (calls j) w.connection.committed w.connection.rows
  | _ => True

/-- Every fresh `submitted` result has both its rows updated, and no call that has raised has either
of its rows changed. -/
structure AllOrNothing (calls : ι → Call) (db₀ : Database) (w : World ι) : Prop where
  submitted : ∀ i r, w.Executed i r → r.status = .submitted →
    FullyBooked db₀ (calls i) w.connection.rows
  raised : ∀ i, (w.pc i).outcome? = some .raised →
    SameRows db₀ (calls i) w.connection.rows db₀

/-- The calls are for different tokens, and the confirmations of different tokens refer to different
quotes. -/
structure Apart (calls : ι → Call) (db₀ : Database) : Prop where
  token : ∀ i j, (calls i).confirmationToken = (calls j).confirmationToken → i = j
  quote : ∀ i j c c', db₀.confirmations.lookup (calls i).confirmationToken = some c →
    db₀.confirmations.lookup (calls j).confirmationToken = some c' → c.quoteId = c'.quoteId → i = j

/-- The call has updated a row or raised, and has neither committed nor rolled back yet. -/
def Pc.Unsettled : Pc → Prop
  | updateConfirmation _ | commit _ | checkTransaction _ | rollback _ => True
  | _ => False

/-- A transaction is open only while some call has to close it. -/
def TransactionOwned (w : World ι) : Prop :=
  w.connection.inTransaction = true → ∃ i, (w.pc i).Unsettled

/-- What is known about every call, and about the transaction. -/
structure RowsInv (calls : ι → Call) (db₀ : Database) (w : World ι) : Prop where
  rows : ∀ i, PcRows db₀ (calls i) w.connection.rows (w.pc i)
  owned : TransactionOwned w

variable [DecidableEq ι] {calls : ι → Call} {w w' w₀ : World ι} {i j : ι} {e : Event}
  {labels : List (ι × Event)}

/-! ### Moves -/

/-- A move of another call keeps the rows of a call, if it does not roll them back. -/
theorem Move.sameRows (h : Move calls w i e w') (hap : Apart calls db₀)
    (hrows : PcRows db₀ (calls i) w.connection.rows (w.pc i))
    (hC : SettlesAlone calls db₀ w (i, e)) (hj : j ≠ i) :
    SameRows db₀ (calls j) w'.connection.rows w.connection.rows := by
  cases h with
  | updateQuote c hp =>
    rw [hp] at hrows
    refine ⟨rfl, fun c' hc' => ?_⟩
    have hne : c'.quoteId ≠ c.quoteId := fun he => hj (hap.quote j i c' c hc' hrows.2.1 he)
    exact Database.lookup_quotes_bookQuote.trans (if_neg hne)
  | updateConfirmation c hp =>
    have hne : (calls j).confirmationToken ≠ (calls i).confirmationToken :=
      fun he => hj (hap.token j i he)
    exact ⟨Database.lookup_confirmations_consumeConfirmation.trans (if_neg hne), fun _ _ => rfl⟩
  | rollback tc hp =>
    simp only [SettlesAlone, hp] at hC
    exact hC.2 j hj
  | _ => exact .refl ..

/-- A move of a call leaves its own rows as the new place says. -/
theorem Move.pcRows (h : Move calls w i e w')
    (hrows : PcRows db₀ (calls i) w.connection.rows (w.pc i))
    (hC : SettlesAlone calls db₀ w (i, e)) :
    PcRows db₀ (calls i) w'.connection.rows (w'.pc i) := by
  cases h with
  | waitRecord | waitTarget => exact hrows
  | execute hp | replay _ hp | conflict _ _ hp | claimTarget hp =>
    rw [hp] at hrows
    rw [World.goto_pc_self]
    exact hrows
  | missing hp =>
    rw [hp] at hrows
    rw [World.goto_pc_self]
    exact hrows
  | selectConfirmation c hp hc =>
    rw [hp] at hrows
    rw [World.goto_pc_self]
    exact ⟨hrows, hrows.confirmation.symm.trans hc⟩
  | checkRaises | completeRaises | raise | inTransaction =>
    rw [World.goto_pc_self]
    trivial
  | stale c hp =>
    rw [hp] at hrows
    rw [World.goto_pc_self]
    exact hrows.1
  | pass c hp he =>
    rw [hp] at hrows
    rw [World.goto_pc_self]
    obtain ⟨q, hq, -⟩ := he.quote
    exact ⟨hrows.1, hrows.2, q, (hrows.1.quote c hrows.2).symm.trans hq⟩
  | updateQuote c hp =>
    rw [hp] at hrows
    rw [World.goto_pc_self]
    obtain ⟨hsame, hc, q, hq⟩ := hrows
    refine ⟨c, q, hc, hq, hsame.confirmation.trans hc, ?_⟩
    refine (Database.lookup_quotes_bookQuote.trans (if_pos rfl)).trans ?_
    rw [hsame.quote c hc, hq, Option.map_some]
  | updateConfirmation _ hp =>
    rw [hp] at hrows
    rw [World.goto_pc_self]
    obtain ⟨c, q, hc, hq, hc', hq'⟩ := hrows
    refine ⟨c, q, hc, hq, ?_, hq'⟩
    refine (Database.lookup_confirmations_consumeConfirmation.trans (if_pos rfl)).trans ?_
    rw [hc', Option.map_some, id]
  | commit c hp =>
    rw [hp] at hrows
    rw [World.goto_pc_self]
    exact hrows
  | complete r _ hp =>
    rw [hp] at hrows
    simp only [World.notifyAll, World.goto_pc_self]
    exact hrows
  | noTransaction tc hp ht =>
    simp only [SettlesAlone, hp] at hC
    rw [World.goto_pc_self]
    have hrc := w.connection.rows_eq_committed ht
    show SameRows db₀ (calls i) w.connection.rows db₀
    rw [hrc]
    exact hC ht
  | rollback tc hp =>
    simp only [SettlesAlone, hp] at hC
    rw [World.goto_pc_self]
    exact hC.1
  | rollbackRaises tc hp ht =>
    simp only [SettlesAlone, hp] at hC
    have hsame : SameRows db₀ (calls i) w.connection.rows db₀ := by
      rw [w.connection.rows_eq_committed ht]
      exact hC.1
    rw [World.goto_pc_self]
    cases tc <;> exact hsame
  | abandon tc hp | abandonNothing tc hp =>
    rw [hp] at hrows
    cases tc <;> simp only [World.notifyAll, World.goto_pc_self] <;> exact hrows
  | release o hp | releaseNothing o hp =>
    rw [hp] at hrows
    simp only [World.notifyAll, World.goto_pc_self]
    exact hrows

/-- A call that is unsettled remains so until it closes the transaction. -/
theorem Move.unsettled (h : Move calls w i e w') (hi : (w.pc i).Unsettled) :
    (w'.pc i).Unsettled ∨ w'.connection.inTransaction = false := by
  cases h with
  | updateConfirmation | inTransaction | raise =>
    left
    simp [Pc.Unsettled]
  | commit | rollback => exact .inr rfl
  | noTransaction _ _ ht | rollbackRaises _ _ ht => exact .inr ht
  | waitRecord _ hp | execute hp | replay _ hp | conflict _ _ hp | waitTarget _ hp
  | claimTarget hp | missing hp | selectConfirmation _ hp | checkRaises _ _ hp | stale _ hp
  | pass _ hp | updateQuote _ hp | complete _ _ hp | completeRaises _ hp | abandon _ hp
  | abandonNothing _ hp | release _ hp | releaseNothing _ hp => simp [hp, Pc.Unsettled] at hi

/-- A move opens a transaction only for the call that moves. -/
theorem Move.inTransaction_of (h : Move calls w i e w') (ht : w'.connection.inTransaction = true) :
    w.connection.inTransaction = true ∨ (w'.pc i).Unsettled := by
  cases h with
  | updateQuote | updateConfirmation =>
    right
    simp [Pc.Unsettled]
  | commit | rollback => exact absurd ht Bool.false_ne_true
  | _ => exact .inl ht

theorem TransactionOwned.step (h : TransactionOwned w) (hm : Move calls w i e w') :
    TransactionOwned w' := by
  intro ht
  rcases hm.inTransaction_of ht with hold | hi
  · obtain ⟨j, hj⟩ := h hold
    by_cases hji : j = i
    · subst hji
      rcases hm.unsettled hj with hj | hf
      · exact ⟨j, hj⟩
      · simp [ht] at hf
    · exact ⟨j, by rwa [hm.pc_of_ne hji]⟩
  · exact ⟨i, hi⟩

/-! ### All or nothing -/

namespace RowsInv

theorem step (h : RowsInv calls db₀ w) (hap : Apart calls db₀)
    (hs : step calls w (i, e) = some w') (hC : SettlesAlone calls db₀ w (i, e)) :
    RowsInv calls db₀ w' := by
  obtain ⟨-, hm⟩ := step_eq_some_iff.mp hs
  refine ⟨fun j => ?_, h.owned.step hm⟩
  by_cases hji : j = i
  · subst hji
    exact hm.pcRows (h.rows j) hC
  · rw [hm.pc_of_ne hji]
    exact (h.rows j).congr (hm.sameRows hap (h.rows i) hC hji)

omit [DecidableEq ι] in
theorem of_initial (h : Initial w) (hc : w.connection.inTransaction = false) :
    RowsInv calls w.connection.rows w := by
  refine ⟨fun i => ?_, fun ht => ?_⟩
  · rw [h.pc i]
    exact .refl ..
  · rw [hc] at ht
    exact absurd ht Bool.false_ne_true

omit [DecidableEq ι] in
theorem allOrNothing (h : RowsInv calls db₀ w) : AllOrNothing calls db₀ w := by
  refine ⟨fun i r hr hs => ?_, fun i hi => ?_⟩
  · have hrows := h.rows i
    unfold World.Executed at hr
    cases hp : w.pc i <;> simp_all [Pc.outcome?, PcRows, ResultRows]
  · have hrows := h.rows i
    cases hp : w.pc i <;> simp_all [Pc.outcome?, PcRows]

omit [DecidableEq ι] in
theorem no_transaction (h : RowsInv calls db₀ w) (hend : ∀ i, w.Ended i) :
    w.connection.inTransaction = false := by
  rw [Bool.eq_false_iff]
  intro ht
  obtain ⟨i, hi⟩ := h.owned ht
  obtain ⟨o, ho⟩ := hend i
  simp [ho, Pc.Unsettled] at hi

end RowsInv

/-- **Bookings are all or nothing if exceptions are handled alone.** Calls on different tokens and
quotes start on a committed database. If each call that handles an exception finds its rows
committed as they were, and rolls back only while no other call has uncommitted updates, then in
every state reached each fresh `submitted` result has its confirmation consumed and its quote
booked, each call that has raised has left its rows as they were, and when all calls have ended
everything is committed. -/
theorem bookings_all_or_nothing (h : Initial w₀) (hseed : w₀.connection.inTransaction = false)
    (hap : Apart calls w₀.connection.rows) (hrun : exec (step calls) w₀ labels = some w)
    (hC : Along (step calls) (fun s l _ => SettlesAlone calls w₀.connection.rows s l) w₀ labels) :
    AllOrNothing calls w₀.connection.rows w ∧
      ((∀ i, w.Ended i) → w.connection.rows = w.connection.committed) := by
  have hinv : RowsInv calls w₀.connection.rows w :=
    along_invariant (RowsInv calls w₀.connection.rows) (fun _ _ _ hi hc hs => hi.step hap hs hc)
      (.of_initial h hseed) hC hrun
  exact ⟨hinv.allOrNothing,
    fun hend => w.connection.rows_eq_committed (hinv.no_transaction hend)⟩

/-! ### A call whose expiry cannot be compared -/

def naiveQuote : QuoteRow := { memphisQuote with quoteId := "quote-55100" }

/-- A confirmation whose expiry has no offset from UTC. -/
def naiveConfirmation : ConfirmationRow :=
  { memphisConfirmation with
    confirmationToken := "confirm-quote-55100"
    quoteId := "quote-55100"
    expiresAt := "2099-03-16T12:00:00" }

def naiveDatabase : Database :=
  { Database.empty with
    quotes := ⟨[memphisQuote, naiveQuote], by decide⟩
    confirmations := ⟨[memphisConfirmation, naiveConfirmation], by decide⟩ }

/-- The call `false` raises when it compares the expiry. -/
def naiveCalls : Bool → Call
  | true => memphisCall "confirm-quote-88219" "v1"
  | false => memphisCall "confirm-quote-55100" "v2"

theorem naiveCalls_apart : Apart naiveCalls naiveDatabase where
  token := by rintro (_ | _) (_ | _) h <;> first | rfl | exact absurd h (by decide)
  quote := by
    rintro (_ | _) (_ | _) c c' hc hc' h <;>
      first | rfl | (cases hc; cases hc'; exact absurd h (by decide))

/-- On its own, a call that raises leaves its rows as they were. -/
theorem bookings_all_or_nothing_alone :
    ∃ w : World Bool,
      exec (step naiveCalls) (.start naiveDatabase) (List.replicate 7 (goOn false)) = some w ∧
      AllOrNothing naiveCalls naiveDatabase w := by
  have hsome : (exec (step naiveCalls) (.start naiveDatabase)
      (List.replicate 7 (goOn false))).isSome := by rfl
  obtain ⟨w, hw⟩ := Option.isSome_iff_exists.mp hsome
  have hC : Along (step naiveCalls) (fun s l _ => SettlesAlone naiveCalls naiveDatabase s l)
      (.start naiveDatabase) (List.replicate 7 (goOn false)) :=
    .cons rfl trivial <| .cons rfl trivial <| .cons rfl trivial <| .cons rfl trivial <|
      .cons rfl (fun _ => .refl ..) <| .cons rfl trivial <| .cons rfl trivial trivial
  exact ⟨w, hw, (bookings_all_or_nothing (.start naiveDatabase) rfl naiveCalls_apart hw hC).1⟩

/-- The call `false` raises and rolls back between the two updates of the call `true`. -/
def crossedRollback : List (Bool × Event) :=
  List.replicate 5 (goOn true) ++ List.replicate 8 (goOn false) ++ List.replicate 4 (goOn true)

/-- **Half a booking is lost.** The rollback of a call that raises undoes the first update of
another call, whose second update is then committed: the call returns `submitted`, its confirmation
is consumed and its quote is still eligible. -/
theorem booking_half_lost :
    Apart naiveCalls naiveDatabase ∧
      ∃ w : World Bool, exec (step naiveCalls) (.start naiveDatabase) crossedRollback = some w ∧
      (∀ i, w.Ended i) ∧ (∃ r, w.Executed true r ∧ r.status = .submitted) ∧
      w.connection.rows.confirmations.lookup "confirm-quote-88219" =
        some memphisConfirmation.consumed ∧
      w.connection.rows.quotes.lookup "quote-88219" = some memphisQuote ∧
      ¬ AllOrNothing naiveCalls naiveDatabase w := by
  have hpc : (exec (step naiveCalls) (.start naiveDatabase) crossedRollback).map
      (fun w => ((w.pc true, w.pc false),
        w.connection.rows.confirmations.lookup "confirm-quote-88219",
        w.connection.rows.quotes.lookup "quote-88219")) =
      some ((.done (.executed (submittedResult (naiveCalls true) memphisConfirmation .first)),
        .done .raised), some memphisConfirmation.consumed, some memphisQuote) := by
    rfl
  obtain ⟨w, hw, hpc⟩ := Option.map_eq_some_iff.mp hpc
  obtain ⟨hplaces, hrows⟩ := Prod.mk.inj hpc
  obtain ⟨ht, hf⟩ := Prod.mk.inj hplaces
  obtain ⟨hc, hq⟩ := Prod.mk.inj hrows
  have hex : w.Executed true (submittedResult (naiveCalls true) memphisConfirmation .first) := by
    simp [World.Executed, ht, Pc.outcome?]
  refine ⟨naiveCalls_apart, w, hw, ?_, ⟨_, hex, rfl⟩, hc, hq, fun hall => ?_⟩
  · rintro (_ | _)
    · exact ⟨_, hf⟩
    · exact ⟨_, ht⟩
  · obtain ⟨c, q, hc₀, hq₀, -, hbooked⟩ := hall.submitted true _ hex rfl
    obtain rfl : memphisConfirmation = c := Option.some.inj hc₀
    obtain rfl : memphisQuote = q := Option.some.inj hq₀
    have heq : memphisQuote = memphisQuote.booked := Option.some.inj (hq.symm.trans hbooked)
    exact absurd heq (by decide)

end Meridian.Gateway
