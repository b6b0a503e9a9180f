import Meridian.Db.Seeding
import Meridian.Gateway.SequentialBooking

/-!
# A booking that raises

One call of `execute_confirmed_booking`, on a connection that `build_seeded_read_connection` has
returned, with nobody else at work. Whatever makes it raise, it gives back its claims. Its rollback
returns to the last commit, which is not the state before the call: the seeding has committed
nothing, so that all seeded rows are lost.

## Main definitions

* `Meridian.Gateway.World.alone`: the state before the only call.
* `Meridian.Gateway.LeaseAt`, `Meridian.Gateway.RowsAt`: what the call has claimed and what it has
  made of the rows at each place.

## Main results

* `Meridian.Gateway.raised_alone`: where a call that raises leaves the records, the claims and the
  tables.
* `Meridian.Gateway.raising_changes_nothing_iff`: on a seeded connection it changes nothing exactly
  if the bundle has no rows.
* `Meridian.Gateway.raising_empties_tables`: a confirmation whose expiry is no timestamp.
-/

namespace Meridian.Gateway

open Foundations Db

/-- One call is about to start, and nobody else is at work. -/
def World.alone (store : Store BookingResult) (connection : Connection) : World Unit where
  store := store
  claims := fun _ => none
  connection := connection
  pc := fun _ => .claimRecord
  asleep := fun _ => false

variable {call : Call} {store : Store BookingResult} {c₀ : Connection} {w w' : World Unit}
  {e : Event} {labels : List (Unit × Event)}

/-! ### The claims -/

/-- The records after the call has claimed its own. -/
def claimedRecords (call : Call) (store : Store BookingResult) : Store BookingResult :=
  Function.update store call.idempotencyKey (some (.inProgress call.requestFingerprint))

/-- The target claims after the call has claimed its own. -/
def claimedTargets (call : Call) : TargetClaims :=
  Function.update (fun _ => none) call.confirmationToken (some call.idempotencyKey)

/-- The records and the target claims while the call is in a phase, except where it has recorded a
result. -/
def LeaseAt (call : Call) (store : Store BookingResult) (w : World Unit) :
    Lease.Phase BookingResult → Prop
  | .idle | .ended .raised => w.store = store ∧ w.claims = fun _ => none
  | .keyed =>
    store call.idempotencyKey = none ∧ w.store = claimedRecords call store ∧
      w.claims = fun _ => none
  | .working =>
    store call.idempotencyKey = none ∧ w.store = claimedRecords call store ∧
      w.claims = claimedTargets call
  | .failing targetClaimed =>
    store call.idempotencyKey = none ∧ w.store = claimedRecords call store ∧
      w.claims = if targetClaimed then claimedTargets call else fun _ => none
  | .releasing .raised => w.store = store ∧ w.claims = claimedTargets call
  | _ => True

theorem LeaseAt.alone : LeaseAt call store (.alone store c₀) ((World.alone store c₀).pc ()).phase :=
  ⟨rfl, rfl⟩

theorem claimedRecords_self :
    claimedRecords call store call.idempotencyKey = some (.inProgress call.requestFingerprint) :=
  Function.update_self ..

theorem claimedTargets_self :
    claimedTargets call call.confirmationToken = some call.idempotencyKey :=
  Function.update_self ..

/-- A record that is withdrawn leaves the records as they were. -/
theorem update_claimedRecords (h : store call.idempotencyKey = none) :
    Function.update (claimedRecords call store) call.idempotencyKey none = store := by
  rw [claimedRecords, Function.update_idem, ← h, Function.update_eq_self]

theorem update_claimedTargets :
    Function.update (claimedTargets call) call.confirmationToken none = fun _ => none := by
  rw [claimedTargets, Function.update_idem]
  exact Function.update_eq_self_iff.mpr rfl

/-- A step keeps the claims as the phase says, if the rollback finds a transaction. -/
theorem LeaseAt.step (h : LeaseAt call store w (w.pc ()).phase)
    (hopen : ∀ targetClaimed, w.pc () = .rollback targetClaimed → w.connection.inTransaction = true)
    (hs : step (fun _ => call) w ((), e) = some w') :
    LeaseAt call store w' (w'.pc ()).phase := by
  obtain ⟨-, hm⟩ := step_eq_some_iff.mp hs
  cases hm with
  | waitRecord | waitTarget => exact h
  | execute hp hr =>
    rw [hp] at h
    rw [World.goto_pc_self]
    exact ⟨by rw [← h.1]; exact hr, congrArg (claimedRecords call) h.1, h.2⟩
  | replay | conflict => rw [World.goto_pc_self]; trivial
  | claimTarget hp =>
    rw [hp] at h
    rw [World.goto_pc_self]
    refine ⟨h.1, h.2.1, ?_⟩
    show Function.update w.claims _ _ = _
    rw [h.2.2]
    rfl
  | missing hp | selectConfirmation _ hp | stale _ hp | pass _ hp | updateQuote _ hp
  | updateConfirmation _ hp | commit _ hp =>
    rw [hp] at h
    rw [World.goto_pc_self]
    exact h
  | checkRaises _ _ hp | completeRaises _ hp =>
    rw [hp] at h
    rw [World.goto_pc_self]
    exact h
  | complete =>
    simp only [World.notifyAll, World.goto_pc_self]
    trivial
  | inTransaction tc hp | noTransaction tc hp | rollback tc hp =>
    rw [hp] at h
    rw [World.goto_pc_self]
    exact h
  | abandon tc hp hr =>
    rw [hp] at h
    obtain ⟨hfree, hstore, hclaims⟩ := h
    have hback : Function.update w.store call.idempotencyKey none = store := by
      rw [hstore, update_claimedRecords hfree]
    simp only [World.notifyAll, World.goto_pc_self]
    cases tc with
    | true => exact ⟨hback, hclaims⟩
    | false => exact ⟨hback, hclaims⟩
  | abandonNothing tc hp hr =>
    rw [hp] at h
    refine absurd ?_ hr
    rw [h.2.1]
    exact claimedRecords_self
  | release o hp ht =>
    rw [hp] at h
    simp only [World.notifyAll, World.goto_pc_self]
    cases o with
    | raised =>
      refine ⟨h.1, ?_⟩
      show Function.update w.claims _ _ = _
      rw [h.2, update_claimedTargets]
    | executed | replayed | conflicted => trivial
  | releaseNothing o hp ht =>
    rw [hp] at h
    rw [World.goto_pc_self]
    cases o with
    | raised =>
      refine absurd ?_ ht
      rw [h.2]
      exact claimedTargets_self
    | executed | replayed | conflicted => trivial
  | raise tc hp =>
    have hphase := Pc.phase_of_inTry hp
    rw [hphase] at h
    rw [World.goto_pc_self]
    cases tc with
    | true => exact h
    | false => exact h
  | rollbackRaises tc hp ht =>
    rw [hopen tc hp] at ht
    cases ht

/-! ### The rows -/

/-- The check finds this confirmation, and a quote that may be booked. -/
def Bookable (call : Call) (db : Database) (c : ConfirmationRow) : Prop :=
  db.confirmations.lookup call.confirmationToken = some c ∧
    ∃ q, db.quotes.lookup c.quoteId = some q ∧ q.quoteStatus = "eligible_for_booking"

/-- The call has committed a booking. -/
def Booked (call : Call) (c₀ c : Connection) : Prop :=
  c.inTransaction = false ∧
    ∃ confirmation, Bookable call c₀.rows confirmation ∧ c.rows = book call confirmation c₀.rows

/-- What the call has made of the connection at each place. -/
def RowsAt (call : Call) (c₀ c : Connection) : Pc → Prop
  | .claimRecord | .claimTarget | .selectConfirmation => c = c₀
  | .selectQuote confirmation =>
    c = c₀ ∧ c₀.rows.confirmations.lookup call.confirmationToken = some confirmation
  | .updateQuote confirmation => c = c₀ ∧ Bookable call c₀.rows confirmation
  | .updateConfirmation confirmation =>
    c.committed = c₀.committed ∧ c.rows = c₀.rows.bookQuote confirmation.quoteId ∧
      Bookable call c₀.rows confirmation
  | .commit confirmation =>
    c.committed = c₀.committed ∧ c.rows = book call confirmation c₀.rows ∧
      Bookable call c₀.rows confirmation
  | .completeRecord _ | .checkTransaction _ => c.committed = c₀.committed ∨ Booked call c₀ c
  | .rollback _ => c.committed = c₀.committed ∧ c.inTransaction = true
  | .abandon _ | .release .raised | .done .raised => c.rows = c₀.committed ∨ Booked call c₀ c
  | _ => True

/-- A booking changes the status of its quote. -/
theorem Bookable.book_ne {db : Database} {c : ConfirmationRow} (h : Bookable call db c) :
    book call c db ≠ db := by
  obtain ⟨-, q, hq, hstatus⟩ := h
  intro he
  have hlookup : (book call c db).quotes.lookup c.quoteId = some q.booked := by
    rw [book, Database.quotes_consumeConfirmation, Database.lookup_quotes_bookQuote, if_pos rfl,
      hq, Option.map_some]
  rw [he, hq] at hlookup
  have hbooked : q.quoteStatus = "booked" := congrArg QuoteRow.quoteStatus (Option.some.inj hlookup)
  rw [hstatus] at hbooked
  exact absurd hbooked (by decide)

/-- Inside the `try` block the call has committed its booking or nothing. -/
theorem RowsAt.committed {p : Pc} {c : Connection} {targetClaimed : Bool} (h : RowsAt call c₀ c p)
    (hp : p.inTry = some targetClaimed) : c.committed = c₀.committed ∨ Booked call c₀ c := by
  cases p with
  | claimTarget | selectConfirmation => exact .inl (congrArg Connection.committed h)
  | selectQuote | updateQuote => exact .inl (congrArg Connection.committed h.1)
  | updateConfirmation | commit => exact .inl h.1
  | completeRecord => exact h
  | claimRecord | checkTransaction | rollback | abandon | release | done => cases hp

theorem RowsAt.inTransaction {p : Pc} {c : Connection} {targetClaimed : Bool}
    (h : RowsAt call c₀ c p) (hp : p = .rollback targetClaimed) : c.inTransaction = true := by
  subst hp
  exact h.2

theorem RowsAt.step (h : RowsAt call c₀ w.connection (w.pc ()))
    (hs : step (fun _ => call) w ((), e) = some w') :
    RowsAt call c₀ w'.connection (w'.pc ()) := by
  obtain ⟨-, hm⟩ := step_eq_some_iff.mp hs
  cases hm with
  | waitRecord | waitTarget => exact h
  | replay | conflict =>
    rw [World.goto_pc_self]
    trivial
  | execute hp | claimTarget hp =>
    rw [hp] at h
    rw [World.goto_pc_self]
    exact h
  | missing hp =>
    rw [hp] at h
    rw [World.goto_pc_self]
    exact .inl (congrArg Connection.committed h)
  | selectConfirmation c hp hc =>
    rw [hp] at h
    rw [World.goto_pc_self]
    exact ⟨h, by rw [← h]; exact hc⟩
  | checkRaises c _ hp | stale c hp =>
    rw [hp] at h
    rw [World.goto_pc_self]
    exact .inl (congrArg Connection.committed h.1)
  | pass c hp he =>
    rw [hp] at h
    rw [World.goto_pc_self]
    obtain ⟨q, hq, heligible⟩ := he.quote
    rw [h.1] at hq
    exact ⟨h.1, h.2, q, hq, heligible.quoteStatus⟩
  | updateQuote c hp =>
    rw [hp] at h
    rw [World.goto_pc_self]
    refine ⟨?_, ?_, h.2⟩
    · show w.connection.committed = c₀.committed
      rw [h.1]
    · show w.connection.rows.bookQuote c.quoteId = _
      rw [h.1]
  | updateConfirmation c hp =>
    rw [hp] at h
    rw [World.goto_pc_self]
    exact ⟨h.1, congrArg (·.consumeConfirmation call.confirmationToken) h.2.1, h.2.2⟩
  | commit c hp =>
    rw [hp] at h
    rw [World.goto_pc_self]
    exact .inr ⟨rfl, c, h.2.2, h.2.1⟩
  | complete =>
    simp only [World.notifyAll, World.goto_pc_self]
    trivial
  | completeRaises _ hp =>
    rw [hp] at h
    rw [World.goto_pc_self]
    exact h
  | inTransaction tc hp ht =>
    rw [hp] at h
    rw [World.goto_pc_self]
    refine ⟨h.resolve_right fun hbooked => ?_, ht⟩
    rw [hbooked.1] at ht
    cases ht
  | noTransaction tc hp ht =>
    rw [hp] at h
    rw [World.goto_pc_self]
    exact h.imp_left (w.connection.rows_eq_committed ht).trans
  | rollback tc hp =>
    rw [hp] at h
    rw [World.goto_pc_self]
    exact .inl h.1
  | abandon tc hp | abandonNothing tc hp =>
    rw [hp] at h
    simp only [World.notifyAll, World.goto_pc_self]
    cases tc with
    | true => exact h
    | false => exact h
  | release o hp | releaseNothing o hp =>
    rw [hp] at h
    simp only [World.notifyAll, World.goto_pc_self]
    cases o with
    | raised => exact h
    | executed | replayed | conflicted => trivial
  | raise tc hp =>
    rw [World.goto_pc_self]
    exact h.committed hp
  | rollbackRaises tc hp ht =>
    -- Nobody else has ended the transaction that the call has found.
    rw [h.inTransaction hp] at ht
    cases ht

/-! ### The call that raises -/

/-- A call that raises alone has given back its claims, and the tables are those of the last commit,
unless it has committed its booking before. -/
theorem raised_alone
    (hrun : exec (Gateway.step fun _ => call) (.alone store c₀) labels = some w)
    (hraised : w.pc () = .done .raised) :
    (w.store = store ∧ w.claims = fun _ => none) ∧
      (w.connection.rows = c₀.committed ∨ Booked call c₀ w.connection) := by
  have hstart : RowsAt call c₀ (World.alone store c₀).connection .claimRecord ∧
      LeaseAt call store (.alone store c₀) ((World.alone store c₀).pc ()).phase :=
    ⟨rfl, LeaseAt.alone⟩
  obtain ⟨hrows, hlease⟩ :=
    exec_invariant
      (fun w : World Unit =>
        RowsAt call c₀ w.connection (w.pc ()) ∧ LeaseAt call store w (w.pc ()).phase)
      (fun _ _ _ h hs => ⟨h.1.step hs, h.2.step (fun _ => h.1.inTransaction) hs⟩) hstart hrun
  rw [hraised] at hlease hrows
  exact ⟨hlease, hrows⟩

/-- Nothing has changed between the states before and after the only call. -/
def ChangesNothing (store : Store BookingResult) (c₀ : Connection) (w : World Unit) : Prop :=
  w.connection.rows = c₀.rows ∧ w.store = store ∧ w.claims = fun _ => none

/-- **When a booking that raises changes nothing.** On a connection that
`build_seeded_read_connection` has returned, a call that raises, alone and at whatever place, leaves
all tables, the records and the target claims as they were, exactly if the bundle has no rows. -/
theorem raising_changes_nothing_iff {sqlite : RowInsert} {bundle : SeedBundle}
    (hseed : buildSeededReadConnection sqlite bundle = some c₀)
    (hrun : exec (Gateway.step fun _ => call) (.alone store c₀) labels = some w)
    (hraised : w.pc () = .done .raised) :
    ChangesNothing store c₀ w ↔ NoRows bundle := by
  obtain ⟨hlease, hrows⟩ := raised_alone hrun hraised
  obtain ⟨hno, rfl⟩ | ⟨hsome, hopen⟩ := seeded_cases hseed
  · refine iff_of_true ⟨hrows.resolve_right ?_, hlease⟩ hno
    rintro ⟨-, c, ⟨hc, -⟩, -⟩
    cases hc
  · refine iff_of_false (fun h => ?_) hsome
    obtain hcommitted | ⟨-, c, hc, hbook⟩ := hrows
    · exact hopen.rows (h.1.symm.trans (hcommitted.trans hopen.committed))
    · exact hc.book_ne (hbook.symm.trans h.1)

/-! ### An expiry that is no timestamp -/

/-- The row of a confirmation, whose columns are all texts that must not be missing. -/
def confirmationRow (row : List (String × Json)) : Option ConfirmationRow := do
  let text (column : String) : Option String := (row.lookup column).bind Json.toStr?
  some
    { confirmationToken := ← text "confirmation_token"
      quoteId := ← text "quote_id"
      officeId := ← text "office_id"
      brokerId := ← text "broker_id"
      carrierId := ← text "carrier_id"
      pickupDate := ← text "pickup_date"
      confirmationStatus := ← text "confirmation_status"
      expiresAt := ← text "expires_at" }

/-- An insert for bundles of confirmations. -/
def confirmationInsert : RowInsert where
  insert tableName row db :=
    if tableName = "booking_confirmations" then
      (confirmationRow row).bind fun confirmation =>
        (db.confirmations.insert? confirmation).map fun confirmations =>
          { db with confirmations := confirmations }
    else none
  adds := by
    intro tableName row db db' h hempty
    split_ifs at h
    obtain ⟨confirmation, -, h⟩ := Option.bind_eq_some_iff.mp h
    obtain ⟨confirmations, hinsert, rfl⟩ := Option.map_eq_some_iff.mp h
    obtain ⟨-, hrows⟩ := KeyedTable.insert?_eq_some hinsert
    have hnil : confirmations.rows = [] :=
      congrArg (fun db : Database => db.confirmations.rows) hempty
    rw [hnil] at hrows
    exact absurd hrows.symm (by simp)

/-- A bundle whose confirmation expires "tomorrow". -/
def tomorrowBundle : SeedBundle :=
  [("booking_confirmations", .arr [.obj
    [("confirmation_token", .str "confirm-quote-88219"), ("quote_id", .str "quote-88219"),
      ("office_id", .str "memphis"), ("broker_id", .str "broker-mem-001"),
      ("carrier_id", .str "carrier-4412"), ("pickup_date", .str "2026-03-17"),
      ("confirmation_status", .str "pending"), ("expires_at", .str "tomorrow")]])]

/-- The booking of its broker. -/
def tomorrowCall : Call where
  actionName := "booking_create_confirmed"
  confirmationToken := "confirm-quote-88219"
  idempotencyKey := "v1"
  actorBrokerId := "broker-mem-001"
  officeId := "memphis"

/-- A call claims its record and its target, raises, and handles the exception. -/
def raisingSteps : List (Unit × Event) :=
  [((), .run .first .first), ((), .run .first .first), ((), .raise), ((), .run .first .first),
    ((), .run .first .first), ((), .run .first .first)]

/-- Without any row, a call that raises after its idempotency claim changes nothing. -/
theorem raising_changes_nothing_iff_empty :
    ∃ w, exec (Gateway.step fun _ => tomorrowCall) (.alone (fun _ => none) (.ofDatabase .empty))
        raisingSteps = some w ∧
      w.pc () = .done .raised ∧ ChangesNothing (fun _ => none) (.ofDatabase .empty) w := by
  have hseed : buildSeededReadConnection confirmationInsert [] = some (.ofDatabase .empty) := rfl
  have hno : NoRows [] := ⟨rfl, fun _ _ => rfl⟩
  have hnothing {w : World Unit} (hrun : exec (Gateway.step fun _ => tomorrowCall)
      (.alone (fun _ => none) (.ofDatabase .empty)) raisingSteps = some w)
      (hraised : w.pc () = .done .raised) :
      ChangesNothing (fun _ => none) (.ofDatabase .empty) w :=
    (raising_changes_nothing_iff hseed hrun hraised).mpr hno
  exact ⟨_, rfl, rfl, hnothing rfl rfl⟩

/-- **A booking that raises empties the tables.** The expiry of the confirmation cannot be parsed,
the call raises and rolls back, and the confirmation is gone. -/
theorem raising_empties_tables :
    ∃ c w, buildSeededReadConnection confirmationInsert tomorrowBundle = some c ∧
      exec (Gateway.step fun _ => tomorrowCall) (.alone (fun _ => none) c)
        (List.replicate 8 ((), .run .first .first)) = some w ∧
      w.pc () = .done .raised ∧
      c.rows.confirmations.keys = ["confirm-quote-88219"] ∧
      w.connection.rows.confirmations.keys = [] ∧
      ¬ ChangesNothing (fun _ => none) c w := by
  refine ⟨_, _, rfl, rfl, rfl, rfl, rfl, fun h => ?_⟩
  have hrows := congrArg (fun db => db.confirmations.keys) h.1
  cases hrows

end Meridian.Gateway
