import Meridian.Gateway.IdempotentBooking
import Meridian.Gateway.SequentialBooking

/-!
# The exact effect of one booking

What `execute_confirmed_booking` returns and changes when a request with a fresh idempotency key is
executed alone. The conditions and the change are stated about the tables, without the functions of
the gateway.

## Main definitions

* `Meridian.Gateway.MayBook`: the conditions under which a confirmation may be booked.
* `Meridian.Gateway.ExactlyBooked`: the two fields that a booking changes, and all that it keeps.

## Main results

* `Meridian.Gateway.executeAt_spec`: the result and the tables of a call that executes.
* `Meridian.Gateway.booking_exact_effect`: one request and its repetition.
-/

namespace Meridian.Gateway

open Foundations Db

/-! ### The conditions and the change -/

/-- The text is a time with an offset from UTC. -/
def AwareTimestamp (text : String) : Prop :=
  ∃ time, parseTimestamp text = some time ∧ time.utcoffset.isSome

instance (text : String) : Decidable (AwareTimestamp text) :=
  decidable_of_iff ((parseTimestamp text).any fun time => time.utcoffset.isSome) <| by
    simp [AwareTimestamp, Option.any_eq_true]

/-- The expiry lies after the reading of the clock. -/
def Unexpired (expiresAt : String) (now : UtcTime) : Prop :=
  ∃ expiry offset, parseTimestamp expiresAt = some expiry ∧ expiry.utcoffset = some offset ∧
    now.1.localMicros < expiry.localMicros - offset

/-- The confirmation of the call and its quote allow the booking. -/
structure MayBook (call : Call) (db : Database) (now : UtcTime) (confirmation : ConfirmationRow)
    (quote : QuoteRow) : Prop where
  exists_confirmation : db.confirmations.lookup call.confirmationToken = some confirmation
  actor : confirmation.brokerId = call.actorBrokerId
  office : confirmation.officeId = call.officeId
  pending : confirmation.confirmationStatus = "pending"
  unexpired : Unexpired confirmation.expiresAt now
  exists_quote : db.quotes.lookup confirmation.quoteId = some quote
  quote_actor : quote.brokerId = call.actorBrokerId
  quote_office : quote.officeId = call.officeId
  quote_status : quote.quoteStatus = "eligible_for_booking"
  carrier : quote.carrierId = confirmation.carrierId
  pickup : quote.pickupDate = confirmation.pickupDate

/-- The status of the confirmation and that of its quote have changed, and nothing else. -/
structure ExactlyBooked (call : Call) (confirmation : ConfirmationRow) (db db' : Database) :
    Prop where
  quotes : db'.quotes.rows = db.quotes.rows.map fun quote =>
    if quote.quoteId = confirmation.quoteId then { quote with quoteStatus := "booked" } else quote
  confirmations : db'.confirmations.rows = db.confirmations.rows.map fun row =>
    if row.confirmationToken = call.confirmationToken then
      { row with confirmationStatus := "consumed" } else row
  offices : db'.offices = db.offices
  brokers : db'.brokers = db.brokers
  carriers : db'.carriers = db.carriers
  shipments : db'.shipments = db.shipments
  events : db'.events = db.events

variable {call : Call} {db db' : Database} {confirmation : ConfirmationRow} {quote : QuoteRow}
  {now : UtcTime} {r : BookingResult}

theorem exactlyBooked_book : ExactlyBooked call confirmation db (book call confirmation db) :=
  ⟨rfl, rfl, rfl, rfl, rfl, rfl, rfl⟩

/-! ### What a call computes -/

theorem expired_eq_false_iff {expiresAt : String} :
    expired expiresAt now = .ok false ↔ Unexpired expiresAt now := by
  unfold expired Unexpired
  cases parseTimestamp expiresAt with
  | none => simp
  | some expiry =>
    have hnow := now.2
    cases hoffset : expiry.utcoffset with
    | none => simp [Datetime.le?, hoffset, hnow]
    | some offset =>
      simp only [Datetime.le?, hoffset, hnow, Int.sub_zero, Except.ok.injEq,
        decide_eq_false_iff_not, Int.not_le, Option.some.injEq, exists_and_left, exists_eq_left']

/-- The check of the gateway passes exactly if the booking is allowed. -/
theorem mayBook_iff :
    MayBook call db now confirmation quote ↔
      db.confirmations.lookup call.confirmationToken = some confirmation ∧
        db.quotes.lookup confirmation.quoteId = some quote ∧
        Eligible call confirmation (some quote) now := by
  constructor
  · intro h
    exact ⟨h.exists_confirmation, h.exists_quote, h.office, h.actor, h.pending,
      expired_eq_false_iff.mpr h.unexpired, quote, rfl, h.quote_office, h.quote_actor,
      h.quote_status, h.carrier, h.pickup⟩
  · rintro ⟨hconfirmation, hquote, h⟩
    obtain ⟨_, ⟨⟩, heligible⟩ := h.quote
    exact ⟨hconfirmation, h.brokerId, h.officeId, h.confirmationStatus,
      expired_eq_false_iff.mp h.expiresAt, hquote, heligible.brokerId, heligible.officeId,
      heligible.quoteStatus, heligible.carrierId, heligible.pickupDate⟩

/-- What the result of a call says about the tables before and after it. -/
structure EffectOf (call : Call) (db : Database) (now : UtcTime) (r : BookingResult)
    (db' : Database) : Prop where
  submitted_iff : r.status = .submitted ↔
    ∃ confirmation quote, MayBook call db now confirmation quote
  submitted : r.status = .submitted →
    ∃ confirmation, db.confirmations.lookup call.confirmationToken = some confirmation ∧
      ExactlyBooked call confirmation db db'
  otherwise : r.status ≠ .submitted → (∃ reason, r.status = .denied reason) ∧ db' = db

/-- A denial that changes nothing is the right answer where the booking is not allowed. -/
theorem EffectOf.of_denied {reason : DenialReasonClass} (hr : r.status = .denied reason)
    (hno : ¬ ∃ confirmation quote, MayBook call db now confirmation quote) :
    EffectOf call db now r db where
  submitted_iff := iff_of_false (by rw [hr]; nofun) hno
  submitted h := by rw [hr] at h; cases h
  otherwise _ := ⟨⟨reason, hr⟩, rfl⟩

/-- A call on a table whose confirmations expire at aware times returns, with the right result. -/
theorem executeAt_spec (call : Call) (ticks : ℕ → UtcTime × UtcTime)
    (haware : ∀ row ∈ db.confirmations.rows, AwareTimestamp row.expiresAt) :
    ∃ r db', executeAt ticks call db = some (r, db') ∧ EffectOf call db (ticks 3).1 r db' := by
  unfold executeAt
  cases hc : db.confirmations.lookup call.confirmationToken with
  | none =>
    refine ⟨_, _, rfl, .of_denied rfl ?_⟩
    rintro ⟨confirmation, quote, h⟩
    rw [h.exists_confirmation] at hc
    cases hc
  | some confirmation =>
    obtain ⟨o, ho⟩ : ∃ o, staleResultIfNeeded call confirmation
        (db.quotes.lookup confirmation.quoteId) (ticks 3).1 (ticks 3).2 = .ok o :=
      staleResultIfNeeded_isOk_iff.mpr (.inr (.inr (haware _ (KeyedTable.mem_of_lookup hc))))
    simp only [ho]
    cases o with
    | some result =>
      obtain rfl := staleResultIfNeeded_eq_some ho
      refine ⟨_, _, rfl, .of_denied rfl ?_⟩
      rintro ⟨confirmation', quote, h⟩
      obtain ⟨hc', hquote, heligible⟩ := mayBook_iff.mp h
      obtain rfl : confirmation = confirmation' := Option.some.inj (hc.symm.trans hc')
      rw [← hquote] at heligible
      rw [staleResultIfNeeded_eq_none_iff.mpr heligible] at ho
      cases ho
    | none =>
      have heligible := staleResultIfNeeded_eq_none_iff.mp ho
      obtain ⟨quote, hquote, -⟩ := heligible.quote
      rw [hquote] at heligible
      exact ⟨_, _, rfl, iff_of_true rfl ⟨confirmation, quote, mayBook_iff.mpr ⟨hc, hquote,
        heligible⟩⟩, fun _ => ⟨confirmation, hc, exactlyBooked_book⟩, fun h => absurd rfl h⟩

/-! ### One request and its repetition -/

variable {ι : Type*} [DecidableEq ι] {i j : ι}

/-- **The exact effect of one booking.** A request with a fresh idempotency key is executed alone,
on tables whose confirmations expire at aware times. It returns a result that is `submitted` exactly
if the booking is allowed at the reading of the clock in the check; then the quote is booked, the
confirmation is consumed, and every other field of every table is as before; otherwise it is denied
and no table changes. The same request made again returns the same result and changes no table. -/
theorem booking_exact_effect (calls : ι → Call) (w : World ι)
    (ticks ticks' : ℕ → UtcTime × UtcTime)
    (haware : ∀ row ∈ w.connection.rows.confirmations.rows, AwareTimestamp row.expiresAt)
    (hquiet : Quiet w) (hi : w.pc i = .claimRecord) (hj : w.pc j = .claimRecord) (hne : j ≠ i)
    (hfresh : w.store (calls i).idempotencyKey = none) (hsame : calls j = calls i) :
    ∃ n w₁ r, exec (step calls) w (soloLabels i ticks n) = some w₁ ∧
      w₁.pc i = .done (.executed r) ∧
      EffectOf (calls i) w.connection.rows (ticks 3).1 r w₁.connection.rows ∧
      ∃ w₂, exec (step calls) w₁ (soloLabels j ticks' 1) = some w₂ ∧
        w₂.pc j = .done (.replayed r) ∧ w₂.connection.rows = w₁.connection.rows := by
  obtain ⟨r, db', hexecute, heffect⟩ := executeAt_spec (calls i) ticks haware
  obtain ⟨n, w₁, hexec, hdone, hserved⟩ := exec_soloLabels hquiet hi hfresh hexecute
  have hrows : w₁.connection.rows = db' := hserved.rows
  rw [← hrows] at heffect
  refine ⟨n, w₁, r, hexec, hdone, heffect, ?_⟩
  have hrecord : w₁.store (calls j).idempotencyKey =
      some (.completed (calls j).requestFingerprint r) := by
    rw [hserved.store, hsame]
    exact Function.update_self ..
  have hpc : w₁.pc j = .claimRecord := (hserved.others j hne).trans hj
  have hreplay : Move calls w₁ j (.run (ticks' 0).1 (ticks' 0).2)
      (w₁.goto j (.done (.replayed r))) := .replay r hpc hrecord
  exact ⟨_, exec_soloLabels_succ rfl (by rw [hserved.quiet.awake]) hreplay, World.goto_pc_self,
    rfl⟩

theorem memphis_mayBook : MayBook (memphisCall "confirm-quote-88219" "v1") memphisDatabase .first
    memphisConfirmation memphisQuote where
  exists_confirmation := rfl
  actor := rfl
  office := rfl
  pending := rfl
  unexpired := expired_eq_false_iff.mp (by rfl)
  exists_quote := rfl
  quote_actor := rfl
  quote_office := rfl
  quote_status := rfl
  carrier := rfl
  pickup := rfl

/-- A booking that is allowed. -/
theorem booking_exact_effect_memphis :
    ∃ n w₁ r, exec (step fun _ : Bool => memphisCall "confirm-quote-88219" "v1")
        (.start memphisDatabase) (soloLabels true (fun _ => (.first, .first)) n) = some w₁ ∧
      w₁.pc true = .done (.executed r) ∧ r.status = .submitted := by
  have haware : ∀ row ∈ memphisDatabase.confirmations.rows, AwareTimestamp row.expiresAt := by
    decide +kernel
  obtain ⟨n, w₁, r, hexec, hdone, heffect, -⟩ :=
    booking_exact_effect (fun _ : Bool => memphisCall "confirm-quote-88219" "v1")
      (.start memphisDatabase) (fun _ => (.first, .first)) (fun _ => (.first, .first)) haware
      ⟨rfl, rfl⟩ rfl rfl Bool.false_ne_true rfl rfl
  exact ⟨n, w₁, r, hexec, hdone, heffect.submitted_iff.mpr ⟨_, _, memphis_mayBook⟩⟩

end Meridian.Gateway
