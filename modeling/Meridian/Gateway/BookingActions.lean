import Meridian.Db.Rows
import Meridian.Foundations.Datetime
import Meridian.Foundations.Text

/-!
# Requests and results of a booking

The local computations of `backend/app/gateway/booking_actions.py`: the fingerprint of a request,
the results with their audit, and the check whether a confirmation is stale.

## Main definitions

* `Meridian.Gateway.Call`: the arguments of `execute_confirmed_booking`.
* `Meridian.Gateway.BookingResult`: what it returns.
* `Meridian.Gateway.staleResultIfNeeded`: the check before a booking.
* `Meridian.Gateway.Eligible`: the condition under which the check passes.

## Main results

* `Meridian.Gateway.staleResultIfNeeded_eq_none_iff`: the check passes exactly for eligible calls.
* `Meridian.Gateway.staleResultIfNeeded_eq_some`: otherwise it denies with `stale_state`.
* `Meridian.Gateway.staleResultIfNeeded_isOk_iff`: exactly when it does not raise.
-/

namespace Meridian.Gateway

open Foundations Db

/-! ### Requests -/

/-- The arguments of `execute_confirmed_booking`. -/
structure Call where
  actionName : String
  confirmationToken : String
  idempotencyKey : String
  actorBrokerId : String
  officeId : String
  deriving DecidableEq

/-- `_request_fingerprint`. -/
def Call.requestFingerprint (call : Call) : String :=
  "|".intercalate [call.actionName, call.confirmationToken, call.actorBrokerId, call.officeId]

/-! ### Results -/

/-- The values that the gateway gives to `denial_reason_class`. -/
inductive DenialReasonClass
  | staleState
  | unsupportedOrMissingConfirmation
  | idempotencyConflict
  deriving DecidableEq

/-- The text of a denial reason. -/
def DenialReasonClass.text : DenialReasonClass → String
  | staleState => "stale_state"
  | unsupportedOrMissingConfirmation => "unsupported_or_missing_confirmation"
  | idempotencyConflict => "idempotency_conflict"

/-- `status` together with `denial_reason_class`, which only a denied result has. -/
inductive BookingStatus
  | submitted
  | denied (denialReasonClass : DenialReasonClass)
  deriving DecidableEq

/-- The `audit` of a result. -/
structure ResultAudit where
  toolPath : List String
  idempotencyKey : String
  outcome : String
  actorBrokerId : String
  officeId : String
  outcomeRecordedAt : String
  deriving DecidableEq

/-- What `execute_confirmed_booking` returns. -/
structure BookingResult where
  actionName : String
  status : BookingStatus
  confirmationToken : String
  quoteId : Option String
  carrierId : Option String
  pickupDate : Option String
  officeId : String
  actorBrokerId : String
  idempotencyKey : String
  audit : ResultAudit
  deriving DecidableEq

/-- The text that a reading of the clock is recorded as. -/
def recordedAt (now : UtcTime) : String := Text.replace now.1.isoformat "+00:00" "Z"

/-- `_result_audit`. -/
def resultAudit (call : Call) (outcome : String) (outcomeRecordedAt : Option String)
    (now : UtcTime) : ResultAudit where
  toolPath := ["booking_create_confirmed"]
  idempotencyKey := call.idempotencyKey
  outcome := outcome
  actorBrokerId := call.actorBrokerId
  officeId := call.officeId
  outcomeRecordedAt :=
    match outcomeRecordedAt with
    | some text => if text = "" then recordedAt now else text
    | none => recordedAt now

/-- `_submitted_result` for a confirmation. -/
def submittedResult (call : Call) (confirmation : ConfirmationRow) (now : UtcTime) :
    BookingResult where
  actionName := call.actionName
  status := .submitted
  confirmationToken := call.confirmationToken
  quoteId := some confirmation.quoteId
  carrierId := some confirmation.carrierId
  pickupDate := some confirmation.pickupDate
  officeId := call.officeId
  actorBrokerId := call.actorBrokerId
  idempotencyKey := call.idempotencyKey
  audit := resultAudit call "submitted" none now

/-- `_denied_result`. -/
def deniedResult (call : Call) (confirmationToken : String) (reason : DenialReasonClass)
    (outcomeRecordedAt quoteId carrierId pickupDate : Option String) (now : UtcTime) :
    BookingResult where
  actionName := call.actionName
  status := .denied reason
  confirmationToken := confirmationToken
  quoteId := quoteId
  carrierId := carrierId
  pickupDate := pickupDate
  officeId := call.officeId
  actorBrokerId := call.actorBrokerId
  idempotencyKey := call.idempotencyKey
  audit := resultAudit call reason.text outcomeRecordedAt now

/-- The denial of a call whose key belongs to another request, with the data of that request's
result. -/
def conflictResult (call : Call) (existing : BookingResult) (now : UtcTime) : BookingResult :=
  deniedResult call call.confirmationToken .idempotencyConflict
    (some existing.audit.outcomeRecordedAt) existing.quoteId existing.carrierId
    existing.pickupDate now

/-- The denial of a call whose confirmation does not exist. -/
def missingResult (call : Call) (now : UtcTime) : BookingResult :=
  deniedResult call call.confirmationToken .unsupportedOrMissingConfirmation none none none none
    now

/-- The denial of a call whose confirmation or quote is stale. -/
def staleResult (call : Call) (confirmation : ConfirmationRow) (now : UtcTime) : BookingResult :=
  deniedResult call confirmation.confirmationToken .staleState none (some confirmation.quoteId)
    (some confirmation.carrierId) (some confirmation.pickupDate) now

/-! ### The check for stale state -/

/-- The exceptions of `_parse_timestamp(...) <= _now()`. -/
inductive TimestampError
  | valueError
  | typeError
  deriving DecidableEq

/-- `_parse_timestamp`. -/
def parseTimestamp (rawValue : String) : Option Datetime :=
  Datetime.fromisoformat (Text.replace rawValue "Z" "+00:00")

/-- `_parse_timestamp(expires_at) <= _now()`, or the exception it raises. -/
def expired (expiresAt : String) (now : UtcTime) : Except TimestampError Bool :=
  match parseTimestamp expiresAt with
  | none => .error .valueError
  | some expiry =>
    match expiry.le? now.1 with
    | none => .error .typeError
    | some expired => .ok expired

/-- `_stale_result_if_needed`: a denial, or nothing if the booking may go on. The clock is read
once for the comparison and once for the audit. -/
def staleResultIfNeeded (call : Call) (confirmation : ConfirmationRow) (quote : Option QuoteRow)
    (now auditNow : UtcTime) : Except TimestampError (Option BookingResult) :=
  if confirmation.officeId ≠ call.officeId ∨ confirmation.brokerId ≠ call.actorBrokerId then
    .ok (some (staleResult call confirmation auditNow))
  else if confirmation.confirmationStatus ≠ "pending" then
    .ok (some (staleResult call confirmation auditNow))
  else
    match expired confirmation.expiresAt now with
    | .error e => .error e
    | .ok true => .ok (some (staleResult call confirmation auditNow))
    | .ok false =>
      match quote with
      | none => .ok (some (staleResult call confirmation auditNow))
      | some quote =>
        if quote.officeId ≠ call.officeId ∨ quote.brokerId ≠ call.actorBrokerId then
          .ok (some (staleResult call confirmation auditNow))
        else if quote.quoteStatus ≠ "eligible_for_booking" then
          .ok (some (staleResult call confirmation auditNow))
        else if quote.carrierId ≠ confirmation.carrierId ∨
            quote.pickupDate ≠ confirmation.pickupDate then
          .ok (some (staleResult call confirmation auditNow))
        else .ok none

/-- What the check asks of a quote. -/
structure QuoteEligible (call : Call) (confirmation : ConfirmationRow) (quote : QuoteRow) :
    Prop where
  officeId : quote.officeId = call.officeId
  brokerId : quote.brokerId = call.actorBrokerId
  quoteStatus : quote.quoteStatus = "eligible_for_booking"
  carrierId : quote.carrierId = confirmation.carrierId
  pickupDate : quote.pickupDate = confirmation.pickupDate

/-- What the check asks of a confirmation and its quote. -/
structure Eligible (call : Call) (confirmation : ConfirmationRow) (quote : Option QuoteRow)
    (now : UtcTime) : Prop where
  officeId : confirmation.officeId = call.officeId
  brokerId : confirmation.brokerId = call.actorBrokerId
  confirmationStatus : confirmation.confirmationStatus = "pending"
  expiresAt : expired confirmation.expiresAt now = .ok false
  quote : ∃ row, quote = some row ∧ QuoteEligible call confirmation row

variable {call : Call} {confirmation : ConfirmationRow} {quote : Option QuoteRow}
  {now auditNow : UtcTime} {r : BookingResult}

/-- The check passes exactly for an eligible confirmation and quote. -/
theorem staleResultIfNeeded_eq_none_iff :
    staleResultIfNeeded call confirmation quote now auditNow = .ok none ↔
      Eligible call confirmation quote now := by
  constructor
  · intro h
    unfold staleResultIfNeeded at h
    split at h
    · simp at h
    rename_i h₁
    split at h
    · simp at h
    rename_i h₂
    split at h
    · simp at h
    · simp at h
    rename_i h₃
    split at h
    · simp at h
    rename_i row
    split at h
    · simp at h
    rename_i h₄
    split at h
    · simp at h
    rename_i h₅
    split at h
    · simp at h
    rename_i h₆
    rw [not_or, not_not, not_not] at h₁ h₄ h₆
    rw [not_not] at h₂ h₅
    exact ⟨h₁.1, h₁.2, h₂, h₃, row, rfl, h₄.1, h₄.2, h₅, h₆.1, h₆.2⟩
  · rintro ⟨h₁, h₂, h₃, h₄, row, rfl, h₅⟩
    simp [staleResultIfNeeded, h₁, h₂, h₃, h₄, h₅.officeId, h₅.brokerId, h₅.quoteStatus,
      h₅.carrierId, h₅.pickupDate]

/-- A call that is not let through is denied with `stale_state`, whatever the reason. -/
theorem staleResultIfNeeded_eq_some
    (h : staleResultIfNeeded call confirmation quote now auditNow = .ok (some r)) :
    r = staleResult call confirmation auditNow := by
  unfold staleResultIfNeeded at h
  repeat' split at h
  all_goals simp_all

/-- The check raises only on an expiry that is malformed or naive. -/
theorem staleResultIfNeeded_isOk_iff :
    (∃ o, staleResultIfNeeded call confirmation quote now auditNow = .ok o) ↔
      (confirmation.officeId ≠ call.officeId ∨ confirmation.brokerId ≠ call.actorBrokerId) ∨
        confirmation.confirmationStatus ≠ "pending" ∨
        ∃ expiry, parseTimestamp confirmation.expiresAt = some expiry ∧
          expiry.utcoffset.isSome := by
  have hexp : (∃ b, expired confirmation.expiresAt now = .ok b) ↔
      ∃ expiry, parseTimestamp confirmation.expiresAt = some expiry ∧ expiry.utcoffset.isSome := by
    unfold expired
    cases parseTimestamp confirmation.expiresAt with
    | none => simp
    | some expiry =>
      have h := UtcTime.le?_isSome_iff expiry now
      cases hle : expiry.le? now.1 <;> simp_all
  rw [← hexp]
  unfold staleResultIfNeeded
  split
  · simp_all
  · rename_i h₁
    simp only [h₁, false_or]
    split
    · simp_all
    · rename_i h₂
      simp only [h₂, false_or]
      cases expired confirmation.expiresAt now with
      | error e => simp
      | ok b =>
        cases b with
        | true => simp
        | false =>
          simp only [Except.ok.injEq, exists_eq', iff_true]
          repeat' split
          all_goals exact ⟨_, rfl⟩

end Meridian.Gateway
