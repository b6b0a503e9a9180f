import Meridian.Api.WrongToken
import Meridian.Gateway.Authority
import Meridian.Gateway.WriteGateway

/-!
# Who books a quote

The requests of `post_confirm_action` as the calls of `execute_confirmed_booking` that they make,
which the application runs side by side on one connection. A quote is booked only for a request
whose session belongs to the broker and the office of the quote.

## Main definitions

* `Meridian.Api.Routes.BookingRequest`: a confirmation request of strings, with what it finds.
* `Meridian.Api.Routes.BookingRequest.call`: the call that it makes.
* `Meridian.Api.Routes.ConfirmedBy`: a request confirms the booking of a quote.

## Main results

* `Meridian.Api.Routes.BookingRequest.call_eq_ok_iff`: past the checks of the endpoint the gateway
  raises nothing.
* `Meridian.Api.Routes.booked_by_own_broker`: only its own broker books a quote.
-/

namespace Meridian.Api.Routes

open Foundations Db Gateway Chat

/-! ### Requests as calls -/

/-- A confirmation request with nothing but strings, and the sessions that it finds. -/
structure BookingRequest where
  post : ActionPost
  request : ConfirmRequest
  payload_eq : post.payload = .ofRequest request
  store : SessionStore

/-- `post_confirm_action` up to the call of `execute_confirmed_booking`. -/
def BookingRequest.call (app : App) (r : BookingRequest) : Except Failure Call := do
  let identity ← trustedActionIdentity app r.post
  let _session ← actionSession r.store identity r.post.payload
  (executeWriteGateway (identity.call (r.request.actionName.getD "")
    (r.request.confirmationToken.getD "") (r.request.idempotencyKey.getD ""))
    ⟨some identity.role, some identity.officeId, some identity.brokerId⟩).mapError (.http 400)

/-- The request is for the booking of the quote: it comes from a session of the broker and the
office of the quote, whose token it presents, and names a confirmation for the quote that is one of
the given tables, was pending and had not expired. -/
structure ConfirmedBy (r : BookingRequest) (found : Set Database) (now : UtcTime) (quote : QuoteRow)
    (session : SessionState) (confirmation : ConfirmationRow) : Prop where
  stored : ∃ id, r.request.sessionId = some id ∧ r.store.sessions id = some session
  sessionAccessToken : r.request.sessionAccessToken = some session.sessionAccessToken
  brokerId : session.brokerId = quote.brokerId
  officeId : session.officeId = quote.officeId
  known : quote.brokerId ∈ (r.post.brokersForOffice quote.officeId).map BrokerRow.brokerId
  confirmationToken : r.request.confirmationToken = some confirmation.confirmationToken
  lookup : ∃ db ∈ found, db.confirmations.lookup confirmation.confirmationToken = some confirmation
  quoteId : confirmation.quoteId = quote.quoteId
  pending : confirmation.confirmationStatus = "pending"
  unexpired : Unexpired confirmation.expiresAt now
  eligible : quote.quoteStatus = "eligible_for_booking"

variable {app : App} {r : BookingRequest} {post : ActionPost} {identity : TrustedIdentity}
  {session : SessionState} {store : SessionStore} {call : Call}

/-! ### The checks -/

/-- A trusted identity is a broker of its office. -/
theorem trustedActionIdentity_eq_ok (h : trustedActionIdentity app post = .ok identity) :
    identity.role = "broker" ∧
      identity.brokerId ∈ (post.brokersForOffice identity.officeId).map BrokerRow.brokerId := by
  have hvalidated {candidate : TrustedIdentity}
      (h : validatedTrustedIdentity post.brokersForOffice candidate = .ok identity) :
      identity.role = "broker" ∧
        identity.brokerId ∈ (post.brokersForOffice identity.officeId).map BrokerRow.brokerId := by
    simp only [validatedTrustedIdentity, bind_eq_ok, require_eq_ok] at h
    obtain ⟨-, hrole, -, hbroker, ⟨⟩⟩ := h
    exact ⟨hrole, hbroker⟩
  rw [trustedActionIdentity, bind_eq_ok] at h
  obtain ⟨stated, -, h⟩ := h
  cases stated with
  | some stated => exact hvalidated h
  | none =>
    simp only [bind_eq_ok, require_eq_ok] at h
    obtain ⟨-, -, -, -, h⟩ := h
    split at h
    · exact hvalidated h
    · cases h

/-- What the checks of the endpoint establish. -/
theorem actionSession_ofRequest_eq_ok {request : ConfirmRequest}
    (h : actionSession store identity (.ofRequest request) = .ok session) :
    request.actionName = some "booking_create_confirmed" ∧
      request.confirmationToken.getD "" ≠ "" ∧ request.idempotencyKey.getD "" ≠ "" ∧
      (∃ id, request.sessionId = some id ∧ store.sessions id = some session) ∧
      request.sessionAccessToken = some session.sessionAccessToken ∧
      session.brokerId = identity.brokerId ∧ session.officeId = identity.officeId := by
  simp only [actionSession, bind_eq_ok, require_eq_ok, ActionPayload.ofRequest, truthy_strOrNull,
    Json.toStr?_strOrNull] at h
  obtain ⟨-, -, -, haction, -, htoken, -, hkey, _, hrequired, -, -, found, hfound, -, hpresented,
    -, hmatch, hreturned⟩ := h
  cases hreturned
  have hnamed : request.sessionId.getD "" ≠ "" := require_eq_ok.mp hrequired
  have hstored : store.sessions (request.sessionId.getD "") = some session := by
    cases hget : store.sessions (request.sessionId.getD "") with
    | none =>
      rw [hget] at hfound
      cases hfound
    | some stored =>
      rw [hget] at hfound
      cases hfound
      rfl
  cases hsession : request.sessionId with
  | none =>
    rw [hsession] at hnamed
    exact absurd rfl hnamed
  | some id =>
    rw [hsession] at hstored
    exact ⟨haction, htoken, hkey, ⟨id, rfl, hstored⟩, hpresented, hmatch⟩

/-- **Past the checks of the endpoint the gateway raises nothing.** -/
theorem BookingRequest.call_eq_ok_iff : r.call app = .ok call ↔
    ∃ identity session, trustedActionIdentity app r.post = .ok identity ∧
      actionSession r.store identity r.post.payload = .ok session ∧
      identity.call (r.request.actionName.getD "") (r.request.confirmationToken.getD "")
        (r.request.idempotencyKey.getD "") = call := by
  have haccepted {identity : TrustedIdentity} {session : SessionState}
      (hidentity : trustedActionIdentity app r.post = .ok identity)
      (hsession : actionSession r.store identity r.post.payload = .ok session) :
      Accepted (identity.call (r.request.actionName.getD "")
        (r.request.confirmationToken.getD "") (r.request.idempotencyKey.getD ""))
        ⟨some identity.role, some identity.officeId, some identity.brokerId⟩ := by
    rw [r.payload_eq] at hsession
    obtain ⟨haction, htoken, hkey, -⟩ := actionSession_ofRequest_eq_ok hsession
    exact ⟨by rw [haction]; rfl, congrArg some (trustedActionIdentity_eq_ok hidentity).1, rfl, rfl,
      htoken, hkey⟩
  simp only [BookingRequest.call, bind_eq_ok, mapError_eq_ok, executeWriteGateway_eq_ok_iff]
  constructor
  · rintro ⟨identity, hidentity, session, hsession, -, hcall⟩
    exact ⟨identity, session, hidentity, hsession, hcall⟩
  · rintro ⟨identity, session, hidentity, hsession, hcall⟩
    exact ⟨identity, hidentity, session, hsession, haccepted hidentity hsession, hcall⟩

/-! ### Runs -/

/-- A call that may book comes from a request that confirms the booking. -/
theorem BookingRequest.confirmedBy {found : Set Database} {db : Database} {now : UtcTime}
    {quote : QuoteRow} {confirmation : ConfirmationRow} (hcall : r.call app = .ok call)
    (h : MayBook call db now confirmation quote)
    (hfound : ∃ confirmed ∈ found, db.confirmations = confirmed.confirmations) :
    ∃ session, ConfirmedBy r found now quote session confirmation := by
  obtain ⟨identity, session, hidentity, hsession, rfl⟩ := call_eq_ok_iff.mp hcall
  rw [r.payload_eq] at hsession
  obtain ⟨-, htoken, -, hstored, hpresented, hbroker, hoffice⟩ :=
    actionSession_ofRequest_eq_ok hsession
  have hquote_broker : quote.brokerId = identity.brokerId := h.quote_actor
  have hquote_office : quote.officeId = identity.officeId := h.quote_office
  have hkey : confirmation.confirmationToken = r.request.confirmationToken.getD "" :=
    KeyedTable.key_of_lookup h.exists_confirmation
  have hnamed : r.request.confirmationToken = some confirmation.confirmationToken :=
    (getD_eq_iff (hkey ▸ htoken)).mp hkey.symm
  refine ⟨session, hstored, hpresented, hbroker.trans hquote_broker.symm,
    hoffice.trans hquote_office.symm, ?_, hnamed, ?_,
    (KeyedTable.key_of_lookup h.exists_quote).symm, h.pending, h.unexpired, h.quote_status⟩
  · rw [hquote_broker, hquote_office]
    exact (trustedActionIdentity_eq_ok hidentity).2
  · obtain ⟨confirmed, hmem, hsame⟩ := hfound
    rw [hkey]
    exact ⟨confirmed, hmem, hsame ▸ h.exists_confirmation⟩

variable {ι : Type*} [DecidableEq ι] {calls : ι → Call} {requests : ι → BookingRequest}
  {w₀ w : World ι} {labels : List (ι × Gateway.Event)}

/-- **Only its own broker books a quote.** Let the calls of any confirmation requests run side by
side, in any order of their steps and whichever of them raise; a transaction may be open at the
start. Suppose that no two rows of a quote can be found at the start, one that the connection reads
and another that is committed. If then the connection reads a row of the quote that it did not show
at the start, or has committed one, then it is the row of the start, booked, and one of the requests
was for that: it came from a session of the broker and the office of the quote, presented its token,
and named a confirmation for the quote that could be found at the start, was pending and had not
expired at a time that its call has read. -/
theorem booked_by_own_broker (hcalls : ∀ i, (requests i).call app = .ok (calls i))
    (h : Initial w₀) (hrun : exec (step calls) w₀ labels = some w) {quoteId : String}
    (hone : (w₀.connection.quoteRows quoteId).Subsingleton) {row : QuoteRow}
    (hrow : row ∈ w.connection.quoteRows quoteId)
    (hnew : row ∉ w₀.connection.quoteRows quoteId) :
    ∃ quote ∈ w₀.connection.quoteRows quoteId, row = quote.booked ∧
      ∃ i now session confirmation, ReadsIn labels i now ∧
        ConfirmedBy (requests i) w₀.connection.tables now quote session confirmation := by
  have hinv := h.bookingInv hrun
  obtain ⟨rows, hrows, hlookup⟩ := hrow
  have hquotes : ∃ db ∈ w₀.connection.tables,
      Accounted calls (ReadsIn labels) w₀.connection.tables db rows := by
    obtain rfl | rfl := hrows
    · exact hinv.rows
    · exact hinv.committed
  obtain ⟨db, hdb, hquotes⟩ := hquotes
  obtain hsame | ⟨hbooked, i, confirmation, hauthorised, hid⟩ := hquotes.quote quoteId
  · exact absurd ⟨db, hdb, hsame.symm.trans hlookup⟩ hnew
  · obtain ⟨confirmed, hconfirmed, quoted, hquoted, now, quote, hread, hmay⟩ := hauthorised
    have hquote : quote ∈ w₀.connection.quoteRows quoteId :=
      ⟨quoted, hquoted, hid ▸ hmay.exists_quote⟩
    rw [hlookup] at hbooked
    obtain ⟨quote', hquote', rfl⟩ := Option.map_eq_some_iff.mp hbooked.symm
    obtain rfl : quote' = quote := hone ⟨db, hdb, hquote'⟩ hquote
    obtain ⟨session, hconfirmed⟩ :=
      BookingRequest.confirmedBy (hcalls i) hmay ⟨confirmed, hconfirmed, rfl⟩
    exact ⟨quote', hquote, rfl, i, now, session, confirmation, hread, hconfirmed⟩

section Memphis

/-- What the broker of a session sends to book the quote. -/
def memphisConfirm (session : SessionState) : ConfirmRequest where
  actionName := some "booking_create_confirmed"
  confirmationToken := some "confirm-quote-88219"
  idempotencyKey := some "v1"
  sessionId := some session.sessionId
  sessionAccessToken := some session.sessionAccessToken

/-- The request of that, where the session is the only one. -/
def memphisRequest (session : SessionState) : BookingRequest where
  post := ⟨.ofRequest (memphisConfirm session), .trusted memphisIdentity, [],
    fun office => [⟨"broker-123", office, "Morgan", "broker"⟩], memphisReadings⟩
  request := memphisConfirm session
  payload_eq := rfl
  store := ⟨fun id => if id = session.sessionId then some session else none, fun _ => 0⟩

end Memphis

/-- A quote of a seeded connection is booked by a request that is sent twice. -/
theorem booked_by_own_broker_memphis : ∃ w : World (Fin 2),
    exec (step fun _ => memphisCall "confirm-quote-88219" "v1") (.seeded memphisDatabase)
      (List.replicate 9 (goOn 0)) = some w ∧
    w.connection.committed.quotes.lookup "quote-88219" = some memphisQuote.booked ∧
    ∃ quote now session confirmation, memphisQuote.booked = quote.booked ∧
      ConfirmedBy (memphisRequest (newSession "Book" none)) {memphisDatabase, .empty} now quote
        session confirmation := by
  have hquotes : (exec (step fun _ => memphisCall "confirm-quote-88219" "v1")
      (.seeded memphisDatabase) (List.replicate 9 (goOn (0 : Fin 2)))).map
        (fun w => w.connection.committed.quotes.lookup "quote-88219") =
      some (some memphisQuote.booked) := by rfl
  obtain ⟨w, hw, hbooked⟩ := Option.map_eq_some_iff.mp hquotes
  have hcalls (_ : Fin 2) : (memphisRequest (newSession "Book" none)).call testApp =
      .ok (memphisCall "confirm-quote-88219" "v1") := by rfl
  have hnew : memphisQuote.booked ∉
      (World.seeded memphisDatabase : World (Fin 2)).connection.quoteRows "quote-88219" := by
    rintro ⟨_, rfl | rfl, hlookup⟩
    · exact absurd (Option.some.inj hlookup) (by decide)
    · cases hlookup
  obtain ⟨quote, -, hrow, -, now, session, confirmation, -, hconfirmed⟩ :=
    booked_by_own_broker hcalls (.seeded memphisDatabase) hw
      (Connection.quoteRows_subsingleton rfl) ⟨_, Connection.committed_mem_tables, hbooked⟩ hnew
  exact ⟨w, hw, hbooked, quote, now, session, confirmation, hrow, hconfirmed⟩

end Meridian.Api.Routes
