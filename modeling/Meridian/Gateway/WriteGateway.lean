import Meridian.Gateway.IdempotentBooking
import Meridian.Gateway.SequentialBooking

/-!
# The write gateway

`execute_write_gateway` of `backend/app/gateway/write_gateway.py`: the checks before a booking. It
takes every nonempty confirmation token and the broker and office of the identity, and the
fingerprint of a request joins them with `|`. Two requests may therefore have one fingerprint, and
the second of them is answered with the result of the first.

## Main definitions

* `Meridian.Gateway.executeWriteGateway`: the checks and the call that passes them.
* `Meridian.Gateway.Call.pieces`: the fields of a request, cut at the separator.
* `Meridian.Gateway.World.DeniesOther`: of two calls with one key, one is denied.

## Main results

* `Meridian.Gateway.other_request_denied_iff`: exactly when a key answers only one of two requests.
* `Meridian.Gateway.Call.Plain.pieces_ne`: in particular where no broker or office has a `|`.
* `Meridian.Gateway.booking_of_other_broker_replayed`: a broker is answered with the booking of
  another.
-/

namespace Meridian.Gateway

open Foundations Db

/-! ### The checks -/

/-- The claims that the gateway reads; a claim that is absent or no text is `none`. -/
structure GatewayClaims where
  role : Option String
  officeId : Option String
  brokerId : Option String

/-- `execute_write_gateway`: the call that is executed, or the message of the `ValueError`. -/
def executeWriteGateway (request : Call) (claims : GatewayClaims) : Except String Call :=
  if request.actionName ≠ "booking_create_confirmed" then .error "unsupported action"
  else if claims.role ≠ some "broker" then .error "broker role required"
  else if claims.officeId ≠ some request.officeId then
    .error "permission context office does not match request"
  else if claims.brokerId ≠ some request.actorBrokerId then
    .error "permission context broker does not match request"
  else if request.confirmationToken = "" then .error "confirmation token is required"
  else if request.idempotencyKey = "" then .error "idempotency key is required"
  else .ok request

/-- What the gateway takes. -/
structure Accepted (request : Call) (claims : GatewayClaims) : Prop where
  actionName : request.actionName = "booking_create_confirmed"
  role : claims.role = some "broker"
  officeId : claims.officeId = some request.officeId
  brokerId : claims.brokerId = some request.actorBrokerId
  confirmationToken : request.confirmationToken ≠ ""
  idempotencyKey : request.idempotencyKey ≠ ""

variable {request call call' : Call} {claims claims' : GatewayClaims}

/-- The gateway executes a request as it is, or raises. -/
theorem executeWriteGateway_eq_ok_iff :
    executeWriteGateway request claims = .ok call ↔ Accepted request claims ∧ request = call := by
  unfold executeWriteGateway
  constructor
  · intro h
    split_ifs at h with haction hrole hoffice hbroker htoken hkey
    rw [not_not] at haction hrole hoffice hbroker
    exact ⟨⟨haction, hrole, hoffice, hbroker, htoken, hkey⟩, Except.ok.inj h⟩
  · rintro ⟨h, rfl⟩
    simp [h.actionName, h.role, h.officeId, h.brokerId, h.confirmationToken, h.idempotencyKey]

/-! ### Fingerprints -/

/-- The pieces of the confirmation token, the broker and the office, cut at `|`. -/
def Call.pieces (call : Call) : List (List Char) :=
  Text.pieces '|' [call.confirmationToken, call.actorBrokerId, call.officeId]

/-- Requests of one action have the same fingerprint exactly if they have the same pieces. -/
theorem requestFingerprint_eq_iff (haction : call.actionName = call'.actionName) :
    call.requestFingerprint = call'.requestFingerprint ↔ call.pieces = call'.pieces := by
  have h := Text.intercalate_eq_iff '|'
    (List.cons_ne_nil call.actionName
      [call.confirmationToken, call.actorBrokerId, call.officeId])
    (List.cons_ne_nil call'.actionName
      [call'.confirmationToken, call'.actorBrokerId, call'.officeId])
  rw [Text.pieces_cons '|' call.actionName, Text.pieces_cons '|' call'.actionName, haction,
    List.append_cancel_left_eq] at h
  rw [Call.requestFingerprint, Call.requestFingerprint, haction]
  exact h

/-- The broker and the office have no `|`. -/
structure Call.Plain (call : Call) : Prop where
  actorBrokerId : '|' ∉ call.actorBrokerId.toList
  officeId : '|' ∉ call.officeId.toList

theorem Call.Plain.pieces_eq (h : call.Plain) : call.pieces =
    call.confirmationToken.toList.splitOn '|' ++
      [call.actorBrokerId.toList, call.officeId.toList] := by
  have hplain : ∀ text ∈ [call.actorBrokerId, call.officeId], '|' ∉ text.toList := by
    simp [h.actorBrokerId, h.officeId]
  rw [Call.pieces, Text.pieces_cons, Text.pieces_of_forall_not_mem hplain]
  rfl

/-- Such requests of one action and key are told apart. -/
theorem Call.Plain.pieces_ne (h : call.Plain) (h' : call'.Plain)
    (haction : call.actionName = call'.actionName)
    (hkey : call.idempotencyKey = call'.idempotencyKey) (hne : call ≠ call') :
    call.pieces ≠ call'.pieces := by
  intro hpieces
  rw [h.pieces_eq, h'.pieces_eq] at hpieces
  obtain ⟨htoken, hrest⟩ := List.append_inj' hpieces rfl
  obtain ⟨hbroker, hoffice⟩ : call.actorBrokerId = call'.actorBrokerId ∧
      call.officeId = call'.officeId := by simpa [String.toList_inj] using hrest
  have htoken : call.confirmationToken = call'.confirmationToken := by
    have hjoin := congrArg ['|'].intercalate htoken
    rw [List.intercalate_splitOn, List.intercalate_splitOn] at hjoin
    exact String.toList_injective hjoin
  refine hne ?_
  cases call
  cases call'
  simp_all

/-! ### Two requests with one key -/

variable {ι : Type*} {calls : ι → Call} {w w₀ : World ι} {i j : ι} {o : Outcome}

/-- The call `i` has been answered with a result that is in the store. -/
def World.Answered (w : World ι) (i : ι) : Prop :=
  ∃ r, w.pc i = .done (.executed r) ∨ w.pc i = .done (.replayed r)

/-- The call `i` has been denied because its key belongs to another request. -/
def World.Denied (w : World ι) (i : ι) : Prop :=
  ∃ r, w.pc i = .done (.conflicted r) ∧ r.status = .denied .idempotencyConflict

/-- If the call `i` has been answered with a stored result, the call `j`, where it has returned, has
been denied. -/
def World.DeniesOther (w : World ι) (i j : ι) : Prop :=
  w.Answered i → ∀ r, w.Returned j r → w.Denied j

theorem World.Returned.answered_or_conflicted {r : BookingResult} (h : w.Returned j r) :
    w.Answered j ∨ ∃ r', w.pc j = .done (.conflicted r') := by
  obtain ⟨o, hp, ho⟩ := h
  cases o with
  | executed r' => exact .inl ⟨r', .inl hp⟩
  | replayed r' => exact .inl ⟨r', .inr hp⟩
  | conflicted r' => exact .inr ⟨r', hp⟩
  | raised => cases ho

theorem World.Answered.not_denied (h : w.Answered i) : ¬ w.Denied i := by
  rintro ⟨r', hp', -⟩
  obtain ⟨r, hp | hp⟩ := h
  · cases hp.symm.trans hp'
  · cases hp.symm.trans hp'

/-- The key of an answered call is completed with its fingerprint. -/
theorem LeaseInv.store_of_answered (h : LeaseInv calls w) (hi : w.Answered i) :
    ∃ r, w.store (calls i).idempotencyKey =
      some (.completed (calls i).requestFingerprint r) := by
  obtain ⟨r, hp | hp⟩ := hi
  · have hphase : w.lease.phase i = .ended (.executed r) := by
      simp only [World.lease, hp, Pc.phase, Outcome.lease]
    exact ⟨r, h.executed i r (.inr hphase)⟩
  · have hphase : w.lease.phase i = .ended (.replayed r) := by
      simp only [World.lease, hp, Pc.phase, Outcome.lease]
    exact ⟨r, h.replayed i r hphase⟩

/-- A call that has returned, and whose key is completed with its fingerprint, is answered. -/
theorem LeaseInv.answered_of_returned {r r' : BookingResult} (h : LeaseInv calls w)
    (hi : w.Returned i r)
    (hstore : w.store (calls i).idempotencyKey =
      some (.completed (calls i).requestFingerprint r')) : w.Answered i := by
  obtain hi | ⟨r'', hp⟩ := hi.answered_or_conflicted
  · exact hi
  · have hphase : w.lease.phase i = .ended .conflicted := by
      simp only [World.lease, hp, Pc.phase, Outcome.lease]
    obtain ⟨f, v, hk, hf⟩ := h.conflicted i hphase
    have heq := Option.some.inj (hk.symm.trans hstore)
    exact absurd (Lease.Record.completed.inj heq).1 hf

/-- Answered calls with one key have one fingerprint. -/
theorem LeaseInv.fingerprint_eq_of_answered (h : LeaseInv calls w)
    (hkey : (calls i).idempotencyKey = (calls j).idempotencyKey) (hi : w.Answered i)
    (hj : w.Answered j) : (calls i).requestFingerprint = (calls j).requestFingerprint := by
  obtain ⟨r, hr⟩ := h.store_of_answered hi
  obtain ⟨r', hr'⟩ := h.store_of_answered hj
  rw [hkey, hr', Option.some.injEq, Lease.Record.completed.injEq] at hr
  exact hr.1.symm

variable [DecidableEq ι]

/-- On a fresh store without rows, two calls with one key and one fingerprint are both answered. -/
theorem exists_both_answered (hne : i ≠ j)
    (hkey : (calls i).idempotencyKey = (calls j).idempotencyKey)
    (hfingerprint : (calls i).requestFingerprint = (calls j).requestFingerprint) :
    ∃ labels w, exec (step calls) (.start Database.empty) labels = some w ∧
      w.Answered i ∧ w.Answered j ∧ ∃ r, w.Returned j r := by
  have hexecute : execute .first (calls i) Database.empty =
      some (missingResult (calls i) .first, Database.empty) := execute_of_missing rfl
  obtain ⟨w₁, ⟨n, hw₁⟩, hserved₁⟩ := exec_solo (w := .start Database.empty) (i := i) ⟨rfl, rfl⟩ rfl
    (serve_of_execute rfl hexecute)
  have hstore₁ : w₁.store (calls j).idempotencyKey = some (.completed (calls j).requestFingerprint
      (missingResult (calls i) .first)) := by
    rw [hserved₁.store, ← hkey, ← hfingerprint]
    exact Function.update_self ..
  obtain ⟨w₂, ⟨m, hw₂⟩, hserved₂⟩ := exec_solo hserved₁.quiet (hserved₁.others j hne.symm)
    (serve_of_replay hstore₁)
  have hw : exec (step calls) (.start Database.empty)
      (List.replicate n (i, .run .first .first) ++ List.replicate m (j, .run .first .first)) =
        some w₂ := exec_append_eq_some.mpr ⟨w₁, hw₁, hw₂⟩
  have hinv : LeaseInv calls w₂ := leaseInv_of_exec (.start _) hw
  have hstore₂ : w₂.store (calls j).idempotencyKey = some (.completed (calls j).requestFingerprint
      (missingResult (calls i) .first)) := by
    rw [hserved₂.store]
    exact hstore₁
  have hreturned : w₂.Returned i (missingResult (calls i) .first) := by
    obtain ⟨o, ho, hr⟩ := hserved₁.returned
    exact ⟨o, by rw [hserved₂.others i hne, ho], hr⟩
  have hstore : w₂.store (calls i).idempotencyKey = some (.completed (calls i).requestFingerprint
      (missingResult (calls i) .first)) := by
    rw [hkey, hfingerprint]
    exact hstore₂
  exact ⟨_, w₂, hw, hinv.answered_of_returned hreturned hstore,
    hinv.answered_of_returned hserved₂.returned hstore₂, _, hserved₂.returned⟩

/-- **When a key answers only one of two requests.** Let the gateway take two different requests
with one idempotency key. In every run, once one of them has been answered with a stored result the
other is denied with `idempotency_conflict`, exactly if their confirmation tokens, brokers and
offices do not have the same pieces when they are cut at `|`. -/
theorem other_request_denied_iff (hi : executeWriteGateway (calls i) claims = .ok (calls i))
    (hj : executeWriteGateway (calls j) claims' = .ok (calls j))
    (hkey : (calls i).idempotencyKey = (calls j).idempotencyKey) (hne : calls i ≠ calls j) :
    (∀ w₀ labels w, Initial w₀ → exec (step calls) w₀ labels = some w → w.DeniesOther i j) ↔
      (calls i).pieces ≠ (calls j).pieces := by
  have haction : (calls i).actionName = (calls j).actionName := by
    rw [(executeWriteGateway_eq_ok_iff.mp hi).1.actionName,
      (executeWriteGateway_eq_ok_iff.mp hj).1.actionName]
  rw [Ne, ← requestFingerprint_eq_iff haction]
  constructor
  · intro h hfingerprint
    have hij : i ≠ j := fun hij => hne (congrArg calls hij)
    obtain ⟨labels, w, hw, hi, hj, r, hr⟩ := exists_both_answered hij hkey hfingerprint
    exact hj.not_denied (h _ labels w (.start _) hw hi r hr)
  · intro hfingerprint w₀ labels w hw₀ hw hi r hr
    obtain hj | ⟨r', hj⟩ := hr.answered_or_conflicted
    · exact absurd ((leaseInv_of_exec hw₀ hw).fingerprint_eq_of_answered hkey hi hj) hfingerprint
    · have hdenied : ConflictsDenied w :=
        exec_invariant ConflictsDenied (fun _ _ _ hs ht => hs.step ht) hw₀.conflictsDenied hw
      exact ⟨r', hj, hdenied j r' (by rw [hj]; rfl)⟩

/-! ### A booking of another broker -/

section East

/-- The claims of a broker of Memphis. -/
def memphisClaims (brokerId : String) : GatewayClaims :=
  { role := some "broker", officeId := some "memphis", brokerId := some brokerId }

/-- Requests of one broker for two confirmations. -/
def twoConfirmations (i : Fin 2) : Call :=
  memphisCall (if i = 0 then "confirm-quote-88219" else "confirm-quote-88220") "book-quote-88219-v1"

/-- A booking of the broker `broker-123|east`, and a request of the broker `east` with its key. -/
def eastCalls : Fin 2 → Call
  | 0 => ⟨"booking_create_confirmed", "confirm-quote-88219", "book-quote-88219-v1",
      "broker-123|east", "memphis"⟩
  | 1 => ⟨"booking_create_confirmed", "confirm-quote-88219|broker-123", "book-quote-88219-v1",
      "east", "memphis"⟩

/-- The rows of Memphis with the quote and the confirmation of the broker `broker-123|east`. -/
def eastDatabase : Database :=
  { Database.empty with
    quotes := ⟨[{ memphisQuote with brokerId := "broker-123|east" }], by decide⟩
    confirmations := ⟨[{ memphisConfirmation with brokerId := "broker-123|east" }], by decide⟩ }

end East

/-- A request for another confirmation is denied. -/
theorem other_request_denied_iff_memphis :
    (twoConfirmations 0).pieces ≠ (twoConfirmations 1).pieces ∧
      ∀ w₀ labels w, Initial w₀ → exec (step twoConfirmations) w₀ labels = some w →
        w.DeniesOther 0 1 := by
  have haccepted : ∀ i : Fin 2, executeWriteGateway (twoConfirmations i)
      (memphisClaims "broker-123") = .ok (twoConfirmations i)
    | 0 => rfl
    | 1 => rfl
  have hplain (i : Fin 2) : (twoConfirmations i).Plain := by
    constructor <;> simp [twoConfirmations, memphisCall]
  have hne : twoConfirmations 0 ≠ twoConfirmations 1 := by decide
  have hpieces := (hplain 0).pieces_ne (hplain 1) rfl rfl hne
  exact ⟨hpieces, (other_request_denied_iff (haccepted 0) (haccepted 1) rfl hne).mpr hpieces⟩

/-- **A broker is answered with the booking of another.** Both requests are accepted and differ in
their tokens and brokers; the second is answered with the result of the first. -/
theorem booking_of_other_broker_replayed :
    executeWriteGateway (eastCalls 0) (memphisClaims "broker-123|east") = .ok (eastCalls 0) ∧
    executeWriteGateway (eastCalls 1) (memphisClaims "east") = .ok (eastCalls 1) ∧
    (eastCalls 0).idempotencyKey = (eastCalls 1).idempotencyKey ∧ eastCalls 0 ≠ eastCalls 1 ∧
    ∃ (w : World (Fin 2)) (r : BookingResult),
      exec (step eastCalls) (.start eastDatabase) (List.replicate 9 (goOn 0) ++ [goOn 1]) =
        some w ∧
      r.status = .submitted ∧ w.pc 0 = .done (.executed r) ∧ w.pc 1 = .done (.replayed r) ∧
      ¬ w.DeniesOther 0 1 := by
  refine ⟨rfl, rfl, rfl, by decide, ?_⟩
  let r := submittedResult (eastCalls 0) { memphisConfirmation with brokerId := "broker-123|east" }
    .first
  have hpc : (exec (step eastCalls) (.start eastDatabase)
      (List.replicate 9 (goOn (0 : Fin 2)) ++ [goOn 1])).map (fun w => (w.pc 0, w.pc 1)) =
      some (.done (.executed r), .done (.replayed r)) := by rfl
  obtain ⟨w, hw, hpc⟩ := Option.map_eq_some_iff.mp hpc
  obtain ⟨hp₀, hp₁⟩ := Prod.mk.inj hpc
  have hanswered : w.Answered 1 := ⟨r, .inr hp₁⟩
  exact ⟨w, r, hw, rfl, hp₀, hp₁, fun h =>
    hanswered.not_denied (h ⟨r, .inl hp₀⟩ r ⟨_, hp₁, rfl⟩)⟩

end Meridian.Gateway
