import Meridian.Gateway.ExactEffect

/-!
# Nothing is booked without authority

However the calls of `execute_confirmed_booking` on one connection and one idempotency store are
interleaved, and whichever of them raise, the tables differ from those that the calls found only
where a call had a confirmation that let it book: pending, unexpired at a time that this call has
read, of the actor's own broker and office, and for a quote of theirs that was eligible. The same
holds of the rows that a rollback returns to, and of what the calls answer.

The calls may find a transaction open, as on the connection that the application seeds, and any of
them that raises ends it. So they can find two states of the tables: the rows that the connection
reads at the start, and those that were committed. A call may read its confirmation in one of them
and its quote in the other.

## Main definitions

* `Meridian.Gateway.Authorised`: a call may book, over the tables that the calls can find.
* `Meridian.Gateway.Accounted`: every change to the tables is that of a call that may book.
* `Meridian.Gateway.Pc.Backed`: what the local variables of a call rest on.

## Main results

* `Meridian.Gateway.BookingInv.step`: a step keeps all of this.
* `Meridian.Gateway.nothing_without_authority`: it holds in every state of every run.
-/

namespace Meridian.Gateway

open Foundations Db

variable {ι : Type*} {calls : ι → Call} {reads : ι → UtcTime → Prop}
  {found : Set Database} {db rows : Database} {w w' : World ι} {i : ι} {e : Event}
  {confirmation : ConfirmationRow} {token quoteId : String} {p : Pc}

/-! ### Authority -/

variable (calls reads found) in
/-- The confirmation lets the call book at a time that it has read, where the confirmation and its
quote are those of tables that can be found. -/
def Authorised (i : ι) (confirmation : ConfirmationRow) : Prop :=
  ∃ confirmed ∈ found, ∃ quoted ∈ found, ∃ now quote, reads i now ∧
    MayBook (calls i) { confirmed with quotes := quoted.quotes } now confirmation quote

variable (calls reads found db) in
/-- Every row is as in the given tables, or is booked or consumed and a call was let to do so. No
row is added or removed, and no other table has changed. -/
structure Accounted (rows : Database) : Prop where
  offices : rows.offices = db.offices
  brokers : rows.brokers = db.brokers
  carriers : rows.carriers = db.carriers
  shipments : rows.shipments = db.shipments
  events : rows.events = db.events
  quote_keys : rows.quotes.keys = db.quotes.keys
  confirmation_keys : rows.confirmations.keys = db.confirmations.keys
  quote : ∀ quoteId, rows.quotes.lookup quoteId = db.quotes.lookup quoteId ∨
    rows.quotes.lookup quoteId = (db.quotes.lookup quoteId).map QuoteRow.booked ∧
      ∃ i confirmation, Authorised calls reads found i confirmation ∧
        confirmation.quoteId = quoteId
  confirmation : ∀ token, rows.confirmations.lookup token = db.confirmations.lookup token ∨
    rows.confirmations.lookup token =
        (db.confirmations.lookup token).map ConfirmationRow.consumed ∧
      ∃ i confirmation, Authorised calls reads found i confirmation ∧
        (calls i).confirmationToken = token

variable (calls reads found) in
/-- What a result rests on: a booking that is submitted is that of a confirmation that let the call
book. -/
def Vouched (i : ι) (result : BookingResult) : Prop :=
  result.status = .submitted → ∃ confirmation auditNow,
    Authorised calls reads found i confirmation ∧
      result = submittedResult (calls i) confirmation auditNow

variable (calls found) in
/-- A confirmation that has been read is that of tables that can be found unless it has been
consumed. -/
def ReadFrom (i : ι) (confirmation : ConfirmationRow) : Prop :=
  (∃ db ∈ found, db.confirmations.lookup (calls i).confirmationToken = some confirmation) ∨
    confirmation.confirmationStatus ≠ "pending"

variable (calls reads found) in
/-- What the local variables of a call rest on: past the check its confirmation lets it book. -/
def Pc.Backed (i : ι) : Pc → Prop
  | .selectQuote confirmation => ReadFrom calls found i confirmation
  | .updateQuote confirmation | .updateConfirmation confirmation | .commit confirmation =>
    Authorised calls reads found i confirmation
  | .completeRecord result | .release (.executed result) | .done (.executed result) =>
    Vouched calls reads found i result
  | _ => True

variable (calls reads found) in
/-- The rows of the connection and those that a rollback returns to are accounted for, and so are
the local variables of every call. -/
structure BookingInv (w : World ι) : Prop where
  rows : ∃ db ∈ found, Accounted calls reads found db w.connection.rows
  committed : ∃ db ∈ found, Accounted calls reads found db w.connection.committed
  backed : ∀ i, (w.pc i).Backed calls reads found i

/-! ### The tables -/

theorem Accounted.refl : Accounted calls reads found db db :=
  ⟨rfl, rfl, rfl, rfl, rfl, rfl, rfl, fun _ => .inl rfl, fun _ => .inl rfl⟩

/-- The update of a quote is that of a call that may book. -/
theorem Accounted.bookQuote (h : Accounted calls reads found db rows)
    (hauthorised : Authorised calls reads found i confirmation) :
    Accounted calls reads found db (rows.bookQuote confirmation.quoteId) where
  offices := h.offices
  brokers := h.brokers
  carriers := h.carriers
  shipments := h.shipments
  events := h.events
  quote_keys := Database.keys_quotes_bookQuote.trans h.quote_keys
  confirmation_keys := h.confirmation_keys
  confirmation := h.confirmation
  quote quoteId := by
    rw [Database.lookup_quotes_bookQuote]
    split_ifs with hid
    · refine .inr ⟨?_, i, confirmation, hauthorised, hid.symm⟩
      obtain hsame | ⟨hbooked, -⟩ := h.quote quoteId
      · rw [hsame]
      · rw [hbooked, Option.map_map]
        rfl
    · exact h.quote quoteId

/-- The update of a confirmation is that of a call that may book. -/
theorem Accounted.consumeConfirmation (h : Accounted calls reads found db rows)
    (hauthorised : Authorised calls reads found i confirmation) :
    Accounted calls reads found db (rows.consumeConfirmation (calls i).confirmationToken) where
  offices := h.offices
  brokers := h.brokers
  carriers := h.carriers
  shipments := h.shipments
  events := h.events
  quote_keys := h.quote_keys
  confirmation_keys := Database.keys_confirmations_consumeConfirmation.trans h.confirmation_keys
  quote := h.quote
  confirmation token := by
    rw [Database.lookup_confirmations_consumeConfirmation]
    split_ifs with htoken
    · refine .inr ⟨?_, i, confirmation, hauthorised, htoken.symm⟩
      obtain hsame | ⟨hconsumed, -⟩ := h.confirmation token
      · rw [hsame]
      · rw [hconsumed, Option.map_map]
        rfl
    · exact h.confirmation token

/-- A confirmation that is found is that of the given tables or has been consumed. -/
theorem Accounted.confirmation_of_lookup (h : Accounted calls reads found db rows)
    (hdb : db ∈ found)
    (hlookup : rows.confirmations.lookup (calls i).confirmationToken = some confirmation) :
    ReadFrom calls found i confirmation := by
  obtain hsame | ⟨hconsumed, -⟩ := h.confirmation (calls i).confirmationToken
  · exact .inl ⟨db, hdb, hsame.symm.trans hlookup⟩
  · rw [hconsumed] at hlookup
    obtain ⟨row, -, rfl⟩ := Option.map_eq_some_iff.mp hlookup
    exact .inr (by simp [ConfirmationRow.consumed])

/-- An eligible quote that is found is that of the given tables. -/
theorem Accounted.quote_of_lookup (h : Accounted calls reads found db rows) {quote : QuoteRow}
    (hlookup : rows.quotes.lookup quoteId = some quote)
    (hstatus : quote.quoteStatus = "eligible_for_booking") :
    db.quotes.lookup quoteId = some quote := by
  obtain hsame | ⟨hbooked, -⟩ := h.quote quoteId
  · exact hsame.symm.trans hlookup
  · rw [hbooked] at hlookup
    obtain ⟨row, -, rfl⟩ := Option.map_eq_some_iff.mp hlookup
    exact absurd hstatus (by simp [QuoteRow.booked])

/-- **The check passes only with authority**, whatever has been booked since the tables were as they
were found. -/
theorem Accounted.authorised (h : Accounted calls reads found db rows) (hdb : db ∈ found)
    {now : UtcTime} (hread : reads i now) (hconfirmation : ReadFrom calls found i confirmation)
    (heligible : Eligible (calls i) confirmation (rows.quotes.lookup confirmation.quoteId) now) :
    Authorised calls reads found i confirmation := by
  obtain ⟨quote, hquote, hquote_eligible⟩ := heligible.quote
  have hfound : db.quotes.lookup confirmation.quoteId = some quote :=
    h.quote_of_lookup hquote hquote_eligible.quoteStatus
  obtain ⟨confirmed, hconfirmed, hlookup⟩ :=
    hconfirmation.resolve_right (not_not.mpr heligible.confirmationStatus)
  rw [hquote] at heligible
  exact ⟨confirmed, hconfirmed, db, hdb, now, quote, hread,
    mayBook_iff.mpr ⟨hlookup, hfound, heligible⟩⟩

/-! ### Steps -/

/-- Behind the `except` block nothing is left to be backed. -/
theorem Pc.backed_afterAbandon {targetClaimed : Bool} :
    (Pc.afterAbandon targetClaimed).Backed calls reads found i := by
  cases targetClaimed <;> trivial

/-- A denial vouches for itself. -/
theorem vouched_of_denied {result : BookingResult} (h : result.status ≠ .submitted) :
    Vouched calls reads found i result := fun hsubmitted => absurd hsubmitted h

/-- What a call is left with when it returns is what it has recorded. -/
theorem Pc.backed_done {o : Outcome} (h : (Pc.release o).Backed calls reads found i) :
    (Pc.done o).Backed calls reads found i := by
  cases o with
  | executed result => exact h
  | _ => trivial

/-- Neither the idempotency store nor the sleep of a call matters. -/
theorem BookingInv.of_same (h : BookingInv calls reads found w)
    (hconnection : w'.connection = w.connection) (hpc : w'.pc = w.pc) :
    BookingInv calls reads found w' where
  rows := hconnection ▸ h.rows
  committed := hconnection ▸ h.committed
  backed := hpc ▸ h.backed

section Steps

variable [DecidableEq ι]

/-- A step that only moves on to a place whose local variables are backed. -/
theorem BookingInv.goto (h : BookingInv calls reads found w) (hp : p.Backed calls reads found i) :
    BookingInv calls reads found (w.goto i p) where
  rows := h.rows
  committed := h.committed
  backed j := by
    by_cases hij : j = i
    · subst hij
      rwa [World.goto_pc_self]
    · rw [World.goto_pc_of_ne hij]
      exact h.backed j

/-- **A step keeps every change accounted for**, if the clock reads what it may. -/
theorem BookingInv.step (h : BookingInv calls reads found w)
    (hreads : ∀ now auditNow, e = .run now auditNow → reads i now)
    (hs : step calls w (i, e) = some w') : BookingInv calls reads found w' := by
  obtain ⟨-, hm⟩ := step_eq_some_iff.mp hs
  have hbacked := h.backed i
  cases hm with
  | waitRecord => exact h.of_same rfl rfl
  | waitTarget => exact h.of_same rfl rfl
  | execute => exact BookingInv.goto (h.of_same rfl rfl) trivial
  | replay => exact h.goto trivial
  | conflict => exact h.goto trivial
  | claimTarget => exact BookingInv.goto (h.of_same rfl rfl) trivial
  | missing => exact h.goto (vouched_of_denied (by simp [missingResult, deniedResult]))
  | selectConfirmation confirmation hp hc =>
    obtain ⟨db, hdb, hrows⟩ := h.rows
    exact h.goto (hrows.confirmation_of_lookup hdb hc)
  | checkRaises => exact h.goto trivial
  | stale => exact h.goto (vouched_of_denied (by simp [staleResult, deniedResult]))
  | pass confirmation hp heligible =>
    rw [hp] at hbacked
    obtain ⟨db, hdb, hrows⟩ := h.rows
    exact h.goto (hrows.authorised hdb (hreads _ _ rfl) hbacked heligible)
  | updateQuote confirmation hp =>
    rw [hp] at hbacked
    obtain ⟨db, hdb, hrows⟩ := h.rows
    refine BookingInv.goto ?_ hbacked
    exact ⟨⟨db, hdb, hrows.bookQuote hbacked⟩, h.committed, h.backed⟩
  | updateConfirmation confirmation hp =>
    rw [hp] at hbacked
    obtain ⟨db, hdb, hrows⟩ := h.rows
    refine BookingInv.goto ?_ hbacked
    exact ⟨⟨db, hdb, hrows.consumeConfirmation hbacked⟩, h.committed, h.backed⟩
  | commit confirmation hp =>
    rw [hp] at hbacked
    refine BookingInv.goto ?_ fun _ => ⟨confirmation, _, hbacked, rfl⟩
    exact ⟨h.rows, h.rows, h.backed⟩
  | complete r store hp =>
    rw [hp] at hbacked
    have hdone : (Pc.release (.executed r)).Backed calls reads found i := hbacked
    have hreleased := h.goto hdone
    exact hreleased.of_same rfl rfl
  | completeRaises => exact h.goto trivial
  | inTransaction => exact h.goto trivial
  | noTransaction => exact h.goto trivial
  | rollback =>
    refine BookingInv.goto ?_ trivial
    exact ⟨h.committed, h.committed, h.backed⟩
  | abandon targetClaimed =>
    have habandoned : BookingInv calls reads found (w.goto i (.afterAbandon targetClaimed)) :=
      h.goto Pc.backed_afterAbandon
    exact habandoned.of_same rfl rfl
  | abandonNothing => exact h.goto Pc.backed_afterAbandon
  | release o hp =>
    rw [hp] at hbacked
    have hdone : BookingInv calls reads found (w.goto i (.done o)) :=
      h.goto (Pc.backed_done hbacked)
    exact hdone.of_same rfl rfl
  | releaseNothing o hp =>
    rw [hp] at hbacked
    exact h.goto (Pc.backed_done hbacked)
  | raise => exact h.goto trivial
  | rollbackRaises => exact h.goto Pc.backed_afterAbandon

/-! ### Runs -/

variable {labels : List (ι × Event)}

/-- Every step of a run keeps every change accounted for. -/
theorem bookingInv_of_exec (h : BookingInv calls reads found w)
    (hreads : ∀ i now auditNow, (i, .run now auditNow) ∈ labels → reads i now)
    (hrun : exec (Gateway.step calls) w labels = some w') : BookingInv calls reads found w' := by
  induction labels generalizing w with
  | nil =>
    cases hrun
    exact h
  | cons label labels ih =>
    obtain ⟨w₁, hstep, hrest⟩ := exec_cons_eq_some.mp hrun
    obtain ⟨i, e⟩ := label
    refine ih (h.step (fun now auditNow he => ?_) hstep)
      (fun i now auditNow hmem => hreads i now auditNow (List.mem_cons_of_mem _ hmem)) hrest
    subst he
    exact hreads i now auditNow List.mem_cons_self

variable (labels) in
/-- The call reads this time as the time of its check in a run. -/
def ReadsIn (i : ι) (now : UtcTime) : Prop := ∃ auditNow, (i, .run now auditNow) ∈ labels

/-- Every state of a run has every change accounted for, over the tables at the start. -/
theorem Initial.bookingInv {w₀ : World ι} (h : Initial w₀)
    (hrun : exec (Gateway.step calls) w₀ labels = some w) :
    BookingInv calls (ReadsIn labels) w₀.connection.tables w := by
  have hinv : BookingInv calls (ReadsIn labels) w₀.connection.tables w₀ := by
    refine ⟨⟨_, Connection.rows_mem_tables, .refl⟩, ⟨_, Connection.committed_mem_tables, .refl⟩,
      fun i => ?_⟩
    rw [h.pc i]
    trivial
  exact bookingInv_of_exec hinv (fun _ _ auditNow hmem => ⟨auditNow, hmem⟩) hrun

/-- **Nothing is booked without authority.** Let any calls run on one connection, in any order of
their steps and whichever of them raise; a transaction may be open at the start. In every state
reached, what the connection reads and what a rollback returns to differ from the tables at the
start, either those that the connection read or the committed ones, only in quotes that are booked
and confirmations that are consumed, each by a call whose confirmation let it book at a time that
the call has read, over what it could find at the start; and a call that has executed and answers
that its booking is submitted is such a call. -/
theorem nothing_without_authority {w₀ : World ι} (h : Initial w₀)
    (hrun : exec (Gateway.step calls) w₀ labels = some w) :
    (∃ db ∈ w₀.connection.tables, Accounted calls (ReadsIn labels) w₀.connection.tables db
        w.connection.rows) ∧
      (∃ db ∈ w₀.connection.tables, Accounted calls (ReadsIn labels) w₀.connection.tables db
        w.connection.committed) ∧
      ∀ i result, w.pc i = .done (.executed result) →
        Vouched calls (ReadsIn labels) w₀.connection.tables i result := by
  have hend := h.bookingInv hrun
  refine ⟨hend.rows, hend.committed, fun i result hp => ?_⟩
  have hbacked := hend.backed i
  rw [hp] at hbacked
  exact hbacked

/-- A booking that is submitted on a seeded connection is vouched for. -/
theorem nothing_without_authority_booked :
    ∃ (w : World (Fin 2)) (result : BookingResult),
      exec (Gateway.step fun _ => memphisCall "confirm-quote-88219" "v1") (.seeded memphisDatabase)
        (List.replicate 9 (goOn 0)) = some w ∧
      w.pc 0 = .done (.executed result) ∧ result.status = .submitted ∧
      Vouched (fun _ => memphisCall "confirm-quote-88219" "v1")
        (ReadsIn (List.replicate 9 (goOn (0 : Fin 2)))) {memphisDatabase, .empty} 0 result ∧
      ∃ db ∈ ({memphisDatabase, .empty} : Set Database),
        Accounted (fun _ => memphisCall "confirm-quote-88219" "v1")
          (ReadsIn (List.replicate 9 (goOn (0 : Fin 2)))) {memphisDatabase, .empty} db
          w.connection.committed := by
  have hpc : (exec (Gateway.step fun _ => memphisCall "confirm-quote-88219" "v1")
      (.seeded memphisDatabase) (List.replicate 9 (goOn (0 : Fin 2)))).map (fun w => w.pc 0) =
      some (.done (.executed (submittedResult (memphisCall "confirm-quote-88219" "v1")
        memphisConfirmation .first))) := by rfl
  obtain ⟨w, hw, hpc⟩ := Option.map_eq_some_iff.mp hpc
  obtain ⟨-, hcommitted, hdone⟩ := nothing_without_authority (.seeded memphisDatabase) hw
  exact ⟨w, _, hw, hpc, rfl, hdone 0 _ hpc, hcommitted⟩

end Steps

end Meridian.Gateway
