import Meridian.Gateway.Atomicity
import Meridian.Gateway.SequentialBooking

/-!
# Serializability of bookings

If every quote is referred to by at most one confirmation, concurrent bookings without exceptions
are serializable. A call that executes takes effect when it completes its record, a replay or a
conflict when it reads the record. Until then a working call is the only one to touch its
confirmation and its quote, so the rows differ from those of the sequential order only by the
updates of the calls still at work.

## Main definitions

* `Meridian.Gateway.View`: what a working call has read and computed so far, from the rows of the
  sequential order.
* `Meridian.Gateway.RowsSim`: the rows against those of the sequential order.
* `Meridian.Gateway.Sim`: a state against the calls that have taken effect.

## Main results

* `Meridian.Gateway.Sim.step`: every step takes effect or leaves the sequential order as it is.
* `Meridian.Gateway.bookings_serializable`: every complete run has a sequential order.
-/

namespace Meridian.Gateway

open Foundations Db

variable {ι : Type*} {calls : ι → Call} {now : UtcTime} {db db' : Database} {call : Call}

/-! ### The rows of the sequential order -/

/-- The call executes: it has claimed its token and not recorded a result. -/
def World.Working (w : World ι) (i : ι) : Prop := (w.pc i).phase = .working

/-- What a working call holds, against the rows of the sequential order: its confirmation, the
outcome of the check, the result. -/
def View (now : UtcTime) (db : Database) (call : Call) : Pc → Prop
  | .selectQuote c => db.confirmations.lookup call.confirmationToken = some c
  | .updateQuote c | .updateConfirmation c | .commit c =>
    db.confirmations.lookup call.confirmationToken = some c ∧
      Eligible call c (db.quotes.lookup c.quoteId) now
  | .completeRecord r => ∃ db', execute now call db = some (r, db')
  | _ => True

/-- Confirmations of different tokens refer to different quotes. -/
def QuotesApart (db : Database) : Prop :=
  ∀ t t' c c', db.confirmations.lookup t = some c → db.confirmations.lookup t' = some c' →
    c.quoteId = c'.quoteId → t = t'

/-- The rows of `w` are those of the sequential order `db`, up to the updates of working calls. -/
structure RowsSim (calls : ι → Call) (now : UtcTime) (db : Database) (w : World ι) : Prop where
  apart : QuotesApart db
  confirmationKeys : w.connection.rows.confirmations.keys = db.confirmations.keys
  quoteKeys : w.connection.rows.quotes.keys = db.quotes.keys
  working : ∀ i, w.Working i →
    PcRows db (calls i) w.connection.rows (w.pc i) ∧ View now db (calls i) (w.pc i)
  confirmation : ∀ t, (∀ i, w.Working i → (calls i).confirmationToken ≠ t) →
    w.connection.rows.confirmations.lookup t = db.confirmations.lookup t
  quote : ∀ q, (∀ i c, w.Working i →
      db.confirmations.lookup (calls i).confirmationToken = some c → c.quoteId ≠ q) →
    w.connection.rows.quotes.lookup q = db.quotes.lookup q

theorem World.Working.holds {w : World ι} {i : ι} (h : w.Working i) : (w.pc i).phase.Holds := by
  unfold Working at h
  rw [h]
  trivial

/-- A view depends only on the rows of its call. -/
theorem View.congr {p : Pc} (h : View now db call p) (hs : SameRows db call db' db) :
    View now db' call p := by
  have hc : ∀ {c}, db.confirmations.lookup call.confirmationToken = some c →
      db'.confirmations.lookup call.confirmationToken = some c := fun hc => hs.confirmation.trans hc
  cases p with
  | selectQuote c => exact hc h
  | updateQuote c | updateConfirmation c | commit c =>
    refine ⟨hc h.1, ?_⟩
    rw [hs.quote c h.1]
    exact h.2
  | completeRecord r =>
    obtain ⟨db₁, hx⟩ := h
    unfold execute at hx
    cases hl : db.confirmations.lookup call.confirmationToken with
    | none =>
      obtain ⟨rfl, -⟩ : missingResult call now = r ∧ db = db₁ := by simpa [hl] using hx
      exact ⟨db', execute_of_missing (hs.confirmation.trans hl)⟩
    | some c =>
      simp only [hl, ← hs.quote c hl] at hx
      split at hx
      · simp at hx
      · obtain ⟨rfl, -⟩ := Prod.mk.inj (Option.some.inj hx)
        exact ⟨db', execute_of_stale (hc hl) ‹_›⟩
      · obtain ⟨rfl, -⟩ := Prod.mk.inj (Option.some.inj hx)
        exact ⟨_, execute_of_eligible (hc hl) (staleResultIfNeeded_eq_none_iff.mp ‹_›)⟩
  | claimRecord | claimTarget | selectConfirmation | checkTransaction | rollback | abandon
  | release | done => trivial

theorem RowsBecome.congr_base {f : ConfirmationRow → ConfirmationRow} {g : QuoteRow → QuoteRow}
    {rows : Database} (h : RowsBecome db call f g rows) (hs : SameRows db call db' db) :
    RowsBecome db' call f g rows := by
  obtain ⟨c, q, hc, hq, hc', hq'⟩ := h
  exact ⟨c, q, hs.confirmation.trans hc, (hs.quote c hc).trans hq, hc', hq'⟩

theorem SameRows.congr_base {rows : Database} (h : SameRows db call rows db)
    (hs : SameRows db call db' db) : SameRows db' call rows db' where
  confirmation := h.confirmation.trans hs.confirmation.symm
  quote c hc := by
    have hc' := hs.confirmation.symm.trans hc
    rw [h.quote c hc', hs.quote c hc']

/-- What is known of a call's rows does not depend on the other rows of the sequential order. -/
theorem PcRows.congr_base {p : Pc} {rows : Database} (h : PcRows db call rows p)
    (hs : SameRows db call db' db) : PcRows db' call rows p := by
  have result : ∀ {r}, ResultRows db call rows r → ResultRows db' call rows r := by
    intro r hr
    unfold ResultRows at hr ⊢
    split at hr
    · rename_i hsub
      rw [if_pos hsub]
      exact RowsBecome.congr_base hr hs
    · rename_i hsub
      rw [if_neg hsub]
      exact SameRows.congr_base hr hs
  cases p with
  | claimRecord | claimTarget | selectConfirmation | abandon => exact SameRows.congr_base h hs
  | selectQuote c => exact ⟨h.1.congr_base hs, hs.confirmation.trans h.2⟩
  | updateQuote c =>
    obtain ⟨hsame, hc, q, hq⟩ := h
    exact ⟨hsame.congr_base hs, hs.confirmation.trans hc, q, (hs.quote c hc).trans hq⟩
  | updateConfirmation | commit => exact RowsBecome.congr_base h hs
  | completeRecord => exact result h
  | checkTransaction | rollback => trivial
  | release o | done o =>
    cases o with
    | executed => exact result h
    | replayed | conflicted | raised => exact SameRows.congr_base h hs

/-! ### What a call that executes does to the sequential rows -/

section Execute

variable {r : BookingResult} {t q : String}

/-- A call that executes either leaves the database alone or books. -/
theorem execute_cases (h : execute now call db = some (r, db')) :
    (db' = db ∧ r.status ≠ .submitted) ∨
      ∃ c, db.confirmations.lookup call.confirmationToken = some c ∧
        Eligible call c (db.quotes.lookup c.quoteId) now ∧ r = submittedResult call c now ∧
        db' = book call c db := by
  unfold execute at h
  split at h
  · obtain ⟨rfl, rfl⟩ := Prod.mk.inj (Option.some.inj h)
    exact .inl ⟨rfl, by simp [missingResult, deniedResult]⟩
  · rename_i c hc
    split at h
    · simp at h
    · rename_i r' hs
      obtain rfl := staleResultIfNeeded_eq_some hs
      obtain ⟨rfl, rfl⟩ := Prod.mk.inj (Option.some.inj h)
      exact .inl ⟨rfl, by simp [staleResult, deniedResult]⟩
    · rename_i hs
      obtain ⟨rfl, rfl⟩ := Prod.mk.inj (Option.some.inj h)
      exact .inr ⟨c, hc, staleResultIfNeeded_eq_none_iff.mp hs, rfl, rfl⟩

/-- A call that executes leaves the confirmations of other tokens alone. -/
theorem execute_confirmation (h : execute now call db = some (r, db'))
    (ht : t ≠ call.confirmationToken) :
    db'.confirmations.lookup t = db.confirmations.lookup t := by
  rcases execute_cases h with ⟨rfl, -⟩ | ⟨c, -, -, -, rfl⟩
  · rfl
  · exact Database.lookup_confirmations_consumeConfirmation.trans (if_neg ht)

/-- A call that executes leaves the quotes alone that its confirmation does not refer to. -/
theorem execute_quote (h : execute now call db = some (r, db'))
    (hq : ∀ c, db.confirmations.lookup call.confirmationToken = some c → c.quoteId ≠ q) :
    db'.quotes.lookup q = db.quotes.lookup q := by
  rcases execute_cases h with ⟨rfl, -⟩ | ⟨c, hc, -, -, rfl⟩
  · rfl
  · exact Database.lookup_quotes_bookQuote.trans (if_neg (hq c hc).symm)

theorem execute_keys (h : execute now call db = some (r, db')) :
    db'.confirmations.keys = db.confirmations.keys ∧ db'.quotes.keys = db.quotes.keys := by
  rcases execute_cases h with ⟨rfl, -⟩ | ⟨c, -, -, -, rfl⟩
  · exact ⟨rfl, rfl⟩
  · simp [book]

/-- Rows that are as the result says are the rows that the call leaves. -/
theorem execute_rows {rows : Database} (h : execute now call db = some (r, db'))
    (hr : ResultRows db call rows r) : SameRows db call rows db' := by
  unfold ResultRows at hr
  rcases execute_cases h with ⟨rfl, hsub⟩ | ⟨c, hc, he, rfl, rfl⟩
  · rwa [if_neg hsub] at hr
  · rw [if_pos (show (submittedResult call c now).status = .submitted from rfl)] at hr
    obtain ⟨c', q, hc', hq, hrc, hrq⟩ := hr
    obtain rfl := Option.some.inj (hc.symm.trans hc')
    refine ⟨?_, fun c' hc' => ?_⟩
    · refine hrc.trans (Eq.symm ?_)
      refine Database.lookup_confirmations_consumeConfirmation.trans ?_
      rw [if_pos rfl, Database.confirmations_bookQuote, hc, Option.map_some]
    · obtain rfl := Option.some.inj (hc.symm.trans hc')
      refine hrq.trans (Eq.symm ?_)
      refine Database.lookup_quotes_bookQuote.trans ?_
      rw [if_pos rfl, hq, Option.map_some]

/-- A call that executes does not change which quote a confirmation refers to. -/
theorem execute_refers (h : execute now call db = some (r, db')) {c' : ConfirmationRow}
    (hc' : db'.confirmations.lookup t = some c') :
    ∃ c, db.confirmations.lookup t = some c ∧ c.quoteId = c'.quoteId := by
  rcases execute_cases h with ⟨rfl, -⟩ | ⟨c, hc, -, -, rfl⟩
  · exact ⟨c', hc', rfl⟩
  · rw [book, Database.lookup_confirmations_consumeConfirmation] at hc'
    split at hc'
    · obtain ⟨c₀, hc₀, rfl⟩ := Option.map_eq_some_iff.mp hc'
      exact ⟨c₀, hc₀, rfl⟩
    · exact ⟨c', hc', rfl⟩

theorem QuotesApart.execute (h : QuotesApart db) (hx : execute now call db = some (r, db')) :
    QuotesApart db' := by
  intro t t' c c' hc hc' hq
  obtain ⟨c₀, hc₀, hq₀⟩ := execute_refers hx hc
  obtain ⟨c₀', hc₀', hq₀'⟩ := execute_refers hx hc'
  exact h t t' c₀ c₀' hc₀ hc₀' (by rw [hq₀, hq₀', hq])

end Execute

/-! ### Moves -/

variable [DecidableEq ι] {w w' w₀ : World ι} {i j : ι} {e : Event} {t q : String}

/-- A move that raises nothing changes no confirmation but that of its call. -/
theorem Move.confirmation_of_ne (h : Move calls w i e w') (hno : ¬ w'.Raised i)
    (ht : t ≠ (calls i).confirmationToken) :
    w'.connection.rows.confirmations.lookup t = w.connection.rows.confirmations.lookup t := by
  cases h with
  | updateConfirmation =>
    exact Database.lookup_confirmations_consumeConfirmation.trans (if_neg ht)
  | rollback => exact absurd (by simp [World.Raised, Pc.phase, Lease.Phase.Failed]) hno
  | _ => rfl

/-- A move that raises nothing changes no quote but the one its confirmation refers to. -/
theorem Move.quote_of_ne (h : Move calls w i e w') (hno : ¬ w'.Raised i)
    (hview : View now db (calls i) (w.pc i))
    (hq : ∀ c, db.confirmations.lookup (calls i).confirmationToken = some c → c.quoteId ≠ q) :
    w'.connection.rows.quotes.lookup q = w.connection.rows.quotes.lookup q := by
  cases h with
  | updateQuote c hp =>
    rw [hp] at hview
    exact Database.lookup_quotes_bookQuote.trans (if_neg (hq c hview.1).symm)
  | rollback => exact absurd (by simp [World.Raised, Pc.phase, Lease.Phase.Failed]) hno
  | _ => rfl

theorem Move.keys (h : Move calls w i e w') (hno : ¬ w'.Raised i) :
    w'.connection.rows.confirmations.keys = w.connection.rows.confirmations.keys ∧
      w'.connection.rows.quotes.keys = w.connection.rows.quotes.keys := by
  cases h with
  | updateQuote => exact ⟨rfl, Database.keys_quotes_bookQuote⟩
  | updateConfirmation => exact ⟨Database.keys_confirmations_consumeConfirmation, rfl⟩
  | rollback => exact absurd (by simp [World.Raised, Pc.phase, Lease.Phase.Failed]) hno
  | _ => exact ⟨rfl, rfl⟩

/-- A call that is not at work changes no row, and starts to work only by claiming its token. -/
theorem Move.of_not_working (h : Move calls w i e w') (hno : ¬ w'.Raised i)
    (hi : ¬ w.Working i) :
    w'.connection = w.connection ∧ (w'.Working i → w'.pc i = .selectConfirmation) := by
  cases h with
  | updateQuote _ hp | updateConfirmation _ hp | commit _ hp | missing hp | selectConfirmation _ hp
  | stale _ hp | pass _ hp | complete _ _ hp =>
    exact absurd (by simp [World.Working, hp, Pc.phase]) hi
  | rollback | checkRaises | completeRaises | raise | inTransaction | noTransaction =>
    exact absurd (by simp [World.Raised, Pc.phase, Lease.Phase.Failed]) hno
  | waitRecord | waitTarget => exact ⟨rfl, fun hw => absurd hw hi⟩
  | claimTarget => exact ⟨rfl, fun _ => World.goto_pc_self⟩
  | execute | replay | conflict | release | releaseNothing =>
    refine ⟨rfl, fun hw => ?_⟩
    simp [World.Working, World.notifyAll, Pc.phase] at hw
  | abandon tc | abandonNothing tc | rollbackRaises tc =>
    refine ⟨rfl, fun hw => ?_⟩
    cases tc <;> simp [World.Working, World.notifyAll, Pc.afterAbandon, Pc.phase] at hw

/-- A row that is not that of `i`, if `i` is at work, is not changed. -/
theorem Move.confirmation_kept (h : Move calls w i (.run now now) w')
    (hno : ¬ w'.Raised i) (hi : w.Working i → w'.Working i)
    (ht : w'.Working i → (calls i).confirmationToken ≠ t) :
    w'.connection.rows.confirmations.lookup t = w.connection.rows.confirmations.lookup t := by
  by_cases hw : w.Working i
  · exact h.confirmation_of_ne hno (ht (hi hw)).symm
  · rw [(h.of_not_working hno hw).1]

theorem Move.quote_kept (h : Move calls w i (.run now now) w')
    (hno : ¬ w'.Raised i) (hi : w.Working i → w'.Working i)
    (hview : View now db (calls i) (w.pc i))
    (hq : ∀ c, w'.Working i → db.confirmations.lookup (calls i).confirmationToken = some c →
      c.quoteId ≠ q) :
    w'.connection.rows.quotes.lookup q = w.connection.rows.quotes.lookup q := by
  by_cases hw : w.Working i
  · exact h.quote_of_ne hno hview fun c => hq c (hi hw)
  · rw [(h.of_not_working hno hw).1]

/-- A call sees in the rows what it would see in the sequential order. -/
theorem Move.view (h : Move calls w i (.run now now) w')
    (hrows : PcRows db (calls i) w.connection.rows (w.pc i))
    (hview : View now db (calls i) (w.pc i)) : View now db (calls i) (w'.pc i) := by
  cases h with
  | waitRecord | waitTarget => exact hview
  | missing hp hc =>
    rw [hp] at hrows
    rw [World.goto_pc_self]
    exact ⟨db, execute_of_missing (hrows.confirmation.symm.trans hc)⟩
  | selectConfirmation c hp hc =>
    rw [hp] at hrows
    rw [World.goto_pc_self]
    exact hrows.confirmation.symm.trans hc
  | stale c hp hs =>
    rw [hp] at hrows
    rw [World.goto_pc_self]
    rw [hrows.1.quote c hrows.2] at hs
    exact ⟨db, execute_of_stale hrows.2 hs⟩
  | pass c hp he =>
    rw [hp] at hrows
    rw [World.goto_pc_self]
    rw [hrows.1.quote c hrows.2] at he
    exact ⟨hrows.2, he⟩
  | updateQuote c hp | updateConfirmation c hp =>
    rw [hp] at hview
    rw [World.goto_pc_self]
    exact hview
  | commit c hp =>
    rw [hp] at hview
    rw [World.goto_pc_self]
    exact ⟨_, execute_of_eligible hview.1 hview.2⟩
  | abandon tc | abandonNothing tc =>
    cases tc <;> simp [World.notifyAll, Pc.afterAbandon, View]
  | _ => simp [World.notifyAll, View]

omit [DecidableEq ι] in
theorem World.Working.settlesAlone {e : Event} (h : w.Working i) :
    SettlesAlone calls db w (i, e) := by
  unfold World.Working at h
  unfold SettlesAlone
  cases hp : w.pc i <;> simp_all [Pc.phase]

/-! ### The simulation of the rows -/

namespace RowsSim

/-- A step that does not complete a record keeps the rows in step with the sequential order. -/
theorem step (h : RowsSim calls now db w) (hc' : Claimed calls w')
    (hm : Move calls w i (.run now now) w') (hi : w.Working i → w'.Working i) :
    RowsSim calls now db w' := by
  have hno : ¬ w'.Raised i := hc'.not_raised i
  have other : ∀ {j}, j ≠ i → (w'.Working j ↔ w.Working j) := fun hj => by
    unfold World.Working
    rw [hm.pc_of_ne hj]
  have kept : ∀ {j}, w.Working j → w'.Working j := fun {j} hj => by
    by_cases hji : j = i
    · subst hji
      exact hi hj
    · exact (other hji).mpr hj
  have token : ∀ {j}, j ≠ i → w'.Working i → w'.Working j →
      (calls j).confirmationToken ≠ (calls i).confirmationToken := fun hj hi' hj' he =>
    hj (holder_unique_of_not_raised hc' hj'.holds hi'.holds he)
  have hview : View now db (calls i) (w.pc i) := by
    by_cases hw : w.Working i
    · exact (h.working i hw).2
    · cases hp : w.pc i <;>
        first | trivial | exact absurd (by simp [World.Working, hp, Pc.phase]) hw
  refine ⟨h.apart, (hm.keys hno).1.trans h.confirmationKeys, (hm.keys hno).2.trans h.quoteKeys,
    fun j hj => ?_, fun t ht => ?_, fun q hq => ?_⟩
  · by_cases hji : j = i
    · subst hji
      by_cases hw : w.Working j
      · obtain ⟨hrows, hview⟩ := h.working j hw
        exact ⟨hm.pcRows hrows hw.settlesAlone, hm.view hrows hview⟩
      · -- `j` has just claimed its token, and nobody else works on its rows.
        obtain ⟨hconn, hpc⟩ := hm.of_not_working hno hw
        rw [hpc hj, hconn]
        refine ⟨⟨h.confirmation _ fun k hk he => ?_,
          fun c hc => h.quote _ fun k c' hk hc' he => ?_⟩, trivial⟩
        · have hkj : k ≠ j := by rintro rfl; exact hw hk
          exact token hkj hj (kept hk) he
        · have hkj : k ≠ j := by rintro rfl; exact hw hk
          exact token hkj hj (kept hk) (h.apart _ _ c' c hc' hc he)
    · obtain ⟨hrows, hviewj⟩ := h.working j ((other hji).mp hj)
      rw [hm.pc_of_ne hji]
      refine ⟨hrows.congr ⟨hm.confirmation_kept hno hi fun hi' => (token hji hi' hj).symm,
        fun c hc => hm.quote_kept hno hi hview fun c' hi' hc' he => ?_⟩, hviewj⟩
      exact token hji hi' hj (h.apart _ _ c c' hc hc' he.symm)
  · rw [hm.confirmation_kept hno hi (ht i), h.confirmation t fun j hj => ht j (kept hj)]
  · rw [hm.quote_kept hno hi hview fun c hi' => hq i c hi',
      h.quote q fun j c hj => hq j c (kept hj)]

/-- A call that completes its record brings its updates into the sequential order. -/
theorem complete {r : BookingResult} (h : RowsSim calls now db w) (hc : Claimed calls w)
    (hp : w.pc i = .completeRecord r) (hx : execute now (calls i) db = some (r, db'))
    (hrows : w'.connection = w.connection) (hi : ¬ w'.Working i)
    (hpc : ∀ j, j ≠ i → w'.pc j = w.pc j) : RowsSim calls now db' w' := by
  have hwi : w.Working i := by simp [World.Working, hp, Pc.phase]
  have other : ∀ {j}, w'.Working j ↔ j ≠ i ∧ w.Working j := fun {j} => by
    by_cases hji : j = i
    · subst hji
      simp [hi]
    · unfold World.Working
      rw [hpc j hji]
      simp [hji]
  have token : ∀ {j}, w'.Working j → (calls j).confirmationToken ≠ (calls i).confirmationToken :=
    fun hj he => (other.mp hj).1
      (holder_unique_of_not_raised hc (other.mp hj).2.holds hwi.holds he)
  have hown : SameRows db (calls i) w.connection.rows db' := by
    have hr := (h.working i hwi).1
    rw [hp] at hr
    exact execute_rows hx hr
  obtain ⟨hck, hqk⟩ := execute_keys hx
  refine ⟨h.apart.execute hx, by rw [hrows, hck, h.confirmationKeys],
    by rw [hrows, hqk, h.quoteKeys], fun j hj => ?_, fun t ht => ?_, fun q hq => ?_⟩
  · obtain ⟨hr, hv⟩ := h.working j (other.mp hj).2
    have hsame : SameRows db (calls j) db' db :=
      ⟨execute_confirmation hx (token hj), fun c hcj => execute_quote hx fun c' hci he =>
        token hj (h.apart _ _ c c' hcj hci he.symm)⟩
    rw [hpc j (other.mp hj).1, hrows]
    exact ⟨hr.congr_base hsame, hv.congr hsame⟩
  · rw [hrows]
    by_cases hti : t = (calls i).confirmationToken
    · rw [hti, hown.confirmation]
    · rw [execute_confirmation hx hti]
      refine h.confirmation t fun j hj => ?_
      by_cases hji : j = i
      · subst hji
        exact fun he => hti he.symm
      · exact ht j (other.mpr ⟨hji, hj⟩)
  · rw [hrows]
    by_cases hqi : ∀ c, db.confirmations.lookup (calls i).confirmationToken = some c → c.quoteId ≠ q
    · rw [execute_quote hx hqi]
      refine h.quote q fun j c hj hcj => ?_
      by_cases hji : j = i
      · subst hji
        exact hqi c hcj
      · have hj' : w'.Working j := other.mpr ⟨hji, hj⟩
        exact hq j c hj' ((execute_confirmation hx (token hj')).trans hcj)
    · simp only [not_forall, not_not] at hqi
      obtain ⟨c, hci, rfl⟩ := hqi
      exact hown.quote c hci

end RowsSim

/-! ### The simulation of the store and the results -/

/-- The result of a call that has settled it. -/
def Pc.result? (p : Pc) : Option BookingResult := p.outcome?.bind Outcome.result?

/-- The record of a key between two calls of the sequential order: leases are not there yet. -/
def settledRecord : Option (Lease.Record String BookingResult) →
    Option (Lease.Record String BookingResult)
  | some (.inProgress _) => none
  | record => record

/-- The calls in `log` have taken effect, one after the other, and led to `s`. -/
structure Sim (calls : ι → Call) (now : UtcTime) (s₀ : Ledger) (w : World ι)
    (log : List (ι × BookingResult)) (s : Ledger) : Prop where
  claimed : Claimed calls w
  serves : Serves calls now s₀ log s
  nodup : (log.map Prod.fst).Nodup
  returned : ∀ i r, (i, r) ∈ log ↔ (w.pc i).result? = some r
  store : ∀ k, s.store k = settledRecord (w.store k)
  rows : RowsSim calls now s.db w

namespace Sim

variable {s₀ s s' : Ledger} {log : List (ι × BookingResult)} {r : BookingResult}

omit [DecidableEq ι] in
theorem notMem (h : Sim calls now s₀ w log s) (hi : (w.pc i).result? = none) :
    i ∉ log.map Prod.fst := by
  rw [List.mem_map]
  rintro ⟨⟨j, r⟩, hj, rfl⟩
  rw [(h.returned j r).mp hj] at hi
  simp at hi

/-- A step without effect on the sequential order. -/
theorem keep (h : Sim calls now s₀ w log s) (hc : Claimed calls w')
    (hm : Move calls w i (.run now now) w') (hi : w.Working i → w'.Working i)
    (hr : (w'.pc i).result? = (w.pc i).result?)
    (hs : ∀ k, settledRecord (w'.store k) = settledRecord (w.store k)) :
    Sim calls now s₀ w' log s where
  claimed := hc
  serves := h.serves
  nodup := h.nodup
  returned j r := by
    rw [h.returned j r]
    by_cases hji : j = i
    · subst hji
      rw [hr]
    · rw [hm.pc_of_ne hji]
  store k := by rw [h.store k, hs k]
  rows := h.rows.step hc hm hi

/-- A step by which the call `i` takes effect. -/
theorem effect (h : Sim calls now s₀ w log s) (hc : Claimed calls w')
    (hm : Move calls w i (.run now now) w') (hx : serve now (calls i) s = some (r, s'))
    (hi : (w.pc i).result? = none) (hr : (w'.pc i).result? = some r)
    (hs : ∀ k, s'.store k = settledRecord (w'.store k)) (hrows : RowsSim calls now s'.db w') :
    Sim calls now s₀ w' (log ++ [(i, r)]) s' where
  claimed := hc
  serves := h.serves.snoc hx
  nodup := by
    rw [List.map_append, List.map_singleton]
    refine h.nodup.append (List.nodup_singleton i) fun j hj hji => ?_
    obtain rfl : j = i := List.mem_singleton.mp hji
    exact h.notMem hi hj
  returned j r' := by
    rw [List.mem_append, List.mem_singleton, h.returned j r']
    by_cases hji : j = i
    · subst hji
      simp [hi, hr, eq_comm]
    · rw [hm.pc_of_ne hji]
      simp [hji]
  store := hs
  rows := hrows

/-- A step by which the call `i` answers from a settled record. -/
theorem answer (h : Sim calls now s₀ w log s) (hc : Claimed calls w')
    (hm : Move calls w i (.run now now) w') (hx : serve now (calls i) s = some (r, s))
    (hp : w.pc i = .claimRecord) (hr : (w'.pc i).result? = some r) (hs : w'.store = w.store) :
    Sim calls now s₀ w' (log ++ [(i, r)]) s :=
  h.effect hc hm hx (by rw [hp]; rfl) hr (by rw [hs]; exact h.store)
    (h.rows.step hc hm fun hw => by simp [World.Working, hp, Pc.phase] at hw)

/-- A step by which the call `i` completes its record. -/
theorem complete (h : Sim calls now s₀ w log s) (hc : Claimed calls w')
    (hm : Move calls w i (.run now now) w') (hp : w.pc i = .completeRecord r)
    (hown : w.store (calls i).idempotencyKey = some (.inProgress (calls i).requestFingerprint))
    (hstore : w'.store = Function.update w.store (calls i).idempotencyKey
      (some (.completed (calls i).requestFingerprint r)))
    (hrows : w'.connection = w.connection) (hp' : w'.pc i = .release (.executed r)) :
    ∃ s', Sim calls now s₀ w' (log ++ [(i, r)]) s' := by
  have hsr : s.store (calls i).idempotencyKey = none := by
    rw [h.store]
    exact congrArg settledRecord hown
  obtain ⟨-, hview⟩ := h.rows.working i (by simp [World.Working, hp, Pc.phase])
  rw [hp] at hview
  obtain ⟨db', hx⟩ := hview
  refine ⟨_, h.effect hc hm (serve_of_execute hsr hx) (by rw [hp]; rfl) (by rw [hp']; rfl)
    (fun k => ?_) (h.rows.complete h.claimed hp hx hrows
      (by simp [World.Working, hp', Pc.phase]) fun j hj => hm.pc_of_ne hj)⟩
  rw [hstore]
  show Function.update s.store _ _ k = _
  by_cases hk : k = (calls i).idempotencyKey
  · subst hk
    rw [Function.update_self, Function.update_self]
    rfl
  · rw [Function.update_of_ne hk, Function.update_of_ne hk, h.store k]

/-- **Every step either leaves the sequential order as it is or appends one call to it.** -/
theorem step (h : Sim calls now s₀ w log s)
    (hs : step calls w (i, .run now now) = some w') (hno : ∀ j, ¬ w'.Raised j) :
    ∃ log' s', Sim calls now s₀ w' log' s' := by
  have hc : Claimed calls w' := h.claimed.step hs hno
  have raises : w'.Raised i → ∃ log' s', Sim calls now s₀ w' log' s' := fun hr => absurd hr (hno i)
  obtain ⟨ha, hm⟩ := step_eq_some_iff.mp hs
  have hm' := hm
  cases hm with
  | waitRecord | waitTarget => exact ⟨log, s, h.keep hc hm' id rfl fun _ => rfl⟩
  | execute hp hr =>
    refine ⟨log, s, h.keep hc hm' (fun hw => by simp [World.Working, hp, Pc.phase] at hw)
      (by rw [World.goto_pc_self, hp]; rfl) fun k => ?_⟩
    by_cases hk : k = (calls i).idempotencyKey
    · subst hk
      simp [World.goto, World.withStore, hr, settledRecord]
    · simp [World.goto, World.withStore, hk]
  | replay r hp hr =>
    have hsr : s.store (calls i).idempotencyKey =
        some (.completed (calls i).requestFingerprint r) := by rw [h.store, hr]; rfl
    exact ⟨_, _, h.answer hc hm' (serve_of_replay hsr) hp (by rw [World.goto_pc_self]; rfl) rfl⟩
  | conflict f r hp hr hf =>
    have hsr : s.store (calls i).idempotencyKey = some (.completed f r) := by
      rw [h.store, hr]
      rfl
    exact ⟨_, _, h.answer hc hm' (serve_of_conflict hsr hf) hp
      (by rw [World.goto_pc_self]; rfl) rfl⟩
  | claimTarget hp | missing hp | selectConfirmation _ hp | stale _ hp | pass _ hp
  | updateQuote _ hp | updateConfirmation _ hp | commit _ hp =>
    exact ⟨log, s, h.keep hc hm' (fun _ => by simp [World.Working, Pc.phase])
      (by rw [World.goto_pc_self, hp]; rfl) fun _ => rfl⟩
  | complete r store hp hst =>
    have hown := h.claimed.leaseInv.owned i (by simp [World.lease, hp, Pc.phase, Lease.Phase.Owns])
    obtain rfl := Option.some.inj (hst.symm.trans (completeRecord_of_inProgress hown))
    obtain ⟨s', hs'⟩ := h.complete hc hm' hp hown rfl rfl
      (by simp only [World.notifyAll, World.goto_pc_self])
    exact ⟨_, s', hs'⟩
  | release o hp | releaseNothing o hp =>
    exact ⟨log, s, h.keep hc hm' (fun hw => by simp [World.Working, hp, Pc.phase] at hw)
      (by simp only [World.notifyAll, World.goto_pc_self, hp]; rfl) fun _ => rfl⟩
  | checkRaises | completeRaises | inTransaction | noTransaction | rollback =>
    exact raises (by simp [World.Raised, Pc.phase, Lease.Phase.Failed])
  | abandon tc | abandonNothing tc =>
    refine raises ?_
    cases tc <;> simp [World.Raised, World.notifyAll, Pc.afterAbandon, Pc.phase, Outcome.lease,
      Lease.Phase.Failed]

omit [DecidableEq ι] in
theorem of_initial (h : Initial w) (hq : QuotesApart w.connection.rows) :
    Sim calls now ⟨w.store, w.connection.rows⟩ w [] ⟨w.store, w.connection.rows⟩ where
  claimed := h.claimed
  serves := .nil
  nodup := List.nodup_nil
  returned i r := by simp [h.pc i, Pc.result?, Pc.outcome?]
  store k := by
    cases hk : w.store k with
    | none => exact hk
    | some record =>
      cases record with
      | inProgress f => exact absurd hk (h.settled k f)
      | completed => exact hk
  rows :=
    ⟨hq, rfl, rfl, fun i hi => by simp [World.Working, h.pc i, Pc.phase] at hi, fun _ _ => rfl,
      fun _ _ => rfl⟩

/-- Every run without exceptions under a fixed clock has a sequential order for the calls that have
taken effect. -/
theorem of_exec {labels : List (ι × Event)} (h : Initial w₀)
    (hq : QuotesApart w₀.connection.rows) (hrun : exec (Gateway.step calls) w₀ labels = some w)
    (hno : ∀ i, ¬ w.Raised i) (hclock : ∀ l ∈ labels, l.2 = .run now now) :
    ∃ log s, Sim calls now ⟨w₀.store, w₀.connection.rows⟩ w log s := by
  have hC : Along (Gateway.step calls) (fun _ l t => (∀ j, ¬ t.Raised j) ∧ l.2 = .run now now) w₀
      labels := by
    refine along_and.mpr ⟨along_not_raised hno hrun, ?_⟩
    rw [along_iff_split]
    rintro pre l post _ _ rfl - -
    exact hclock l (by simp)
  refine along_invariant
    (fun u => ∃ log s, Sim calls now ⟨w₀.store, w₀.connection.rows⟩ u log s)
    (fun u l t hu hl ht => ?_) ⟨_, _, of_initial h hq⟩ hC hrun
  obtain ⟨log, s, hsim⟩ := hu
  obtain ⟨j, e⟩ := l
  obtain rfl : e = .run now now := hl.2
  exact hsim.step ht hl.1

end Sim

/-! ### Complete runs -/

namespace Sim

variable {s₀ s : Ledger} {log : List (ι × BookingResult)} {r : BookingResult}

omit [DecidableEq ι] in
/-- A call that has returned a result is in the sequential order with this result. -/
theorem mem_of_returned (h : Sim calls now s₀ w log s) (hr : w.Returned i r) : (i, r) ∈ log := by
  obtain ⟨o, ho, hor⟩ := hr
  rw [h.returned i r, ho]
  simpa [Pc.result?, Pc.outcome?] using hor

omit [DecidableEq ι] in
theorem exists_returned (h : Sim calls now s₀ w log s) (hend : w.Ended i) :
    ∃ r, w.Returned i r := by
  obtain ⟨o, ho⟩ := hend
  cases o with
  | executed r | replayed r | conflicted r => exact ⟨r, _, ho, rfl⟩
  | raised =>
    exact absurd (by simp [World.Raised, ho, Pc.phase, Outcome.lease, Lease.Phase.Failed])
      (h.claimed.not_raised i)

omit [DecidableEq ι] in
/-- When all calls have ended, the rows are those of the sequential order. -/
theorem rows_eq (h : Sim calls now s₀ w log s) (hend : ∀ i, w.Ended i) :
    w.connection.rows.quotes = s.db.quotes ∧
      w.connection.rows.confirmations = s.db.confirmations := by
  have idle : ∀ i, ¬ w.Working i := fun i hi => by
    obtain ⟨o, ho⟩ := hend i
    simp [World.Working, ho, Pc.phase] at hi
  exact ⟨KeyedTable.ext_lookup h.rows.quoteKeys fun q =>
      h.rows.quote q fun i _ hi => absurd hi (idle i),
    KeyedTable.ext_lookup h.rows.confirmationKeys fun t =>
      h.rows.confirmation t fun i hi => absurd hi (idle i)⟩

omit [DecidableEq ι] in
theorem store_eq (h : Sim calls now s₀ w log s) (hend : ∀ i, w.Ended i) : w.store = s.store := by
  funext k
  rw [h.store k]
  have hsettled := h.claimed.noneLost.no_record_left (fun i => World.phase_ended_iff.mpr (hend i)) k
  cases hk : w.store k with
  | none => rfl
  | some record =>
    cases record with
    | inProgress f => exact absurd hk (hsettled f)
    | completed => rfl

end Sim

omit [DecidableEq ι] in
theorem Initial.quiet (h : Initial w) : Quiet w := ⟨funext h.awake, funext h.unclaimed⟩

/-- **Bookings are serializable.** If each quote is referred to by at most one confirmation, then
for every complete run in which no call raises and the clock stands still there is an order of the
calls such that running them one after the other returns the same result to every call and ends in
the same quotes, confirmations and idempotency records. -/
theorem bookings_serializable {labels : List (ι × Event)} (h : Initial w₀)
    (hq : QuotesApart w₀.connection.rows) (hrun : exec (step calls) w₀ labels = some w)
    (hno : ∀ i, ¬ w.Raised i) (hclock : ∀ l ∈ labels, l.2 = .run now now)
    (hend : ∀ i, w.Ended i) :
    ∃ (order : List (ι × ℕ)) (w' : World ι),
      (order.map Prod.fst).Nodup ∧ (∀ i, i ∈ order.map Prod.fst) ∧
      exec (step calls) w₀ (serialLabels now order) = some w' ∧
      (∀ i, w'.Ended i) ∧ (∀ i r, w'.Returned i r ↔ w.Returned i r) ∧
      w'.connection.rows.quotes = w.connection.rows.quotes ∧
      w'.connection.rows.confirmations = w.connection.rows.confirmations ∧
      w'.store = w.store := by
  obtain ⟨log, s, hsim⟩ := Sim.of_exec h hq hrun hno hclock
  obtain ⟨order, w', horder, hrun', hall⟩ := hsim.serves.exec h.quiet h.pc rfl hsim.nodup
  have returned : ∀ i r, w.Returned i r → w'.Returned i r := fun i r hr =>
    hall.returned i r (hsim.mem_of_returned hr)
  have hret : ∀ i, ∃ r, w.Returned i r := fun i => hsim.exists_returned (hend i)
  obtain ⟨hquotes, hconfirmations⟩ := hsim.rows_eq hend
  refine ⟨order, w', by rw [horder]; exact hsim.nodup, fun i => ?_, hrun', fun i => ?_,
    fun i r => ⟨fun hr' => ?_, returned i r⟩, ?_, ?_, ?_⟩
  · obtain ⟨r, hr⟩ := hret i
    rw [horder]
    exact List.mem_map.mpr ⟨_, hsim.mem_of_returned hr, rfl⟩
  · obtain ⟨r, hr⟩ := hret i
    obtain ⟨o, ho, -⟩ := returned i r hr
    exact ⟨o, ho⟩
  · obtain ⟨r₀, hr₀⟩ := hret i
    obtain ⟨o, ho, hor⟩ := returned i r₀ hr₀
    obtain ⟨o', ho', hor'⟩ := hr'
    obtain rfl : o = o' := by simpa using ho.symm.trans ho'
    obtain rfl := Option.some.inj (hor.symm.trans hor')
    exact hr₀
  · rw [hall.rows, hquotes]
  · rw [hall.rows, hconfirmations]
  · rw [hall.store, hsim.store_eq hend]

theorem memphisDatabase_quotesApart : QuotesApart memphisDatabase := by
  have only : ∀ {t c}, memphisDatabase.confirmations.lookup t = some c →
      t = memphisConfirmation.confirmationToken := fun hc => by
    obtain rfl := List.mem_singleton.mp (KeyedTable.mem_of_lookup hc)
    exact (KeyedTable.key_of_lookup hc).symm
  intro t t' c c' hc hc' _
  rw [only hc, only hc']

/-- A booking and its retry have a sequential order. -/
theorem bookings_serializable_retry :
    ∃ (w : World (Fin 2)) (order : List (Fin 2 × ℕ)) (w' : World (Fin 2)),
      exec (step fun _ => memphisCall "confirm-quote-88219" "v1") (.start memphisDatabase)
        ([goOn 0, goOn 1] ++ List.replicate 8 (goOn 0) ++ [goOn 1]) = some w ∧
      exec (step fun _ => memphisCall "confirm-quote-88219" "v1") (.start memphisDatabase)
        (serialLabels .first order) = some w' ∧
      ∀ i r, w'.Returned i r ↔ w.Returned i r := by
  let call := memphisCall "confirm-quote-88219" "v1"
  let r := submittedResult call memphisConfirmation .first
  have hpc : (exec (step fun _ => call) (.start memphisDatabase)
      ([goOn (0 : Fin 2), goOn 1] ++ List.replicate 8 (goOn 0) ++ [goOn 1])).map
      (fun w => (w.pc 0, w.pc 1)) = some (.done (.executed r), .done (.replayed r)) := by rfl
  obtain ⟨w, hw, hpc⟩ := Option.map_eq_some_iff.mp hpc
  obtain ⟨hp₀, hp₁⟩ := Prod.mk.inj hpc
  have hno : ∀ i, ¬ w.Raised i := by
    intro i
    match i with
    | 0 => simp [World.Raised, hp₀, Pc.phase, Outcome.lease, Lease.Phase.Failed]
    | 1 => simp [World.Raised, hp₁, Pc.phase, Outcome.lease, Lease.Phase.Failed]
  have hend : ∀ i, w.Ended i := by
    intro i
    match i with
    | 0 => exact ⟨_, hp₀⟩
    | 1 => exact ⟨_, hp₁⟩
  have hclock : ∀ l ∈ [goOn (0 : Fin 2), goOn 1] ++ List.replicate 8 (goOn 0) ++ [goOn 1],
      l.2 = .run .first .first := by simp [goOn]
  obtain ⟨order, w', -, -, hrun', -, hret, -⟩ := bookings_serializable (.start memphisDatabase)
    memphisDatabase_quotesApart hw hno hclock hend
  exact ⟨w, order, w', hw, hrun', hret⟩

end Meridian.Gateway
