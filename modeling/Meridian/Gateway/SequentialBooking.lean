import Meridian.Gateway.BookingRuns

/-!
# Bookings one after the other

The sequential meaning of a booking: what a call returns and leaves behind when no other call runs
at the same time, with a clock that moves on and with one that stands still.

## Main definitions

* `Meridian.Gateway.Ledger`: the store and the database between two calls.
* `Meridian.Gateway.serve`: one call, from its claim to its release.
* `Meridian.Gateway.executeAt`: what a call with a fresh key computes, from the readings of the
  clock at its steps.
* `Meridian.Gateway.Serves`: a sequence of calls with their results.

## Main results

* `Meridian.Gateway.exec_soloLabels`: a call that runs alone does what `executeAt` says.
* `Meridian.Gateway.exec_solo`: a call that runs alone does what `serve` says.
* `Meridian.Gateway.Serves.exec`: a sequence of served calls is a run of the concurrent system.
-/

namespace Meridian.Gateway

open Foundations Db

/-- The store and the database between two calls. -/
structure Ledger where
  store : Store BookingResult
  db : Database

/-- The database after a booking. -/
def book (call : Call) (confirmation : ConfirmationRow) (db : Database) : Database :=
  (db.bookQuote confirmation.quoteId).consumeConfirmation call.confirmationToken

/-- The result of a call that executes, and the database it leaves; `none` if it raises. -/
def execute (now : UtcTime) (call : Call) (db : Database) : Option (BookingResult × Database) :=
  match db.confirmations.lookup call.confirmationToken with
  | none => some (missingResult call now, db)
  | some confirmation =>
    match staleResultIfNeeded call confirmation (db.quotes.lookup confirmation.quoteId) now now with
    | .error _ => none
    | .ok (some result) => some (result, db)
    | .ok none => some (submittedResult call confirmation now, book call confirmation db)

/-- One call on its own; `none` if it waits or raises. -/
def serve (now : UtcTime) (call : Call) (s : Ledger) : Option (BookingResult × Ledger) :=
  match s.store call.idempotencyKey with
  | some (.inProgress _) => none
  | some (.completed fingerprint result) =>
    if fingerprint = call.requestFingerprint then some (result, s)
    else some (conflictResult call result now, s)
  | none =>
    (execute now call s.db).map fun (result, db) =>
      (result, ⟨Function.update s.store call.idempotencyKey
        (some (.completed call.requestFingerprint result)), db⟩)

variable {ι : Type*} {calls : ι → Call} {now : UtcTime} {s₀ s s' : Ledger} {i : ι}
  {r : BookingResult} {log : List (ι × BookingResult)}

/-- The calls of `log` are served one after the other with the results of `log`. -/
inductive Serves (calls : ι → Call) (now : UtcTime) (s₀ : Ledger) :
    List (ι × BookingResult) → Ledger → Prop
  | nil : Serves calls now s₀ [] s₀
  | snoc {log : List (ι × BookingResult)} {s s' : Ledger} {i : ι} {r : BookingResult}
      (h : Serves calls now s₀ log s) (hi : serve now (calls i) s = some (r, s')) :
      Serves calls now s₀ (log ++ [(i, r)]) s'

theorem execute_of_missing {call : Call} {db : Database}
    (h : db.confirmations.lookup call.confirmationToken = none) :
    execute now call db = some (missingResult call now, db) := by
  simp [execute, h]

theorem execute_of_stale {call : Call} {db : Database} {c : ConfirmationRow}
    (h : db.confirmations.lookup call.confirmationToken = some c)
    (hs : staleResultIfNeeded call c (db.quotes.lookup c.quoteId) now now = .ok (some r)) :
    execute now call db = some (r, db) := by
  simp [execute, h, hs]

theorem execute_of_eligible {call : Call} {db : Database} {c : ConfirmationRow}
    (h : db.confirmations.lookup call.confirmationToken = some c)
    (he : Eligible call c (db.quotes.lookup c.quoteId) now) :
    execute now call db = some (submittedResult call c now, book call c db) := by
  simp [execute, h, staleResultIfNeeded_eq_none_iff.mpr he]

theorem serve_of_replay {call : Call}
    (h : s.store call.idempotencyKey = some (.completed call.requestFingerprint r)) :
    serve now call s = some (r, s) := by
  simp [serve, h]

theorem serve_of_conflict {call : Call} {f : String}
    (h : s.store call.idempotencyKey = some (.completed f r)) (hf : f ≠ call.requestFingerprint) :
    serve now call s = some (conflictResult call r now, s) := by
  simp [serve, h, hf]

theorem serve_of_execute {call : Call} {db : Database} (h : s.store call.idempotencyKey = none)
    (hb : execute now call s.db = some (r, db)) :
    serve now call s = some (r, ⟨Function.update s.store call.idempotencyKey
      (some (.completed call.requestFingerprint r)), db⟩) := by
  simp [serve, h, hb]

/-! ### A call that runs alone -/

/-- No call is under way: the store and the claims are settled and nobody sleeps. -/
structure Quiet (w : World ι) : Prop where
  awake : w.asleep = fun _ => false
  unclaimed : w.claims = fun _ => none

variable {w w' w₁ : World ι}

/-- Everything but the place of the call `i` and the rows is as it was. -/
structure Worked (w : World ι) (i : ι) (w' : World ι) : Prop where
  store : w'.store = w.store
  claims : w'.claims = w.claims
  asleep : w'.asleep = w.asleep
  others : ∀ j, j ≠ i → w'.pc j = w.pc j

namespace Worked

theorem refl : Worked w i w := ⟨rfl, rfl, rfl, fun _ _ => rfl⟩

theorem trans (h : Worked w i w₁) (h' : Worked w₁ i w') : Worked w i w' where
  store := h'.store.trans h.store
  claims := h'.claims.trans h.claims
  asleep := h'.asleep.trans h.asleep
  others j hj := (h'.others j hj).trans (h.others j hj)

theorem withConnection {connection : Connection} (h : Worked w i w') :
    Worked w i (w'.withConnection connection) :=
  ⟨h.store, h.claims, h.asleep, h.others⟩

end Worked

variable [DecidableEq ι]

theorem Worked.goto {p : Pc} (h : Worked w i w') : Worked w i (w'.goto i p) where
  store := h.store
  claims := h.claims
  asleep := h.asleep
  others j hj := (World.goto_pc_of_ne hj).trans (h.others j hj)

/-- The call `i` gets from `w` to `w'` by steps of its own. -/
def Solo (calls : ι → Call) (now : UtcTime) (i : ι) (w w' : World ι) : Prop :=
  ∃ n, exec (step calls) w (List.replicate n (i, .run now now)) = some w'

theorem Solo.refl : Solo calls now i w w := ⟨0, rfl⟩

theorem Solo.head (ha : w.asleep i = false) (hm : Move calls w i (.run now now) w₁)
    (h : Solo calls now i w₁ w') : Solo calls now i w w' := by
  obtain ⟨n, hn⟩ := h
  exact ⟨n + 1, exec_cons_eq_some.mpr ⟨w₁, step_eq_some_iff.mpr ⟨ha, hm⟩, hn⟩⟩

/-! ### A clock that moves on -/

/-- The first steps of the call `i`, with the two readings of the clock at each of them. -/
def soloLabels (i : ι) (ticks : ℕ → UtcTime × UtcTime) (n : ℕ) : List (ι × Event) :=
  (List.range n).map fun k => (i, .run (ticks k).1 (ticks k).2)

/-- The result of a call that executes, and the database it leaves; `none` if it raises. The third
step reads the confirmation, the fourth reads the quote and checks, the seventh commits. -/
def executeAt (ticks : ℕ → UtcTime × UtcTime) (call : Call) (db : Database) :
    Option (BookingResult × Database) :=
  match db.confirmations.lookup call.confirmationToken with
  | none => some (missingResult call (ticks 2).2, db)
  | some confirmation =>
    match staleResultIfNeeded call confirmation (db.quotes.lookup confirmation.quoteId)
        (ticks 3).1 (ticks 3).2 with
    | .error _ => none
    | .ok (some result) => some (result, db)
    | .ok none => some (submittedResult call confirmation (ticks 6).2, book call confirmation db)

variable {ticks : ℕ → UtcTime × UtcTime} {n : ℕ}

omit [DecidableEq ι] in
/-- A clock that stands still. -/
theorem soloLabels_const :
    soloLabels i (fun _ => (now, now)) n = List.replicate n (i, .run now now) := by
  rw [soloLabels, List.map_const', List.length_range]

theorem executeAt_const (call : Call) (db : Database) :
    executeAt (fun _ => (now, now)) call db = execute now call db := rfl

theorem exec_soloLabels_succ (h : exec (step calls) w (soloLabels i ticks n) = some w₁)
    (ha : w₁.asleep i = false) (hm : Move calls w₁ i (.run (ticks n).1 (ticks n).2) w') :
    exec (step calls) w (soloLabels i ticks (n + 1)) = some w' := by
  rw [soloLabels, List.range_succ, List.map_append, exec_append_eq_some]
  exact ⟨w₁, h, exec_cons_eq_some.mpr ⟨w', step_eq_some_iff.mpr ⟨ha, hm⟩, rfl⟩⟩

/-- A call that has passed its checks updates both rows and commits. -/
theorem exec_book {c : ConfirmationRow}
    (h : exec (step calls) w (soloLabels i ticks 4) = some w₁) (ha : w₁.asleep i = false)
    (hp : w₁.pc i = .updateQuote c) :
    ∃ w', exec (step calls) w (soloLabels i ticks 7) = some w' ∧
      w'.pc i = .completeRecord (submittedResult (calls i) c (ticks 6).2) ∧
      w'.connection.rows = book (calls i) c w₁.connection.rows ∧ Worked w₁ i w' := by
  let w₂ := (w₁.withConnection (w₁.connection.update (·.bookQuote c.quoteId))).goto i
    (.updateConfirmation c)
  let w₃ := (w₂.withConnection (w₂.connection.update
    (·.consumeConfirmation (calls i).confirmationToken))).goto i (.commit c)
  have h₂ : exec (step calls) w (soloLabels i ticks 5) = some w₂ :=
    exec_soloLabels_succ h ha (.updateQuote c hp)
  have h₃ : exec (step calls) w (soloLabels i ticks 6) = some w₃ :=
    exec_soloLabels_succ h₂ ha (.updateConfirmation c World.goto_pc_self)
  exact ⟨_, exec_soloLabels_succ h₃ ha (.commit c World.goto_pc_self), World.goto_pc_self, rfl,
    Worked.refl.withConnection.goto.withConnection.goto.withConnection.goto⟩

/-- The statements of a call that runs alone compute `executeAt`. -/
theorem exec_work {db : Database} (h₀ : exec (step calls) w (soloLabels i ticks 2) = some w₁)
    (ha : w₁.asleep i = false) (hp : w₁.pc i = .selectConfirmation)
    (h : executeAt ticks (calls i) w₁.connection.rows = some (r, db)) :
    ∃ n w', exec (step calls) w (soloLabels i ticks n) = some w' ∧ w'.pc i = .completeRecord r ∧
      w'.connection.rows = db ∧ Worked w₁ i w' := by
  unfold executeAt at h
  split at h
  · next hc =>
    obtain ⟨rfl, rfl⟩ := Prod.mk.inj (Option.some.inj h)
    exact ⟨3, _, exec_soloLabels_succ h₀ ha (.missing hp hc), World.goto_pc_self, rfl,
      Worked.refl.goto⟩
  · next c hc =>
    let w₂ := w₁.goto i (.selectQuote c)
    have h₂ : exec (step calls) w (soloLabels i ticks 3) = some w₂ :=
      exec_soloLabels_succ h₀ ha (.selectConfirmation c hp hc)
    have hp₂ : w₂.pc i = .selectQuote c := World.goto_pc_self
    split at h
    · cases h
    · next result hs =>
      obtain ⟨rfl, rfl⟩ := Prod.mk.inj (Option.some.inj h)
      obtain rfl := staleResultIfNeeded_eq_some hs
      exact ⟨4, _, exec_soloLabels_succ h₂ ha (.stale c hp₂ hs), World.goto_pc_self, rfl,
        Worked.refl.goto.goto⟩
    · next hs =>
      obtain ⟨rfl, rfl⟩ := Prod.mk.inj (Option.some.inj h)
      have he := staleResultIfNeeded_eq_none_iff.mp hs
      let w₃ := w₂.goto i (.updateQuote c)
      have h₃ : exec (step calls) w (soloLabels i ticks 4) = some w₃ :=
        exec_soloLabels_succ h₂ ha (.pass c hp₂ he)
      have hp₃ : w₃.pc i = .updateQuote c := World.goto_pc_self
      have hw₃ : Worked w₁ i w₃ := Worked.refl.goto.goto
      obtain ⟨w', hw', hp', hdb, hworked⟩ := exec_book h₃ ha hp₃
      exact ⟨7, w', hw', hp', hdb, hw₃.trans hworked⟩

/-- What a call that has been served alone leaves behind. -/
structure Served (w : World ι) (i : ι) (r : BookingResult) (s : Ledger) (w' : World ι) : Prop where
  store : w'.store = s.store
  rows : w'.connection.rows = s.db
  quiet : Quiet w'
  others : ∀ j, j ≠ i → w'.pc j = w.pc j
  returned : w'.Returned i r

/-- A call that executes alone takes its lease, works and gives the lease back. -/
theorem exec_soloLabels {db : Database} (hq : Quiet w) (hp : w.pc i = .claimRecord)
    (hr : w.store (calls i).idempotencyKey = none)
    (h : executeAt ticks (calls i) w.connection.rows = some (r, db)) :
    ∃ n w', exec (step calls) w (soloLabels i ticks n) = some w' ∧ w'.pc i = .done (.executed r) ∧
      Served w i r ⟨Function.update w.store (calls i).idempotencyKey
        (some (.completed (calls i).requestFingerprint r)), db⟩ w' := by
  have awake : ∀ {j}, w.asleep j = false := by simp [hq.awake]
  have hfree : w.claims (calls i).confirmationToken = none := by simp [hq.unclaimed]
  let w₁ := (w.withStore (Function.update w.store (calls i).idempotencyKey
    (some (.inProgress (calls i).requestFingerprint)))).goto i .claimTarget
  let w₂ := (w₁.withClaims (Function.update w₁.claims (calls i).confirmationToken
    (some (calls i).idempotencyKey))).goto i .selectConfirmation
  have h₁ : exec (step calls) w (soloLabels i ticks 1) = some w₁ :=
    exec_soloLabels_succ rfl awake (.execute hp hr)
  have h₂ : exec (step calls) w (soloLabels i ticks 2) = some w₂ :=
    exec_soloLabels_succ h₁ awake (.claimTarget World.goto_pc_self (.inl hfree))
  have hp₂ : w₂.pc i = .selectConfirmation := World.goto_pc_self
  obtain ⟨n, w₃, h₃, hp₃, hdb, hw₃⟩ := exec_work h₂ awake hp₂ h
  have hr₃ : w₃.store (calls i).idempotencyKey =
      some (.inProgress (calls i).requestFingerprint) := by
    rw [hw₃.store]
    exact Function.update_self ..
  let w₄ := ((w₃.withStore (Function.update w₃.store (calls i).idempotencyKey
    (some (.completed (calls i).requestFingerprint r)))).goto i (.release (.executed r))).notifyAll
  have h₄ : exec (step calls) w (soloLabels i ticks (n + 1)) = some w₄ :=
    exec_soloLabels_succ h₃ (by rw [hw₃.asleep]; exact awake)
      (.complete r _ hp₃ (completeRecord_of_inProgress hr₃))
  have hp₄ : w₄.pc i = .release (.executed r) := World.goto_pc_self
  have ht₄ : w₄.claims (calls i).confirmationToken = some (calls i).idempotencyKey := by
    show w₃.claims _ = _
    rw [hw₃.claims]
    exact Function.update_self ..
  refine ⟨n + 2, _, exec_soloLabels_succ h₄ rfl (.release _ hp₄ ht₄), World.goto_pc_self, ?_, hdb,
    ⟨rfl, ?_⟩, fun j hj => ?_, ⟨_, World.goto_pc_self, rfl⟩⟩
  · show Function.update w₃.store _ _ = _
    rw [hw₃.store]
    exact Function.update_idem ..
  · show Function.update w₃.claims _ _ = _
    rw [hw₃.claims]
    show Function.update (Function.update w.claims _ _) _ _ = _
    rw [Function.update_idem, hq.unclaimed]
    exact Function.update_eq_self_iff.mpr rfl
  · simp only [World.goto, World.withClaims, World.notifyAll, w₄, World.withStore,
      Function.update_of_ne hj]
    rw [hw₃.others j hj]
    simp only [w₂, w₁, World.goto, World.withClaims, World.withStore, Function.update_of_ne hj]

/-- **A call that runs alone does what `serve` says.** -/
theorem exec_solo (hq : Quiet w) (hp : w.pc i = .claimRecord)
    (h : serve now (calls i) ⟨w.store, w.connection.rows⟩ = some (r, s)) :
    ∃ w', Solo calls now i w w' ∧ Served w i r s w' := by
  have awake : w.asleep i = false := by simp [hq.awake]
  unfold serve at h
  cases hr : w.store (calls i).idempotencyKey with
  | none =>
    simp only [hr, Option.map_eq_some_iff, Prod.mk.injEq] at h
    obtain ⟨⟨r', db⟩, hx, rfl, rfl⟩ := h
    rw [← executeAt_const] at hx
    obtain ⟨n, w', hexec, -, hserved⟩ := exec_soloLabels hq hp hr hx
    exact ⟨w', ⟨n, by rw [← soloLabels_const]; exact hexec⟩, hserved⟩
  | some record =>
    cases record with
    | inProgress f => simp [hr] at h
    | completed f r' =>
      simp only [hr] at h
      split at h
      · rename_i hf
        subst hf
        obtain ⟨rfl, rfl⟩ := Prod.mk.inj (Option.some.inj h)
        exact ⟨_, .head awake (.replay r' hp hr) .refl, rfl, rfl, ⟨hq.awake, hq.unclaimed⟩,
          fun j hj => World.goto_pc_of_ne hj, _, World.goto_pc_self, rfl⟩
      · rename_i hf
        obtain ⟨rfl, rfl⟩ := Prod.mk.inj (Option.some.inj h)
        exact ⟨_, .head awake (.conflict f r' hp hr hf) .refl, rfl, rfl,
          ⟨hq.awake, hq.unclaimed⟩, fun j hj => World.goto_pc_of_ne hj, _, World.goto_pc_self, rfl⟩

/-! ### Sequences of calls -/

/-- The labels of a sequential run: each call of the list takes all its steps before the next. -/
def serialLabels (now : UtcTime) (order : List (ι × ℕ)) : List (ι × Event) :=
  order.flatMap fun (i, n) => List.replicate n (i, .run now now)

/-- The calls that have been served have returned their results, the others have not started. -/
structure ServedAll (w : World ι) (log : List (ι × BookingResult)) (s : Ledger) : Prop where
  store : w.store = s.store
  rows : w.connection.rows = s.db
  quiet : Quiet w
  returned : ∀ i r, (i, r) ∈ log → w.Returned i r
  waiting : ∀ i, i ∉ log.map Prod.fst → w.pc i = .claimRecord

/-- **A sequence of served calls is a run of the concurrent system.** -/
theorem Serves.exec (h : Serves calls now s₀ log s) (hq : Quiet w) (hp : ∀ i, w.pc i = .claimRecord)
    (hs : s₀ = ⟨w.store, w.connection.rows⟩) (hn : (log.map Prod.fst).Nodup) :
    ∃ (steps : List (ι × ℕ)) (w' : World ι), steps.map Prod.fst = log.map Prod.fst ∧
      exec (step calls) w (serialLabels now steps) = some w' ∧ ServedAll w' log s := by
  induction h with
  | nil =>
    subst hs
    exact ⟨[], w, rfl, rfl, rfl, rfl, hq, by simp, fun i _ => hp i⟩
  | @snoc log s s' i r _ hi ih =>
    rw [List.map_append, List.map_singleton, List.nodup_append] at hn
    obtain ⟨hn, -, hnew⟩ := hn
    have hnotin : i ∉ log.map Prod.fst := fun hmem => hnew i hmem i (List.mem_singleton_self i) rfl
    obtain ⟨steps, w₁, hsteps, hw₁, hall⟩ := ih hn
    obtain ⟨w₂, ⟨n, hw₂⟩, hserved⟩ := exec_solo hall.quiet (hall.waiting i hnotin)
      (by rw [hall.store, hall.rows]; exact hi)
    refine ⟨steps ++ [(i, n)], w₂, by simp [hsteps], ?_, hserved.store, hserved.rows,
      hserved.quiet, fun j r' hj => ?_, fun j hj => ?_⟩
    · rw [serialLabels, List.flatMap_append, List.flatMap_singleton, exec_append_eq_some]
      exact ⟨w₁, hw₁, hw₂⟩
    · rw [List.mem_append, List.mem_singleton] at hj
      rcases hj with hj | hj
      · have hji : j ≠ i := by
          rintro rfl
          exact hnotin (List.mem_map.mpr ⟨_, hj, rfl⟩)
        obtain ⟨o, ho, hor⟩ := hall.returned j r' hj
        exact ⟨o, by rw [hserved.others j hji, ho], hor⟩
      · obtain ⟨rfl, rfl⟩ := Prod.mk.inj hj
        exact hserved.returned
    · rw [List.map_append, List.map_singleton, List.mem_append, List.mem_singleton, not_or] at hj
      rw [hserved.others j hj.2, hall.waiting j hj.1]

end Meridian.Gateway
