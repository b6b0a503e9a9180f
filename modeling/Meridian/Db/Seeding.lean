import Meridian.Db.Connection
import Meridian.Foundations.Json
import Mathlib.Data.List.Monad

/-!
# The seeded connection

`build_seeded_read_connection` of `backend/app/db/read_repository.py`: the connection that the
application and its tests work on. The script of the schema runs outside a transaction; the first
`INSERT` opens one, and nothing commits it. What SQLite stores for a row (affinities, constraints,
generated ids) is a parameter, of which only this is known: an `INSERT` that returns has added a
row.

## Main definitions

* `Meridian.Db.RowInsert`: the parameter.
* `Meridian.Db.buildSeededReadConnection`: the connection.
* `Meridian.Db.NoRows`: a bundle that inserts nothing.

## Main results

* `Meridian.Db.seeded_cases`: either the bundle inserts nothing and the connection is clean, or it
  has rows, none of them is committed, and a transaction is open.
-/

namespace Meridian.Db

open Foundations

/-- What `INSERT INTO table (columns) VALUES (values)` makes of the tables, unless it raises. -/
structure RowInsert where
  insert : String → List (String × Json) → Database → Option Database
  adds : ∀ {table row db db'}, insert table row db = some db' → db' ≠ .empty

/-- A seed bundle, with the values by their names. -/
abbrev SeedBundle := List (String × Json)

/-- `bool(value)`. -/
def truthy : Json → Bool
  | .null => false
  | .bool b => b
  | .num q => decide (q ≠ 0)
  | .str s => decide (s ≠ "")
  | .arr items => !items.isEmpty
  | .obj fields => !fields.isEmpty

/-- The rows for the table `offices`. -/
def officeRows (bundle : SeedBundle) : List Json :=
  match bundle.lookup "office" with
  | some office => if truthy office then [office] else []
  | none => []

/-- `list(bundle.get(table_name, []))`; `none` if it raises. -/
def tableRows (bundle : SeedBundle) (tableName : String) : Option (List Json) :=
  match bundle.lookup tableName with
  | none => some []
  | some (.arr items) => some items
  | some (.obj fields) => some (fields.map fun field => .str field.1)
  | some (.str s) => some (s.toList.map fun c => .str c.toString)
  | some _ => none

/-- The other tables, in the order in which they are filled. -/
def seedTables : List String :=
  ["brokers", "carriers", "shipment_quotes", "shipments", "shipment_events",
    "booking_confirmations"]

section Insert

variable (sqlite : RowInsert)

/-- One row of an `executemany`: a data-changing statement. -/
def insertRow (tableName : String) (columns : List String) (c : Connection) :
    Json → Option Connection
  | .obj fields =>
    (sqlite.insert tableName
      (columns.map fun column => (column, (fields.lookup column).getD .null)) c.rows).map
        fun db => c.update fun _ => db
  | _ => none

/-- `_insert_rows`, which takes the columns from the first row; `none` if it raises. -/
def insertRows (c : Connection) (tableName : String) : List Json → Option Connection
  | [] => some c
  | .obj fields :: rows =>
    (.obj fields :: rows).foldlM (insertRow sqlite tableName (fields.map Prod.fst)) c
  | _ :: _ => none

/-- `build_seeded_read_connection`; `none` if it raises. -/
def buildSeededReadConnection (bundle : SeedBundle) : Option Connection := do
  let c ← insertRows sqlite (.ofDatabase .empty) "offices" (officeRows bundle)
  seedTables.foldlM (fun c tableName => do
    let rows ← tableRows bundle tableName
    insertRows sqlite c tableName rows) c

end Insert

/-- The bundle inserts no row. -/
def NoRows (bundle : SeedBundle) : Prop :=
  officeRows bundle = [] ∧ ∀ tableName ∈ seedTables, tableRows bundle tableName = some []

/-- The tables have rows, none of them is committed, and a transaction is open. -/
structure Connection.Uncommitted (c : Connection) : Prop where
  committed : c.committed = .empty
  inTransaction : c.inTransaction = true
  rows : c.rows ≠ .empty

variable {sqlite : RowInsert} {bundle : SeedBundle} {c c' : Connection} {tableName : String}
  {columns : List String} {row : Json} {rows : List Json}

theorem insertRow_uncommitted (h : insertRow sqlite tableName columns c row = some c')
    (hc : c.committed = .empty) : c'.Uncommitted := by
  cases row with
  | scalar | arr => cases h
  | obj fields =>
    obtain ⟨db, hdb, rfl⟩ := Option.map_eq_some_iff.mp h
    exact ⟨hc, rfl, sqlite.adds hdb⟩

/-- A list of rows that is not empty leaves a transaction open. -/
theorem foldlM_insertRow_uncommitted :
    {rows : List Json} → {c : Connection} → c.committed = .empty → rows ≠ [] →
      rows.foldlM (insertRow sqlite tableName columns) c = some c' → c'.Uncommitted
  | [row], c, hc, _, h => by
    simp only [List.foldlM_cons, List.foldlM_nil] at h
    exact insertRow_uncommitted (by simpa using h) hc
  | row :: row' :: rows, c, hc, _, h => by
    rw [List.foldlM_cons] at h
    obtain ⟨c₁, h₁, h⟩ := Option.bind_eq_some_iff.mp h
    have hc₁ := insertRow_uncommitted h₁ hc
    exact foldlM_insertRow_uncommitted hc₁.committed (by simp) h

theorem insertRows_cases (h : insertRows sqlite c tableName rows = some c')
    (hc : c.committed = .empty) : rows = [] ∧ c' = c ∨ rows ≠ [] ∧ c'.Uncommitted := by
  unfold insertRows at h
  split at h
  · exact .inl ⟨rfl, (Option.some.inj h).symm⟩
  · exact .inr ⟨by simp, foldlM_insertRow_uncommitted hc (by simp) h⟩
  · cases h

/-- Filling tables leaves the connection alone if there are no rows for them. -/
theorem foldlM_insertRows_cases :
    {tables : List String} → {c : Connection} → c.committed = .empty →
      (tables.foldlM (fun c tableName => do
        let rows ← tableRows bundle tableName
        insertRows sqlite c tableName rows) c) = some c' →
      (∀ tableName ∈ tables, tableRows bundle tableName = some []) ∧ c' = c ∨
        (∃ tableName ∈ tables, tableRows bundle tableName ≠ some []) ∧ c'.Uncommitted
  | [], c, _, h => .inl ⟨by simp, (Option.some.inj h).symm⟩
  | tableName :: tables, c, hc, h => by
    rw [List.foldlM_cons] at h
    obtain ⟨c₁, h₁, hrest⟩ := Option.bind_eq_some_iff.mp h
    obtain ⟨rows, hrows, h₁⟩ := Option.bind_eq_some_iff.mp h₁
    obtain ⟨rfl, rfl⟩ | ⟨hne, hc₁⟩ := insertRows_cases h₁ hc
    · obtain ⟨hnone, rfl⟩ | ⟨⟨name, hname, hsome⟩, hc'⟩ := foldlM_insertRows_cases hc hrest
      · exact .inl ⟨List.forall_mem_cons.mpr ⟨hrows, hnone⟩, rfl⟩
      · exact .inr ⟨⟨name, List.mem_cons_of_mem _ hname, hsome⟩, hc'⟩
    · refine .inr ⟨⟨tableName, List.mem_cons_self, ?_⟩, ?_⟩
      · rw [hrows]
        exact fun he => hne (Option.some.inj he)
      · obtain ⟨-, rfl⟩ | ⟨-, hc'⟩ := foldlM_insertRows_cases hc₁.committed hrest
        · exact hc₁
        · exact hc'

/-- A seeded connection is clean and empty, or all its rows belong to an open transaction. -/
theorem seeded_cases (h : buildSeededReadConnection sqlite bundle = some c) :
    NoRows bundle ∧ c = .ofDatabase .empty ∨ ¬ NoRows bundle ∧ c.Uncommitted := by
  obtain ⟨c₁, h₁, hrest⟩ := Option.bind_eq_some_iff.mp h
  obtain ⟨hoffice, rfl⟩ | ⟨hoffice, hc₁⟩ := insertRows_cases h₁ rfl
  · obtain ⟨hnone, rfl⟩ | ⟨⟨tableName, hname, hsome⟩, hc⟩ := foldlM_insertRows_cases rfl hrest
    · exact .inl ⟨⟨hoffice, hnone⟩, rfl⟩
    · exact .inr ⟨fun hno => hsome (hno.2 tableName hname), hc⟩
  · refine .inr ⟨fun hno => hoffice hno.1, ?_⟩
    obtain ⟨-, rfl⟩ | ⟨-, hc⟩ := foldlM_insertRows_cases hc₁.committed hrest
    · exact hc₁
    · exact hc

/-- On a seeded connection no quote has two rows. -/
theorem seeded_quoteRows_subsingleton (h : buildSeededReadConnection sqlite bundle = some c)
    (quoteId : String) : (c.quoteRows quoteId).Subsingleton := by
  have hcommitted : c.committed = .empty := by
    obtain ⟨-, rfl⟩ | ⟨-, hc⟩ := seeded_cases h
    · rfl
    · exact hc.committed
  exact Connection.quoteRows_subsingleton (by rw [hcommitted]; rfl)

end Meridian.Db
