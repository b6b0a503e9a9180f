import Mathlib.Data.Set.Subsingleton
import Meridian.Db.Rows

/-!
# The shared connection

All requests of the application share one `sqlite3` connection, and so its single transaction. The
first data-changing statement after a commit or a rollback opens the transaction, whichever request
it belongs to; a commit or a rollback closes it for all of them.

## Main definitions

* `Meridian.Db.Connection`: the rows the connection reads, the rows a rollback returns to, and
  whether a transaction is open.
* `Meridian.Db.Connection.tables`, `Meridian.Db.Connection.quoteRows`: the tables that it can show,
  and the rows of a quote in them.

## Main results

* `Meridian.Db.Connection.rollback_of_clean`: a rollback outside a transaction changes nothing.
-/

namespace Meridian.Db

/-- A `sqlite3` connection: the rows that its statements see, the committed rows, and
`in_transaction`. Outside a transaction the two are equal. -/
structure Connection where
  rows : Database
  committed : Database
  inTransaction : Bool
  rows_eq_committed : inTransaction = false → rows = committed

namespace Connection

/-- A data-changing statement: it opens a transaction if none is open. -/
def update (c : Connection) (f : Database → Database) : Connection where
  rows := f c.rows
  committed := c.committed
  inTransaction := true
  rows_eq_committed := by simp

/-- `connection.commit()`. -/
def commit (c : Connection) : Connection where
  rows := c.rows
  committed := c.rows
  inTransaction := false
  rows_eq_committed _ := rfl

/-- `connection.rollback()`. -/
def rollback (c : Connection) : Connection where
  rows := c.committed
  committed := c.committed
  inTransaction := false
  rows_eq_committed _ := rfl

/-- A connection whose rows are all committed. -/
def ofDatabase (db : Database) : Connection where
  rows := db
  committed := db
  inTransaction := false
  rows_eq_committed _ := rfl

/-- The tables that the connection can show: those that its statements see, and those that a
rollback returns to. -/
def tables (c : Connection) : Set Database := {c.rows, c.committed}

theorem rows_mem_tables {c : Connection} : c.rows ∈ c.tables := .inl rfl

theorem committed_mem_tables {c : Connection} : c.committed ∈ c.tables := .inr rfl

/-- The rows of a quote in these tables. -/
def quoteRows (c : Connection) (quoteId : String) : Set QuoteRow :=
  {quote | ∃ db ∈ c.tables, db.quotes.lookup quoteId = some quote}

/-- A quote has one row if it is not committed. -/
theorem quoteRows_subsingleton {c : Connection} {quoteId : String}
    (h : c.committed.quotes.lookup quoteId = none) : (c.quoteRows quoteId).Subsingleton := by
  have hrow {quote : QuoteRow} (hquote : quote ∈ c.quoteRows quoteId) :
      c.rows.quotes.lookup quoteId = some quote := by
    obtain ⟨db, rfl | rfl, hlookup⟩ := hquote
    · exact hlookup
    · rw [h] at hlookup
      cases hlookup
  intro quote hquote quote' hquote'
  exact Option.some.inj ((hrow hquote).symm.trans (hrow hquote'))

/-- A rollback outside a transaction changes nothing. -/
theorem rollback_of_clean {c : Connection} (h : c.inTransaction = false) : c.rollback = c := by
  cases c with
  | mk rows committed inTransaction hc =>
    cases h
    obtain rfl := hc rfl
    rfl

end Connection

end Meridian.Db
