import Meridian.Foundations.KeyedTable

/-!
# The rows of the database

The tables of `SQLITE_SCHEMA` in `backend/app/db/read_repository.py`, each with its primary key.

## Main definitions

* `Meridian.Db.Database`: the tables.
* `Meridian.Db.Database.bookQuote`, `Meridian.Db.Database.consumeConfirmation`: the two `UPDATE`
  statements of a booking.

## Main results

* `Meridian.Db.Database.lookup_quotes_bookQuote`,
  `Meridian.Db.Database.lookup_confirmations_consumeConfirmation`: what they do to each row.
-/

namespace Meridian.Db

open Foundations

structure OfficeRow where
  officeId : String
  officeName : String
  deploymentScope : String
  deriving DecidableEq

structure BrokerRow where
  brokerId : String
  officeId : String
  displayName : String
  role : String
  deriving DecidableEq

structure CarrierRow where
  carrierId : String
  carrierName : String
  shipmentMode : String
  onTimeRate : Rat
  insuranceExpiryDate : String
  deriving DecidableEq

structure QuoteRow where
  quoteId : String
  officeId : String
  brokerId : String
  carrierId : String
  originRegion : String
  destinationRegion : String
  shipmentMode : String
  weightClass : String
  pickupDate : String
  quoteStatus : String
  deriving DecidableEq

structure ShipmentRow where
  shipmentId : String
  officeId : String
  brokerId : String
  carrierId : String
  quoteId : Option String
  originRegion : String
  destinationRegion : String
  shipmentMode : String
  shipmentStatus : String
  exceptionType : Option String
  transitHours : Int
  etaAt : String
  createdAt : String
  deriving DecidableEq

structure EventRow where
  eventId : Int
  shipmentId : String
  officeId : String
  eventType : String
  eventAt : String
  eventSummary : String
  deriving DecidableEq

structure ConfirmationRow where
  confirmationToken : String
  quoteId : String
  officeId : String
  brokerId : String
  carrierId : String
  pickupDate : String
  confirmationStatus : String
  expiresAt : String
  deriving DecidableEq

/-- The tables, each with its primary key. -/
structure Database where
  offices : KeyedTable OfficeRow.officeId
  brokers : KeyedTable BrokerRow.brokerId
  carriers : KeyedTable CarrierRow.carrierId
  quotes : KeyedTable QuoteRow.quoteId
  shipments : KeyedTable ShipmentRow.shipmentId
  events : KeyedTable EventRow.eventId
  confirmations : KeyedTable ConfirmationRow.confirmationToken

/-- The row with the status `booked`. -/
def QuoteRow.booked (row : QuoteRow) : QuoteRow := { row with quoteStatus := "booked" }

@[simp] theorem QuoteRow.quoteId_booked (row : QuoteRow) : row.booked.quoteId = row.quoteId := rfl

/-- The row with the status `consumed`. -/
def ConfirmationRow.consumed (row : ConfirmationRow) : ConfirmationRow :=
  { row with confirmationStatus := "consumed" }

@[simp] theorem ConfirmationRow.confirmationToken_consumed (row : ConfirmationRow) :
    row.consumed.confirmationToken = row.confirmationToken := rfl

namespace Database

/-- The database without rows. -/
def empty : Database := ⟨.empty, .empty, .empty, .empty, .empty, .empty, .empty⟩

/-- `UPDATE shipment_quotes SET quote_status = 'booked' WHERE quote_id = ?`. -/
def bookQuote (db : Database) (quoteId : String) : Database :=
  { db with quotes := db.quotes.modify quoteId QuoteRow.booked QuoteRow.quoteId_booked }

/-- `UPDATE booking_confirmations SET confirmation_status = 'consumed' WHERE
confirmation_token = ?`. -/
def consumeConfirmation (db : Database) (token : String) : Database :=
  { db with
    confirmations := db.confirmations.modify token ConfirmationRow.consumed
      ConfirmationRow.confirmationToken_consumed }

variable {db : Database} {quoteId quoteId' token token' : String}

@[simp] theorem confirmations_bookQuote : (db.bookQuote quoteId).confirmations = db.confirmations :=
  rfl

@[simp] theorem quotes_consumeConfirmation : (db.consumeConfirmation token).quotes = db.quotes :=
  rfl

@[simp] theorem keys_quotes_bookQuote : (db.bookQuote quoteId).quotes.keys = db.quotes.keys := by
  simp only [bookQuote, KeyedTable.keys_modify]

@[simp] theorem keys_confirmations_consumeConfirmation :
    (db.consumeConfirmation token).confirmations.keys = db.confirmations.keys := by
  simp only [consumeConfirmation, KeyedTable.keys_modify]

/-- A booking update rewrites the row of its quote and no other. -/
theorem lookup_quotes_bookQuote :
    (db.bookQuote quoteId).quotes.lookup quoteId' =
      if quoteId' = quoteId then (db.quotes.lookup quoteId').map QuoteRow.booked
      else db.quotes.lookup quoteId' := by
  simp only [bookQuote, KeyedTable.lookup_modify]

/-- A consuming update rewrites the row of its token and no other. -/
theorem lookup_confirmations_consumeConfirmation :
    (db.consumeConfirmation token).confirmations.lookup token' =
      if token' = token then (db.confirmations.lookup token').map ConfirmationRow.consumed
      else db.confirmations.lookup token' := by
  simp only [consumeConfirmation, KeyedTable.lookup_modify]

end Database

end Meridian.Db
