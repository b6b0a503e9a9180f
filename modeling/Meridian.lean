import Meridian.Api.Actions
import Meridian.Api.Binding
import Meridian.Api.BookingRequests
import Meridian.Api.Chat
import Meridian.Api.ChatRequests
import Meridian.Api.Conversation
import Meridian.Api.Delivery
import Meridian.Api.Interleaving
import Meridian.Api.Isolation
import Meridian.Api.JobListing
import Meridian.Api.JobRoutes
import Meridian.Api.Ownership
import Meridian.Api.Promotion
import Meridian.Api.SessionIds
import Meridian.Api.SessionTable
import Meridian.Api.Sessions
import Meridian.Api.StoredSessions
import Meridian.Api.Validation
import Meridian.Api.WrongToken
import Meridian.Autonomy.Bounds
import Meridian.Autonomy.Checkpoints
import Meridian.Autonomy.Loading
import Meridian.Autonomy.Polls
import Meridian.Controller.Approval
import Meridian.Controller.Checkpoint
import Meridian.Controller.Choice
import Meridian.Controller.Closeout
import Meridian.Controller.Compactions
import Meridian.Controller.Contract
import Meridian.Controller.LongerQueue
import Meridian.Controller.Policy
import Meridian.Controller.Precedence
import Meridian.Controller.Readback
import Meridian.Controller.Resume
import Meridian.Controller.Runtime
import Meridian.Controller.Terminal
import Meridian.Db.Connection
import Meridian.Db.ReadRepository
import Meridian.Db.Rows
import Meridian.Db.Seeding
import Meridian.Evals.Assertions
import Meridian.Evals.BrokenResponses
import Meridian.Evals.Bundles
import Meridian.Evals.Contract
import Meridian.Evals.Gates
import Meridian.Foundations.Datetime
import Meridian.Foundations.Execution
import Meridian.Foundations.Json
import Meridian.Foundations.JsonSchema
import Meridian.Foundations.KeyedTable
import Meridian.Foundations.Lease
import Meridian.Foundations.LoadedEquality
import Meridian.Foundations.LoadedJson
import Meridian.Foundations.Paging
import Meridian.Foundations.Python
import Meridian.Foundations.Ranking
import Meridian.Foundations.Retry
import Meridian.Foundations.SchemaRefinement
import Meridian.Foundations.Serving
import Meridian.Foundations.TableUpdates
import Meridian.Foundations.Text
import Meridian.Frontend.ChatState
import Meridian.Frontend.JobPolling
import Meridian.Frontend.LossyPolling
import Meridian.Frontend.PendingJobs
import Meridian.Frontend.PollBackoff
import Meridian.Frontend.ResponseModel
import Meridian.Gateway.Atomicity
import Meridian.Gateway.Authority
import Meridian.Gateway.BookingActions
import Meridian.Gateway.BookingRuns
import Meridian.Gateway.BookingSystem
import Meridian.Gateway.DoubleBooking
import Meridian.Gateway.ExactEffect
import Meridian.Gateway.IdempotencyStore
import Meridian.Gateway.IdempotentBooking
import Meridian.Gateway.LostRecords
import Meridian.Gateway.RaisingBooking
import Meridian.Gateway.SequentialBooking
import Meridian.Gateway.Serializability
import Meridian.Gateway.WriteGateway
import Meridian.Jobs.ConcurrentRefresh
import Meridian.Jobs.ConcurrentStore
import Meridian.Jobs.FailedCreation
import Meridian.Jobs.IdempotentStore
import Meridian.Jobs.Lifecycle
import Meridian.Jobs.Models
import Meridian.Jobs.Provenance
import Meridian.Jobs.Repository
import Meridian.Jobs.SharedCompletion
import Meridian.Jobs.SharedCreation
import Meridian.Jobs.Store
import Meridian.Jobs.TwoStores
import Meridian.Orchestrator.JobMerges
import Meridian.Responses.Contract
import Meridian.Tools.Noninterference
import Meridian.Tools.PromptReads
import Meridian.Tools.ReadBounds
import Meridian.Tools.ReadExecutor
