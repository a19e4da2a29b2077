import SalesAgent.Lib.Runs
import SalesAgent.Lib.IndexedTable
import SalesAgent.DateTime
import SalesAgent.Idempotency.Canonical
import SalesAgent.Idempotency.Attempts
import SalesAgent.Idempotency.Replay
import SalesAgent.Boundary.Invoke
import SalesAgent.Boundary.Isolation
import SalesAgent.Boundary.Replayability
import SalesAgent.Boundary.CreateOnce
import SalesAgent.MediaBuy.Repository
import SalesAgent.MediaBuy.Creatives
import SalesAgent.MediaBuy.Lifecycle
import SalesAgent.MediaBuy.Commitment
import SalesAgent.MediaBuy.OneOrder
import SalesAgent.Accounts.Access
import SalesAgent.Accounts.Isolation
import SalesAgent.CreativeSync.Assignments
import SalesAgent.CreativeSync.Collision
import SalesAgent.CreativeSync.Untouched
import SalesAgent.Database.Effects
import SalesAgent.Database.Nests
import SalesAgent.Lib.UnitOfWork
import SalesAgent.MediaBuy.Approval
import SalesAgent.MediaBuy.DailySpend
import SalesAgent.MediaBuy.Revision
import SalesAgent.MediaBuy.SameOrder
import SalesAgent.MediaBuy.Sweep
import SalesAgent.MediaBuy.UpdateAtomic
import SalesAgent.Accounts.Closure
import SalesAgent.Accounts.ProofOfControl
import SalesAgent.Background.ApprovalLaws
import SalesAgent.CreativeReview.Verdicts
import SalesAgent.CreativeSync.Asking
import SalesAgent.CreativeSync.Preview
import SalesAgent.CreativeSync.Symmetry
import SalesAgent.Identity.Directory
import SalesAgent.Identity.Escalation
import SalesAgent.Lib.Parties
import SalesAgent.Lib.Refresh
import SalesAgent.MediaBuy.CreativeGate
import SalesAgent.MediaBuy.HeldBuys
import SalesAgent.MediaBuy.Releases
import SalesAgent.Products.Catalogue
import SalesAgent.Products.GetProducts
import SalesAgent.Signing.KeyLifecycle
import SalesAgent.Signing.ReplayNonces
import SalesAgent.Tasks.HumanDecisions
import SalesAgent.Tasks.Outcome
import SalesAgent.Webhooks.Attribution
import SalesAgent.CreativeListing.Listing
import SalesAgent.Egress.Attempts
import SalesAgent.Egress.Outbound
import SalesAgent.Egress.Policy
import SalesAgent.Inventory.Laws
import SalesAgent.Lib.StructuredFields
import SalesAgent.Signing.BodyReplay
import SalesAgent.Signing.HeaderPrecheck
import SalesAgent.Gam.CustomTargeting
import SalesAgent.Gam.Targeting
import SalesAgent.Idempotency.InsertCeiling
import SalesAgent.MediaBuy.Delivery
import SalesAgent.MediaBuy.PricingAdmission
import SalesAgent.Products.FormatNotions
import SalesAgent.Products.VariantLaws
import SalesAgent.Tasks.ListTasks
import SalesAgent.Webhooks.DeliverWebhook
import SalesAgent.MediaBuy.BuyListing
import SalesAgent.CreativeSync.AssignmentAccounting
import SalesAgent.Lib.CachedFetch
import SalesAgent.Signing.KeyResolution
import SalesAgent.Database.Draining
import SalesAgent.Database.RaceRecovery
import SalesAgent.Lib.Replace
import SalesAgent.Naming.OrderNames
import SalesAgent.Gam.LineItems
import SalesAgent.Gam.OrderCreation
import SalesAgent.Gam.BudgetUpdates
import SalesAgent.Lib.WholeUnits
import SalesAgent.Gam.OrderedVolume
import SalesAgent.A2a.Tasks
import SalesAgent.A2a.Invocation
import SalesAgent.A2a.TaskLaws
import SalesAgent.A2a.WireIntegers
import SalesAgent.Discovery.PropertyLists
import SalesAgent.MediaBuy.DeliveryLaws
