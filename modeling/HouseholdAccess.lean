import HouseholdAccess.Failure.Named
import HouseholdAccess.Metric.Operation
import HouseholdAccess.Number.Spelling
import HouseholdAccess.Session
import HouseholdAccess.Proofs.Role.Permits
import HouseholdAccess.Proofs.Condition.Truth
import HouseholdAccess.Proofs.Condition.Written
import HouseholdAccess.Proofs.Rule.RoundTrip
import HouseholdAccess.Proofs.Cache.Coherent
import HouseholdAccess.Proofs.Cache.Keeping
import HouseholdAccess.Proofs.Session.Refreshing
import HouseholdAccess.Proofs.Cache.Calling
import HouseholdAccess.Proofs.Stage
import HouseholdAccess.Proofs.Stage.Behaviour
import HouseholdAccess.Proofs.Stage.Order
import HouseholdAccess.Proofs.Stage.Places
import HouseholdAccess.Proofs.Stage.Provenance
import HouseholdAccess.Proofs.Condition.Meaning
import HouseholdAccess.Proofs.Rule.Possible
import HouseholdAccess.Proofs.Stage.Freshness
import HouseholdAccess.Proofs.Session.OnStage
import HouseholdAccess.Proofs.Role.Tables
import HouseholdAccess.Proofs.Cache.Fallback
import HouseholdAccess.Proofs.Session.LookingUp
import HouseholdAccess.Proofs.Cache.Undisturbed
import HouseholdAccess.Proofs.Stage.Undisturbed
import HouseholdAccess.Proofs.Stage.LookingUp
import HouseholdAccess.Proofs.Machine.Sharing
import HouseholdAccess.Proofs.Rule.Settled
import HouseholdAccess.Proofs.Condition.Answered
import HouseholdAccess.Proofs.Session.Kinds
import HouseholdAccess.Proofs.Independence.Runs
import HouseholdAccess.Proofs.Condition.Grammar
import HouseholdAccess.Proofs.Rule.Format
import HouseholdAccess.Proofs.Session.Hits
import HouseholdAccess.Proofs.Rule.Parts
import HouseholdAccess.Proofs.Role.Comparison
import HouseholdAccess.Proofs.Value.Order
import HouseholdAccess.Proofs.Condition.Nested
import HouseholdAccess.Proofs.Value.Equality
import HouseholdAccess.Proofs.Clearance.Settled
import HouseholdAccess.Proofs.Stage.Denied
import HouseholdAccess.Proofs.Stage.Surrounded
import HouseholdAccess.Proofs.Condition.Calls
import HouseholdAccess.Proofs.Rule.Fields
import HouseholdAccess.Proofs.Event.Batches
