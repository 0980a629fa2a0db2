import OfflinePay.Properties.Amounts
import OfflinePay.Properties.Arithmetic
import OfflinePay.Properties.Attestation
import OfflinePay.Properties.Audit
import OfflinePay.Properties.Authorisation
import OfflinePay.Properties.Budget
import OfflinePay.Properties.Canonical
import OfflinePay.Properties.Checkpoint
import OfflinePay.Properties.Classification
import OfflinePay.Properties.Cluster
import OfflinePay.Properties.ConnectionPool
import OfflinePay.Properties.Conservation
import OfflinePay.Properties.Consumption
import OfflinePay.Properties.Convergence
import OfflinePay.Properties.DeadLetters
import OfflinePay.Properties.Deadlock
import OfflinePay.Properties.Delivery
import OfflinePay.Properties.Duplicates
import OfflinePay.Properties.Envelopes
import OfflinePay.Properties.EventSourcing
import OfflinePay.Properties.FailureRecords
import OfflinePay.Properties.Hydration
import OfflinePay.Properties.Issuance
import OfflinePay.Properties.KeyDerivation
import OfflinePay.Properties.Ledger
import OfflinePay.Properties.Lifecycle
import OfflinePay.Properties.Limits
import OfflinePay.Properties.Outbox
import OfflinePay.Properties.RateLimit
import OfflinePay.Properties.Rebuild
import OfflinePay.Properties.Reconciliation
import OfflinePay.Properties.Recovery
import OfflinePay.Properties.Refinement
import OfflinePay.Properties.Relay
import OfflinePay.Properties.RelayService
import OfflinePay.Properties.Replay
import OfflinePay.Properties.Reservation
import OfflinePay.Properties.Retry
import OfflinePay.Properties.Revocation
import OfflinePay.Properties.RiskScore
import OfflinePay.Properties.RiskVerdicts
import OfflinePay.Properties.Rollback
import OfflinePay.Properties.SagaRows
import OfflinePay.Properties.Storm
import OfflinePay.Properties.TokenLifecycle
import OfflinePay.Properties.Velocity
