import FuseControlPlane.Foundation.Program
import FuseControlPlane.Foundation.Table
import FuseControlPlane.Foundation.ReadCommitted
import FuseControlPlane.Foundation.Runs
import FuseControlPlane.Foundation.Delegation
import FuseControlPlane.Foundation.Outcomes
import FuseControlPlane.Foundation.JavaScript
import FuseControlPlane.Domain.Policy
import FuseControlPlane.Persistence.Rows
import FuseControlPlane.Persistence.PolicyStore
import FuseControlPlane.Persistence.Effects
import FuseControlPlane.Persistence.Invariants
import FuseControlPlane.Persistence.Commits
import FuseControlPlane.Persistence.Limits
import FuseControlPlane.Persistence.Lifecycle
import FuseControlPlane.Persistence.Reconciliation
import FuseControlPlane.Persistence.Preview
import FuseControlPlane.Persistence.Branches
import FuseControlPlane.Persistence.Holds
import FuseControlPlane.Persistence.Orphans
import FuseControlPlane.Inference.InferenceExecution
import FuseControlPlane.Inference.AmbiguousOutcomes
import FuseControlPlane.Inference.Dispatch
import FuseControlPlane.Identity.IdentityStore
import FuseControlPlane.Http.HumanSessions
import FuseControlPlane.Identity.Mutations
import FuseControlPlane.Http.SessionAuthority
import FuseControlPlane.Product.WorkspaceOnboardingStore
import FuseControlPlane.Product.Operations
import FuseControlPlane.Product.Lease
import FuseControlPlane.Product.Capacity
import FuseControlPlane.Providers.ProviderConfigStore
import FuseControlPlane.Providers.ProviderAdministration
import FuseControlPlane.Providers.Verification
import FuseControlPlane.Identity.CredentialAdministration
import FuseControlPlane.Product.OnboardingCalls
import FuseControlPlane.Product.CustomerOnboarding
import FuseControlPlane.Http.BetaOnboarding
import FuseControlPlane.Product.OnboardingWorld
import FuseControlPlane.Product.Calls
import FuseControlPlane.Http.Invites
import FuseControlPlane.Identity.WorkspaceInvites
import FuseControlPlane.Identity.InviteAcceptance
import FuseControlPlane.Reliability.AttemptOperations
import FuseControlPlane.Reliability.AuthorizationOperations
import FuseControlPlane.Reliability.LaneHolds
import FuseControlPlane.Reliability.LaneOperations
import FuseControlPlane.Reliability.ProtocolFailure
import FuseControlPlane.Reliability.ProtocolRows
import FuseControlPlane.Reliability.ReconciliationPlans
import FuseControlPlane.Reliability.ReliabilityRun
import FuseControlPlane.Reliability.SchedulerClaims
import FuseControlPlane.Foundation.Json
import FuseControlPlane.Foundation.Files
import FuseControlPlane.Evidence.ManifestPublication
import FuseControlPlane.Evidence.PublicationStages
import FuseControlPlane.Evidence.PublicationOrder
import FuseControlPlane.Evidence.RestartManifests
import FuseControlPlane.Evidence.ManifestRuns
import FuseControlPlane.Reliability.SchedulerRecovery
import FuseControlPlane.Reliability.ProtocolSteps
import FuseControlPlane.Reliability.ProtocolEffects
import FuseControlPlane.Reliability.ProtocolTransactions
import FuseControlPlane.Reliability.ProtocolInvariants
import FuseControlPlane.Reliability.AttemptClassification
import FuseControlPlane.Reliability.ProtocolCounters
import FuseControlPlane.Reliability.ExposureCap
import FuseControlPlane.Reliability.HoldMembers
import FuseControlPlane.Reliability.HeldAttempts
import FuseControlPlane.Reliability.ReconciliationTimelines
import FuseControlPlane.Anomaly.SiblingDivergence
import FuseControlPlane.Core.Circuit
import FuseControlPlane.Core.FuseService
import FuseControlPlane.Core.LedgerConservation
import FuseControlPlane.Core.ProviderCalls
import FuseControlPlane.Foundation.WriteBack
import FuseControlPlane.Persistence.PostgresState
import FuseControlPlane.Reliability.HeldLanes
import FuseControlPlane.Signer.AuthorizationStore
import FuseControlPlane.Signer.SignRequests
import FuseControlPlane.Signer.SignerAuthority
import FuseControlPlane.Persistence.Exposure
import FuseControlPlane.Reliability.DurableStages
import FuseControlPlane.Reliability.FailureAbsorption
import FuseControlPlane.Reliability.ReportAuthority
import FuseControlPlane.Anomaly.DivergenceLaws
import FuseControlPlane.Core.CircuitTrips
import FuseControlPlane.Core.CostTexts
import FuseControlPlane.Core.ReceiptCanonicity
import FuseControlPlane.Domain.FinancialLedger
import FuseControlPlane.Domain.JournalBalances
import FuseControlPlane.Domain.PolicyMonotonicity
import FuseControlPlane.Persistence.Readiness
import FuseControlPlane.Persistence.ShadowQueue
import FuseControlPlane.Persistence.ShadowQueueStatus
import FuseControlPlane.Reliability.FailStop
import FuseControlPlane.Reliability.JustifiedPlans
import FuseControlPlane.Foundation.StableSort
import FuseControlPlane.Foundation.JsonValues
import FuseControlPlane.Reliability.SetupReadiness
import FuseControlPlane.Product.PaymentEvidence
import FuseControlPlane.Product.AcceptedPrices
import FuseControlPlane.Evidence.AuthoritativeSettlement
import FuseControlPlane.Evidence.CanonicalTexts
import FuseControlPlane.Evidence.AuthoritativeEvidence
import FuseControlPlane.Evidence.EvidenceTampering
import FuseControlPlane.Evidence.SettlementClosure
import FuseControlPlane.Evidence.ClosureAgreement
import FuseControlPlane.Evidence.SettlementPolls
import FuseControlPlane.Foundation.Conversions
import FuseControlPlane.Evidence.AuthorizationArtifacts
import FuseControlPlane.Reliability.HeldLaneModel
import FuseControlPlane.Reliability.LiveReconciler
import FuseControlPlane.Reliability.LookupAgreement
import FuseControlPlane.Foundation.JsValues
import FuseControlPlane.Core.StateData
import FuseControlPlane.Persistence.SavedStates
import FuseControlPlane.Foundation.JoinedTexts
import FuseControlPlane.Product.SandboxRuns
import FuseControlPlane.Product.TenantKeys
import FuseControlPlane.Foundation.FixedWindows
import FuseControlPlane.Product.RateLimits
import FuseControlPlane.Foundation.Buffers
import FuseControlPlane.Providers.SealedSecrets
import FuseControlPlane.Foundation.KeysetPages
import FuseControlPlane.Product.Receipts
import FuseControlPlane.Foundation.WordStreams
import FuseControlPlane.Evidence.SealedPlans
import FuseControlPlane.Evidence.PlanValidation
import FuseControlPlane.Reliability.DispatchRows
import FuseControlPlane.Reliability.DispatchTokens
