import Thought2Build.Library.Ranked
import Thought2Build.Library.Rows
import Thought2Build.Library.Waterfall
import Thought2Build.Library.Paging
import Thought2Build.Library.Histories
import Thought2Build.Billing.AccountCore
import Thought2Build.Billing.CreditServiceCore
import Thought2Build.Billing.SettlementCore
import Thought2Build.Billing.Provenance
import Thought2Build.Billing.Restores
import Thought2Build.Billing.RestoreTermination
import Thought2Build.Billing.Soundness
import Thought2Build.Billing.Refunds
import Thought2Build.Billing.Drains
import Thought2Build.Billing.Grants
import Thought2Build.Billing.Reversals
import Thought2Build.Billing.ReversalEffects
import Thought2Build.Billing.ReversalCommits
import Thought2Build.Billing.LedgerStamps
import Thought2Build.Billing.Settlements
import Thought2Build.Billing.Runs
import Thought2Build.Billing.ReachedAccounts
import Thought2Build.Billing.SpendablePacks
import Thought2Build.Billing.Balance
import Thought2Build.Billing.RoutedRuns
import Thought2Build.Billing.RefundReports
import Thought2Build.Billing.Reconciliation
import Thought2Build.Billing.InboxCore
import Thought2Build.Billing.InboxRuns
import Thought2Build.Billing.FreshGrants
import Thought2Build.Billing.RecordedRefunds
import Thought2Build.Billing.AccountEdits
import Thought2Build.Billing.DebtFirstGrants
import Thought2Build.Billing.LentCredits
import Thought2Build.Billing.RefundIdentity
import Thought2Build.Billing.RefundTotals
import Thought2Build.Library.JsonValues
import Thought2Build.Billing.StoreCore
import Thought2Build.Billing.LemonHandlersCore
import Thought2Build.Billing.RazorpayHandlersCore
import Thought2Build.Billing.StoreOrders
import Thought2Build.Billing.CheckoutHistories
import Thought2Build.Billing.RefundHistories
import Thought2Build.Pipeline.VersionHistory
import Thought2Build.Pipeline.QualityGates
import Thought2Build.Pipeline.GateMerges
import Thought2Build.Pipeline.RunSettlement
import Thought2Build.Pipeline.RunProgress
import Thought2Build.Pipeline.ResumeChains
import Thought2Build.Pipeline.DurableGeneration
import Thought2Build.Pipeline.InterruptionTransparency
import Thought2Build.Pipeline.StageUnlocking
import Thought2Build.Library.Sweeps
import Thought2Build.Pipeline.RecoverableStages
import Thought2Build.Pipeline.RecoverySweeps
import Thought2Build.Integrations.InstallCallbackCore
import Thought2Build.Integrations.InstallCallbacks
import Thought2Build.Integrations.InstallationCore
import Thought2Build.Integrations.InstallationOwnership
import Thought2Build.Integrations.AcceptanceCriteria
import Thought2Build.Integrations.TaskIssueSync
import Thought2Build.Pipeline.IncrementSettlement
import Thought2Build.Integrations.TaskEvents
import Thought2Build.Integrations.BackfillCore
import Thought2Build.Integrations.BackfillSweeps
import Thought2Build.Integrations.ExportJobs
import Thought2Build.Pipeline.StoryboardSettlement
import Thought2Build.Auth.RefreshRotation
import Thought2Build.Client.ApiClientCore
import Thought2Build.Client.SessionRecovery
import Thought2Build.Pipeline.StoryboardSources
import Thought2Build.Library.JsonText
import Thought2Build.Sharing.PublicShares
import Thought2Build.Sharing.ShareTags
import Thought2Build.Library.Workers
import Thought2Build.Evals.EvalBatches
import Thought2Build.Evals.EvalResults
import Thought2Build.Integrations.WebhookInbox
import Thought2Build.Library.Newest
import Thought2Build.Retention.Purges
import Thought2Build.Library.Blocks
import Thought2Build.Integrations.InstructionSync
import Thought2Build.Library.PatternPlaces
import Thought2Build.Integrations.TaskReaders
import Thought2Build.Research.Accounting
import Thought2Build.Pipeline.HarnessIndex
import Thought2Build.Library.Peeling
import Thought2Build.Pipeline.TaskDependencies
import Thought2Build.Pipeline.AdmissionSlots
import Thought2Build.Client.SseSettlement
import Thought2Build.Library.FirstWins
import Thought2Build.Pipeline.Dedupe
import Thought2Build.Pipeline.HarnessFindings
import Thought2Build.Client.PartialStreams
import Thought2Build.Library.Budgets
import Thought2Build.Integrations.GovernorBudgets
import Thought2Build.Pipeline.AttemptBounds
import Thought2Build.Llm.Circuits
import Thought2Build.Auth.CsrfTokens
import Thought2Build.Library.SlidingWindows
import Thought2Build.Middleware.RateLimits
import Thought2Build.Pipeline.UpstreamSections
import Thought2Build.Library.Bisection
import Thought2Build.Pipeline.ProblemCompression
import Thought2Build.Library.Readings
import Thought2Build.Pipeline.TechSafety
import Thought2Build.Middleware.BodySizeCore
import Thought2Build.Middleware.BodySizes
import Thought2Build.Integrations.GitHubBreakerCore
import Thought2Build.Integrations.GitHubBreakers
import Thought2Build.Integrations.InstallationTokens
import Thought2Build.Integrations.BoardGroupsCore
import Thought2Build.Integrations.BoardGroups
import Thought2Build.Evals.RequirementCoverage
import Thought2Build.Evals.CoverageFigures
import Thought2Build.Library.SplitTexts
import Thought2Build.Pipeline.HarnessExportCore
import Thought2Build.Pipeline.HarnessExport
import Thought2Build.Integrations.ContentPathsCore
import Thought2Build.Integrations.ContentPaths
import Thought2Build.Client.TaskCardsCore
import Thought2Build.Client.TaskCardHeadings
import Thought2Build.Client.TaskCards
import Thought2Build.Evals.TaskGaps
import Thought2Build.Evals.PromisedFilesCore
import Thought2Build.Library.Trimming
import Thought2Build.Pipeline.CanonicalPaths
import Thought2Build.Evals.PromisedFiles
import Thought2Build.Integrations.TaskStubsCore
import Thought2Build.Integrations.TaskStubs
import Thought2Build.Integrations.AgentIssuesCore
import Thought2Build.Integrations.AgentIssues
import Thought2Build.Library.Leases
import Thought2Build.Integrations.RepoLocksCore
import Thought2Build.Integrations.RepoLocks
import Thought2Build.Client.StreamChunks
import Thought2Build.Billing.RazorpayDisputesCore
import Thought2Build.Billing.DisputeOrders
