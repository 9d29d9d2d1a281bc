import Zentra.StepTrace
import Zentra.RaisingMethod
import Zentra.ExecutionJob
import Zentra.ExecutionJobInvariant
import Zentra.ExecutionJobAtomicity
import Zentra.Lease
import Zentra.ExecutionJobLease
import Zentra.AgentOutcome
import Zentra.AnalysisRun
import Zentra.AnalysisRunLifecycle
import Zentra.DraftFinding
import Zentra.PublicationGate
import Zentra.RunBoard
import Zentra.OverflowDraining
import Zentra.PipelineAssembly
import Zentra.WorkerSystem
import Zentra.WorkerSteps
import Zentra.WorkerCancellation
import Zentra.WorkerConsistency
import Zentra.WorkerSettlement
import Zentra.WorkerRows
import Zentra.CancelRequest
import Zentra.ApprovalDecision
import Zentra.ApprovalLockStep
import Zentra.JsonDocument
import Zentra.RunRow
import Zentra.RunRoundTrip
import Zentra.TableRows
import Zentra.RowLock
import Zentra.AuditOutbox
import Zentra.AuditTimeline
import Zentra.WorkFeed
import Zentra.EvidenceStore
import Zentra.Erasure
import Zentra.ErasureReadback
import Zentra.ErasureCompleteness
import Zentra.ErasureConcurrency
import Zentra.RaisingTriple
import Zentra.SourceCatalog
import Zentra.JoinRelation
import Zentra.Reconciliation
import Zentra.JoinAdmission
import Zentra.CatalogStore
import Zentra.RelationInference
import Zentra.RelationConfidence
import Zentra.HarvestExecution
import Zentra.HarvestFrame
import Zentra.HarvestRunRow
import Zentra.HarvestSystem
import Zentra.HarvestSteps
import Zentra.HarvestEnd
import Zentra.HarvestEffect
import Zentra.CarryForward
import Zentra.HarvestTrace
import Zentra.StaleEvidence
import Zentra.ConnectorService
import Zentra.RejectionMemory
import Zentra.AgentAccess
import Zentra.CubeModel
import Zentra.CubeNoninterference
import Zentra.CubeFingerprint
import Zentra.CubeNames
import Zentra.PythonNumbers
import Zentra.PythonCsv
import Zentra.LandingZone
import Zentra.TypeInference
import Zentra.AgentRuntime
import Zentra.AgentPrivilege
import Zentra.AgentTranscript
import Zentra.PointerWalk
import Zentra.PoolCapacity
import Zentra.Sequence
import Zentra.SequenceLineage
import Zentra.ProviderBreaker
import Zentra.RoutedModelClient
import Zentra.TableLoading
import Zentra.FilterPreservation
import Zentra.DecisionEngine
import Zentra.FilterRouting
import Zentra.SqlInjection
import Zentra.JoinOrder
import Zentra.LikePatterns
import Zentra.PresetDates
import Zentra.CompileCache
import Zentra.SyncTabs
import Zentra.SemanticLayer
import Zentra.CubeScope
import Zentra.DataQuery
import Zentra.SourceScope
import Zentra.TableLocks
import Zentra.TableLockExclusion
import Zentra.TableLockProgress
import Zentra.QueueRuns
import Zentra.QueueSettled
import Zentra.QueueEnds
import Zentra.QueueDependencies
import Zentra.ConflictMerge
import Zentra.IdempotentEnqueue
import Zentra.ProvisionalIds
import Zentra.LeaderElection
import Zentra.LeaderAgreement
import Zentra.LeaderHeartbeats
import Zentra.PriorityQueue
import Zentra.PythonJson
import Zentra.EdgeWalks
import Zentra.WorkflowPolicy
import Zentra.WorkflowDocument
import Zentra.WorkflowEngine
import Zentra.WorkflowReach
import Zentra.WorkflowTermination
import Zentra.WorkflowSafety
import Zentra.WorkflowPrivilege
import Zentra.QueryCancellation
import Zentra.Thread
import Zentra.ThreadStore
import Zentra.ThreadService
import Zentra.ThreadEffect
import Zentra.ArchivedThreads
import Zentra.ThreadPrivacy
import Zentra.ThreadStreaming
import Zentra.StreamedTurns
import Zentra.StreamingAgreement
import Zentra.PythonGenerator
import Zentra.StreamEndings
import Zentra.Visualization
import Zentra.SingleUseActions
import Zentra.MappingRegistration
import Zentra.ClaimValidation
import Zentra.CitableClaims
import Zentra.HttpCircuitBreaker
import Zentra.HttpRetry
import Zentra.CircuitContract
import Zentra.RealtimeStream
import Zentra.RealtimeConnection
import Zentra.RealtimeClient
import Zentra.GapRecovery
import Zentra.ConnectionCover
import Zentra.StreamOrder
import Zentra.TableSync
import Zentra.BackgroundFileSync
import Zentra.SyncMetadata
import Zentra.DuckDBRouter
import Zentra.ViewNames
import Zentra.IdleShutdown
import Zentra.SampleBounds
import Zentra.BoardConflicts
import Zentra.CitationFidelity
import Zentra.PythonCall
import Zentra.CitationResolution
import Zentra.FieldNames
import Zentra.CandidateCoverage
import Zentra.PluralKeys
import Zentra.HarvestOutcome
import Zentra.BudgetCoverage
import Zentra.CircularDependency
import Zentra.OptimisticRollback
import Zentra.ThreadAffordances
import Zentra.ThreadPaging
import Zentra.SessionService
import Zentra.WorkflowRecords
import Zentra.QueryValidation
import Zentra.RecordCreation
