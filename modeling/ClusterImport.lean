import ClusterImport.Api.Client
import ClusterImport.Main
import ClusterImport.Recorder
import ClusterImport.Watch.Timeline
import ClusterImport.Proofs.MergePatch
import ClusterImport.Proofs.Trace
import ClusterImport.Proofs.ClusterPatch
import ClusterImport.Proofs.Course
import ClusterImport.Proofs.Creation
import ClusterImport.Proofs.StaleCache
import ClusterImport.Proofs.Application
import ClusterImport.Proofs.Registration
import ClusterImport.Proofs.Replay
import ClusterImport.Proofs.Table
import ClusterImport.Proofs.Marking
import ClusterImport.Proofs.Interleaving
import ClusterImport.Proofs.Path
import ClusterImport.Proofs.Versions
import ClusterImport.Proofs.LostUpdate
import ClusterImport.Proofs.Ownership
import ClusterImport.Proofs.Convergence
import ClusterImport.Proofs.Reporting
import ClusterImport.Proofs.Memory
import ClusterImport.Proofs.StoreMemory
import ClusterImport.Proofs.RecorderMemory
import ClusterImport.Proofs.Failure
import ClusterImport.Proofs.RegistrationOrder
import ClusterImport.Proofs.ReadBack
import ClusterImport.Proofs.MemoryRun
import ClusterImport.Proofs.MemoryApply
import ClusterImport.Proofs.Decision
import ClusterImport.Proofs.Footprint
import ClusterImport.Proofs.Idempotence
import ClusterImport.Proofs.Commutation
import ClusterImport.Proofs.Routing
import ClusterImport.Proofs.PatchTarget
import ClusterImport.Proofs.Pacing
import ClusterImport.Proofs.Measurement
import ClusterImport.Proofs.ObjectCount
import ClusterImport.Proofs.Difference
import ClusterImport.Proofs.PhysicalLine
import ClusterImport.Proofs.DocumentSplit
import ClusterImport.Proofs.DocumentJoin
import ClusterImport.Proofs.LineNumber
import ClusterImport.Proofs.ObjectList
import ClusterImport.Proofs.NamespaceRouting
import ClusterImport.Proofs.CalendarDate
import ClusterImport.Proofs.TimestampText
import ClusterImport.Proofs.Overlay
import ClusterImport.Proofs.Codec
import ClusterImport.Proofs.ClusterCodec
import ClusterImport.Proofs.ClusterOverlay
import ClusterImport.Proofs.TypedView
import ClusterImport.Proofs.Envelope
import ClusterImport.Proofs.Admission
import ClusterImport.Proofs.ReconcileCount
import ClusterImport.Proofs.AddressText
import ClusterImport.Proofs.Settings
import ClusterImport.Proofs.Numeral
import ClusterImport.Proofs.FieldRead
import ClusterImport.Proofs.TimestampReread
import ClusterImport.Proofs.Reread
import ClusterImport.Proofs.WrittenBack
import ClusterImport.Proofs.NormalForm
