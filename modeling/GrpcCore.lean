import GrpcCore.Transport.ReceiveWindow
import GrpcCore.Transport.HeaderListSize
import GrpcCore.Transport.CloseTransport
import GrpcCore.Inci.Calls
import GrpcCore.Inci.Replies
import GrpcCore.Transport.SettingsMirror
import GrpcCore.Transport.HandRolled
import GrpcCore.Memory.Reclaimable
import GrpcCore.Memory.Pressure
import GrpcCore.Iomgr.Grantable
import GrpcCore.Transport.InducedFrames
import GrpcCore.ClientChannel.TokenBuckets
import GrpcCore.ClientChannel.WeightedTarget
import GrpcCore.ClientChannel.PriorityReports
import GrpcCore.Surface.RejectedBatches
import GrpcCore.Iomgr.TimersExactlyOnce
import GrpcCore.Gprpp.MpscqCells
import GrpcCore.Surface.ServerShutdown
import GrpcCore.Xds.LoadReportsConserved
import GrpcCore.Alts.NonceReuse
import GrpcCore.Rls.QueuedPicks
import GrpcCore.Rls.Throttling
import GrpcCore.Xds.ChildNumbers
import GrpcCore.Security.LostRules
import GrpcCore.Cpp.ThreadQuota
import GrpcCore.Iomgr.RunsOnce
import GrpcCore.Cpp.LoadAssigned
import GrpcCore.Cpp.RecordKeys
import GrpcCore.Security.CertificatesInStep
import GrpcCore.Binder.WholeTransactions
import GrpcCore.Binder.FlowControl
import GrpcCore.Binder.StreamMatching
import GrpcCore.ClientIdle.Released
import GrpcCore.Slice.BuffersInBounds
import GrpcCore.Transport.WindowTruncation
import GrpcCore.Hpack.InferredLength
import GrpcCore.Hpack.FramedHeaders
import GrpcCore.Hpack.EncoderIndex
import GrpcCore.Transport.Deframing
import GrpcCore.Transport.StreamMapRefinement
import GrpcCore.Transport.TimeoutEncoding
import GrpcCore.Slice.PercentEncoding
import GrpcCore.Uri.Assembly
import GrpcCore.Slice.Base64Padding
import GrpcCore.Avl.Histories
import GrpcCore.Json.Dumping
import GrpcCore.Json.Durations
import GrpcCore.Iomgr.TimerHeapRuns
import GrpcCore.ClientChannel.RingHash
import GrpcCore.Xds.VirtualHosts
import GrpcCore.Xds.EndpointParsing
import GrpcCore.Security.MatcherTrees
import GrpcCore.Rls.ChildUpdates
import GrpcCore.Rls.GrowingBackoff
