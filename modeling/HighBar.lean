import HighBar.Grpc.RingBufferGaps
import HighBar.Grpc.DeltaBusIsolation
import HighBar.Grpc.DeltaBusAccounting
import HighBar.Grpc.SubscriberWakeup
import HighBar.Grpc.StreamStateLifetime
import HighBar.Grpc.RuntimeCounters
import HighBar.Grpc.FlushSamples
import HighBar.Grpc.CoordinatorClient
import HighBar.Grpc.CoordinatorPush
import HighBar.Grpc.CapabilityProvider
import HighBar.Grpc.OrderOptions
import HighBar.Grpc.SubmitCommandsStream
import HighBar.Grpc.SubmitCommandsSessions
import HighBar.Grpc.SubscriberGauge
import HighBar.Grpc.AdminLeases
import HighBar.Grpc.AdminService
import HighBar.Grpc.SnapshotCadence
import HighBar.Module.AdminCheats
import HighBar.Module.AdminAudit
import HighBar.Module.CheatRestore
import HighBar.Module.GatewayNumbering
import HighBar.Module.GatewayFailClosed
import HighBar.Module.GatewayDispatch
import HighBar.Module.GatewayConservation
import HighBar.Module.SnapshotRequests
import HighBar.Module.FaultTransition
import HighBar.Module.OrderedDispatch
import HighBar.Coordinator.Relay
import HighBar.Client.StreamSessions
import HighBar.Client.EvidenceAfterDispatch
import HighBar.Client.ManifestRecovery
import HighBar.Client.TurtleReservation
import HighBar.Client.TransportDecision
import HighBar.Client.WatchIndexSafety
import HighBar.Client.InstructionStore
import HighBar.Client.MetadataRows
import HighBar.Client.CanonicalDigest
import HighBar.Circuit.WorkerPause
import HighBar.Circuit.SchedulerContract
import HighBar.Circuit.HierarchCluster
