import JanusGate.Netd.QueueDelivery
import JanusGate.Common.PolicyBuild
import JanusGate.Daemon.SimulatedTraffic
import JanusGate.Netd.Server
import JanusGate.Daemon.StatsAccounting
import JanusGate.Daemon.RestoreConsistency
import JanusGate.Daemon.StreamShift
import JanusGate.Daemon.FragmentReassembly
import JanusGate.Daemon.ReassembledUdp
import JanusGate.Daemon.DnsStreamDelivery
import JanusGate.Daemon.TlsIncarnation
import JanusGate.Daemon.ConfirmOutcome
import JanusGate.Daemon.PolicyStore
import JanusGate.Netd.BridgeRollback
import JanusGate.Common.AuditChain
import JanusGate.Daemon.ConsistencyGate
import JanusGate.Common.PolicyAnalysis
import JanusGate.Common.BlocklistCanonical
import JanusGate.Common.TransactionScope
import JanusGate.Daemon.DnsResponse
import JanusGate.Common.AlertOutbox
import JanusGate.Common.PolicyPrefix
import JanusGate.Common.Utf8Text
import JanusGate.Common.BlocklistRemote
