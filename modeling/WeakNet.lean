import WeakNet.ActiveProbe
import WeakNet.SocketReset
import WeakNet.SocketCapacity
import WeakNet.RootCauseCitations
import WeakNet.RootCauseRoles
import WeakNet.TcpIntervalRuns
import WeakNet.IncidentFeed
import WeakNet.GatewaySelection
import WeakNet.RouteAttribution
import WeakNet.WifiHysteresis
import WeakNet.MetricStoreInvariant
import WeakNet.WifiTransport
import WeakNet.NotificationOriginator
import WeakNet.RouteFollowing
import WeakNet.SocketFollowing
import WeakNet.EngineAgreement
import WeakNet.EngineSafety
import WeakNet.Ai.DbusBoundary
import WeakNet.HealthReply
import WeakNet.Ai.Prompts
import WeakNet.UplinkSelection
import WeakNet.NotificationBatches
import WeakNet.NetPing
import WeakNet.WeakNetMgr
import WeakNet.Serializer
import WeakNet.ClientEvents
import WeakNet.CoalescingKeys
import WeakNet.Ai.UnsafeAdvice
