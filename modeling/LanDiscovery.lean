import LanDiscovery.Library.Utf8
import LanDiscovery.Library.Text
import LanDiscovery.Library.EncodedText
import LanDiscovery.Library.Json
import LanDiscovery.Library.PrefixCode
import LanDiscovery.Library.Outcome
import LanDiscovery.Library.FirstSeen
import LanDiscovery.Library.Preference
import LanDiscovery.Library.Transition
import LanDiscovery.Library.Transaction
import LanDiscovery.Library.Calendar
import LanDiscovery.Library.DropOldest
import LanDiscovery.Library.Snapshot
import LanDiscovery.Library.Reading
import LanDiscovery.Library.Selection
import LanDiscovery.Library.Walk
import LanDiscovery.Library.Words
import LanDiscovery.Library.Segments
import LanDiscovery.Scanner.Wire
import LanDiscovery.Scanner.Qname
import LanDiscovery.Scanner.MessageDecoder
import LanDiscovery.Scanner.RDataFormatter
import LanDiscovery.Scanner.Decimal
import LanDiscovery.Scanner.Timestamp
import LanDiscovery.Scanner.MdnsNames
import LanDiscovery.Scanner.DiscoveryRecord
import LanDiscovery.Scanner.PacketInterpreter
import LanDiscovery.Scanner.RDataBounds
import LanDiscovery.Scanner.SrvHost
import LanDiscovery.Scanner.PacketReceiveQueue
import LanDiscovery.Scanner.PacketDelivery
import LanDiscovery.Scanner.DeviceStateStore
import LanDiscovery.Scanner.DeviceRegistry
import LanDiscovery.Scanner.RegistrySnapshot
import LanDiscovery.Scanner.ProfileChange
import LanDiscovery.Scanner.Console
import LanDiscovery.Scanner.MacResolver
import LanDiscovery.Scanner.DiscoveryJson
import LanDiscovery.Scanner.JsonReading
import LanDiscovery.Scanner.HttpEventSink
import LanDiscovery.Scanner.SinkShutdown
import LanDiscovery.Scanner.QueryBuilder
import LanDiscovery.Scanner.MdnsProbePlanner
import LanDiscovery.Scanner.ProbeQueue
import LanDiscovery.Scanner.ProbeNames
import LanDiscovery.Scanner.DiscoveryEngine
import LanDiscovery.Scanner.EngineSteps
import LanDiscovery.Scanner.EngineShutdown
import LanDiscovery.Scanner.EngineResult
import LanDiscovery.Scanner.EngineTraffic
import LanDiscovery.Scanner.EngineProbes
import LanDiscovery.Scanner.RecordContent
import LanDiscovery.Scanner.ApiConfig
import LanDiscovery.Scanner.InterfaceInfo
import LanDiscovery.Api.MacResolver
import LanDiscovery.Api.MdnsNames
import LanDiscovery.Api.PointerNames
import LanDiscovery.Api.MdnsMerge
import LanDiscovery.Api.Repository
import LanDiscovery.Api.SecurityPolicy
import LanDiscovery.Api.Ingest
import LanDiscovery.Api.Attribution
import LanDiscovery.Api.ClosedForm
import LanDiscovery.Api.Service
import LanDiscovery.Api.Request
import LanDiscovery.Api.DeviceIdentity
import LanDiscovery.Api.LastSeen
import LanDiscovery.Api.HostIdentity
import LanDiscovery.Api.LateAddress
import LanDiscovery.Api.Retry
import LanDiscovery.Api.Baseline
import LanDiscovery.Api.Approval
import LanDiscovery.Api.AlertHistory
import LanDiscovery.Api.DeviceReading
import LanDiscovery.Api.ApproveRequest
import LanDiscovery.Api.ServerResults
import LanDiscovery.Api.ReadHistory
import LanDiscovery.Api.Startup
import LanDiscovery.Api.JsonText
import LanDiscovery.EndToEnd.Delivery
import LanDiscovery.EndToEnd.HostPreference
import LanDiscovery.EndToEnd.ServiceTypes
import LanDiscovery.EndToEnd.LastLabels
import LanDiscovery.EndToEnd.ArpTable
import LanDiscovery.EndToEnd.Posting
import LanDiscovery.EndToEnd.WholeSystem
import LanDiscovery.Library.Table
import LanDiscovery.Library.Labels
