import McpGateway.Lib.Run
import McpGateway.Storage.OfflineStore
import McpGateway.Storage.OfflineMedium
import McpGateway.Storage.OfflineIndex
import McpGateway.Lib.CFloat
import McpGateway.Lib.Json
import McpGateway.Tcm.Context
import McpGateway.Tcm.Json
import McpGateway.Thingscloud.Topics
import McpGateway.Thingscloud.Adapter
import McpGateway.Uif.CloudReplay
import McpGateway.Uif.EarlyRemoval
import McpGateway.Mqtt.Tracked
import McpGateway.Uif.Drain
import McpGateway.Uif.TrackedReplay
import McpGateway.Amm.Mapping
import McpGateway.Amm.Table
import McpGateway.Thingscloud.Replay
import McpGateway.Lib.Ieee
import McpGateway.Lib.Words
import McpGateway.Modbus.Registers
import McpGateway.Services.ControlService
import McpGateway.Thingscloud.Command
import McpGateway.Scheduler.Poll
import McpGateway.Services.WriteTarget
import McpGateway.Services.ControlRoundTrip
import McpGateway.Scheduler.Pipeline
import McpGateway.Scheduler.OneVersion
import McpGateway.Scheduler.PollOrder
import McpGateway.Amm.Plan
import McpGateway.Amm.Schema
import McpGateway.Amm.Nvs
import McpGateway.Lib.Keyed
import McpGateway.Amm.Store
import McpGateway.Amm.PhysicalKeys
import McpGateway.Amm.Identity
import McpGateway.Amm.PointNames
import McpGateway.Amm.EntryInvariant
import McpGateway.Scheduler.ReadWindow
import McpGateway.Amm.Persistence
import McpGateway.Amm.Rebuild
import McpGateway.Amm.SaveCuts
import McpGateway.Amm.Migration
import McpGateway.Amm.Rollback
import McpGateway.Amm.ModelVersion
import McpGateway.Lib.TwoSlots
import McpGateway.Runtime.Settings
import McpGateway.Runtime.Slots
import McpGateway.Runtime.Durability
import McpGateway.Automation.Engine
import McpGateway.Automation.Isolation
import McpGateway.Automation.SourceQuality
import McpGateway.Storage.LossAccounting
import McpGateway.Tcm.Sequence
import McpGateway.Scheduler.Fairness
import McpGateway.Amm.ImportUnion
import McpGateway.Amm.Reimport
import McpGateway.Web.MappingJson
import McpGateway.Web.MappingApi
import McpGateway.Web.ExportImport
import McpGateway.Web.GatewayKeys
import McpGateway.Thingscloud.Aggregation
import McpGateway.Thingscloud.Pacing
import McpGateway.Thingscloud.Subdevice
import McpGateway.Mcp.Authorization
import McpGateway.Lib.Octets
import McpGateway.Modbus.TcpServer
import McpGateway.Modbus.ServerAddressing
import McpGateway.Modbus.TcpWire
import McpGateway.Mcp.Tools
import McpGateway.Mcp.Http
import McpGateway.Lib.CompactJson
import McpGateway.Thingscloud.PayloadLimit
import McpGateway.Storage.RecordRoundTrip
import McpGateway.Thingscloud.AddressParser
import McpGateway.Automation.RuleIds
import McpGateway.Tcm.LastValue
import McpGateway.Modbus.NumberCodec
import McpGateway.Modbus.WritePlan
import McpGateway.Modbus.RegisterWrites
import McpGateway.Uif.ReplayTimeout
import McpGateway.Uif.RecordSize
import McpGateway.Lib.Ring
import McpGateway.Storage.LogStore
import McpGateway.Web.LogExport
import McpGateway.Web.QuietExport
import McpGateway.Amm.UserFields
import McpGateway.Uif.ContextTopic
import McpGateway.Web.EditMapping
import McpGateway.Lib.Split
import McpGateway.Thingscloud.PacketSplit
import McpGateway.Runtime.Migration
import McpGateway.Thingscloud.Spacing
import McpGateway.Automation.EditAtomicity
import McpGateway.Lib.JsonText
import McpGateway.Automation.AlertText
import McpGateway.Lib.JsonReading
import McpGateway.Services.MqttCommand
import McpGateway.Modbus.Discover
import McpGateway.Modbus.DiscoveredOnce
import McpGateway.Lib.Crc
import McpGateway.Modbus.RtuFrame
import McpGateway.Web.JsonChunks
import McpGateway.Lib.Tagged
import McpGateway.Modbus.DeviceIdentity
import McpGateway.Modbus.CommLog
import McpGateway.Lib.StringOrder
import McpGateway.Storage.LogNames
import McpGateway.Mqtt.Subscriptions
import McpGateway.Mqtt.Handler
import McpGateway.Mqtt.Lifecycle
import McpGateway.Mqtt.Routing
import McpGateway.Eval.Logger
import McpGateway.Lib.Ledger
import McpGateway.Scheduler.Telemetry
import McpGateway.Scheduler.Accounting
import McpGateway.Lib.Transport
import McpGateway.Modbus.ServerSession
import McpGateway.Network.Uplink
import McpGateway.Runtime.Kept
import McpGateway.Web.ConfigApi
import McpGateway.Web.ConfigRuns
import McpGateway.Web.DiscoverApply
import McpGateway.Web.Mapped
import McpGateway.Storage.HistoryStore
import McpGateway.Automation.Audit
import McpGateway.Services.OtaService
