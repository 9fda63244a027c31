import McpGateway.Config
import McpGateway.Lib.CStruct

/-!
# The runtime configuration

`runtime_config_t` with its older schemas, and the functions of
`runtime_config.c` on values of it: the defaults, the validation, the migrations
and the checksum of the stored bytes. A `char[n]` is the string in it; the bytes
after its NUL count as zero.
-/

namespace McpGateway.Runtime

open McpGateway.Lib

def runtimeConfigSchemaVersion : UInt32 := 3
def runtimeMaxTcpEndpoints : Nat := 8

/-- `ui_locale_t`; like the other enumerations here the field can hold other numbers. -/
inductive UiLocale
  | zhCn
  | enUs
  | other (code : Nat)
  deriving DecidableEq, Repr

def UiLocale.code : UiLocale → Nat
  | .zhCn => 0
  | .enUs => 1
  | .other code => code

/-- `mqtt_platform_type_t`. -/
inductive MqttPlatform
  | custom
  | thingscloud
  | other (code : Nat)
  deriving DecidableEq, Repr

def MqttPlatform.code : MqttPlatform → Nat
  | .custom => 0
  | .thingscloud => 1
  | .other code => code

/-- `mqtt_report_mode_t`. -/
inductive MqttReportMode
  | subdevice
  | gateway
  | other (code : Nat)
  deriving DecidableEq, Repr

def MqttReportMode.code : MqttReportMode → Nat
  | .subdevice => 0
  | .gateway => 1
  | .other code => code

/-! ## The structures -/

structure RuntimeWifiConfig where
  enabled : Bool
  ssid : CBuf 33
  password : CBuf 65
  deriving DecidableEq

/-- `runtime_mqtt_config_v1_t`. -/
structure RuntimeMqttConfigV1 where
  enabled : Bool
  uri : CBuf 128
  clientId : CBuf 48
  username : CBuf 64
  password : CBuf 96
  dataPrefix : CBuf 64
  commandPrefix : CBuf 64
  keepaliveSec : UInt16
  qos : UInt8
  deriving DecidableEq

/-- `runtime_mqtt_config_v2_t`. -/
structure RuntimeMqttConfigV2 extends RuntimeMqttConfigV1 where
  cleanSession : Bool
  retain : Bool
  lwtEnabled : Bool
  lwtTopic : CBuf 96
  lwtPayload : CBuf 64
  lwtQos : UInt8
  lwtRetain : Bool
  deriving DecidableEq

/-- `runtime_mqtt_config_v3_t`; in memory the platform stands after `enabled`. -/
structure RuntimeMqttConfigV3 extends RuntimeMqttConfigV2 where
  platformType : MqttPlatform
  deriving DecidableEq

/-- `runtime_mqtt_config_t`. -/
structure RuntimeMqttConfig extends RuntimeMqttConfigV3 where
  reportMode : MqttReportMode
  deriving DecidableEq

structure RuntimeModbusRtuConfig where
  enabled : Bool
  baudRate : UInt32
  parity : UInt8
  timeoutMs : UInt16
  deriving DecidableEq

structure RuntimeModbusTcpEndpoint where
  enabled : Bool
  endpointId : UInt8
  name : CBuf 32
  host : CBuf 64
  port : UInt16
  timeoutMs : UInt16
  deriving DecidableEq

structure RuntimeTimeConfig where
  enabled : Bool
  server1 : CBuf 64
  server2 : CBuf 64
  timezone : CBuf 48
  syncIntervalMs : UInt32
  deriving DecidableEq

structure RuntimeSecurityConfig where
  authEnabled : Bool
  username : CBuf 32
  passwordSha256 : CBuf 65
  otaEnabled : Bool
  otaAllowHttp : Bool
  deriving DecidableEq

structure RuntimeModbusTcpServerConfig where
  enabled : Bool
  port : UInt16
  maxClients : UInt8
  responseTimeoutMs : UInt16
  deriving DecidableEq

structure RuntimeNorthboundConfig where
  sparkplugEnabled : Bool
  sparkplugGroup : CBuf 32
  sparkplugNode : CBuf 32
  sparkplugDevice : CBuf 32
  deriving DecidableEq

/-- The fields of `runtime_config_v1_t`, with the MQTT settings of some schema. -/
structure BaseSettings (M : Type) where
  schemaVersion : UInt32
  gatewayId : CBuf 48
  locale : UiLocale
  preferEthernet : Bool
  lcdEnabled : Bool
  tfEnabled : Bool
  mcpWriteEnabled : Bool
  wifi : RuntimeWifiConfig
  mqtt : M
  modbusRtu : RuntimeModbusRtuConfig
  tcpEndpoints : Vector RuntimeModbusTcpEndpoint runtimeMaxTcpEndpoints
  tcpEndpointCount : UInt8
  deriving DecidableEq

/-- The fields of the later schemas. -/
structure Settings (M : Type) extends BaseSettings M where
  time : RuntimeTimeConfig
  security : RuntimeSecurityConfig
  modbusTcpServer : RuntimeModbusTcpServerConfig
  northbound : RuntimeNorthboundConfig
  deriving DecidableEq

abbrev RuntimeConfigV1 := BaseSettings RuntimeMqttConfigV1
abbrev RuntimeConfigV2 := Settings RuntimeMqttConfigV2
abbrev RuntimeConfigV3 := Settings RuntimeMqttConfigV3

/-- `runtime_config_t`. -/
abbrev RuntimeConfig := Settings RuntimeMqttConfig

/-! ## Validation -/

/-- The first error that `runtime_config_validate` finds. -/
def runtimeConfigError (config : RuntimeConfig) : Option CStr :=
  if config.schemaVersion ≠ runtimeConfigSchemaVersion then some "schema version mismatch".toList
  else if config.gatewayId.str = [] then some "gateway ID is required".toList
  else if config.tcpEndpointCount.toNat > runtimeMaxTcpEndpoints then
    some "too many TCP endpoints".toList
  else if config.mqtt.qos > 2 ∨ config.mqtt.lwtQos > 2 then some "MQTT QoS must be 0..2".toList
  else if config.mqtt.platformType ≠ .custom ∧ config.mqtt.platformType ≠ .thingscloud then
    some "invalid MQTT platform type".toList
  else if config.mqtt.reportMode ≠ .subdevice ∧ config.mqtt.reportMode ≠ .gateway then
    some "invalid MQTT report mode".toList
  else if config.modbusRtu.baudRate < 1200 ∨ config.modbusRtu.baudRate > 1000000 then
    some "invalid RTU baud rate".toList
  else if config.modbusRtu.timeoutMs < 20 ∨ config.modbusRtu.timeoutMs > 30000 then
    some "invalid RTU timeout".toList
  else if config.modbusTcpServer.enabled = true ∧ config.modbusTcpServer.port = 0 then
    some "invalid Modbus TCP server port".toList
  else none

/-- `runtime_config_validate`: its result and the reason it gives. -/
def runtimeConfigValidate (config : RuntimeConfig) : EspErr × CStr :=
  match runtimeConfigError config with
  | none => (.ok, "ok".toList)
  | some error => (.invalidArg, error)

def ValidConfig (config : RuntimeConfig) : Prop := (runtimeConfigValidate config).1 = .ok

instance (config : RuntimeConfig) : Decidable (ValidConfig config) :=
  inferInstanceAs (Decidable (_ = _))

/-! ## Defaults -/

def zeroEndpoint : RuntimeModbusTcpEndpoint where
  enabled := false
  endpointId := 0
  name := .empty
  host := .empty
  port := 0
  timeoutMs := 0

def mqttClientId : CStr := "esp32s3_gateway_01".toList

def loadDefaults : RuntimeConfig where
  schemaVersion := runtimeConfigSchemaVersion
  gatewayId := .copy 48 mqttClientId
  locale := .zhCn
  preferEthernet := true
  lcdEnabled := true
  tfEnabled := true
  mcpWriteEnabled := false
  wifi :=
    { enabled := true
      ssid := .copy 33 "YOUR_WIFI_SSID".toList
      password := .copy 65 "YOUR_WIFI_PASSWORD".toList }
  mqtt :=
    { enabled := true
      platformType := .custom
      uri := .copy 128 "mqtt://192.168.1.100:1883".toList
      clientId := .copy 48 mqttClientId
      username := .empty
      password := .empty
      dataPrefix := .copy 64 "factory/data/".toList
      commandPrefix := .copy 64 "factory/cmd/".toList
      keepaliveSec := 60
      qos := 1
      cleanSession := false
      retain := false
      lwtEnabled := true
      lwtTopic := .copy 96 ("gateway/".toList ++ mqttClientId ++ "/status".toList)
      lwtPayload := .copy 64 "offline".toList
      lwtQos := 1
      lwtRetain := true
      reportMode := .subdevice }
  modbusRtu := { enabled := true, baudRate := 9600, parity := 0, timeoutMs := 1000 }
  tcpEndpoints := Vector.replicate runtimeMaxTcpEndpoints zeroEndpoint
  tcpEndpointCount := 0
  time :=
    { enabled := true
      server1 := .copy 64 "pool.ntp.org".toList
      server2 := .copy 64 "time.cloudflare.com".toList
      timezone := .copy 48 "CST-8".toList
      syncIntervalMs := 3600000 }
  security :=
    { authEnabled := false
      username := .empty
      passwordSha256 := .empty
      otaEnabled := true
      otaAllowHttp := false }
  modbusTcpServer := { enabled := true, port := 502, maxClients := 4, responseTimeoutMs := 1000 }
  northbound :=
    { sparkplugEnabled := false
      sparkplugGroup := .copy 32 "ESP32_Gateways".toList
      sparkplugNode := .copy 32 mqttClientId
      sparkplugDevice := .copy 32 "modbus".toList }

theorem loadDefaults_valid : ValidConfig loadDefaults := by decide +kernel

/-! ## Migrations -/

def migrateV2ToV3 (v2 : RuntimeConfigV2) : RuntimeConfig where
  schemaVersion := runtimeConfigSchemaVersion
  gatewayId := v2.gatewayId
  locale := v2.locale
  preferEthernet := v2.preferEthernet
  lcdEnabled := v2.lcdEnabled
  tfEnabled := v2.tfEnabled
  mcpWriteEnabled := v2.mcpWriteEnabled
  wifi := v2.wifi
  mqtt := { v2.mqtt with platformType := .custom, reportMode := .subdevice }
  modbusRtu := v2.modbusRtu
  tcpEndpointCount := v2.tcpEndpointCount
  tcpEndpoints := v2.tcpEndpoints
  time := v2.time
  security := v2.security
  modbusTcpServer := v2.modbusTcpServer
  northbound := v2.northbound

/-- `migrate_v3_to_current`; it overwrites every default. -/
def migrateV3ToCurrent (v3 : RuntimeConfigV3) : RuntimeConfig where
  schemaVersion := runtimeConfigSchemaVersion
  gatewayId := v3.gatewayId
  locale := v3.locale
  preferEthernet := v3.preferEthernet
  lcdEnabled := v3.lcdEnabled
  tfEnabled := v3.tfEnabled
  mcpWriteEnabled := v3.mcpWriteEnabled
  wifi := v3.wifi
  mqtt := { v3.mqtt with reportMode := .subdevice }
  modbusRtu := v3.modbusRtu
  tcpEndpointCount := v3.tcpEndpointCount
  tcpEndpoints := v3.tcpEndpoints
  time := v3.time
  security := v3.security
  modbusTcpServer := v3.modbusTcpServer
  northbound := v3.northbound

/-- The legacy settings over the defaults, as `runtime_config_init` takes them. -/
def migrateLegacy (legacy : RuntimeConfigV1) : RuntimeConfig :=
  { loadDefaults with
    gatewayId := legacy.gatewayId
    locale := legacy.locale
    preferEthernet := legacy.preferEthernet
    lcdEnabled := legacy.lcdEnabled
    tfEnabled := legacy.tfEnabled
    mcpWriteEnabled := legacy.mcpWriteEnabled
    wifi := legacy.wifi
    modbusRtu := legacy.modbusRtu
    tcpEndpointCount := legacy.tcpEndpointCount
    tcpEndpoints := legacy.tcpEndpoints
    mqtt := { loadDefaults.mqtt with toRuntimeMqttConfigV1 := legacy.mqtt } }

/-! ## Checksums -/

/-- One bit of `crc32_bytes`. -/
def crcBit (crc : UInt32) : UInt32 := (crc >>> 1) ^^^ (0xEDB88320 &&& (0 - (crc &&& 1)))

def crc32Bytes (data : List UInt8) : UInt32 :=
  ~~~(data.foldl (fun crc byte => crcBit^[8] (crc ^^^ byte.toUInt32)) 0xFFFFFFFF)

example : crc32Bytes [0x31, 0x32, 0x33, 0x34, 0x35, 0x36, 0x37, 0x38, 0x39] = 0xCBF43926 := by
  decide +kernel

def RuntimeWifiConfig.image (c : RuntimeWifiConfig) : CImage :=
  .struct [.bool c.enabled, .chars 33 c.ssid.str, .chars 65 c.password.str]

def RuntimeMqttConfigV1.fields (c : RuntimeMqttConfigV1) : List CImage :=
  [.chars 128 c.uri.str, .chars 48 c.clientId.str, .chars 64 c.username.str,
    .chars 96 c.password.str, .chars 64 c.dataPrefix.str, .chars 64 c.commandPrefix.str,
    .u16 c.keepaliveSec, .u8 c.qos]

def RuntimeMqttConfigV2.fields (c : RuntimeMqttConfigV2) : List CImage :=
  c.toRuntimeMqttConfigV1.fields ++
    [.bool c.cleanSession, .bool c.retain, .bool c.lwtEnabled, .chars 96 c.lwtTopic.str,
      .chars 64 c.lwtPayload.str, .u8 c.lwtQos, .bool c.lwtRetain]

def RuntimeMqttConfigV1.image (c : RuntimeMqttConfigV1) : CImage :=
  .struct (.bool c.enabled :: c.fields)

def RuntimeMqttConfigV2.image (c : RuntimeMqttConfigV2) : CImage :=
  .struct (.bool c.enabled :: c.fields)

def RuntimeMqttConfigV3.image (c : RuntimeMqttConfigV3) : CImage :=
  .struct (.bool c.enabled :: .enum c.platformType.code :: c.toRuntimeMqttConfigV2.fields)

def RuntimeMqttConfig.image (c : RuntimeMqttConfig) : CImage :=
  .struct (.bool c.enabled :: .enum c.platformType.code :: c.toRuntimeMqttConfigV2.fields ++
    [.enum c.reportMode.code])

def RuntimeModbusRtuConfig.image (c : RuntimeModbusRtuConfig) : CImage :=
  .struct [.bool c.enabled, .u32 c.baudRate, .u8 c.parity, .u16 c.timeoutMs]

def RuntimeModbusTcpEndpoint.image (e : RuntimeModbusTcpEndpoint) : CImage :=
  .struct [.bool e.enabled, .u8 e.endpointId, .chars 32 e.name.str, .chars 64 e.host.str,
    .u16 e.port, .u16 e.timeoutMs]

def RuntimeTimeConfig.image (c : RuntimeTimeConfig) : CImage :=
  .struct [.bool c.enabled, .chars 64 c.server1.str, .chars 64 c.server2.str,
    .chars 48 c.timezone.str, .u32 c.syncIntervalMs]

def RuntimeSecurityConfig.image (c : RuntimeSecurityConfig) : CImage :=
  .struct [.bool c.authEnabled, .chars 32 c.username.str, .chars 65 c.passwordSha256.str,
    .bool c.otaEnabled, .bool c.otaAllowHttp]

def RuntimeModbusTcpServerConfig.image (c : RuntimeModbusTcpServerConfig) : CImage :=
  .struct [.bool c.enabled, .u16 c.port, .u8 c.maxClients, .u16 c.responseTimeoutMs]

def RuntimeNorthboundConfig.image (c : RuntimeNorthboundConfig) : CImage :=
  .struct [.bool c.sparkplugEnabled, .chars 32 c.sparkplugGroup.str, .chars 32 c.sparkplugNode.str,
    .chars 32 c.sparkplugDevice.str]

def BaseSettings.fields {M : Type} (mqttImage : M → CImage) (c : BaseSettings M) : List CImage :=
  [.u32 c.schemaVersion, .chars 48 c.gatewayId.str, .enum c.locale.code, .bool c.preferEthernet,
    .bool c.lcdEnabled, .bool c.tfEnabled, .bool c.mcpWriteEnabled, c.wifi.image, mqttImage c.mqtt,
    c.modbusRtu.image] ++
  c.tcpEndpoints.toList.map RuntimeModbusTcpEndpoint.image ++ [.u8 c.tcpEndpointCount]

def RuntimeConfigV1.bytes (c : RuntimeConfigV1) : List UInt8 :=
  (CImage.struct (c.fields RuntimeMqttConfigV1.image)).bytes

def Settings.bytes {M : Type} (mqttImage : M → CImage) (c : Settings M) : List UInt8 :=
  (CImage.struct (c.toBaseSettings.fields mqttImage ++
    [c.time.image, c.security.image, c.modbusTcpServer.image, c.northbound.image])).bytes

def RuntimeConfigV2.bytes (c : RuntimeConfigV2) : List UInt8 :=
  Settings.bytes RuntimeMqttConfigV2.image c

def RuntimeConfigV3.bytes (c : RuntimeConfigV3) : List UInt8 :=
  Settings.bytes RuntimeMqttConfigV3.image c

def RuntimeConfig.bytes (c : RuntimeConfig) : List UInt8 :=
  Settings.bytes RuntimeMqttConfig.image c

end McpGateway.Runtime
