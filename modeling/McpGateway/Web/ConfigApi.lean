import Mathlib.Data.List.DropRight
import McpGateway.Network.Uplink
import McpGateway.Runtime.Kept
import McpGateway.Web.ExportImport

/-!
# The configuration requests

The pages of `web_server.c` that show the runtime configuration and change it. A
page is read by `GET` and written by `PUT`; what a `PUT` leaves out stays as it is.
-/

namespace McpGateway.Web

open McpGateway.Lib McpGateway.Runtime
open McpGateway.Amm (NvsCalls AmmFaults AmmStore AmmCall)
open McpGateway.Network (NetworkStatus)
open McpGateway.Tcm (jsonNat)

/-! ## Strings of a request -/

/-- What stands for a secret in an answer, and in a request for the secret that is stored. -/
def secretMask : CStr := "********".toList

def isBlank (c : Char) : Bool := c = ' ' || c = '\t'

/-- A string without the characters of `p` at its ends. -/
def trimmed (p : Char → Bool) (s : CStr) : CStr := (s.dropWhile p).rdropWhile p

/-- `COPY_MQTT_STRING`: cut to the buffer, then trimmed. -/
def copyMqttString (root : Json) (key : String) {n : Nat} [NeZero n] (field : CBuf n) : CBuf n :=
  readText root key field fun s =>
    if s = secretMask then field else .copy n (trimmed isBlank (strlcpy n s))

def copyTrimmedField (n : Nat) (s : CStr) : Option (CBuf n) :=
  if h : (trimmed isSpace s).length < n then some ⟨trimmed isSpace s, h⟩ else none

/-- `thingscloud_mask_credential`, into a buffer of `n` bytes. -/
def thingscloudMaskCredential (n : Nat) (s : CStr) : CStr :=
  strlcpy n (if s.length ≤ 8 then s else s.take 4 ++ "****".toList ++ s.drop (s.length - 4))

/-! ## The pages -/

def wifiFields (network : NetworkStatus) (c : RuntimeConfig) : List (CStr × Json) :=
  [("enabled".toList, .bool c.wifi.enabled),
    ("ssid".toList, .str c.wifi.ssid.str),
    ("password".toList, .str (if c.wifi.password.str ≠ [] then secretMask else [])),
    ("auth_mode".toList, jsonNat 3),
    ("ip".toList, .str (if network.wifiConnected then network.wifiAddress.str else [])),
    ("config_ap_ssid".toList, .str network.configApSsid.str),
    ("prefer_ethernet".toList, .bool c.preferEthernet),
    ("active_uplink".toList, .str network.activeUplink.str),
    ("failover_count".toList, jsonNat network.failoverCount.toNat),
    ("ethernet_ip".toList, .str network.ethernetAddress.str)]

/-- `GET /api/wifi/config`. -/
def wifiConfigGet (network : NetworkStatus) (c : RuntimeConfig) : Json :=
  .obj (wifiFields network c)

/-- `PUT /api/wifi/config`. -/
def wifiConfigPut (root : Json) (c : RuntimeConfig) : RuntimeConfig :=
  { c with
    wifi :=
      { enabled := readBool root "enabled" c.wifi.enabled
        ssid := readText root "ssid" c.wifi.ssid (.copy 33)
        password := readText root "password" c.wifi.password fun s =>
          if s = secretMask then c.wifi.password else .copy 65 s }
    preferEthernet := readBool root "prefer_ethernet" c.preferEthernet }

/-- What the page of the broker shows besides the configuration. -/
structure CloudStatus where
  nvsGeneration : UInt32
  configGeneration : UInt32
  pendingPoints : UInt32
  throttledCount : UInt32
  droppedCount : UInt32
  lastPublishMs : Int
  lastResponseCode : Int
  uploadSuspended : Bool
  cachedRecords : Nat
  onlineDevices : Nat

def platformName (p : MqttPlatform) : CStr :=
  if p = .thingscloud then "thingscloud".toList else "custom".toList

def reportModeName (m : MqttReportMode) : CStr :=
  if m = .gateway then "gateway".toList else "subdevice".toList

def parsePlatform (s : CStr) : MqttPlatform :=
  if s = "thingscloud".toList then .thingscloud else .custom

def parseReportMode (s : CStr) : MqttReportMode :=
  if s = "gateway".toList then .gateway else .subdevice

def mqttFields (cloud : CloudStatus) (c : RuntimeConfig) : List (CStr × Json) :=
  [("enabled".toList, .bool c.mqtt.enabled),
    ("platform_type".toList, .str (platformName c.mqtt.platformType)),
    ("uri".toList, .str c.mqtt.uri.str),
    ("client_id".toList, .str c.mqtt.clientId.str),
    ("username_configured".toList, .bool (c.mqtt.username.str ≠ [])),
    ("password_configured".toList, .bool (c.mqtt.password.str ≠ [])),
    ("username_masked".toList, .str (thingscloudMaskCredential 32 c.mqtt.username.str)),
    ("password_masked".toList, .str (thingscloudMaskCredential 32 c.mqtt.password.str)),
    ("keepalive".toList, jsonNat c.mqtt.keepaliveSec.toNat),
    ("qos".toList, jsonNat c.mqtt.qos.toNat),
    ("topic_prefix".toList, .str c.mqtt.dataPrefix.str),
    ("command_prefix".toList, .str c.mqtt.commandPrefix.str),
    ("clean_session".toList, .bool c.mqtt.cleanSession),
    ("retain".toList, .bool c.mqtt.retain),
    ("lwt_enabled".toList, .bool c.mqtt.lwtEnabled),
    ("lwt_topic".toList, .str c.mqtt.lwtTopic.str),
    ("lwt_payload".toList, .str c.mqtt.lwtPayload.str),
    ("lwt_qos".toList, jsonNat c.mqtt.lwtQos.toNat),
    ("lwt_retain".toList, .bool c.mqtt.lwtRetain),
    ("report_mode".toList, .str (reportModeName c.mqtt.reportMode)),
    ("nvs_generation".toList, jsonNat cloud.nvsGeneration.toNat),
    ("config_generation".toList, jsonNat cloud.configGeneration.toNat),
    ("cloud_pending_points".toList, jsonNat cloud.pendingPoints.toNat),
    ("cloud_throttled_count".toList, jsonNat cloud.throttledCount.toNat),
    ("cloud_dropped_count".toList, jsonNat cloud.droppedCount.toNat),
    ("cloud_last_publish_ms".toList, .num (.fin cloud.lastPublishMs)),
    ("cloud_last_response_code".toList, .num (.fin cloud.lastResponseCode)),
    ("cloud_upload_suspended".toList, .bool cloud.uploadSuspended),
    ("cloud_cached_records".toList, jsonNat cloud.cachedRecords),
    ("cloud_online_devices".toList, jsonNat cloud.onlineDevices)]

/-- `GET /api/mqtt/config`. -/
def mqttConfigGet (cloud : CloudStatus) (c : RuntimeConfig) : Json :=
  .obj (mqttFields cloud c)

/-- The settings of the broker that a request sets, before its credentials. -/
def mqttStringsPut (root : Json) (m : RuntimeMqttConfig) : RuntimeMqttConfig :=
  { m with
    uri := copyMqttString root "uri" m.uri
    clientId := copyMqttString root "client_id" m.clientId
    dataPrefix := copyMqttString root "topic_prefix" m.dataPrefix
    commandPrefix := copyMqttString root "command_prefix" m.commandPrefix
    lwtTopic := copyMqttString root "lwt_topic" m.lwtTopic
    lwtPayload := copyMqttString root "lwt_payload" m.lwtPayload
    platformType := readText root "platform_type" m.platformType parsePlatform
    reportMode := readText root "report_mode" m.reportMode parseReportMode }

/-- A credential: cleared if the request asks for it, else a new one, trimmed. `none` if it
is too long. -/
def credentialPut (root : Json) (key clear : String) {n : Nat} [NeZero n] (field : CBuf n) :
    Option (CBuf n) :=
  match Json.string? (root.getObjectItem key.toList) with
  | none => some field
  | some s =>
    if readBool root clear false then some .empty
    else if s ≠ [] ∧ s ≠ secretMask then copyTrimmedField n s
    else some field

/-- A quality of service: only 0, 1 and 2 are taken. -/
def qosPut (root : Json) (key : String) (old : UInt8) : UInt8 :=
  readNumber root key old fun x =>
    if 0 ≤ Json.valueInt x ∧ Json.valueInt x ≤ 2 then intUInt8 x else old

/-- The settings of the broker that a request sets, after its credentials. -/
def mqttFlagsPut (root : Json) (m : RuntimeMqttConfig) : RuntimeMqttConfig :=
  { m with
    enabled := readBool root "enabled" m.enabled
    keepaliveSec := readNumber root "keepalive" m.keepaliveSec intUInt16
    qos := qosPut root "qos" m.qos
    cleanSession := readBool root "clean_session" m.cleanSession
    retain := readBool root "retain" m.retain
    lwtEnabled := readBool root "lwt_enabled" m.lwtEnabled
    lwtQos := qosPut root "lwt_qos" m.lwtQos
    lwtRetain := readBool root "lwt_retain" m.lwtRetain }

def thingscloudSettings (m : RuntimeMqttConfig) : Except String RuntimeMqttConfig :=
  match copyTrimmedField 64 m.username.str, copyTrimmedField 96 m.password.str with
  | some username, some password =>
    if username.str = [] ∨ password.str = [] then
      .error "ThingsCloud requires AccessToken and ProjectKey"
    else .ok
      { m with
        username := username
        password := password
        clientId := .empty
        keepaliveSec := if m.keepaliveSec < 60 then 60 else m.keepaliveSec
        qos := 0
        retain := false
        lwtEnabled := false
        lwtRetain := false }
  | _, _ => .error "ThingsCloud credentials are invalid"

/-- `PUT /api/mqtt/config`. -/
def mqttConfigPut (root : Json) (c : RuntimeConfig) : Except String RuntimeConfig :=
  let m := mqttStringsPut root c.mqtt
  match credentialPut root "username" "clear_username" m.username with
  | none => .error "AccessToken is too long"
  | some username =>
    match credentialPut root "password" "clear_password" m.password with
    | none => .error "ProjectKey is too long"
    | some password =>
      let m := mqttFlagsPut root { m with username := username, password := password }
      if m.platformType = .thingscloud then
        (thingscloudSettings m).map fun m => { c with mqtt := m }
      else .ok { c with mqtt := m }

/-- What the page of the fieldbus shows besides the configuration. -/
structure FieldbusStatus where
  pollInterval : UInt32
  running : Bool
  activeClients : UInt8
  requests : UInt32
  exceptions : UInt32

def endpointFields (e : RuntimeModbusTcpEndpoint) : List (CStr × Json) :=
  [("enabled".toList, .bool e.enabled),
    ("endpoint_id".toList, jsonNat e.endpointId.toNat),
    ("name".toList, .str e.name.str),
    ("host".toList, .str e.host.str),
    ("port".toList, jsonNat e.port.toNat),
    ("timeout".toList, jsonNat e.timeoutMs.toNat)]

def serverFields (fieldbus : FieldbusStatus) (s : RuntimeModbusTcpServerConfig) :
    List (CStr × Json) :=
  [("enabled".toList, .bool s.enabled),
    ("running".toList, .bool fieldbus.running),
    ("port".toList, jsonNat s.port.toNat),
    ("max_clients".toList, jsonNat s.maxClients.toNat),
    ("active_clients".toList, jsonNat fieldbus.activeClients.toNat),
    ("requests".toList, jsonNat fieldbus.requests.toNat),
    ("exceptions".toList, jsonNat fieldbus.exceptions.toNat)]

def modbusFields (fieldbus : FieldbusStatus) (c : RuntimeConfig) : List (CStr × Json) :=
  [("enabled".toList, .bool c.modbusRtu.enabled),
    ("uart_port".toList, jsonNat 1),
    ("baudrate".toList, jsonNat c.modbusRtu.baudRate.toNat),
    ("parity".toList, jsonNat c.modbusRtu.parity.toNat),
    ("data_bits".toList, jsonNat 8),
    ("stop_bits".toList, jsonNat 1),
    ("timeout".toList, jsonNat c.modbusRtu.timeoutMs.toNat),
    ("tx_pin".toList, jsonNat 39),
    ("rx_pin".toList, jsonNat 40),
    ("rts_pin".toList, jsonNat 41),
    ("poll_interval".toList, jsonNat fieldbus.pollInterval.toNat),
    ("tcp_server".toList, .obj (serverFields fieldbus c.modbusTcpServer)),
    ("tcp_endpoints".toList, .arr
      ((c.tcpEndpoints.toList.take c.tcpEndpointCount.toNat).map fun e => .obj (endpointFields e)))]

/-- `GET /api/modbus/config`. -/
def modbusConfigGet (fieldbus : FieldbusStatus) (c : RuntimeConfig) : Json :=
  .obj (modbusFields fieldbus c)

/-- An endpoint of a request; its place gives the number that it leaves out. -/
def endpointPut (i : Nat) (j : Json) : RuntimeModbusTcpEndpoint where
  enabled := Json.isTrue (j.getObjectItem "enabled".toList)
  endpointId := readNumber j "endpoint_id" (.ofNat (i + 1)) intUInt8
  name := readText j "name" .empty (.copy 32)
  host := readText j "host" .empty (.copy 64)
  port := readNumber j "port" 502 intUInt16
  timeoutMs := readNumber j "timeout" 1000 intUInt16

/-- An endpoint of the table that a request fills; what it does not name is zero. -/
def endpointAt (items : List Json) (i : Nat) : RuntimeModbusTcpEndpoint :=
  match items[i]? with
  | some item => endpointPut i item
  | none => zeroEndpoint

def serverPut (root : Json) (s : RuntimeModbusTcpServerConfig) : RuntimeModbusTcpServerConfig :=
  match root.getObjectItem "tcp_server".toList with
  | some (.obj fields) =>
    let server := Json.obj fields
    { s with
      enabled := readBool server "enabled" s.enabled
      port := readNumber server "port" s.port intUInt16
      maxClients := readNumber server "max_clients" s.maxClients intUInt8 }
  | _ => s

def endpointsPut (root : Json) (c : RuntimeConfig) : RuntimeConfig :=
  match root.getObjectItem "tcp_endpoints".toList with
  | some (.arr items) =>
    { c with
      tcpEndpoints := .ofFn fun i => endpointAt items i
      tcpEndpointCount := .ofNat (min items.length runtimeMaxTcpEndpoints) }
  | _ => c

/-- `PUT /api/modbus/config`: the configuration and the poll interval. -/
def modbusConfigPut (defaultPollMs : UInt32) (root : Json) (c : RuntimeConfig) :
    Except String (RuntimeConfig × UInt32) :=
  let rtu : RuntimeModbusRtuConfig :=
    { enabled := readBool root "enabled" c.modbusRtu.enabled
      baudRate := readNumber root "baudrate" c.modbusRtu.baudRate doubleUInt32
      parity := readNumber root "parity" c.modbusRtu.parity intUInt8
      timeoutMs := readNumber root "timeout" c.modbusRtu.timeoutMs intUInt16 }
  let poll := Json.number? (root.getObjectItem "poll_interval".toList)
  let pollMs := (poll.map doubleUInt32).getD defaultPollMs
  if poll.isSome ∧ (pollMs < 100 ∨ pollMs > 3600000) then
    .error "Poll interval must be 100..3600000 ms"
  else .ok
    (endpointsPut root
      { c with modbusRtu := rtu, modbusTcpServer := serverPut root c.modbusTcpServer }, pollMs)

def localeName (l : UiLocale) : CStr := if l = .zhCn then "zh-CN".toList else "en-US".toList

def parseLocale (s : CStr) : UiLocale := if s = "en-US".toList then .enUs else .zhCn

def gatewayFields (c : RuntimeConfig) : List (CStr × Json) :=
  [("gateway_id".toList, .str c.gatewayId.str),
    ("locale".toList, .str (localeName c.locale)),
    ("prefer_ethernet".toList, .bool c.preferEthernet),
    ("lcd_enabled".toList, .bool c.lcdEnabled),
    ("tf_enabled".toList, .bool c.tfEnabled),
    ("mcp_write_enabled".toList, .bool c.mcpWriteEnabled),
    ("mcp_endpoint".toList, .str "/mcp".toList)]

/-- `GET /api/gateway/config`. -/
def gatewayConfigGet (c : RuntimeConfig) : Json :=
  .obj (gatewayFields c)

/-- `PUT /api/gateway/config`. -/
def gatewayConfigPut (root : Json) (c : RuntimeConfig) : RuntimeConfig :=
  { c with
    gatewayId := readText root "gateway_id" c.gatewayId (.copy 48)
    locale := readText root "locale" c.locale parseLocale
    preferEthernet := readBool root "prefer_ethernet" c.preferEthernet
    lcdEnabled := readBool root "lcd_enabled" c.lcdEnabled
    tfEnabled := readBool root "tf_enabled" c.tfEnabled
    mcpWriteEnabled := readBool root "mcp_write_enabled" c.mcpWriteEnabled }

def timeFields (synchronized : Bool) (lastSyncMs : Int) (c : RuntimeConfig) : List (CStr × Json) :=
  [("enabled".toList, .bool c.time.enabled),
    ("server1".toList, .str c.time.server1.str),
    ("server2".toList, .str c.time.server2.str),
    ("timezone".toList, .str c.time.timezone.str),
    ("sync_interval_ms".toList, jsonNat c.time.syncIntervalMs.toNat),
    ("synchronized".toList, .bool synchronized),
    ("last_sync_ms".toList, .num (.fin lastSyncMs))]

/-- `GET /api/time/config`. -/
def timeConfigGet (synchronized : Bool) (lastSyncMs : Int) (c : RuntimeConfig) : Json :=
  .obj (timeFields synchronized lastSyncMs c)

/-- `PUT /api/time/config`. -/
def timeConfigPut (root : Json) (c : RuntimeConfig) : RuntimeConfig :=
  { c with time :=
    { enabled := readBool root "enabled" c.time.enabled
      server1 := readText root "server1" c.time.server1 (.copy 64)
      server2 := readText root "server2" c.time.server2 (.copy 64)
      timezone := readText root "timezone" c.time.timezone (.copy 48)
      syncIntervalMs := readNumber root "sync_interval_ms" c.time.syncIntervalMs doubleUInt32 } }

def securityFields (secureBoot flashEncryption : Bool) (c : RuntimeConfig) : List (CStr × Json) :=
  [("auth_enabled".toList, .bool c.security.authEnabled),
    ("ota_enabled".toList, .bool c.security.otaEnabled),
    ("ota_allow_http".toList, .bool c.security.otaAllowHttp),
    ("secure_boot_enabled".toList, .bool secureBoot),
    ("flash_encryption_enabled".toList, .bool flashEncryption)]

/-- `GET /api/security/config`. -/
def securityConfigGet (secureBoot flashEncryption : Bool) (c : RuntimeConfig) : Json :=
  .obj (securityFields secureBoot flashEncryption c)

/-- `PUT /api/security/config`. -/
def securityConfigPut (root : Json) (c : RuntimeConfig) : RuntimeConfig :=
  { c with security :=
    { c.security with
      authEnabled := readBool root "auth_enabled" c.security.authEnabled
      otaEnabled := readBool root "ota_enabled" c.security.otaEnabled
      otaAllowHttp := readBool root "ota_allow_http" c.security.otaAllowHttp } }

/-! ## The handlers -/

def badRequest : Response := ⟨400, "Bad Request".toList⟩
def invalidJson : Response := ⟨400, "Invalid JSON".toList⟩
def invalidConfiguration : Response := ⟨400, "Invalid configuration".toList⟩
def saveFailed : Response := ⟨500, "Save failed".toList⟩

def restartRequired : Response :=
  ⟨200, Json.render (.obj [("status".toList, .str "ok".toList), ("restart_required".toList, .bool true)])⟩

/-- A `PUT` handler: `unread` answers a body that is no JSON, `refused` a configuration that
is not saved. -/
def configPut (lib : JsonLib) (edit : Json → RuntimeConfig → RuntimeConfig)
    (unread refused saved : Response) (text : CStr) (f : NvsCalls) (s : ConfigStore) :
    Response × ConfigStore :=
  match parseRequestJson lib requestLimit text with
  | none => (unread, s)
  | some root =>
    let r := runtimeConfigSet f (edit root s.ram.config) s
    (if r.1 = .ok then saved else refused, r.2)

def wifiConfigPutHandler (lib : JsonLib) : CStr → NvsCalls → ConfigStore → Response × ConfigStore :=
  configPut lib wifiConfigPut badRequest saveFailed restartRequired

def gatewayConfigPutHandler (lib : JsonLib) :
    CStr → NvsCalls → ConfigStore → Response × ConfigStore :=
  configPut lib gatewayConfigPut invalidJson saveFailed okResponse

def timeConfigPutHandler (lib : JsonLib) : CStr → NvsCalls → ConfigStore → Response × ConfigStore :=
  configPut lib timeConfigPut invalidJson invalidConfiguration restartRequired

def securityConfigPutHandler (lib : JsonLib) :
    CStr → NvsCalls → ConfigStore → Response × ConfigStore :=
  configPut lib securityConfigPut invalidJson invalidConfiguration okResponse

/-- What a change of the broker's settings sets off. -/
structure MqttEffects where
  /-- `mqtt_disconnect` before the save. -/
  disconnects : Bool
  /-- `thingscloud_clear_publish_guard`. -/
  clearsGuard : Bool
  /-- The restart task is created. -/
  restarts : Bool

def credentialUpdated (root : Json) (key clear : String) : Bool :=
  readBool root clear false ||
    readText root key false fun s => decide (s ≠ [] ∧ s ≠ secretMask)

/-- The confirmation of `mqtt_config_put_handler`. -/
def mqttSaved (root : Json) (ram : ConfigRam) : Response :=
  ⟨200, Json.render (.obj
    [("status".toList, .str "ok".toList),
      ("persisted".toList, .bool true),
      ("restart_required".toList, .bool false),
      ("nvs_generation".toList, jsonNat ram.generation.val),
      ("username_updated".toList, .bool (credentialUpdated root "username" "clear_username")),
      ("password_updated".toList, .bool (credentialUpdated root "password" "clear_password")),
      ("username_masked".toList, .str (thingscloudMaskCredential 32 ram.config.mqtt.username.str)),
      ("password_masked".toList,
        .str (thingscloudMaskCredential 32 ram.config.mqtt.password.str))])⟩

def cloudIdentity (m : RuntimeMqttConfig) : MqttPlatform × CStr × CStr × CStr :=
  (m.platformType, m.uri.str, m.username.str, m.password.str)

/-- `mqtt_config_put_handler`; `pending` is `s_mqtt_restart_pending`, and `created` whether the
restart task can be created. -/
def mqttConfigPutHandler (lib : JsonLib) (pending created : Bool) (text : CStr) (f : NvsCalls)
    (s : ConfigStore) : Response × MqttEffects × ConfigStore :=
  match parseRequestJson lib requestLimit text with
  | none => (badRequest, ⟨false, false, false⟩, s)
  | some root =>
    match mqttConfigPut root s.ram.config with
    | .error reason => (⟨400, reason.toList⟩, ⟨false, false, false⟩, s)
    | .ok config =>
      let old := s.ram.config.mqtt
      let disconnects := decide (old.reportMode ≠ config.mqtt.reportMode)
      let r := runtimeConfigSet f config s
      if r.1 ≠ .ok then (saveFailed, ⟨disconnects, false, false⟩, r.2)
      else
        let clears := decide (cloudIdentity old ≠ cloudIdentity config.mqtt)
        if pending = false ∧ created = false then
          (⟨500, "MQTT restart unavailable: low internal memory".toList⟩,
            ⟨disconnects, clears, false⟩, r.2)
        else (mqttSaved root r.2.ram, ⟨disconnects, clears, !pending⟩, r.2)

/-- `mqtt_disconnect_post_handler`; `disconnected` is the result of `mqtt_disconnect`. -/
def mqttDisconnectPostHandler (disconnected : EspErr) (f : NvsCalls) (s : ConfigStore) :
    Response × ConfigStore :=
  let c := s.ram.config
  let r := if c.mqtt.enabled then
      runtimeConfigSet f { c with mqtt := { c.mqtt with enabled := false } } s
    else (.ok, s)
  let err := if r.1 = .ok then
      if disconnected = .invalidState then .ok else disconnected
    else r.1
  let answer : List (CStr × Json) :=
    if err = .ok then
      [("success".toList, .bool true), ("persisted".toList, .bool true),
        ("message".toList, .str
          "MQTT stopped; automatic reconnect is disabled until settings are saved".toList)]
    else
      [("success".toList, .bool false),
        ("error".toList, .str (if err = .invalidState then "MQTT client is not connected".toList
          else "Failed to disconnect".toList))]
  (⟨200, Json.render (.obj answer)⟩, r.2)

/-- `modbus_config_put_handler`: the configuration is saved first, then the interval. -/
def modbusConfigPutHandler (lib : JsonLib) (text : CStr) (f : NvsCalls) (g : AmmFaults)
    (s : ConfigStore) (a : AmmStore) : Response × ConfigStore × AmmStore :=
  match parseRequestJson lib requestLimit text with
  | none => (badRequest, s, a)
  | some root =>
    match modbusConfigPut a.ram.defaultPollMs root s.ram.config with
    | .error reason => (⟨400, reason.toList⟩, s, a)
    | .ok (config, pollMs) =>
      let r := runtimeConfigSet f config s
      if r.1 ≠ .ok then (saveFailed, r.2, a)
      else
        let p := a.perform (.setPollIntervalAll pollMs) g
        (if p.1 = .ok then restartRequired else saveFailed, r.2, p.2)

end McpGateway.Web
