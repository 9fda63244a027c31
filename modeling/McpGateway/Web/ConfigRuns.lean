import McpGateway.Lib.Run
import McpGateway.Runtime.Migration
import McpGateway.Web.ConfigApi

/-!
# The configuration over runs of the gateway

Requests of every page, reboots and power losses, with any failing NVS calls. A
page that is saved as it was shown changes nothing (`saved_page_unchanged`), and
the settings of ThingsCloud are always complete (`cloud_settings_complete`).
-/

namespace McpGateway.Web

open McpGateway.Lib McpGateway.Runtime
open McpGateway.Amm (NvsCalls AmmFaults AmmStore AmmCall PollRange)
open McpGateway.Network (NetworkStatus)
open McpGateway.Tcm (jsonNat)

/-! ## The gateway -/

inductive ConfigPage
  | wifi
  | mqtt
  | modbus
  | gateway
  | time
  | security
  deriving DecidableEq

/-- What the pages show besides the configuration. -/
structure PageStatus where
  network : NetworkStatus
  cloud : CloudStatus
  fieldbus : FieldbusStatus
  synchronized : Bool
  lastSyncMs : Int
  secureBoot : Bool
  flashEncryption : Bool

structure GatewayStore where
  config : ConfigStore
  amm : AmmStore

/-- The `GET` handler of a page. -/
def ConfigPage.document (page : ConfigPage) (st : PageStatus) (d : GatewayStore) : Json :=
  let c := d.config.ram.config
  match page with
  | .wifi => wifiConfigGet st.network c
  | .mqtt => mqttConfigGet st.cloud c
  | .modbus => modbusConfigGet { st.fieldbus with pollInterval := d.amm.ram.defaultPollMs } c
  | .gateway => gatewayConfigGet c
  | .time => timeConfigGet st.synchronized st.lastSyncMs c
  | .security => securityConfigGet st.secureBoot st.flashEncryption c

/-- The configuration that the `PUT` handler of a page hands to `runtime_config_set`. -/
def ConfigPage.edit (page : ConfigPage) (root : Json) (d : GatewayStore) :
    Except String RuntimeConfig :=
  let c := d.config.ram.config
  match page with
  | .wifi => .ok (wifiConfigPut root c)
  | .mqtt => mqttConfigPut root c
  | .modbus => (modbusConfigPut d.amm.ram.defaultPollMs root c).map Prod.fst
  | .gateway => .ok (gatewayConfigPut root c)
  | .time => .ok (timeConfigPut root c)
  | .security => .ok (securityConfigPut root c)

inductive GatewayStep
  /-- `PUT` of a page; the last two say whether the broker's restart task is there already, and
  whether it can be created. -/
  | put (page : ConfigPage) (text : CStr) (f : NvsCalls) (g : AmmFaults) (pending created : Bool)
  | mqttDisconnect (disconnected : EspErr) (f : NvsCalls)
  | mappings (call : AmmCall) (g : AmmFaults)
  | reboot (f g : NvsCalls)
  /-- Power is lost inside the `PUT` of a page after `k` NVS calls, then the gateway starts. -/
  | powerLoss (page : ConfigPage) (text : CStr) (f : NvsCalls) (k : Nat) (f' g' : NvsCalls)

namespace GatewayStore

def restart (n : ConfigNvs) (a : AmmStore) (f g : NvsCalls) : GatewayStore :=
  ⟨(runtimeConfigInit f n).2, (a.reboot g).2⟩

/-- A gateway that was never started before. -/
def boot (capacity : Nat) (f g : NvsCalls) : GatewayStore :=
  restart .empty ⟨.empty capacity, .empty⟩ f g

def put (lib : JsonLib) (d : GatewayStore) (page : ConfigPage) (text : CStr) (f : NvsCalls)
    (g : AmmFaults) (pending created : Bool) : GatewayStore :=
  let s := d.config
  match page with
  | .wifi => { d with config := (wifiConfigPutHandler lib text f s).2 }
  | .mqtt => { d with config := (mqttConfigPutHandler lib pending created text f s).2.2 }
  | .modbus =>
    let r := (modbusConfigPutHandler lib text f g s d.amm).2
    ⟨r.1, r.2⟩
  | .gateway => { d with config := (gatewayConfigPutHandler lib text f s).2 }
  | .time => { d with config := (timeConfigPutHandler lib text f s).2 }
  | .security => { d with config := (securityConfigPutHandler lib text f s).2 }

def wanted (lib : JsonLib) (d : GatewayStore) (page : ConfigPage) (text : CStr) :
    Option RuntimeConfig :=
  (parseRequestJson lib requestLimit text).bind fun root => (page.edit root d).toOption

def step (lib : JsonLib) (d : GatewayStore) : GatewayStep → GatewayStore
  | .put page text f g pending created => d.put lib page text f g pending created
  | .mqttDisconnect disconnected f =>
    { d with config := (mqttDisconnectPostHandler disconnected f d.config).2 }
  | .mappings call g => { d with amm := (d.amm.perform call g).2 }
  | .reboot f g => restart d.config.nvs d.amm f g
  | .powerLoss page text f k f' g' =>
    match d.wanted lib page text with
    | none => restart d.config.nvs d.amm f' g'
    | some config => restart (d.config.cut (.set config) f k) d.amm f' g'

end GatewayStore

/-! ## What the requests keep -/

/-- The settings that ThingsCloud requires, its credentials trimmed. -/
structure CloudReady (m : RuntimeMqttConfig) : Prop where
  username : m.username.str ≠ [] ∧ trimmed isSpace m.username.str = m.username.str
  password : m.password.str ≠ [] ∧ trimmed isSpace m.password.str = m.password.str
  clientId : m.clientId = .empty
  keepalive : 60 ≤ m.keepaliveSec
  qos : m.qos = 0
  plain : m.retain = false ∧ m.lwtEnabled = false ∧ m.lwtRetain = false

/-- The strings of the broker without blanks at their ends. -/
structure BrokerTrimmed (m : RuntimeMqttConfig) : Prop where
  uri : trimmed isBlank m.uri.str = m.uri.str
  clientId : trimmed isBlank m.clientId.str = m.clientId.str
  dataPrefix : trimmed isBlank m.dataPrefix.str = m.dataPrefix.str
  commandPrefix : trimmed isBlank m.commandPrefix.str = m.commandPrefix.str
  lwtTopic : trimmed isBlank m.lwtTopic.str = m.lwtTopic.str
  lwtPayload : trimmed isBlank m.lwtPayload.str = m.lwtPayload.str

/-- What every configuration that was ever saved keeps. -/
structure Settled (c : RuntimeConfig) : Prop where
  valid : ValidConfig c
  locale : c.locale = .zhCn ∨ c.locale = .enUs
  broker : BrokerTrimmed c.mqtt
  cloud : c.mqtt.platformType = .thingscloud → CloudReady c.mqtt
  unused : ∀ i : Fin runtimeMaxTcpEndpoints, c.tcpEndpointCount.toNat ≤ i →
    c.tcpEndpoints[i] = zeroEndpoint

section Trim

variable {p : Char → Bool}

theorem trimmed_part (p : Char → Bool) (s : CStr) : trimmed p s <+: s.dropWhile p :=
  List.rdropWhile_prefix p _

theorem trimmed_length_le (p : Char → Bool) (s : CStr) : (trimmed p s).length ≤ s.length :=
  (trimmed_part p s).length_le.trans (List.dropWhile_suffix p).length_le

theorem trimmed_idem (p : Char → Bool) (s : CStr) : trimmed p (trimmed p s) = trimmed p s := by
  have hdrop : (trimmed p s).dropWhile p = trimmed p s := by
    cases hcut : trimmed p s with
    | nil => rfl
    | cons c cs =>
      -- the first character that is left is the first that was not dropped
      obtain ⟨rest, hrest⟩ := hcut ▸ trimmed_part p s
      have hne : s.dropWhile p ≠ [] := hrest ▸ List.cons_ne_nil _ _
      have hhead : p c = false := by
        have hfirst := List.head_dropWhile_not p hne
        simpa only [← hrest, List.cons_append, List.head_cons] using hfirst
      exact List.dropWhile_cons_of_neg (by rw [hhead]; exact Bool.noConfusion)
  show ((trimmed p s).dropWhile p).rdropWhile p = _
  rw [hdrop]
  exact List.rdropWhile_idempotent p _

theorem copyMqttString_trimmed (root : Json) (key : String) {n : Nat} [NeZero n] {field : CBuf n}
    (h : trimmed isBlank field.str = field.str) :
    trimmed isBlank (copyMqttString root key field).str = (copyMqttString root key field).str := by
  unfold copyMqttString readText
  split
  · dsimp only
    split
    · exact h
    · rename_i s _ _
      have hlt : (trimmed isBlank (strlcpy n s)).length < n :=
        (trimmed_length_le isBlank _).trans_lt (strlcpy_length_lt (Nat.pos_of_neZero n) s)
      rw [CBuf.copy_str_of_lt hlt]
      exact trimmed_idem isBlank _
  · exact h

theorem copyTrimmedField_some {n : Nat} {s : CStr} {b : CBuf n} (h : copyTrimmedField n s = some b) :
    b.str = trimmed isSpace s := by
  unfold copyTrimmedField at h
  split at h
  · cases h
    rfl
  · cases h

theorem copyTrimmedField_self {n : Nat} {b : CBuf n} (h : trimmed isSpace b.str = b.str) :
    copyTrimmedField n b.str = some b := by
  unfold copyTrimmedField
  have hlt : (trimmed isSpace b.str).length < n := h.symm ▸ b.lt
  rw [dif_pos hlt]
  cases b
  exact congrArg some (by congr)

end Trim

theorem settled_defaults : Settled loadDefaults where
  valid := loadDefaults_valid
  locale := .inl rfl
  broker := ⟨by decide, by decide, by decide, by decide, by decide, by decide⟩
  cloud := fun h => nomatch h
  unused := fun i _ => by
    show (Vector.replicate runtimeMaxTcpEndpoints zeroEndpoint)[i] = zeroEndpoint
    exact Vector.getElem_replicate ..

section Edits

variable {c c' : RuntimeConfig}

theorem Settled.keep (h : Settled c) (hvalid : ValidConfig c')
    (hlocale : c'.locale = .zhCn ∨ c'.locale = .enUs) (hmqtt : c'.mqtt = c.mqtt)
    (hcount : c'.tcpEndpointCount = c.tcpEndpointCount)
    (hendpoints : c'.tcpEndpoints = c.tcpEndpoints) : Settled c' where
  valid := hvalid
  locale := hlocale
  broker := hmqtt.symm ▸ h.broker
  cloud := hmqtt.symm ▸ h.cloud
  unused := by
    rw [hcount, hendpoints]
    exact h.unused

theorem parseLocale_cases (s : CStr) : parseLocale s = .zhCn ∨ parseLocale s = .enUs := by
  unfold parseLocale
  split
  · exact .inr rfl
  · exact .inl rfl

theorem Settled.gateway (h : Settled c) (root : Json) (hvalid : ValidConfig (gatewayConfigPut root c)) :
    Settled (gatewayConfigPut root c) := by
  refine h.keep hvalid ?_ rfl rfl rfl
  show readText root "locale" c.locale parseLocale = _ ∨
    readText root "locale" c.locale parseLocale = _
  unfold readText
  split
  · exact parseLocale_cases _
  · exact h.locale

theorem Settled.modbus (h : Settled c) {dflt : UInt32} {root : Json} {pollMs : UInt32}
    (hedit : modbusConfigPut dflt root c = .ok (c', pollMs)) (hvalid : ValidConfig c') :
    Settled c' := by
  unfold modbusConfigPut at hedit
  dsimp only at hedit
  split at hedit
  · cases hedit
  · cases hedit
    unfold endpointsPut at hvalid ⊢
    split
    · rename_i items heq
      refine ⟨by rwa [heq] at hvalid, h.locale, h.broker, h.cloud, fun i hi => ?_⟩
      have hcount : (UInt8.ofNat (min items.length runtimeMaxTcpEndpoints)).toNat =
          min items.length runtimeMaxTcpEndpoints := by
        refine UInt8.toNat_ofNat_of_lt' ?_
        show min items.length 8 < 256
        omega
      have hbeyond : items[i.val]? = none := by
        have hi' : (UInt8.ofNat (min items.length runtimeMaxTcpEndpoints)).toNat ≤ i.val := hi
        rw [hcount] at hi'
        have hlt : i.val < 8 := i.isLt
        have hmin : min items.length 8 ≤ i.val := hi'
        exact List.getElem?_eq_none (by omega)
      show (Vector.ofFn _)[i.val] = zeroEndpoint
      rw [Vector.getElem_ofFn, endpointAt, hbeyond]
    · rename_i heq
      exact ⟨by simpa only [heq] using hvalid, h.locale, h.broker, h.cloud, h.unused⟩

theorem thingscloudSettings_ready {m m' : RuntimeMqttConfig} (h : thingscloudSettings m = .ok m') :
    CloudReady m' ∧ (BrokerTrimmed m → BrokerTrimmed m') ∧ m'.platformType = m.platformType := by
  unfold thingscloudSettings at h
  split at h
  · rename_i username password huser hpass
    split at h
    · cases h
    · rename_i hset
      cases h
      have huser' := copyTrimmedField_some huser
      have hpass' := copyTrimmedField_some hpass
      refine ⟨⟨⟨fun hempty => hset (.inl hempty), ?_⟩, ⟨fun hempty => hset (.inr hempty), ?_⟩, rfl,
        ?_, rfl, rfl, rfl, rfl⟩, fun hm => ?_, rfl⟩
      · exact huser' ▸ trimmed_idem isSpace _
      · exact hpass' ▸ trimmed_idem isSpace _
      · show 60 ≤ if m.keepaliveSec < 60 then 60 else m.keepaliveSec
        split
        · exact UInt16.le_refl 60
        · exact UInt16.not_lt.1 ‹_›
      · exact ⟨hm.uri, rfl, hm.dataPrefix, hm.commandPrefix, hm.lwtTopic, hm.lwtPayload⟩
  · cases h

theorem Settled.mqtt (h : Settled c) {root : Json} (hedit : mqttConfigPut root c = .ok c')
    (hvalid : ValidConfig c') : Settled c' := by
  have hstrings : BrokerTrimmed (mqttStringsPut root c.mqtt) :=
    ⟨copyMqttString_trimmed root "uri" h.broker.uri,
      copyMqttString_trimmed root "client_id" h.broker.clientId,
      copyMqttString_trimmed root "topic_prefix" h.broker.dataPrefix,
      copyMqttString_trimmed root "command_prefix" h.broker.commandPrefix,
      copyMqttString_trimmed root "lwt_topic" h.broker.lwtTopic,
      copyMqttString_trimmed root "lwt_payload" h.broker.lwtPayload⟩
  unfold mqttConfigPut at hedit
  dsimp only at hedit
  split at hedit
  · cases hedit
  · rename_i username _
    split at hedit
    · cases hedit
    · rename_i password _
      have hflags : BrokerTrimmed (mqttFlagsPut root
          { mqttStringsPut root c.mqtt with username := username, password := password }) :=
        ⟨hstrings.uri, hstrings.clientId, hstrings.dataPrefix, hstrings.commandPrefix,
          hstrings.lwtTopic, hstrings.lwtPayload⟩
      split at hedit
      · cases hcloud : thingscloudSettings (mqttFlagsPut root
            { mqttStringsPut root c.mqtt with username := username, password := password }) with
        | error reason =>
          rw [hcloud] at hedit
          cases hedit
        | ok m =>
          rw [hcloud] at hedit
          cases hedit
          obtain ⟨hready, hbroker, -⟩ := thingscloudSettings_ready hcloud
          exact ⟨hvalid, h.locale, hbroker hflags, fun _ => hready, h.unused⟩
      · rename_i hother
        cases hedit
        exact ⟨hvalid, h.locale, hflags, fun hcloud => absurd hcloud hother, h.unused⟩

theorem Settled.disconnected (h : Settled c)
    (hvalid : ValidConfig { c with mqtt := { c.mqtt with enabled := false } }) :
    Settled { c with mqtt := { c.mqtt with enabled := false } } where
  valid := hvalid
  locale := h.locale
  broker := ⟨h.broker.uri, h.broker.clientId, h.broker.dataPrefix, h.broker.commandPrefix,
    h.broker.lwtTopic, h.broker.lwtPayload⟩
  cloud := fun hcloud =>
    let hready := h.cloud hcloud
    ⟨hready.username, hready.password, hready.clientId, hready.keepalive, hready.qos, hready.plain⟩
  unused := h.unused

end Edits

/-! ## A page that is saved as it was shown -/

section Shown

variable {fields : List (CStr × Json)} {name : String} {α : Type*} {old : α}
  (hn : (fields.map fun f => Json.toLower f.1).Nodup)
include hn

theorem shown_field {v : Json} (i : Nat) (h : fields[i]? = some (name.toList, v)) :
    (Json.obj fields).getObjectItem name.toList = some v :=
  getItem_of_mem hn (List.mem_of_getElem? h)

theorem readBool_shown {b old : Bool} (i : Nat) (h : fields[i]? = some (name.toList, .bool b)) :
    readBool (.obj fields) name old = b := by
  rw [readBool, shown_field hn i h]

theorem readText_shown {s : CStr} {conv : CStr → α} (i : Nat)
    (h : fields[i]? = some (name.toList, .str s)) : readText (.obj fields) name old conv = conv s := by
  rw [readText, shown_field hn i h]
  rfl

theorem readNumber_shown {n : Nat} {conv : CFloat → α} (i : Nat)
    (h : fields[i]? = some (name.toList, jsonNat n)) :
    readNumber (.obj fields) name old conv = conv (.fin n) := by
  rw [readNumber, shown_field hn i h]
  rfl

omit hn in
theorem shown_none (h : Json.toLower name.toList ∉ fields.map fun f => Json.toLower f.1) :
    (Json.obj fields).getObjectItem name.toList = none := by
  have hfind : fields.find? (fun f => Json.toLower f.1 = Json.toLower name.toList) = none := by
    rw [List.find?_eq_none]
    intro f hf hname
    exact h (List.mem_map.2 ⟨f, hf, of_decide_eq_true hname⟩)
  exact congrArg (Option.map Prod.snd) hfind

end Shown

section Unchanged

variable {c : RuntimeConfig}

theorem parseLocale_name {l : UiLocale} (h : l = .zhCn ∨ l = .enUs) :
    parseLocale (localeName l) = l := by
  rcases h with rfl | rfl
  · decide
  · decide

theorem gateway_unchanged (h : Settled c) : gatewayConfigPut (gatewayConfigGet c) c = c := by
  have hn : ((gatewayFields c).map fun f => Json.toLower f.1).Nodup := by
    simp only [gatewayFields, List.map_cons, List.map_nil]
    -- A literal is `String.ofList` of its characters: they are compared, not its bytes.
    repeat rw [String.toList_ofList]
    decide
  unfold gatewayConfigPut gatewayConfigGet
  rw [readText_shown hn 0 rfl, readText_shown hn 1 rfl, readBool_shown hn 2 rfl,
    readBool_shown hn 3 rfl, readBool_shown hn 4 rfl, readBool_shown hn 5 rfl, CBuf.copy_str,
    parseLocale_name h.locale]

/-- The mask of a stored password leaves it, and an empty one is shown as empty. -/
theorem wifi_unchanged (network : NetworkStatus) (c : RuntimeConfig) :
    wifiConfigPut (wifiConfigGet network c) c = c := by
  have hn : ((wifiFields network c).map fun f => Json.toLower f.1).Nodup := by
    simp only [wifiFields, List.map_cons, List.map_nil]
    repeat rw [String.toList_ofList]
    decide
  have hpassword : (if (if c.wifi.password.str ≠ [] then secretMask else []) = secretMask then
      c.wifi.password else .copy 65 (if c.wifi.password.str ≠ [] then secretMask else [])) =
        c.wifi.password := by
    by_cases hset : c.wifi.password.str ≠ []
    · rw [if_pos hset, if_pos rfl]
    · have hempty : c.wifi.password.str = [] := not_not.1 hset
      have hmask : ([] : CStr) ≠ secretMask := by decide
      rw [if_neg hset, if_neg hmask, ← hempty, CBuf.copy_str]
  unfold wifiConfigPut wifiConfigGet
  rw [readBool_shown hn 0 rfl, readText_shown hn 1 rfl, readText_shown hn 2 rfl,
    readBool_shown hn 6 rfl, CBuf.copy_str, hpassword]

theorem time_unchanged (synchronized : Bool) (lastSyncMs : Int) (c : RuntimeConfig) :
    timeConfigPut (timeConfigGet synchronized lastSyncMs c) c = c := by
  have hn : ((timeFields synchronized lastSyncMs c).map fun f => Json.toLower f.1).Nodup := by
    simp only [timeFields, List.map_cons, List.map_nil]
    repeat rw [String.toList_ofList]
    decide
  unfold timeConfigPut timeConfigGet
  rw [readBool_shown hn 0 rfl, readText_shown hn 1 rfl, readText_shown hn 2 rfl,
    readText_shown hn 3 rfl, readNumber_shown hn 4 rfl, CBuf.copy_str, CBuf.copy_str, CBuf.copy_str,
    doubleUInt32_toNat]

theorem security_unchanged (secureBoot flashEncryption : Bool) (c : RuntimeConfig) :
    securityConfigPut (securityConfigGet secureBoot flashEncryption c) c = c := by
  have hn : ((securityFields secureBoot flashEncryption c).map fun f => Json.toLower f.1).Nodup := by
    simp only [securityFields, List.map_cons, List.map_nil]
    repeat rw [String.toList_ofList]
    decide
  unfold securityConfigPut securityConfigGet
  rw [readBool_shown hn 0 rfl, readBool_shown hn 1 rfl, readBool_shown hn 2 rfl]

theorem endpoint_unchanged (i : Nat) (e : RuntimeModbusTcpEndpoint) :
    endpointPut i (.obj (endpointFields e)) = e := by
  have hn : ((endpointFields e).map fun f => Json.toLower f.1).Nodup := by
    simp only [endpointFields, List.map_cons, List.map_nil]
    repeat rw [String.toList_ofList]
    decide
  have henabled : (Json.obj (endpointFields e)).getObjectItem "enabled".toList =
      some (.bool e.enabled) := shown_field hn 0 rfl
  unfold endpointPut
  rw [henabled, readNumber_shown hn 1 rfl, readText_shown hn 2 rfl, readText_shown hn 3 rfl,
    readNumber_shown hn 4 rfl, readNumber_shown hn 5 rfl, CBuf.copy_str, CBuf.copy_str,
    intUInt8_toNat, intUInt16_toNat, intUInt16_toNat]
  rfl

theorem server_unchanged (fieldbus : FieldbusStatus) (s : RuntimeModbusTcpServerConfig)
    {root : Json} (h : root.getObjectItem "tcp_server".toList =
      some (.obj (serverFields fieldbus s))) : serverPut root s = s := by
  have hn : ((serverFields fieldbus s).map fun f => Json.toLower f.1).Nodup := by
    simp only [serverFields, List.map_cons, List.map_nil]
    repeat rw [String.toList_ofList]
    decide
  unfold serverPut
  rw [h]
  dsimp only
  rw [readBool_shown hn 0 rfl, readNumber_shown hn 2 rfl, readNumber_shown hn 3 rfl, intUInt16_toNat,
    intUInt8_toNat]

theorem endpoints_unchanged (h : Settled c) {root : Json}
    (hcount : c.tcpEndpointCount.toNat ≤ runtimeMaxTcpEndpoints)
    (hshown : root.getObjectItem "tcp_endpoints".toList = some (.arr
      ((c.tcpEndpoints.toList.take c.tcpEndpointCount.toNat).map fun e =>
        .obj (endpointFields e)))) : endpointsPut root c = c := by
  have hlength : c.tcpEndpoints.toList.length = runtimeMaxTcpEndpoints := Vector.length_toList
  unfold endpointsPut
  rw [hshown]
  dsimp only
  rw [List.length_map, List.length_take, hlength, Nat.min_eq_left hcount, Nat.min_eq_left hcount,
    UInt8.ofNat_toNat]
  have hall : (Vector.ofFn fun i : Fin runtimeMaxTcpEndpoints =>
      endpointAt ((c.tcpEndpoints.toList.take c.tcpEndpointCount.toNat).map fun e =>
        Json.obj (endpointFields e)) i) = c.tcpEndpoints := by
    ext i hi : 1
    rw [Vector.getElem_ofFn, endpointAt, List.getElem?_map]
    by_cases hused : i < c.tcpEndpointCount.toNat
    · have hitem : c.tcpEndpoints.toList[i]? = some c.tcpEndpoints[i] := by
        rw [List.getElem?_eq_getElem (hlength.symm ▸ hi), Vector.getElem_toList]
      rw [List.getElem?_take_of_lt hused, hitem]
      exact endpoint_unchanged i _
    · rw [List.getElem?_take_eq_none (Nat.not_lt.1 hused)]
      exact (h.unused ⟨i, hi⟩ (Nat.not_lt.1 hused)).symm
  rw [hall]

theorem modbus_unchanged (h : Settled c) {fieldbus : FieldbusStatus}
    (hpoll : 100 ≤ fieldbus.pollInterval ∧ fieldbus.pollInterval ≤ 3600000)
    (hcount : c.tcpEndpointCount.toNat ≤ runtimeMaxTcpEndpoints) :
    modbusConfigPut fieldbus.pollInterval (modbusConfigGet fieldbus c) c =
      .ok (c, fieldbus.pollInterval) := by
  have hn : ((modbusFields fieldbus c).map fun f => Json.toLower f.1).Nodup := by
    simp only [modbusFields, List.map_cons, List.map_nil]
    repeat rw [String.toList_ofList]
    decide
  have hserver : (modbusConfigGet fieldbus c).getObjectItem "tcp_server".toList =
      some (.obj (serverFields fieldbus c.modbusTcpServer)) := shown_field hn 11 rfl
  have hendpoints : (modbusConfigGet fieldbus c).getObjectItem "tcp_endpoints".toList =
      some (.arr ((c.tcpEndpoints.toList.take c.tcpEndpointCount.toNat).map fun e =>
        .obj (endpointFields e))) := shown_field hn 12 rfl
  have hshown : Json.number? ((modbusConfigGet fieldbus c).getObjectItem "poll_interval".toList) =
      some (.fin (fieldbus.pollInterval.toNat : ℚ)) :=
    congrArg Json.number? (shown_field hn 10 rfl)
  have hrange : ¬ ((some (CFloat.fin (fieldbus.pollInterval.toNat : ℚ))).isSome = true ∧
      (fieldbus.pollInterval < 100 ∨ fieldbus.pollInterval > 3600000)) := by
    rintro ⟨-, hlow | hhigh⟩
    · exact absurd hpoll.1 (UInt32.not_le.2 hlow)
    · exact absurd hpoll.2 (UInt32.not_le.2 hhigh)
  unfold modbusConfigPut
  dsimp only
  rw [hshown, Option.map_some, Option.getD_some, doubleUInt32_toNat, if_neg hrange,
    server_unchanged fieldbus c.modbusTcpServer hserver]
  unfold modbusConfigGet at hendpoints ⊢
  rw [readBool_shown hn 0 rfl, readNumber_shown hn 2 rfl, readNumber_shown hn 3 rfl,
    readNumber_shown hn 6 rfl, doubleUInt32_toNat, intUInt8_toNat, intUInt16_toNat]
  exact congrArg (fun c => Except.ok (c, fieldbus.pollInterval)) (endpoints_unchanged h hcount hendpoints)

theorem copyMqttString_shown {fields : List (CStr × Json)}
    (hn : (fields.map fun f => Json.toLower f.1).Nodup) {n : Nat} [NeZero n] {field : CBuf n}
    (h : trimmed isBlank field.str = field.str) {key : String} (i : Nat)
    (hi : fields[i]? = some (key.toList, .str field.str)) :
    copyMqttString (.obj fields) key field = field := by
  unfold copyMqttString
  rw [readText_shown hn i hi]
  split
  · rfl
  · rw [strlcpy_of_lt field.lt, h, CBuf.copy_str]

theorem qosPut_shown {fields : List (CStr × Json)}
    (hn : (fields.map fun f => Json.toLower f.1).Nodup) {qos : UInt8} {key : String} (i : Nat)
    (hi : fields[i]? = some (key.toList, jsonNat qos.toNat)) : qosPut (.obj fields) key qos = qos := by
  unfold qosPut
  rw [readNumber_shown hn i hi]
  split
  · exact intUInt8_toNat qos
  · rfl

theorem thingscloudSettings_unchanged {m : RuntimeMqttConfig} (h : CloudReady m) :
    thingscloudSettings m = .ok m := by
  have hset : ¬ (m.username.str = [] ∨ m.password.str = []) := by
    rintro (hempty | hempty)
    · exact h.username.1 hempty
    · exact h.password.1 hempty
  have hkeepalive : ¬ m.keepaliveSec < 60 := UInt16.not_lt.2 h.keepalive
  unfold thingscloudSettings
  rw [copyTrimmedField_self h.username.2, copyTrimmedField_self h.password.2]
  dsimp only
  rw [if_neg hset, if_neg hkeepalive]
  obtain ⟨-, -, hclient, -, hqos, hretain, henabled, hlwt⟩ := h
  obtain ⟨⟨⟨⟨_, _, clientId, _, _, _, _, _, qos⟩, _, retain, lwtEnabled, _, _, _, lwtRetain⟩, _⟩, _⟩ :=
    m
  cases hclient
  cases hqos
  cases hretain
  cases henabled
  cases hlwt
  rfl

theorem parsePlatform_name {p : MqttPlatform} (h : p = .custom ∨ p = .thingscloud) :
    parsePlatform (platformName p) = p := by
  rcases h with rfl | rfl
  · decide
  · decide

theorem parseReportMode_name {m : MqttReportMode} (h : m = .subdevice ∨ m = .gateway) :
    parseReportMode (reportModeName m) = m := by
  rcases h with rfl | rfl
  · decide
  · decide

/-- The page shows the credentials under other names than those by which they are set. -/
theorem mqtt_unchanged (h : Settled c) (cloud : CloudStatus)
    (hplatform : c.mqtt.platformType = .custom ∨ c.mqtt.platformType = .thingscloud)
    (hmode : c.mqtt.reportMode = .subdevice ∨ c.mqtt.reportMode = .gateway) :
    mqttConfigPut (mqttConfigGet cloud c) c = .ok c := by
  have hn : ((mqttFields cloud c).map fun f => Json.toLower f.1).Nodup := by
    simp only [mqttFields, List.map_cons, List.map_nil]
    repeat rw [String.toList_ofList]
    decide
  have hstrings : mqttStringsPut (mqttConfigGet cloud c) c.mqtt = c.mqtt := by
    unfold mqttStringsPut mqttConfigGet
    rw [copyMqttString_shown hn h.broker.uri 2 rfl, copyMqttString_shown hn h.broker.clientId 3 rfl,
      copyMqttString_shown hn h.broker.dataPrefix 10 rfl,
      copyMqttString_shown hn h.broker.commandPrefix 11 rfl,
      copyMqttString_shown hn h.broker.lwtTopic 15 rfl,
      copyMqttString_shown hn h.broker.lwtPayload 16 rfl, readText_shown hn 1 rfl,
      readText_shown hn 19 rfl, parsePlatform_name hplatform, parseReportMode_name hmode]
  have hflags : mqttFlagsPut (mqttConfigGet cloud c) c.mqtt = c.mqtt := by
    unfold mqttFlagsPut mqttConfigGet
    rw [readBool_shown hn 0 rfl, readNumber_shown hn 8 rfl, qosPut_shown hn 9 rfl,
      readBool_shown hn 12 rfl, readBool_shown hn 13 rfl, readBool_shown hn 14 rfl,
      qosPut_shown hn 17 rfl, readBool_shown hn 18 rfl, intUInt16_toNat]
  have hkeep {n : Nat} [NeZero n] (key clear : String) (field : CBuf n)
      (hkey : Json.toLower key.toList ∉ (mqttFields cloud c).map fun f => Json.toLower f.1) :
      credentialPut (mqttConfigGet cloud c) key clear field = some field := by
    unfold credentialPut mqttConfigGet
    rw [shown_none hkey]
    rfl
  have huser : Json.toLower "username".toList ∉
      (mqttFields cloud c).map fun f => Json.toLower f.1 := by
    simp only [mqttFields, List.map_cons, List.map_nil]
    repeat rw [String.toList_ofList]
    decide
  have hpass : Json.toLower "password".toList ∉
      (mqttFields cloud c).map fun f => Json.toLower f.1 := by
    simp only [mqttFields, List.map_cons, List.map_nil]
    repeat rw [String.toList_ofList]
    decide
  unfold mqttConfigPut
  dsimp only
  rw [hstrings, hkeep "username" "clear_username" _ huser,
    hkeep "password" "clear_password" _ hpass]
  dsimp only
  rw [hflags]
  split
  · rename_i hcloud
    rw [thingscloudSettings_unchanged (h.cloud hcloud)]
    rfl
  · rfl

end Unchanged

/-! ## Runs -/

section Runs

variable (lib : JsonLib) {d : GatewayStore}

/-- What `runtime_config_validate` says of the fields that a page shows by name. -/
theorem validConfig_fields {c : RuntimeConfig} (h : ValidConfig c) :
    c.tcpEndpointCount.toNat ≤ runtimeMaxTcpEndpoints ∧
      (c.mqtt.platformType = .custom ∨ c.mqtt.platformType = .thingscloud) ∧
      (c.mqtt.reportMode = .subdevice ∨ c.mqtt.reportMode = .gateway) := by
  have hnone : runtimeConfigError c = none := by
    unfold ValidConfig runtimeConfigValidate at h
    cases herror : runtimeConfigError c with
    | none => rfl
    | some error =>
      rw [herror] at h
      cases h
  unfold runtimeConfigError at hnone
  split_ifs at hnone with _ _ hcount _ hplatform hmode
  exact ⟨Nat.not_lt.1 hcount, by tauto, by tauto⟩

theorem Settled.edit {page : ConfigPage} {root : Json} {config : RuntimeConfig}
    (h : Settled d.config.ram.config) (hedit : page.edit root d = .ok config)
    (hvalid : ValidConfig config) : Settled config := by
  cases page with
  | wifi =>
    cases hedit
    exact h.keep hvalid h.locale rfl rfl rfl
  | mqtt => exact h.mqtt hedit hvalid
  | modbus =>
    have hmap : (modbusConfigPut d.amm.ram.defaultPollMs root d.config.ram.config).map Prod.fst =
      .ok config := hedit
    cases hput : modbusConfigPut d.amm.ram.defaultPollMs root d.config.ram.config with
    | error reason =>
      rw [hput] at hmap
      cases hmap
    | ok r =>
      rw [hput] at hmap
      cases hmap
      exact h.modbus hput hvalid
  | gateway =>
    cases hedit
    exact h.gateway root hvalid
  | time =>
    cases hedit
    exact h.keep hvalid h.locale rfl rfl rfl
  | security =>
    cases hedit
    exact h.keep hvalid h.locale rfl rfl rfl

theorem put_config (page : ConfigPage) (text : CStr) (f : NvsCalls) (g : AmmFaults)
    (pending created : Bool) : (d.put lib page text f g pending created).config =
      match d.wanted lib page text with
      | none => d.config
      | some config => (runtimeConfigSet f config d.config).2 := by
  unfold GatewayStore.wanted
  cases hread : parseRequestJson lib requestLimit text with
  | none =>
    cases page <;>
      simp only [GatewayStore.put, wifiConfigPutHandler, gatewayConfigPutHandler,
        timeConfigPutHandler, securityConfigPutHandler, configPut, mqttConfigPutHandler,
        modbusConfigPutHandler, hread, Option.bind_none]
  | some root =>
    cases page with
    | wifi | gateway | time | security =>
      simp only [GatewayStore.put, wifiConfigPutHandler, gatewayConfigPutHandler,
        timeConfigPutHandler, securityConfigPutHandler, configPut, hread, Option.bind_some,
        ConfigPage.edit, Except.toOption]
    | mqtt =>
      simp only [GatewayStore.put, mqttConfigPutHandler, hread, Option.bind_some, ConfigPage.edit]
      cases mqttConfigPut root d.config.ram.config with
      | error reason => rfl
      | ok config =>
        simp only [Except.toOption]
        split
        · rfl
        · split <;> rfl
    | modbus =>
      simp only [GatewayStore.put, modbusConfigPutHandler, hread, Option.bind_some,
        ConfigPage.edit]
      cases modbusConfigPut d.amm.ram.defaultPollMs root d.config.ram.config with
      | error reason => rfl
      | ok r =>
        simp only [Except.map, Except.toOption]
        split <;> rfl

theorem wanted_settled (h : Settled d.config.ram.config) {page : ConfigPage} {text : CStr}
    {config : RuntimeConfig} (hwanted : d.wanted lib page text = some config)
    (hvalid : ValidConfig config) : Settled config := by
  obtain ⟨root, -, hedit⟩ := Option.bind_eq_some_iff.1 hwanted
  cases hresult : page.edit root d with
  | error reason =>
    rw [hresult] at hedit
    cases hedit
  | ok config' =>
    rw [hresult] at hedit
    cases hedit
    exact h.edit hresult hvalid

structure GatewayInv (d : GatewayStore) : Prop where
  config : KeptIn Settled d.config
  poll : PollRange d.amm.ram

theorem gatewayInv_restart {n : ConfigNvs} (h : KeptNvs Settled n) (a : AmmStore) (f g : NvsCalls) :
    GatewayInv (GatewayStore.restart n a f g) :=
  ⟨h.init settled_defaults f, (Amm.pollRange_empty _).load g a.nvs⟩

theorem GatewayInv.put (h : GatewayInv d) (page : ConfigPage) (text : CStr) (f : NvsCalls)
    (g : AmmFaults) (pending created : Bool) :
    GatewayInv (d.put lib page text f g pending created) := by
  refine ⟨?_, ?_⟩
  · rw [put_config]
    cases hwanted : d.wanted lib page text with
    | none => exact h.config
    | some config => exact h.config.set (wanted_settled lib h.config.ram hwanted) f
  · cases page with
    | wifi | mqtt | gateway | time | security => exact h.poll
    | modbus =>
      show PollRange (modbusConfigPutHandler lib text f g d.config d.amm).2.2.ram
      unfold modbusConfigPutHandler
      split
      · exact h.poll
      · split
        · exact h.poll
        · dsimp only
          split
          · exact h.poll
          · exact h.poll.perform _ g

theorem GatewayInv.step (h : GatewayInv d) (a : GatewayStep) : GatewayInv (d.step lib a) := by
  cases a with
  | put page text f g pending created => exact h.put lib page text f g pending created
  | mqttDisconnect disconnected f =>
    refine ⟨?_, h.poll⟩
    show KeptIn Settled (if d.config.ram.config.mqtt.enabled then
      runtimeConfigSet f _ d.config else (.ok, d.config)).2
    split
    · exact h.config.set h.config.ram.disconnected f
    · exact h.config
  | mappings call g => exact ⟨h.config, h.poll.perform call g⟩
  | reboot f g => exact gatewayInv_restart h.config.nvs d.amm f g
  | powerLoss page text f k f' g' =>
    unfold GatewayStore.step
    dsimp only
    cases hwanted : d.wanted lib page text with
    | none => exact gatewayInv_restart h.config.nvs d.amm f' g'
    | some config =>
      have hcall : ValidConfig (ConfigCall.set config).wanted →
          Settled (ConfigCall.set config).wanted := wanted_settled lib h.config.ram hwanted
      exact gatewayInv_restart (h.config.cut hcall f k) d.amm f' g'

theorem gatewayInv_run (capacity : Nat) (f g : NvsCalls) (as : List GatewayStep) :
    GatewayInv (run (GatewayStore.step lib) (.boot capacity f g) as) := by
  have hkeep : ∀ d a, GatewayInv d → True → GatewayInv (d.step lib a) := fun _ a h _ => h.step lib a
  exact inv_run hkeep (gatewayInv_restart keptNvs_empty _ f g) (allSteps_of_forall (fun _ _ => trivial) _)

end Runs

/-- The configuration survives a `PUT`: in memory whatever the flash answers, and in the slot that
is written if no call fails. The modbus page may give its interval to every mapping besides. -/
structure PutKeeps (lib : JsonLib) (d : GatewayStore) (page : ConfigPage) (text : CStr) : Prop where
  memory : ∀ f g pending created,
    (d.put lib page text f g pending created).config.ram.config = d.config.ram.config
  flash : ∀ g pending created, ∃ t stored,
    (d.put lib page text .ok g pending created).config.nvs.slot t = some (.current stored) ∧
      storedConfigValid stored = true ∧ stored.config = d.config.ram.config ∧
      stored.generation = nextGeneration d.config.ram.generation
  mappings : ∀ f g pending created, (d.put lib page text f g pending created).amm = d.amm ∨
    page = .modbus ∧ (d.put lib page text f g pending created).amm =
      (d.amm.perform (.setPollIntervalAll d.amm.ram.defaultPollMs) g).2

section Resaved

variable {lib : JsonLib} {d : GatewayStore} {page : ConfigPage} {text : CStr}

theorem set_same (hvalid : ValidConfig d.config.ram.config) (f : NvsCalls) :
    (runtimeConfigSet f d.config.ram.config d.config).2.ram.config = d.config.ram.config := by
  have hwanted : ValidConfig (ConfigCall.set d.config.ram.config).wanted := hvalid
  show (d.config.perform (.set d.config.ram.config) f).2.ram.config = _
  by_cases hstops : StopsEarly f ∨ StopsLate f
  · obtain ⟨e, n, -, hset, -⟩ := ConfigStore.perform_error hwanted hstops
    rw [hset]
    rfl
  · obtain ⟨hearly, hlate⟩ := not_or.1 hstops
    obtain ⟨n, hset, -⟩ := ConfigStore.perform_ok hwanted hearly hlate
    rw [hset]
    rfl

theorem set_stored (hvalid : ValidConfig d.config.ram.config) : ∃ t stored,
    (runtimeConfigSet .ok d.config.ram.config d.config).2.nvs.slot t = some (.current stored) ∧
      storedConfigValid stored = true ∧ stored.config = d.config.ram.config ∧
      stored.generation = nextGeneration d.config.ram.generation := by
  have hwanted : ValidConfig (ConfigCall.set d.config.ram.config).wanted := hvalid
  have hearly : ¬ StopsEarly .ok := by decide
  have hlate : ¬ StopsLate .ok := by decide
  obtain ⟨n, hset, hslot⟩ := ConfigStore.perform_ok hwanted hearly hlate
  refine ⟨saveTarget .ok d.config.nvs, d.config.ram.stored, ?_, storedConfigValid_stored hvalid,
    rfl, rfl⟩
  show (d.config.perform (.set d.config.ram.config) .ok).2.nvs.slot _ = _
  rw [hset]
  show n.slot _ = _
  rw [hslot]
  exact Function.update_self ..

theorem putKeeps_of_edit (hvalid : ValidConfig d.config.ram.config) {root : Json}
    (hread : parseRequestJson lib requestLimit text = some root)
    (hedit : page.edit root d = .ok d.config.ram.config)
    (hmodbus : page = .modbus → modbusConfigPut d.amm.ram.defaultPollMs root d.config.ram.config =
      .ok (d.config.ram.config, d.amm.ram.defaultPollMs)) : PutKeeps lib d page text := by
  have hwanted : d.wanted lib page text = some d.config.ram.config := by
    rw [GatewayStore.wanted, hread, Option.bind_some, hedit]
    rfl
  have hput : ∀ f g pending created, (d.put lib page text f g pending created).config =
      (runtimeConfigSet f d.config.ram.config d.config).2 := by
    intro f g pending created
    rw [put_config, hwanted]
  refine ⟨fun f g pending created => ?_, fun g pending created => ?_,
    fun f g pending created => ?_⟩
  · rw [hput]
    exact set_same hvalid f
  · rw [hput]
    exact set_stored hvalid
  · cases page with
    | wifi | mqtt | gateway | time | security => exact .inl rfl
    | modbus =>
      simp only [GatewayStore.put, modbusConfigPutHandler, hread, hmodbus rfl]
      split
      · exact .inl rfl
      · exact .inr ⟨trivial, rfl⟩

end Resaved

/-- **A page that is saved as it was shown changes nothing.** In every run of requests, failing
NVS calls, reboots and power losses, a `PUT` of the document that the page's `GET` shows keeps the
configuration. -/
theorem saved_page_unchanged (lib : JsonLib) (capacity : Nat) (f g : NvsCalls)
    (as : List GatewayStep) (page : ConfigPage) (st : PageStatus) {text : CStr}
    (hread : parseRequestJson lib requestLimit text =
      some (page.document st (run (GatewayStore.step lib) (.boot capacity f g) as))) :
    PutKeeps lib (run (GatewayStore.step lib) (.boot capacity f g) as) page text := by
  have hinv := gatewayInv_run lib capacity f g as
  revert hread hinv
  generalize run (GatewayStore.step lib) (.boot capacity f g) as = d
  intro hread hinv
  have hsettled := hinv.config.ram
  obtain ⟨hcount, hplatform, hmode⟩ := validConfig_fields hsettled.valid
  let fieldbus := { st.fieldbus with pollInterval := d.amm.ram.defaultPollMs }
  have hpoll : 100 ≤ fieldbus.pollInterval ∧ fieldbus.pollInterval ≤ 3600000 := hinv.poll
  have hmodbus := modbus_unchanged hsettled hpoll hcount
  refine putKeeps_of_edit hsettled.valid hread ?_ ?_
  · cases page with
    | wifi => exact congrArg Except.ok (wifi_unchanged st.network _)
    | mqtt => exact mqtt_unchanged hsettled st.cloud hplatform hmode
    | modbus => exact congrArg (Except.map Prod.fst) hmodbus
    | gateway => exact congrArg Except.ok (gateway_unchanged hsettled)
    | time => exact congrArg Except.ok (time_unchanged st.synchronized st.lastSyncMs _)
    | security => exact congrArg Except.ok (security_unchanged st.secureBoot st.flashEncryption _)
  · rintro rfl
    exact hmodbus

/-- A mapping is added, and at the next start the settings cannot be read. -/
def restartedSteps : List GatewayStep :=
  [.mappings (.add Amm.samplePoint) .ok, .reboot (fun _ => some .fail) .ok]

def shownStatus : PageStatus where
  network := ⟨true, true, false, false, true, 1, .empty, .empty, .empty, .empty⟩
  cloud := ⟨1, 1, 3, 0, 0, 4000, 0, false, 2, 1⟩
  fieldbus := ⟨1000, true, 1, 20, 0⟩
  synchronized := true
  lastSyncMs := 5000
  secureBoot := false
  flashEncryption := false

def timePage : Json := timeConfigGet true 5000 loadDefaults

theorem saved_time_page : PutKeeps (.knowing [timePage])
    (run (GatewayStore.step (.knowing [timePage])) (.boot 8 .ok .ok) restartedSteps) .time
    timePage.render := by
  refine saved_page_unchanged _ 8 .ok .ok restartedSteps .time shownStatus ?_
  have hram : (run (GatewayStore.step (.knowing [timePage])) (.boot 8 .ok .ok)
      restartedSteps).config.ram.config = loadDefaults := (saveLocked_ram _ _).1
  have hlength : ¬ (timePage.render = [] ∨ timePage.render.length > requestLimit) := by
    decide +kernel
  rw [ConfigPage.document, hram, parseRequestJson, if_neg hlength, knowing_parse]
  rfl

/-- **ThingsCloud never lacks its settings.** In every such run, with the configuration in memory
and with any that a start takes from the slots, whatever NVS calls fail: if the platform is
ThingsCloud, both credentials are there and trimmed, the client id is left to the gateway, the
keepalive is a minute at least, the quality of service is 0 and nothing is retained. -/
theorem cloud_settings_complete (lib : JsonLib) (capacity : Nat) (f g : NvsCalls)
    (as : List GatewayStep) :
    let d := run (GatewayStore.step lib) (.boot capacity f g) as
    ∀ c, (c = d.config.ram.config ∨ ∃ f, c = (runtimeConfigInit f d.config.nvs).2.ram.config) →
      ValidConfig c ∧ BrokerTrimmed c.mqtt ∧
        (c.mqtt.platformType = .thingscloud → CloudReady c.mqtt) := by
  intro d c hc
  have hinv : GatewayInv d := gatewayInv_run lib capacity f g as
  have hsettled : Settled c := by
    rcases hc with rfl | ⟨f, rfl⟩
    · exact hinv.config.ram
    · exact (hinv.config.nvs.init settled_defaults f).ram
  exact ⟨hsettled.valid, hsettled.broker, hsettled.cloud⟩

end McpGateway.Web
