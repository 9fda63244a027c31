import McpGateway.Mqtt.Subscriptions

/-!
# The MQTT handler

The connection lifecycle of `mqtt_handler.c` as one machine: the tasks that start, restart,
suspend and destroy the client under `s_lifecycle_mutex`, the supervisor task, and the events
of the client's own task, which take no part in that mutex. A step is what a task does between
two calls of the client; the answers of the client come with the step. The publish counters
and the tracked publishes are left out (`Mqtt/Tracked.lean` has the latter), and so are the
log lines.
-/

namespace McpGateway.Mqtt

open McpGateway.Lib McpGateway.Runtime

/-- `mqtt_conn_state_t`. -/
inductive MqttConnState
  | connected
  | disconnected
  | error
  deriving DecidableEq, Repr

/-- `s_broker_uri`, `s_client_id`, `s_username` and `s_password`. -/
structure MqttSettings where
  brokerUri : CBuf 128
  clientId : CBuf 48
  username : CBuf 64
  password : CBuf 96
  deriving DecidableEq

/-- The fields of `esp_mqtt_client_config_t` that depend on the configuration. -/
structure MqttClientConfig where
  uri : CStr
  clientId : CStr
  username : Option CStr
  password : Option CStr
  keepalive : UInt16
  disableCleanSession : Bool
  lastWill : Option (CStr × CStr)
  lwtQos : UInt8
  lwtRetain : Bool
  disableAutoReconnect : Bool
  deriving DecidableEq

/-- The client: the configuration it took last, and whether its task runs. -/
structure MqttClient where
  config : MqttClientConfig
  running : Bool
  deriving DecidableEq

def mqttBrokerUri : CStr := "mqtt://192.168.1.100:1883".toList

/-- The broker is not the one of the defaults without credentials. -/
def mqttConfigured (runtime : RuntimeConfig) : Bool :=
  runtime.mqtt.uri.str ≠ [] &&
    !(runtime.mqtt.uri.str = mqttBrokerUri && runtime.mqtt.username.str = [] &&
      runtime.mqtt.password.str = [])

/-- `mqtt_load_runtime_settings`; `mac` is what `esp_read_mac` gives. -/
def mqttLoadRuntimeSettings (mac : Option (List UInt8)) (runtime : RuntimeConfig) :
    MqttSettings × RuntimeConfig :=
  let settings : MqttSettings :=
    { brokerUri := runtime.mqtt.uri
      clientId := runtime.mqtt.clientId
      username := runtime.mqtt.username
      password := runtime.mqtt.password }
  if runtime.mqtt.platformType = .thingscloud then
    let clientId : CBuf 48 :=
      if settings.clientId.str = [] then
        match mac with
        | some mac => .copy 48 ("GW_".toList ++ mac.flatMap printHexByte)
        | none => .copy 48 mqttClientId
      else settings.clientId
    ({ settings with clientId := clientId },
      { runtime with
        mqtt := { runtime.mqtt with qos := 0, retain := false, lwtEnabled := false } })
  else (settings, runtime)

def mqttBuildClientConfig (settings : MqttSettings) (runtime : RuntimeConfig)
    (disableAutoReconnect : Bool) : MqttClientConfig where
  uri := settings.brokerUri.str
  clientId := settings.clientId.str
  username := if settings.username.str = [] then none else some settings.username.str
  password := if settings.password.str = [] then none else some settings.password.str
  keepalive := runtime.mqtt.keepaliveSec
  disableCleanSession :=
    !(runtime.mqtt.cleanSession || runtime.mqtt.platformType = .thingscloud)
  lastWill :=
    if runtime.mqtt.lwtEnabled then some (runtime.mqtt.lwtTopic.str, runtime.mqtt.lwtPayload.str)
    else none
  lwtQos := runtime.mqtt.lwtQos
  lwtRetain := runtime.mqtt.lwtRetain
  disableAutoReconnect := disableAutoReconnect

/-! ## The state -/

/-- What follows the registration of the subscriptions. -/
inductive AfterRegister
  | fresh (shouldStart enabled : Bool)
  | resident
  | reconnect
  deriving DecidableEq

/-- What the holder of `s_lifecycle_mutex` does next. -/
inductive Phase
  | free
  | registering (todo : List Subscription) (next : AfterRegister)
  | starting (fresh : Bool)
  | started (fresh : Bool)
  | configuring (runtime : RuntimeConfig) (config : MqttClientConfig)
  | dropping (runtime : RuntimeConfig) (config : MqttClientConfig)
  | waiting (runtime : RuntimeConfig) (config : MqttClientConfig)
  | reconnecting
  | suspending (config : MqttClientConfig) (bySupervisor : Bool)
  | disconnecting (bySupervisor : Bool)
  deriving DecidableEq

/-- Where `mqtt_supervisor_task` stands. -/
inductive Supervisor
  | absent
  | idle
  | woken
  | copied (reason : CBuf 160)
  | restoring (reason : CBuf 160)
  deriving DecidableEq

instance neZero160 : NeZero 160 := ⟨by decide⟩

/-- The state of the handler. `inForce` is a ghost: the configuration whose subscriptions
were registered last. -/
structure MqttHandler where
  runtime : RuntimeConfig
  supervisor : Supervisor
  notified : Bool
  lifecycleMutex : Bool
  phase : Phase
  client : Option MqttClient
  initialized : Bool
  started : Bool
  suspended : Bool
  authFailures : UInt8
  settings : MqttSettings
  connState : MqttConnState
  reason : CBuf 160
  subscriptions : List Subscription
  inForce : Option RuntimeConfig
  connectCount : UInt32
  disconnectCount : UInt32
  errorCount : UInt32
  connectedSinceMs : Int
  lastSessionDurationMs : Int

def MqttHandler.boot (runtime : RuntimeConfig) : MqttHandler where
  runtime := runtime
  supervisor := .absent
  notified := false
  lifecycleMutex := false
  phase := .free
  client := none
  initialized := false
  started := false
  suspended := false
  authFailures := 0
  settings := ⟨.copy 128 mqttBrokerUri, .copy 48 mqttClientId, .empty, .empty⟩
  connState := .disconnected
  reason := .copy 160 "not connected".toList
  subscriptions := []
  inForce := none
  connectCount := 0
  disconnectCount := 0
  errorCount := 0
  connectedSinceMs := 0
  lastSessionDurationMs := 0

namespace MqttHandler

/-- The client takes a configuration (`esp_mqtt_set_config`). -/
def takeConfig (h : MqttHandler) (config : MqttClientConfig) : MqttHandler :=
  { h with client := h.client.map fun c => { c with config := config } }

def setReason (h : MqttHandler) (reason : String) : MqttHandler :=
  { h with reason := .copy 160 reason.toList }

/-- The holder gives the lifecycle mutex back; the supervisor goes on with its reason. -/
def release (h : MqttHandler) (bySupervisor : Bool) : MqttHandler :=
  { h with
    phase := .free
    supervisor :=
      match bySupervisor, h.supervisor with
      | true, .copied reason => .restoring reason
      | _, supervisor => supervisor }

/-! ## Subscribing -/

/-- `mqtt_subscribe`; `answer` says whether the client took the SUBSCRIBE. -/
def mqttSubscribe (h : MqttHandler) (topic : CStr) (qos : Nat) (cb : Callback) (answer : Bool) :
    EspErr × MqttHandler :=
  if h.initialized = false ∨ h.client = none then (.fail, h)
  else
    match addSubscription topic qos cb h.subscriptions with
    | .error err => (err, h)
    | .ok (table, isNew) =>
      (if (isNew = false ∨ h.connState = .connected) ∧ answer = false then .fail else .ok,
        { h with subscriptions := table })

/-- The start of `mqtt_register_runtime_subscriptions`. -/
def register (h : MqttHandler) (runtime : RuntimeConfig) (next : AfterRegister) : MqttHandler :=
  { h with
    subscriptions := []
    phase := .registering (runtimeSubscriptions runtime) next
    inForce := some runtime }

/-- The topics `MQTT_EVENT_CONNECTED` subscribes to, with their QoS. -/
def resubscribed (h : MqttHandler) : List (CStr × Nat) :=
  (h.subscriptions.filter Subscription.active).map fun s => (s.topic, s.qos)

/-- The callback `MQTT_EVENT_DATA` passes a message to. -/
def dispatch (h : MqttHandler) (topic : CStr) : Option Callback :=
  (mqttFindSubscription topic h.subscriptions).map Subscription.callback

/-! ## Starting -/

/-- What the calls answer that create tasks, mutexes and the client. -/
structure InitEnv where
  supervisor : Bool
  lifecycleMutex : Bool
  mutex : Bool
  client : Bool
  registered : Bool
  mac : Option (List UInt8)

/-- `mqtt_init_unlocked` up to the registration of the subscriptions. -/
def mqttInitUnlocked (env : InitEnv) (h : MqttHandler) : MqttHandler :=
  if h.initialized then h
  else
    let shouldStart := h.runtime.mqtt.enabled && mqttConfigured h.runtime
    let (settings, runtime) := mqttLoadRuntimeSettings env.mac h.runtime
    let h := { h with authFailures := 0, suspended := !shouldStart, settings := settings }
    if env.mutex = false then { h with connState := .error }
    else if env.client = false then { h with client := none, connState := .error }
    else if env.registered = false then { h with client := none, connState := .error }
    else
      { h with
        client := some ⟨mqttBuildClientConfig settings runtime false, false⟩
        initialized := true
        started := false
        connState := .disconnected }.register runtime (.fresh shouldStart runtime.mqtt.enabled)

/-- `mqtt_init`, once the lifecycle mutex is free. -/
def mqttInit (env : InitEnv) (h : MqttHandler) : MqttHandler :=
  if h.phase ≠ .free then h
  else if h.supervisor = .absent ∧ env.supervisor = false then { h with connState := .error }
  else
    let supervisor := if h.supervisor = .absent then Supervisor.idle else h.supervisor
    let h := { h with supervisor := supervisor }
    if h.lifecycleMutex = false ∧ env.lifecycleMutex = false then { h with connState := .error }
    else mqttInitUnlocked env { h with lifecycleMutex := true }

/-- `mqtt_restart` up to the first call of the client. With MQTT disabled it goes on with
`mqtt_disconnect`, a step of its own. -/
def mqttRestart (env : InitEnv) (h : MqttHandler) : MqttHandler :=
  if h.phase ≠ .free then h
  else if h.lifecycleMutex = false ∧ env.lifecycleMutex = false then h
  else
    let h := { h with lifecycleMutex := true }
    if h.runtime.mqtt.enabled = false then h
    else if h.initialized = false ∨ h.client = none then mqttInitUnlocked env h
    else
      let (settings, runtime) := mqttLoadRuntimeSettings env.mac h.runtime
      let config := mqttBuildClientConfig settings runtime false
      { h with
        settings := settings
        suspended := false
        authFailures := 0
        phase := if h.started then .dropping runtime config else .configuring runtime config }

/-! ## Stopping -/

/-- `mqtt_destroy`; `stopped` is the answer of `esp_mqtt_client_stop`. -/
def mqttDestroy (stopped : Bool) (h : MqttHandler) : MqttHandler :=
  if h.phase ≠ .free ∨ h.initialized = false then h
  else if h.client ≠ none ∧ h.started = true ∧ stopped = false then h
  else
    { h with
      client := none
      connState := .disconnected
      connectedSinceMs := 0
      initialized := false
      started := false }

/-- `mqtt_disconnect` up to the first call of the client, by the supervisor or by another task. -/
def mqttDisconnect (mac : Option (List UInt8)) (bySupervisor : Bool) (h : MqttHandler) :
    MqttHandler :=
  if h.phase ≠ .free then h
  else if h.lifecycleMutex = false ∨ h.initialized = false ∨ h.client = none then
    h.release bySupervisor
  else
    let h := { h with suspended := true }
    if h.started = false then
      ({ h with connState := .disconnected }.setReason
        "disconnected; resident MQTT client is waiting for configuration").release bySupervisor
    else
      let (settings, runtime) := mqttLoadRuntimeSettings mac h.runtime
      { h with
        settings := settings
        phase := .suspending (mqttBuildClientConfig settings runtime true) bySupervisor }

/-- `mqtt_reconnect`: its result, or `none` where it goes on with `mqtt_restart`. -/
def mqttReconnect (h : MqttHandler) (answer : EspErr) : Option EspErr :=
  if h.suspended then some .invalidState
  else if h.lifecycleMutex = false ∨ h.initialized = false ∨ h.client = none then none
  else some answer

/-! ## Events of the client -/

inductive MqttError
  | noHandle
  | tcpTransport (sockErrno : Int) (espErr : UInt32)
  | connectionRefused (returnCode : Nat)
  | other
  deriving DecidableEq

inductive MqttEvent
  | connected (nowMs : Int)
  | disconnected (nowMs : Int)
  | data (topic : CStr)
  | error (err : MqttError) (supervisor : Bool)

/-- `mqtt_suspend_async`; `supervisor` says whether the task can be created. -/
def mqttSuspendAsync (h : MqttHandler) (reason : String) (supervisor : Bool) : MqttHandler :=
  let h := { h with suspended := true }.setReason reason
  if h.supervisor = .absent then
    if supervisor then { h with supervisor := .idle, notified := true } else h
  else { h with notified := true }

/-- `s_consecutive_auth_failures` after one more. -/
def countFailure (failures : UInt8) : UInt8 := if failures < 255 then failures + 1 else failures

/-- `MQTT_EVENT_ERROR`. -/
def errorEvent (h : MqttHandler) (err : MqttError) (supervisor : Bool) : MqttHandler :=
  let h := { h with errorCount := h.errorCount + 1 }
  match err with
  | .noHandle | .other => { h with connState := .error }
  | .tcpTransport sockErrno espErr =>
    { h with
      reason := .copy 160 ("network/TCP error (sock_errno=".toList ++ printInt sockErrno ++
        " esp_err=0x".toList ++ printHex espErr.toNat ++ ")".toList)
      connState := .error }
  | .connectionRefused returnCode =>
    if returnCode = 5 then
      let failures := countFailure h.authFailures
      let h := { h with authFailures := failures, connState := .error }.setReason
        "broker rejected authentication (CONNACK 5): verify AccessToken and ProjectKey"
      if 3 ≤ failures then
        h.mqttSuspendAsync "reconnect suspended after 3 authentication rejections" supervisor
      else h
    else
      { h with
        reason := .copy 160 ("broker refused connection (CONNACK ".toList ++
          printDecimal returnCode ++ ")".toList)
        connState := .error }

/-- `mqtt_event_handler`; a client whose task does not run has no events. -/
def event (h : MqttHandler) (e : MqttEvent) : MqttHandler :=
  if (h.client.map MqttClient.running).getD false = false then h
  else
    match e with
    | .connected nowMs =>
      { h with
        connectedSinceMs := nowMs
        connectCount := h.connectCount + 1
        authFailures := 0
        connState := .connected }.setReason "connected to broker"
    | .disconnected nowMs =>
      { h with
        lastSessionDurationMs :=
          if 0 < h.connectedSinceMs then nowMs - h.connectedSinceMs else h.lastSessionDurationMs
        disconnectCount := h.disconnectCount + 1
        connectedSinceMs := 0
        connState := .disconnected }
    | .data _ => h
    | .error err supervisor => h.errorEvent err supervisor

/-! ## Steps -/

/-- The holder of the lifecycle mutex goes on; `ok` is the answer of the client call it
makes. The wait of `mqtt_restart` can end at any time. -/
def advance (h : MqttHandler) (ok : Bool) : MqttHandler :=
  match h.phase with
  | .free => h
  | .registering (s :: todo) next =>
    { (h.mqttSubscribe s.topic s.qos s.callback ok).2 with phase := .registering todo next }
  | .registering [] (.fresh shouldStart enabled) =>
    if shouldStart then { h with phase := .starting true }
    else
      ({ h with phase := .free }).setReason
        (if enabled then "unconfigured; resident MQTT client is waiting for configuration"
          else "disabled; resident MQTT client is waiting for configuration")
  | .registering [] .resident => { h with phase := .starting false }
  | .registering [] .reconnect =>
    ({ h with phase := .reconnecting }).setReason
      "configuration applied; reconnect requested on resident MQTT task"
  | .starting fresh =>
    if ok then
      { h with
        client := h.client.map fun c => { c with running := true }
        phase := .started fresh }
    else
      ({ h with connState := .error, phase := .free }).setReason
        "unable to create MQTT task: insufficient contiguous internal SRAM"
  | .started fresh =>
    if fresh then
      ({ h with started := true, phase := .free }).setReason
        "MQTT client started; waiting for broker"
    else
      ({ h with started := true, connState := .disconnected, phase := .free }).setReason
        "configuration applied; resident MQTT task started"
  | .configuring runtime config =>
    if ok then (h.takeConfig config).register runtime .resident
    else
      ({ h with connState := .error, phase := .free }).setReason
        "unable to create MQTT task: insufficient contiguous internal SRAM"
  | .dropping runtime config => { h with phase := if ok then .waiting runtime config else .free }
  | .waiting runtime config =>
    if ok then (h.takeConfig config).register runtime .reconnect
    else { h with phase := .free }
  | .reconnecting => { h with phase := .free }
  | .suspending config bySupervisor =>
    if ok then { h.takeConfig config with phase := .disconnecting bySupervisor }
    else { h with suspended := false }.release bySupervisor
  | .disconnecting bySupervisor =>
    if ok then
      ({ h with connState := .disconnected, connectedSinceMs := 0 }.setReason
        "disconnected; resident MQTT task is waiting for configuration").release bySupervisor
    else h.release bySupervisor

end MqttHandler

inductive HandlerOp
  | store (runtime : RuntimeConfig)
  | init (env : MqttHandler.InitEnv)
  | restart (env : MqttHandler.InitEnv)
  | disconnect (mac : Option (List UInt8))
  | destroy (stopped : Bool)
  | advance (ok : Bool)
  | event (e : MqttHandler.MqttEvent)
  | wake
  | copyReason
  | supervise (mac : Option (List UInt8))
  | restoreReason

/-- One step; `store` is a change of the stored configuration. -/
def MqttHandler.step (h : MqttHandler) : HandlerOp → MqttHandler
  | .store runtime => { h with runtime := runtime }
  | .init env => h.mqttInit env
  | .restart env => h.mqttRestart env
  | .disconnect mac => h.mqttDisconnect mac false
  | .destroy stopped => h.mqttDestroy stopped
  | .advance ok => h.advance ok
  | .event e => h.event e
  | .wake =>
    if h.supervisor = .idle ∧ h.notified = true then
      { h with supervisor := .woken, notified := false }
    else h
  | .copyReason => if h.supervisor = .woken then { h with supervisor := .copied h.reason } else h
  | .supervise mac =>
    match h.supervisor with
    | .copied _ => h.mqttDisconnect mac true
    | _ => h
  | .restoreReason =>
    match h.supervisor with
    | .restoring reason => { h with reason := reason, supervisor := .idle }
    | _ => h

end McpGateway.Mqtt
