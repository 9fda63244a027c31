import McpGateway.Eval.Logger
import McpGateway.Mqtt.Handler
import McpGateway.Scheduler.Pipeline
import McpGateway.Uif.ContextTopic

/-!
# The tasks behind the context queue

`publish_task`, `cache_writer_task` and `mqtt_publish_task` joined to the pipeline
of `modbus_poll_task` and `context_build_task`, with the counters. As in the
pipeline a step is what a task does between two points where another one can run.
Behind the context queue the number of its poll goes with a context: a ghost, as
is the number of increments that each counter has missed.
-/

namespace McpGateway.Scheduler

open McpGateway.Lib McpGateway.Tcm McpGateway.Amm McpGateway.Storage McpGateway.Runtime
  McpGateway.Uif McpGateway.Web McpGateway.Mqtt McpGateway.Eval McpGateway.Modbus

def queueMqttOutSize : Nat := 4
def cacheQueueSize : Nat := 16

/-- `mqtt_out_msg_t`. -/
structure MqttOutMsg where
  topic : CStr
  payload : CStr
  qos : Nat
  sequenceId : SeqId

/-- A context and the number of its poll. -/
structure Sample where
  ctx : TcmContext
  poll : Nat

/-- A message and the sample it was made of. -/
structure OutItem where
  msg : MqttOutMsg
  sample : Sample

/-- Where `publish_task` stands; `failed` is a sample that the ThingsCloud adapter refused. -/
inductive PublishTask
  | idle
  | taken (s : Sample)
  | sending (item : OutItem)
  | caching (s : Sample) (failed : Bool)

/-- Where `mqtt_publish_task` stands. -/
inductive MqttPublishTask
  | idle
  | taken (item : OutItem)
  | refused (item : OutItem)

/-- Where `cache_writer_task` stands. -/
inductive CacheWriterTask
  | idle
  | taken (s : Sample)

/-- `origins` are the numbers of the contexts in the context queue; `mutex` says which increments
get the mutex of the counters in time, `increments` how many there were. -/
structure Telemetry where
  pipe : Pipeline
  origins : List Nat
  publish : PublishTask
  out : List OutItem
  mqttPublish : MqttPublishTask
  cache : List Sample
  writer : CacheWriterTask
  store : Store
  metrics : EvalMetrics
  mutex : Nat → Bool
  increments : Nat
  skipped : Metric → Nat

/-- All tasks before their first loop. -/
def Telemetry.start (amm : AmmTable) (pool : StatePool) (store : Store) (mutex : Nat → Bool) :
    Telemetry where
  pipe := .start amm pool
  origins := []
  publish := .idle
  out := []
  mqttPublish := .idle
  cache := []
  writer := .idle
  store := store
  metrics := evalInit
  mutex := mutex
  increments := 0
  skipped _ := 0

/-- What `publish_task` meets: the configuration, the broker, and what
`thingscloud_publish_context` returns. -/
structure PublishEnv where
  lib : JsonLib
  runtime : RuntimeConfig
  connected : Bool
  adapter : EspErr

def topicConfig (runtime : RuntimeConfig) : TopicConfig :=
  ⟨runtime.mqtt.dataPrefix.str, runtime.gatewayId.str⟩

inductive TelemetryStep
  | pipe (a : PipelineStep)
  | receive
  | publish (env : PublishEnv)
  | send
  | cache
  | mqttReceive
  | mqttPublish (connected accepted : Bool)
  | mqttStore (env : PutEnv)
  | cacheReceive
  | cacheRecord (lib : JsonLib) (runtime : RuntimeConfig) (env : PutEnv)
  /-- The replay and the acknowledgements change the store, too. -/
  | replay (store : Store)
  /-- `uif_replay_cloud_response` removes a record the cloud refuses for good. -/
  | removeRefused (id : SeqId)

namespace Telemetry

/-- `eval_increment_metric(name, 1)`. -/
def count (m : Metric) (t : Telemetry) : Telemetry :=
  let taken := t.mutex t.increments
  { t with
    metrics := evalIncrementMetric taken m.name 1 t.metrics
    increments := t.increments + 1
    skipped := if taken then t.skipped else Function.update t.skipped m (t.skipped m + 1) }

/-! ## The pipeline and its counters -/

def answer (t : Telemetry) (reply : Nat → Option (List UInt16)) (net : NetworkState) : Telemetry :=
  match t.pipe.poll with
  | .selected cfg _ =>
    let outcome : Metric := if (pollRead cfg reply).isSome then .successfulPolls else .failedPolls
    ({ t with pipe := t.pipe.answer reply net }.count outcome).count .totalPolls
  | _ => t

/-- `xQueueSend` on the raw queue. -/
def sendRaw (t : Telemetry) : Telemetry :=
  match t.pipe.poll with
  | .answered _ =>
    let sent := { t with pipe := t.pipe.send }
    if t.pipe.raw.length < queueRawDataSize then sent else sent.count .dataLossCount
  | _ => t

/-- `xQueueReceive` on the raw queue. -/
def receiveRaw (t : Telemetry) : Telemetry :=
  match t.pipe.build, t.pipe.raw with
  | .idle, item :: _ =>
    let received := { t with pipe := t.pipe.receive }
    if item.result.valid then received else received.count .contextsRejected
  | _, _ => t

def build (t : Telemetry) (env : BuildEnv) (net : NetworkState) : Telemetry :=
  match t.pipe.build with
  | .received item =>
    let r := item.result
    let built := { t with pipe := t.pipe.buildStep env net }
    match tcmBuildContext env r.slaveId r.functionCode r.registerAddress r.rawValue r.quality net with
    | none => built.count .contextsRejected
    | some _ =>
      if (buildContext env net t.pipe.amm r).isSome then
        (built.count .contextsCreated).count .contextsValidated
      else (built.count .contextsCreated).count .contextsRejected
  | _ => t

/-- `xQueueSend` on the context queue. -/
def push (t : Telemetry) : Telemetry :=
  match t.pipe.build with
  | .stored _ _ poll =>
    let pushed := { t with pipe := t.pipe.push }
    if t.pipe.contexts.length < queueContextSize then { pushed with origins := t.origins ++ [poll] }
    else pushed.count .dataLossCount
  | _ => t

/-- A step of the first two tasks; the context queue is emptied by `receive`. -/
def pipeStep (t : Telemetry) : PipelineStep → Telemetry
  | .answer reply net => t.answer reply net
  | .send => t.sendRaw
  | .receive => t.receiveRaw
  | .build env net => t.build env net
  | .push => t.push
  | .publish => t
  | .mutate op => { t with pipe := t.pipe.step (.mutate op) }
  | .copy => { t with pipe := t.pipe.copy }
  | .select nowMs => { t with pipe := t.pipe.select nowMs }
  | .store => { t with pipe := t.pipe.store }

/-! ## Publishing -/

/-- `xQueueReceive` on the context queue. -/
def receive (t : Telemetry) : Telemetry :=
  match t.publish, t.pipe.contexts, t.origins with
  | .idle, ctx :: _, poll :: origins =>
    { t with
      pipe := t.pipe.step .publish
      origins := origins
      publish := .taken ⟨ctx, poll⟩ }
  | _, _, _ => t

def outMessage (env : PublishEnv) (amm : AmmTable) (ctx : TcmContext) (payload : CStr) :
    MqttOutMsg where
  topic := recordTopic (mappedTopic (topicConfig env.runtime) amm ctx)
    env.runtime.mqtt.dataPrefix.str ctx
  payload := payload
  qos := 1
  sequenceId := ctx.sequenceId

/-- `publish_task` with a context, up to the next queue. -/
def publishTaken (t : Telemetry) (env : PublishEnv) : Telemetry :=
  match t.publish with
  | .taken s =>
    let mqtt := env.runtime.mqtt
    if !(mqtt.enabled && mqttConfigured env.runtime) then { t with publish := .idle }
    else if env.connected = false then { t with publish := .caching s false }
    else if mqtt.platformType = .thingscloud then
      if env.adapter = .ok then { t with publish := .idle }.count .mqttPublished
      else { t with publish := .caching s true }
    else
      match tcmSerializeJson env.lib s.ctx tcmMaxJsonLen with
      | none => { t with publish := .idle }.count .mqttFailed
      | some payload =>
        if payload.length = 0 then { t with publish := .idle }.count .mqttFailed
        else { t with publish := .sending ⟨outMessage env t.pipe.amm s.ctx payload, s⟩ }
  | _ => t

/-- `xQueueSend` on the outgoing queue; a full queue sends the context to the cache. -/
def send (t : Telemetry) : Telemetry :=
  match t.publish with
  | .sending item =>
    if t.out.length < queueMqttOutSize then
      { t with publish := .idle, out := t.out ++ [item] }.count .mqttPublished
    else { t with publish := .caching item.sample false }
  | _ => t

/-- `xQueueSend` on the cache queue. -/
def cacheSend (t : Telemetry) : Telemetry :=
  match t.publish with
  | .caching s failed =>
    if t.cache.length < cacheQueueSize then
      let sent := { t with publish := .idle, cache := t.cache ++ [s] }
      if failed then sent.count .mqttFailed else sent
    else { t with publish := .idle }.count .dataLossCount
  | _ => t

/-! ## The outgoing queue -/

def mqttReceive (t : Telemetry) : Telemetry :=
  match t.mqttPublish, t.out with
  | .idle, item :: rest => { t with mqttPublish := .taken item, out := rest }
  | _, _ => t

/-- `mqtt_publish`, if the broker is connected. -/
def mqttSend (t : Telemetry) (connected accepted : Bool) : Telemetry :=
  match t.mqttPublish with
  | .taken item =>
    if connected && accepted then { t with mqttPublish := .idle }
    else { t with mqttPublish := .refused item }
  | _ => t

/-- `offline_store_put` of a refused message; its result is not looked at. -/
def mqttStore (t : Telemetry) (env : PutEnv) : Telemetry :=
  match t.mqttPublish with
  | .refused item =>
    let m := item.msg
    let put := offlineStorePut t.store m.sequenceId m.topic m.payload env
    { t with mqttPublish := .idle, store := put.2 }.count .mqttFailed
  | _ => t

/-! ## The cache queue -/

def cacheReceive (t : Telemetry) : Telemetry :=
  match t.writer, t.cache with
  | .idle, s :: rest => { t with writer := .taken s, cache := rest }
  | _, _ => t

/-- The call of `uif_cache_record` for the context that is held. -/
def cacheCall (t : Telemetry) (lib : JsonLib) (runtime : RuntimeConfig) (env : PutEnv) (s : Sample) :
    EspErr × Store :=
  cacheContext lib (topicConfig runtime) t.pipe.amm t.store s.ctx env

def cacheRecord (t : Telemetry) (lib : JsonLib) (runtime : RuntimeConfig) (env : PutEnv) :
    Telemetry :=
  match t.writer with
  | .taken s =>
    let put := t.cacheCall lib runtime env s
    let stored := { t with writer := .idle, store := put.2 }
    if put.1 = .ok then stored.count .cachedRecords else stored.count .dataLossCount
  | _ => t

def removeRefused (t : Telemetry) (id : SeqId) : Telemetry :=
  let removed := offlineStoreRemove t.store id
  if removed.1 = .ok then { t with store := removed.2 }.count .dataLossCount
  else { t with store := removed.2 }

def step (t : Telemetry) : TelemetryStep → Telemetry
  | .pipe a => t.pipeStep a
  | .receive => t.receive
  | .publish env => t.publishTaken env
  | .send => t.send
  | .cache => t.cacheSend
  | .mqttReceive => t.mqttReceive
  | .mqttPublish connected accepted => t.mqttSend connected accepted
  | .mqttStore env => t.mqttStore env
  | .cacheReceive => t.cacheReceive
  | .cacheRecord lib runtime env => t.cacheRecord lib runtime env
  | .replay store => { t with store := store }
  | .removeRefused id => t.removeRefused id

end Telemetry

end McpGateway.Scheduler
