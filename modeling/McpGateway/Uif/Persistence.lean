import McpGateway.Storage.OfflineStore
import McpGateway.Thingscloud.Adapter

/-!
# Durable replay

`uif_persistence.c`: caching a context as a record, replaying the oldest
record, and settling it on an acknowledgement or a cloud response. The
statics `s_replay_*` are a `Uif`; `s_initialized` is set throughout.
-/

namespace McpGateway.Uif

open McpGateway.Lib McpGateway.Storage McpGateway.Tcm McpGateway.Thingscloud

structure Replay where
  outstanding : Bool
  sequence : SeqId
  gatewayTopic : Bool
  sentMs : Int
  retryAfterMs : Int

def responseTimeoutMs : Int := 20000
def rejectRetryMs : Int := 60000
def pacingRetryMs : Int := 30000

def Replay.clear (u : Replay) : Replay := { u with outstanding := false, sequence := 0, sentMs := 0 }

/-- The topic a record is stored under: the mapping's own topic when there is
one, else the data prefix with the device and point names. -/
def recordTopic (mapped : Option CStr) (dataPrefix : CStr) (ctx : TcmContext) : CStr :=
  match mapped with
  | some topic => strlcpy 128 topic
  | none => strlcpy 128 (dataPrefix ++ ctx.deviceId.str ++ '/' :: ctx.pointId.str)

def uifCacheRecord (lib : JsonLib) (st : Store) (ctx : TcmContext) (topic : CStr)
    (env : PutEnv) : EspErr × Store :=
  match tcmSerializeJson lib ctx tcmMaxJsonLen with
  | none => (.fail, st)
  | some payload => offlineStorePut st ctx.sequenceId topic payload env

def uifGetCachedCount (st : Store) : Nat := offlineStoreCount st

def replayAcknowledged (u : Replay) (st : Store) (id : SeqId) : Replay × Store :=
  (if u.sequence = id then u.clear else u, (offlineStoreRemove st id).2)

/-- The start of `uif_replay_all`: `some err` when it returns there. -/
def replayGate (nowMs : Int) (u : Replay) : Option EspErr × Replay :=
  if u.outstanding then
    if nowMs - u.sentMs < responseTimeoutMs then (some .ok, u)
    else (some .timeout, { u with outstanding := false, retryAfterMs := nowMs + rejectRetryMs })
  else if nowMs < u.retryAfterMs then (some .timeout, u)
  else (none, u)

structure ReplayOut where
  err : EspErr
  replay : Replay
  store : Store
  adapter : Adapter
  sent : List Publish

/-- `uif_replay_all` on the ThingsCloud platform. -/
def uifReplayAll (lib : JsonLib) (env : LinkEnv) (u : Replay) (st : Store) (a : Adapter) :
    ReplayOut :=
  if env.connected = false then ⟨.invalidState, u, st, a, []⟩
  else
    let gate := replayGate env.nowMs u
    match gate.1 with
    | some e => ⟨e, gate.2, st, a, []⟩
    | none =>
      let peek := offlineStorePeekOldest st
      match peek.1 with
      | .error .notFound => ⟨.ok, gate.2, peek.2, a, []⟩
      | .error e => ⟨e, gate.2, peek.2, a, []⟩
      | .ok record =>
        match tcmDeserializeJson lib record.payload with
        | none => ⟨.invalidResponse, gate.2, peek.2, a, []⟩
        | some ctx =>
          let u := { gate.2 with
            sequence := record.sequenceId
            gatewayTopic := decide (env.reportMode = .gateway)
            sentMs := env.nowMs
            outstanding := true }
          let out := thingscloudReplayContext lib env ctx a
          if out.err ≠ .ok then
            ⟨out.err, { u with
              outstanding := false, retryAfterMs := env.nowMs + pacingRetryMs },
              peek.2, out.adapter, out.sent⟩
          else ⟨.ok, u, peek.2, out.adapter, out.sent⟩

def uifReplayConnectionLost (u : Replay) : Replay := u.clear

/-- The error codes that retrying the same bytes cannot cure. -/
def nonRetryable (errorCode : Int) : Bool :=
  errorCode = 402 || errorCode = 406 || errorCode = 413

def uifReplayCloudResponse (nowMs : Int) (gatewayTopic accepted : Bool) (errorCode : Int)
    (u : Replay) (st : Store) : Replay × Store :=
  if u.outstanding = false ∨ gatewayTopic ≠ u.gatewayTopic then (u, st)
  else if accepted then
    let r := replayAcknowledged u st u.sequence
    ({ r.1 with retryAfterMs := 0 }, r.2)
  else
    let st' := if nonRetryable errorCode then (offlineStoreRemove st u.sequence).2 else st
    let delayMs := if nonRetryable errorCode then 1000 else rejectRetryMs
    ({ u.clear with retryAfterMs := nowMs + delayMs }, st')

/-- What `handle_attributes_response` reads from a response document. -/
def readResponse (root : Json) : Bool × Int :=
  let result := root.getItemCaseSensitive "result".toList
  let accepted := match result with
    | some (.num x) => decide (Json.valueInt x = 1)
    | r => Json.isTrue r
  let errorCode := match root.getItemCaseSensitive "errcode".toList with
    | some (.num x) => Json.valueInt x
    | _ => 0
  (accepted, errorCode)

end McpGateway.Uif
