import McpGateway.Uif.Persistence
import McpGateway.Lib.Run

/-!
# Replay against the ThingsCloud platform

The tasks and callbacks that publish on the ThingsCloud connection or change
the replay token, as steps of one machine. Messages the client took stay in
flight until the cloud answers them, each at most once and in any order; a
response carries only its topic and the result. `settled` records which stored
records had a publish of their own accepted or finally rejected.
-/

namespace McpGateway.Uif

open McpGateway.Lib McpGateway.Storage McpGateway.Tcm McpGateway.Thingscloud

/-- A publish the cloud has not answered, with the record it replays. -/
structure InFlight where
  topic : TcTopic
  record : Option SeqId
  deriving DecidableEq

structure World where
  nowMs : Int
  connected : Bool
  store : Store
  replay : Replay
  adapter : Adapter
  /-- `replay_pending` of `publish_task`. -/
  replayPending : Bool
  inFlight : List InFlight
  settled : List SeqId

/-- The parts of the surroundings that do not change during a run. -/
structure Site where
  lib : JsonLib
  reportMode : ReportMode

inductive Op
  | tick (ms : Nat)
  | setConnected (up : Bool)
  | mqttConnected
  | connectionLost
  | cacheRecord (ctx : TcmContext) (topic : CStr) (env : PutEnv)
  | publishContext (ctx : TcmContext) (accepts : Publish → Bool)
  | flush (accepts : Publish → Bool)
  | checkReplayPending
  | gatewayStatus (status : GatewayStatus) (accepts : Publish → Bool)
  | slaveStatus (slaves : List SlaveStatus) (accepts : Publish → Bool)
  | transition (address : CStr) (online : Bool) (slaves : List SlaveStatus)
      (accepts : Publish → Bool)
  | replayAll (accepts : Publish → Bool)
  | response (i : Nat) (doc : Option Json)

variable (site : Site)

def World.link (w : World) (accepts : Publish → Bool) : LinkEnv where
  reportMode := site.reportMode
  nowMs := w.nowMs
  connected := w.connected
  clientAccepts := accepts

/-- `uif_replay_is_waiting_response() || uif_get_cached_count() > 0`. -/
def World.hold (w : World) : Bool := w.replay.outstanding || decide (uifGetCachedCount w.store > 0)

/-- The messages of a call, now awaiting a response. -/
def World.send (w : World) (a : Adapter) (sent : List Publish) (record : Option SeqId) : World :=
  { w with
    adapter := a
    inFlight := w.inFlight ++ sent.map fun p => ⟨p.topic, record⟩ }

def stateTopic (online : Bool) : TcTopic :=
  if online then .gatewayConnect else .gatewayDisconnect

/-- `subdev_publish_state`: what it sends. -/
def subdevPublishState (env : LinkEnv) (address : CStr) (online : Bool) : List Publish :=
  let text := "\x7b\"device\":\"".toList ++ address ++ "\"\x7d".toList
  let p : Publish := ⟨stateTopic online, .text text⟩
  if env.connected = false ∨ text.length ≥ 64 ∨ mqttPublish env p ≠ .ok then [] else [p]

/-- `subdev_report_transition`. -/
def reportTransition (env : LinkEnv) (address : CStr) (online : Bool) (slaves : List SlaveStatus)
    (a : Adapter) : Adapter × List Publish :=
  match env.reportMode with
  | .subdevice => (a, subdevPublishState env address online)
  | .gateway =>
    let out := publishGatewaySlaveStatus env slaves a
    (out.adapter, out.sent)

/-- Which of the two response topics answers a publish, as the flag the
handler passes on; other topics have no response. -/
def responseClass : TcTopic → Option Bool
  | .attributes => some false
  | .gatewayAttributes => some true
  | _ => none

def handleAttributesResponse (w : World) (gatewayTopic : Bool) (doc : Option Json) : World :=
  match doc with
  | none => w
  | some root =>
    let r := readResponse root
    let u := uifReplayCloudResponse w.nowMs gatewayTopic r.1 r.2 w.replay w.store
    { w with
      adapter := recordPublishResponse w.nowMs r.1 r.2 w.adapter
      replay := u.1
      store := u.2 }

def settles : Option Json → Bool
  | none => false
  | some root => (readResponse root).1 || nonRetryable (readResponse root).2

/-- The cloud answers the publish `f`. -/
def respond (w : World) (f : InFlight) (doc : Option Json) : World :=
  let w := { w with
    settled := match f.record with
      | some id => if settles doc then id :: w.settled else w.settled
      | none => w.settled }
  match responseClass f.topic with
  | some gatewayTopic => handleAttributesResponse w gatewayTopic doc
  | none => w

def step (w : World) : Op → World
  | .tick ms => { w with nowMs := w.nowMs + ms }
  | .setConnected up => { w with connected := up }
  | .mqttConnected =>
    { w with adapter := onMqttConnected (w.link site fun _ => true) w.adapter }
  | .connectionLost => { w with replay := uifReplayConnectionLost w.replay }
  | .cacheRecord ctx topic env =>
    { w with store := (uifCacheRecord site.lib w.store ctx topic env).2 }
  | .publishContext ctx accepts =>
    let r := thingscloudPublishContext site.lib (w.link site accepts) w.hold ctx w.adapter
    w.send r.1 r.2 none
  | .flush accepts =>
    let r := thingscloudFlush site.lib (w.link site accepts) w.hold w.adapter
    w.send r.1 r.2 none
  | .checkReplayPending => { w with replayPending := w.hold }
  | .gatewayStatus status accepts =>
    if w.replayPending then w
    else
      let out := publishGatewayStatus (w.link site accepts) status w.adapter
      w.send out.adapter out.sent none
  | .slaveStatus slaves accepts =>
    if w.replayPending then w
    else
      let out := publishGatewaySlaveStatus (w.link site accepts) slaves w.adapter
      w.send out.adapter out.sent none
  | .transition address online slaves accepts =>
    let r := reportTransition (w.link site accepts) address online slaves w.adapter
    w.send r.1 r.2 none
  | .replayAll accepts =>
    let r := uifReplayAll site.lib (w.link site accepts) w.replay w.store w.adapter
    { w with replay := r.replay, store := r.store }.send r.adapter r.sent (some r.replay.sequence)
  | .response i doc =>
    match w.inFlight[i]? with
    | none => w
    | some f => respond { w with inFlight := w.inFlight.eraseIdx i } f doc

end McpGateway.Uif
