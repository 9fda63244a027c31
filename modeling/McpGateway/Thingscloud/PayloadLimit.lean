import McpGateway.Lib.CompactJson
import McpGateway.Lib.Run
import McpGateway.Thingscloud.Packets
import McpGateway.Thingscloud.Subdevice

/-!
# The size of a payload

The platform takes payloads of 1024 bytes. The aggregated publishers probe and
split, but a cut of the gateway's packets deletes by name, without case, and the
slave status report is one object however many slaves are tracked.
`payloads_fit_run` says in which runs of the adapter every payload handed to
`tc_publish_telemetry` is short enough.
-/

namespace McpGateway.Thingscloud

open McpGateway.Lib McpGateway.Tcm

/-! ## Payloads -/

section Handed

variable (lib : JsonLib) (env : LinkEnv)

/-- What `publish_json_object` hands over, packet after packet until an error. -/
def handedWhileOk (topic : TcTopic) : List Json → Adapter → List Json
  | [], _ => []
  | d :: ds, a =>
    let out := publishJsonObject lib env a d topic
    if (lib.printUnformatted d).length > maxPayloadBytes then []
    else if out.err ≠ .ok then [d]
    else d :: handedWhileOk topic ds out.adapter

/-- What `publish_subdevice_aggregated` hands over. -/
def handedSubdevices (props : List CloudProperty) (a : Adapter) : List Json :=
  if props = [] ∨ env.connected = false then []
  else handedWhileOk lib env .gatewayAttributes (subdevicePackets lib props [] 0).1 a

/-- What `thingscloud_publish_gateway_attributes` hands over. -/
def handedGateway (props : List CloudProperty) : List Json :=
  if props = [] ∨ env.connected = false then [] else gwAttrPackets lib props [] 0

/-- What `thingscloud_flush` hands over. -/
def handedFlush (hold : Bool) (a : Adapter) : List Json :=
  if hold then []
  else
    let a := checkModeChange a env.reportMode
    match env.reportMode with
    | .gateway => handedGateway lib env a.gwAgg
    | .subdevice => handedSubdevices lib env a.agg a

def handedIfFull (hold : Bool) (a : Adapter) : List Json :=
  if bufferFull a env.reportMode then handedFlush lib env hold a else []

/-- The adapter at the second flush of `thingscloud_publish_context`, if it gets there. -/
def atSecondFlush (hold : Bool) (ctx : TcmContext) (a : Adapter) : Option Adapter :=
  let a := checkModeChange
    (flushIfFull lib env hold (checkModeChange a env.reportMode)).1 env.reportMode
  if bufferFull a env.reportMode then none else some (addContext env ctx a)

/-- What `thingscloud_publish_context` hands over. -/
def handedContext (hold : Bool) (ctx : TcmContext) (a : Adapter) : List Json :=
  if ctx.qualityState ≠ .good ∨ ctx.pointId.str = [] then []
  else
    handedIfFull lib env hold (checkModeChange a env.reportMode) ++
      (atSecondFlush lib env hold ctx a).elim [] (handedIfFull lib env hold)

/-- What `thingscloud_replay_context` hands over. -/
def handedReplay (ctx : TcmContext) (a : Adapter) : List Json :=
  let filled := fillPropertyValue env.nowMs ctx
  if ctx.qualityState ≠ .good ∨ ctx.pointId.str = [] ∨ filled.1 = false then []
  else
    match env.reportMode with
    | .gateway =>
      match gatewayKey ctx with
      | .error _ => []
      | .ok key => handedGateway lib env [{ filled.2 with propertyKey := .copy 64 key }]
    | .subdevice =>
      let address := formatDeviceAddress ctx.channelId ctx.slaveId 40
      if address.1 = none then []
      else handedSubdevices lib env
        [{ filled.2 with
          deviceAddress := .copy 40 address.2, propertyKey := .copy 64 ctx.pointId.str }] a

def handedGatewayStatus (status : GatewayStatus) : List Json :=
  if env.connected = false then [] else [gatewayStatusJson status]

/-- What `thingscloud_publish_gateway_slave_status` hands over. -/
def handedSlaveStatus (slaves : List SlaveStatus) : List Json :=
  if env.reportMode ≠ .gateway ∨ env.connected = false then [] else [slaveStatusJson slaves]

end Handed

/-! ## Runs -/

/-- The adapter and the slaves it tracks. -/
structure Telemetry where
  adapter : Adapter
  subdevs : Subdevices

def bootTelemetry : Telemetry := ⟨.boot, .boot⟩

/-- A call of the adapter; `network.active_uplink` is a buffer of twelve bytes,
and `beyond` is what the memory holds behind an address. -/
inductive TelemetryStep
  | publishContext (env : LinkEnv) (hold : Bool) (ctx : TcmContext)
  | flush (env : LinkEnv) (hold : Bool)
  | replayContext (env : LinkEnv) (ctx : TcmContext)
  | gatewayStatus (env : LinkEnv) (status : GatewayStatus) (activeUplink : CBuf 12)
  | slaveStatus (env : LinkEnv) (beyond : CStr)
  | registerSuccess (env : LinkEnv) (beyond address : CStr)
  | registerFailure (env : LinkEnv) (beyond address : CStr)
  | mqttConnected (env : LinkEnv)
  | response (nowMs : Int) (accepted : Bool) (errorCode : Int)

namespace Telemetry

/-- The table after a register function, and the report of a transition. -/
def register (s : Telemetry) (env : LinkEnv) (beyond : CStr) (online : Bool)
    (r : Subdevices × Option Subdev) : Telemetry where
  adapter := r.2.elim s.adapter fun d =>
    (Uif.reportTransition env d.address.str online (thingscloudSubdevGetStatus beyond r.1)
      s.adapter).1
  subdevs := r.1

def step (lib : JsonLib) (s : Telemetry) : TelemetryStep → Telemetry
  | .publishContext env hold ctx =>
    { s with adapter := (thingscloudPublishContext lib env hold ctx s.adapter).1 }
  | .flush env hold => { s with adapter := (thingscloudFlush lib env hold s.adapter).1 }
  | .replayContext env ctx =>
    { s with adapter := (thingscloudReplayContext lib env ctx s.adapter).adapter }
  | .gatewayStatus env status activeUplink =>
    { s with adapter :=
        (publishGatewayStatus env { status with activeUplink := activeUplink.str }
          s.adapter).adapter }
  | .slaveStatus env beyond =>
    { s with adapter := (publishGatewaySlaveStatus env
        (thingscloudSubdevGetStatus beyond s.subdevs) s.adapter).adapter }
  | .registerSuccess env beyond address =>
    s.register env beyond true (thingscloudSubdevRegisterSuccess env.nowMs address s.subdevs)
  | .registerFailure env beyond address =>
    s.register env beyond false (thingscloudSubdevRegisterFailure address s.subdevs)
  | .mqttConnected env => { s with adapter := onMqttConnected env s.adapter }
  | .response nowMs accepted errorCode =>
    { s with adapter := recordPublishResponse nowMs accepted errorCode s.adapter }

/-- The report of a transition hands over the status of all slaves. -/
def handedTransition (env : LinkEnv) (beyond : CStr) (r : Subdevices × Option Subdev) :
    List Json :=
  r.2.elim [] fun _ => handedSlaveStatus env (thingscloudSubdevGetStatus beyond r.1)

/-- The payloads that a step hands to `tc_publish_telemetry`. -/
def handed (lib : JsonLib) (s : Telemetry) : TelemetryStep → List Json
  | .publishContext env hold ctx => handedContext lib env hold ctx s.adapter
  | .flush env hold => handedFlush lib env hold s.adapter
  | .replayContext env ctx => handedReplay lib env ctx s.adapter
  | .gatewayStatus env status activeUplink =>
    handedGatewayStatus env { status with activeUplink := activeUplink.str }
  | .slaveStatus env beyond => handedSlaveStatus env (thingscloudSubdevGetStatus beyond s.subdevs)
  | .registerSuccess env beyond address =>
    handedTransition env beyond (thingscloudSubdevRegisterSuccess env.nowMs address s.subdevs)
  | .registerFailure env beyond address =>
    handedTransition env beyond (thingscloudSubdevRegisterFailure address s.subdevs)
  | .mqttConnected _ => []
  | .response _ _ _ => []

end Telemetry

/-- The platform takes a payload of this document. -/
def Fits (lib : JsonLib) (doc : Json) : Prop :=
  (lib.printUnformatted doc).length ≤ maxPayloadBytes

instance (lib : JsonLib) (doc : Json) : Decidable (Fits lib doc) :=
  inferInstanceAs (Decidable (_ ≤ _))

def PayloadsFit (lib : JsonLib) (s : Telemetry) (st : TelemetryStep) : Prop :=
  ∀ doc ∈ s.handed lib st, Fits lib doc

instance (lib : JsonLib) (s : Telemetry) (st : TelemetryStep) : Decidable (PayloadsFit lib s st) :=
  inferInstanceAs (Decidable (∀ doc ∈ _, _))

/-! ## The conditions -/

def sameKey (key : CStr) (f : CStr × Json) : Bool :=
  decide (Json.toLower f.1 = Json.toLower key)

def propertyField (p : CloudProperty) : CStr × Json := (p.propertyKey.str, valueJson p.value)

/-- The cuts of `publish_gw_attr_chunked`, with `root` begun: if a property that does not
fit finds one of its name in the packet, upper and lower case apart, then the packet
has room for it in place of that one. -/
def CutsFit (lib : JsonLib) (number : CFloat → CStr) :
    List CloudProperty → List (CStr × Json) → Nat → Prop
  | [], _, _ => True
  | p :: props, root, inPack =>
    if p.propertyKey.str = [] then CutsFit lib number props root inPack
    else if (lib.printUnformatted (.obj (addProperty root p))).length > maxPayloadBytes ∧
        inPack + 1 > 1 then
      (∀ f, root.find? (sameKey p.propertyKey.str) = some f →
        (lib.printUnformatted (.obj root)).length + Json.fieldBytes number (propertyField p) ≤
          maxPayloadBytes + Json.fieldBytes number f) ∧
      CutsFit lib number props (addProperty [] p) 1
    else CutsFit lib number props (addProperty root p) (inPack + 1)

def slaveName (s : SlaveStatus) : CStr :=
  'p' :: printDecimal (s.portId.toNat + 1) ++ "_s".toList ++ printDecimal s.slaveId.toNat

def flagBytes (b : Bool) : Nat := if b then 4 else 5

def slaveBytes (number : CFloat → CStr) (s : SlaveStatus) : Nat :=
  72 + 5 * (slaveName s).length + flagBytes (s.state = .online) +
    (if s.state = .online then 8 else 9) + (number (.fin s.lastSeenMs)).length +
    (number (.fin s.errorCount)).length + flagBytes s.dataValid

def slaveCount (slaves : List SlaveStatus) (t : SlaveState) : Nat :=
  (slaves.filter fun s => s.state = t).length

def errorSum (slaves : List SlaveStatus) : Nat := (slaves.map SlaveStatus.errorCount).sum % 2 ^ 32

def busStatus (slaves : List SlaveStatus) : CStr :=
  if slaves = [] then "empty".toList
  else if slaveCount slaves .online = 0 then "offline".toList
  else if slaveCount slaves .offline > 0 ∨ slaveCount slaves .unknown > 0 then "degraded".toList
  else "normal".toList

def slaveReportBytes (number : CFloat → CStr) (slaves : List SlaveStatus) : Nat :=
  134 + (slaves.map (slaveBytes number)).sum + (number (.fin slaves.length)).length +
    (number (.fin (slaveCount slaves .online))).length +
    (number (.fin (slaveCount slaves .offline))).length +
    (number (.fin (slaveCount slaves .unknown))).length +
    (number (.fin (errorSum slaves))).length + (busStatus slaves).length

section Conditions

variable (lib : JsonLib) (number : CFloat → CStr) (env : LinkEnv)

def FlushFits (hold : Bool) (a : Adapter) : Prop :=
  hold = false → env.connected = true → env.reportMode = .gateway →
    CutsFit lib number (checkModeChange a env.reportMode).gwAgg [] 0

def FlushFitsIfFull (hold : Bool) (a : Adapter) : Prop :=
  bufferFull a env.reportMode = true → FlushFits lib number env hold a

def ReportFits (slaves : List SlaveStatus) : Prop :=
  env.reportMode = .gateway → env.connected = true →
    slaveReportBytes number slaves ≤ maxPayloadBytes

def TransitionFits (beyond : CStr) (r : Subdevices × Option Subdev) : Prop :=
  r.2.isSome = true → ReportFits number env (thingscloudSubdevGetStatus beyond r.1)

end Conditions

/-- The condition on the state before a step: the cuts of a gateway flush fit, and
the slaves of a status report do. -/
def KeepsLimit (lib : JsonLib) (number : CFloat → CStr) (s : Telemetry) : TelemetryStep → Prop
  | .publishContext env hold ctx =>
    ctx.qualityState = .good → ctx.pointId.str ≠ [] →
      FlushFitsIfFull lib number env hold (checkModeChange s.adapter env.reportMode) ∧
      ∀ a, atSecondFlush lib env hold ctx s.adapter = some a →
        FlushFitsIfFull lib number env hold a
  | .flush env hold => FlushFits lib number env hold s.adapter
  | .slaveStatus env beyond => ReportFits number env (thingscloudSubdevGetStatus beyond s.subdevs)
  | .registerSuccess env beyond address =>
    TransitionFits number env beyond (thingscloudSubdevRegisterSuccess env.nowMs address s.subdevs)
  | .registerFailure env beyond address =>
    TransitionFits number env beyond (thingscloudSubdevRegisterFailure address s.subdevs)
  | _ => True

/-! ## Packets -/

section Packets

variable {lib : JsonLib} {number : CFloat → CStr} {env : LinkEnv} {p : CloudProperty}
variable {root : List (CStr × Json)}

theorem handedWhileOk_fits (topic : TcTopic) (ds : List Json) (a : Adapter) :
    ∀ d ∈ handedWhileOk lib env topic ds a, Fits lib d := by
  induction ds generalizing a with
  | nil => exact List.forall_mem_nil _
  | cons d ds ih =>
    intro doc hdoc
    rw [handedWhileOk] at hdoc
    split at hdoc
    · exact absurd hdoc List.not_mem_nil
    · rename_i hfits
      split at hdoc
      · rw [List.mem_singleton.1 hdoc]
        exact Nat.not_lt.1 hfits
      · rcases List.mem_cons.1 hdoc with rfl | hrest
        · exact Nat.not_lt.1 hfits
        · exact ih _ doc hrest

theorem handedSubdevices_fits (props : List CloudProperty) (a : Adapter) :
    ∀ d ∈ handedSubdevices lib env props a, Fits lib d := by
  unfold handedSubdevices
  split
  · exact List.forall_mem_nil _
  · exact handedWhileOk_fits _ _ _

section Printed

variable (h : CompactPrinter lib number)

include h

theorem valueJson_length (v : CloudValue) : ((valueJson v).compact number).length ≤ 380 := by
  cases v with
  | bool b =>
    rw [valueJson, Json.compact]
    cases b <;> decide
  | integer i =>
    rw [valueJson, Json.compact]
    exact (h.number _).trans (by decide)
  | number x =>
    rw [valueJson, Json.compact]
    exact (h.number _).trans (by decide)
  | string s =>
    rw [valueJson, Json.compact]
    have hquote := quote_length_le s.str
    have hs := s.lt
    omega

theorem propertyField_bytes (p : CloudProperty) :
    Json.fieldBytes number (propertyField p) ≤ 762 := by
  have hkey := quote_length_le p.propertyKey.str
  have hlt := p.propertyKey.lt
  have hvalue := valueJson_length h p.value
  show (quote p.propertyKey.str).length + ((valueJson p.value).compact number).length + 2 ≤ 762
  omega

theorem single_fits (p : CloudProperty) : Fits lib (.obj (addProperty [] p)) := by
  have hbytes := propertyField_bytes h p
  show (lib.printUnformatted (.obj [propertyField p])).length ≤ 1024
  rw [h.obj_length (List.cons_ne_nil _ _), List.map_singleton, List.sum_singleton]
  omega

theorem empty_fits : Fits lib (.obj []) := by
  unfold Fits
  rw [h.print, Json.compact, Json.compactFields]
  decide

/-- A packet closed at a cut fits exactly if the name that is deleted makes room. -/
theorem cut_fits_iff (hroot : Fits lib (.obj root)) :
    Fits lib (.obj (deleteItem (addProperty root p) p.propertyKey.str)) ↔
      ∀ f, root.find? (sameKey p.propertyKey.str) = some f →
        (lib.printUnformatted (.obj root)).length + Json.fieldBytes number (propertyField p) ≤
          maxPayloadBytes + Json.fieldBytes number f := by
  unfold deleteItem addProperty
  have hself : sameKey p.propertyKey.str (propertyField p) = true := decide_eq_true rfl
  cases hfind : root.find? (sameKey p.propertyKey.str) with
  | none =>
    have hdeleted : (root ++ [propertyField p]).eraseP (sameKey p.propertyKey.str) = root := by
      rw [List.eraseP_append_right _ (fun f hf => List.find?_eq_none.1 hfind f hf),
        List.eraseP_cons, hself]
      exact List.append_nil root
    refine iff_of_true ?_ fun f hf => absurd hf (Option.some_ne_none f).symm
    exact hdeleted.symm ▸ hroot
  | some f =>
    have hdeleted : (root ++ [propertyField p]).eraseP (sameKey p.propertyKey.str) =
        root.eraseP (sameKey p.propertyKey.str) ++ [propertyField p] :=
      List.eraseP_append_left (List.find?_some hfind) _ (List.mem_of_find?_eq_some hfind)
    have hswap := h.swap_length (g := propertyField p) hfind
    show Fits lib (.obj ((root ++ [propertyField p]).eraseP (sameKey p.propertyKey.str))) ↔ _
    rw [hdeleted, Fits]
    simp only [Option.some.injEq, forall_eq']
    omega

/-- **The gateway's packets** fit exactly if its cuts do. -/
theorem gwAttrPackets_fit_iff (props : List CloudProperty) {root : List (CStr × Json)}
    {inPack : Nat} (hroot : Fits lib (.obj root)) (hstart : inPack = 0 → root = []) :
    (∀ d ∈ gwAttrPackets lib props root inPack, Fits lib d) ↔
      CutsFit lib number props root inPack := by
  induction props generalizing root inPack with
  | nil =>
    rw [gwAttrPackets, CutsFit]
    refine iff_of_true (fun d hd => ?_) trivial
    split at hd
    · rw [List.mem_singleton.1 hd]
      exact hroot
    · exact absurd hd List.not_mem_nil
  | cons p props ih =>
    rw [gwAttrPackets, CutsFit]
    by_cases hkey : p.propertyKey.str = []
    · rw [if_pos hkey, if_pos hkey]
      exact ih hroot hstart
    rw [if_neg hkey, if_neg hkey]
    by_cases hcut : (lib.printUnformatted (.obj (addProperty root p))).length > maxPayloadBytes ∧
        inPack + 1 > 1
    · rw [if_pos hcut, if_pos hcut, List.forall_mem_cons, cut_fits_iff h hroot]
      exact and_congr_right fun _ => ih (single_fits h p) fun hone => absurd hone Nat.one_ne_zero
    · rw [if_neg hcut, if_neg hcut]
      refine ih ?_ fun hzero => absurd hzero (Nat.succ_ne_zero inPack)
      by_cases hfirst : inPack = 0
      · rw [hstart hfirst]
        exact single_fits h p
      · have hshort := not_and'.1 hcut (Nat.succ_lt_succ (Nat.pos_of_ne_zero hfirst))
        exact Nat.not_lt.1 hshort

theorem handedGateway_single (p : CloudProperty) :
    ∀ d ∈ handedGateway lib env [p], Fits lib d := by
  unfold handedGateway
  split
  · exact List.forall_mem_nil _
  · rw [gwAttrPackets_fit_iff h [p] (empty_fits h) fun _ => rfl, CutsFit]
    split
    · trivial
    · rw [if_neg fun hcut => absurd hcut.2 (Nat.lt_irrefl 1)]
      trivial

theorem handedFlush_fits_iff (hold : Bool) (a : Adapter) :
    (∀ d ∈ handedFlush lib env hold a, Fits lib d) ↔ FlushFits lib number env hold a := by
  unfold handedFlush FlushFits
  cases hold with
  | true => exact iff_of_true (List.forall_mem_nil _) fun hno => absurd hno.symm Bool.false_ne_true
  | false =>
    rw [if_neg Bool.false_ne_true]
    cases hmode : env.reportMode with
    | subdevice =>
      exact iff_of_true (handedSubdevices_fits _ _) fun _ _ hno => ReportMode.noConfusion hno
    | gateway =>
      dsimp only
      unfold handedGateway
      cases hconnected : env.connected with
      | false =>
        rw [if_pos (.inr rfl)]
        exact iff_of_true (List.forall_mem_nil _)
          fun _ hno => absurd hno Bool.false_ne_true
      | true =>
        by_cases hnone : (checkModeChange a .gateway).gwAgg = []
        · rw [if_pos (.inl hnone), hnone]
          exact iff_of_true (List.forall_mem_nil _) fun _ _ _ => trivial
        · rw [if_neg fun hor => hor.elim hnone fun hno => absurd hno.symm Bool.false_ne_true,
            gwAttrPackets_fit_iff h _ (empty_fits h) fun _ => rfl]
          exact ⟨fun hcuts _ _ _ => hcuts, fun hcuts => hcuts rfl rfl rfl⟩

theorem handedIfFull_fits_iff (hold : Bool) (a : Adapter) :
    (∀ d ∈ handedIfFull lib env hold a, Fits lib d) ↔
      FlushFitsIfFull lib number env hold a := by
  unfold handedIfFull FlushFitsIfFull
  split
  · rename_i hfull
    rw [handedFlush_fits_iff h]
    exact ⟨fun hfits _ => hfits, fun hfits => hfits hfull⟩
  · rename_i hroom
    exact iff_of_true (List.forall_mem_nil _) fun hfull => absurd hfull hroom

theorem handedContext_fits_iff (hold : Bool) (ctx : TcmContext) (a : Adapter) :
    (∀ d ∈ handedContext lib env hold ctx a, Fits lib d) ↔
      (ctx.qualityState = .good → ctx.pointId.str ≠ [] →
        FlushFitsIfFull lib number env hold (checkModeChange a env.reportMode) ∧
        ∀ b, atSecondFlush lib env hold ctx a = some b →
          FlushFitsIfFull lib number env hold b) := by
  unfold handedContext
  by_cases hbad : ctx.qualityState ≠ .good ∨ ctx.pointId.str = []
  · rw [if_pos hbad]
    exact iff_of_true (List.forall_mem_nil _)
      fun hgood hpoint => absurd hbad (not_or.2 ⟨not_not.2 hgood, hpoint⟩)
  · obtain ⟨hgood, hpoint⟩ := not_or.1 hbad
    rw [if_neg hbad, List.forall_mem_append, handedIfFull_fits_iff h]
    have hsecond : (∀ d ∈ (atSecondFlush lib env hold ctx a).elim []
        (handedIfFull lib env hold), Fits lib d) ↔
          ∀ b, atSecondFlush lib env hold ctx a = some b →
            FlushFitsIfFull lib number env hold b := by
      cases atSecondFlush lib env hold ctx a with
      | none =>
        exact iff_of_true (List.forall_mem_nil _)
          fun b hb => absurd hb (Option.some_ne_none b).symm
      | some b =>
        simp only [Option.elim_some, Option.some.injEq, forall_eq']
        exact handedIfFull_fits_iff h hold b
    rw [hsecond]
    exact ⟨fun hboth _ _ => hboth, fun hboth => hboth (not_not.1 hgood) hpoint⟩

theorem handedReplay_fits (ctx : TcmContext) (a : Adapter) :
    ∀ d ∈ handedReplay lib env ctx a, Fits lib d := by
  unfold handedReplay
  dsimp only
  split
  · exact List.forall_mem_nil _
  · split
    · split
      · exact List.forall_mem_nil _
      · exact handedGateway_single h _
    · split
      · exact List.forall_mem_nil _
      · exact handedSubdevices_fits _ _

end Printed

/-! ## What is sent -/

theorem telemetry_sent {a : Adapter} {m : Publish} :
    ∀ q ∈ (tcPublishTelemetry env a m).sent, q = m := by
  unfold tcPublishTelemetry
  intro q hq
  dsimp only at hq
  split_ifs at hq
  · exact absurd hq List.not_mem_nil
  · exact List.mem_singleton.1 hq
  · exact absurd hq List.not_mem_nil

/-- The documents of messages. -/
def Carries (docs : List Json) (sent : List Publish) : Prop :=
  ∀ q ∈ sent, ∃ d ∈ docs, q.payload = .json d

theorem sendAll_sent (topic : TcTopic) (ds : List Json) (a : Adapter) :
    Carries ds (sendAll env topic ds a).sent := by
  induction ds generalizing a with
  | nil => exact List.forall_mem_nil _
  | cons d ds ih =>
    intro q hq
    rcases List.mem_append.1 hq with hfirst | hrest
    · rw [telemetry_sent q hfirst]
      exact ⟨d, List.mem_cons_self, rfl⟩
    · obtain ⟨e, he, hpayload⟩ := ih _ q hrest
      exact ⟨e, List.mem_cons_of_mem d he, hpayload⟩

theorem sendWhileOk_sent (topic : TcTopic) (last : EspErr) (ds : List Json) (a : Adapter) :
    Carries (handedWhileOk lib env topic ds a) (sendWhileOk lib env topic ds last a).sent := by
  induction ds generalizing a with
  | nil => exact List.forall_mem_nil _
  | cons d ds ih =>
    intro q hq
    have hfirst : ∀ q ∈ (publishJsonObject lib env a d topic).sent,
        ¬ (lib.printUnformatted d).length > maxPayloadBytes ∧ q.payload = .json d := by
      intro q hq
      unfold publishJsonObject at hq
      split at hq
      · exact absurd hq List.not_mem_nil
      · rename_i hshort
        rw [telemetry_sent q hq]
        exact ⟨hshort, rfl⟩
    rw [sendWhileOk] at hq
    dsimp only at hq
    rw [handedWhileOk]
    split at hq
    · rename_i herr
      obtain ⟨hshort, hpayload⟩ := hfirst q hq
      rw [if_neg hshort, if_pos herr]
      exact ⟨d, List.mem_singleton.2 rfl, hpayload⟩
    · rename_i hok
      have hshort : ¬ (lib.printUnformatted d).length > maxPayloadBytes := by
        intro hlong
        apply hok
        unfold publishJsonObject
        rw [if_pos hlong]
        exact EspErr.noConfusion
      rw [if_neg hshort, if_neg hok]
      rcases List.mem_append.1 hq with hq | hrest
      · exact ⟨d, List.mem_cons_self, (hfirst q hq).2⟩
      · obtain ⟨e, he, hpayload⟩ := ih _ q hrest
        exact ⟨e, List.mem_cons_of_mem d he, hpayload⟩

/-- **Every message of a flush was handed over.** -/
theorem flush_sent (lib : JsonLib) (env : LinkEnv) (hold : Bool) (a : Adapter) :
    Carries (handedFlush lib env hold a) (thingscloudFlush lib env hold a).2 := by
  unfold handedFlush thingscloudFlush
  cases hold with
  | true => exact List.forall_mem_nil _
  | false =>
    rw [if_neg Bool.false_ne_true, if_neg Bool.false_ne_true]
    cases hmode : env.reportMode with
    | gateway =>
      dsimp only
      split
      · exact List.forall_mem_nil _
      · unfold handedGateway publishGatewayAttributes
        split
        · exact List.forall_mem_nil _
        · rw [publishGwAttrChunked_eq]
          exact sendAll_sent _ _ _
    | subdevice =>
      dsimp only
      split
      · exact List.forall_mem_nil _
      · rename_i hprops
        unfold handedSubdevices
        cases hconnected : env.connected with
        | false =>
          unfold publishSubdeviceAggregated
          rw [if_neg hprops, if_pos hconnected]
          exact List.forall_mem_nil _
        | true =>
          rw [if_neg fun hor => hor.elim hprops fun hno => absurd hno.symm Bool.false_ne_true,
            publishSubdeviceAggregated_eq hprops hconnected]
          exact sendWhileOk_sent _ _ _ _

/-! ## Status reports -/

theorem fieldBytes_plain {key : CStr} (hkey : key.all isPlain = true) (v : Json) :
    Json.fieldBytes number (key, v) = key.length + (v.compact number).length + 4 := by
  have hquote := quote_length_plain hkey
  show (quote key).length + (v.compact number).length + 2 = _
  omega

theorem printDecimal_plain : ∀ n : Fin 257, (printDecimal n).all isPlain = true := by
  decide +kernel

theorem slaveName_plain (s : SlaveStatus) : (slaveName s).all isPlain = true := by
  have hport := printDecimal_plain ⟨s.portId.toNat + 1, Nat.succ_lt_succ s.portId.toNat_lt⟩
  have hslave := printDecimal_plain ⟨s.slaveId.toNat, Nat.lt_succ_of_lt s.slaveId.toNat_lt⟩
  unfold slaveName
  rw [List.all_append, List.all_append, List.all_cons, hport, hslave]
  decide

theorem slaveField_bytes (s : SlaveStatus) {suffix : CStr} (hsuffix : suffix.all isPlain = true)
    (v : Json) : Json.fieldBytes number (slaveName s ++ suffix, v) =
      (slaveName s).length + suffix.length + (v.compact number).length + 4 := by
  rw [fieldBytes_plain, List.length_append]
  rw [List.all_append, slaveName_plain, hsuffix]
  rfl

theorem compact_bool_length (b : Bool) : ((Json.bool b).compact number).length = flagBytes b := by
  rw [Json.compact]
  cases b <;> rfl

theorem compact_num_length (x : CFloat) : ((Json.num x).compact number).length =
    (number x).length := by
  rw [Json.compact]

theorem compact_str_length {s : CStr} (hs : s.all isPlain = true) :
    ((Json.str s).compact number).length = s.length + 2 := by
  rw [Json.compact, quote_length_plain hs]

def statusName : SlaveState → CStr
  | .unknown => "unknown".toList
  | .online => "online".toList
  | .offline => "offline".toList

theorem statusName_plain (t : SlaveState) : (statusName t).all isPlain = true := by
  cases t <;> decide

theorem statusName_length (t : SlaveState) :
    (statusName t).length + 2 = if t = .online then 8 else 9 := by
  cases t <;> decide

theorem slaveFields_eq (s : SlaveStatus) : slaveFields s =
    [(slaveName s ++ "_online".toList, .bool (s.state = .online)),
      (slaveName s ++ "_comm_status".toList, .str (statusName s.state)),
      (slaveName s ++ "_last_seen".toList, .num (.fin s.lastSeenMs)),
      (slaveName s ++ "_error_count".toList, .num (.fin s.errorCount)),
      (slaveName s ++ "_data_valid".toList, .bool s.dataValid)] := by
  unfold slaveFields
  cases s.state <;> rfl

theorem slaveFields_bytes (s : SlaveStatus) :
    ((slaveFields s).map (Json.fieldBytes number)).sum = slaveBytes number s := by
  have hstatus := statusName_length s.state
  have hsuffixes : "_online".toList.length = 7 ∧ "_comm_status".toList.length = 12 ∧
      "_last_seen".toList.length = 10 ∧ "_error_count".toList.length = 12 ∧
      "_data_valid".toList.length = 11 := by decide
  rw [slaveFields_eq]
  simp only [List.map_cons, List.map_nil, List.sum_cons, List.sum_nil]
  rw [slaveField_bytes s (by decide), slaveField_bytes s (by decide),
    slaveField_bytes s (by decide), slaveField_bytes s (by decide),
    slaveField_bytes s (by decide), compact_bool_length, compact_bool_length,
    compact_num_length, compact_num_length, compact_str_length (statusName_plain s.state)]
  unfold slaveBytes
  omega

def summaryFields (slaves : List SlaveStatus) : List (CStr × Json) :=
  [("rs485_device_total".toList, .num (.fin slaves.length)),
    ("rs485_online_count".toList, .num (.fin (slaveCount slaves .online))),
    ("rs485_offline_count".toList, .num (.fin (slaveCount slaves .offline))),
    ("rs485_unknown_count".toList, .num (.fin (slaveCount slaves .unknown))),
    ("rs485_error_count".toList, .num (.fin (errorSum slaves))),
    ("rs485_bus_status".toList, .str (busStatus slaves))]

theorem slaveStatusJson_eq (slaves : List SlaveStatus) :
    slaveStatusJson slaves = .obj (slaves.flatMap slaveFields ++ summaryFields slaves) := rfl

theorem busStatus_plain (slaves : List SlaveStatus) : (busStatus slaves).all isPlain = true := by
  unfold busStatus
  split_ifs <;> decide

theorem summaryFields_bytes (slaves : List SlaveStatus) :
    ((summaryFields slaves).map (Json.fieldBytes number)).sum =
      133 + (number (.fin slaves.length)).length +
        (number (.fin (slaveCount slaves .online))).length +
        (number (.fin (slaveCount slaves .offline))).length +
        (number (.fin (slaveCount slaves .unknown))).length +
        (number (.fin (errorSum slaves))).length + (busStatus slaves).length := by
  have hnames : "rs485_device_total".toList.length = 18 ∧ "rs485_online_count".toList.length = 18 ∧
      "rs485_offline_count".toList.length = 19 ∧ "rs485_unknown_count".toList.length = 19 ∧
      "rs485_error_count".toList.length = 17 ∧ "rs485_bus_status".toList.length = 16 := by decide
  unfold summaryFields
  simp only [List.map_cons, List.map_nil, List.sum_cons, List.sum_nil]
  rw [fieldBytes_plain (by decide), fieldBytes_plain (by decide), fieldBytes_plain (by decide),
    fieldBytes_plain (by decide), fieldBytes_plain (by decide), fieldBytes_plain (by decide),
    compact_num_length, compact_num_length, compact_num_length, compact_num_length,
    compact_num_length, compact_str_length (busStatus_plain slaves)]
  omega

theorem flatMap_bytes (slaves : List SlaveStatus) :
    ((slaves.flatMap slaveFields).map (Json.fieldBytes number)).sum =
      (slaves.map (slaveBytes number)).sum := by
  induction slaves with
  | nil => rfl
  | cons s slaves ih =>
    rw [List.flatMap_cons, List.map_append, List.sum_append, slaveFields_bytes, ih,
      List.map_cons, List.sum_cons]

/-- **The length of a slave status report.** -/
theorem slaveStatus_length (h : CompactPrinter lib number) (slaves : List SlaveStatus) :
    (lib.printUnformatted (slaveStatusJson slaves)).length = slaveReportBytes number slaves := by
  have hne : slaves.flatMap slaveFields ++ summaryFields slaves ≠ [] :=
    List.append_ne_nil_of_right_ne_nil _ (List.cons_ne_nil _ _)
  rw [slaveStatusJson_eq, h.obj_length hne, List.map_append, List.sum_append, flatMap_bytes,
    summaryFields_bytes]
  unfold slaveReportBytes
  omega

theorem printDecimal_small :
    ∀ n : Fin 257, 1 ≤ (printDecimal n).length ∧ (printDecimal n).length ≤ 3 := by
  decide +kernel

theorem slaveBytes_bounds (h : CompactPrinter lib number) (s : SlaveStatus) :
    113 ≤ slaveBytes number s ∧ slaveBytes number s ≤ 186 := by
  have hport := printDecimal_small ⟨s.portId.toNat + 1, Nat.succ_lt_succ s.portId.toNat_lt⟩
  have hslave := printDecimal_small ⟨s.slaveId.toNat, Nat.lt_succ_of_lt s.slaveId.toNat_lt⟩
  have hseen := h.number (.fin s.lastSeenMs)
  have herrors := h.number (.fin s.errorCount)
  have hname : (slaveName s).length = 3 + (printDecimal (s.portId.toNat + 1)).length +
      (printDecimal s.slaveId.toNat).length := by
    unfold slaveName
    rw [List.length_append, List.length_append, List.length_cons]
    have hbetween : "_s".toList.length = 2 := by decide
    omega
  have hflag : ∀ b, 4 ≤ flagBytes b ∧ flagBytes b ≤ 5 := by decide
  have honline := hflag (decide (s.state = .online))
  have hvalid := hflag s.dataValid
  dsimp only at hport hslave
  unfold slaveBytes
  split <;> omega

theorem slaves_bounds (h : CompactPrinter lib number) (slaves : List SlaveStatus) :
    113 * slaves.length ≤ (slaves.map (slaveBytes number)).sum ∧
      (slaves.map (slaveBytes number)).sum ≤ 186 * slaves.length := by
  induction slaves with
  | nil => exact ⟨Nat.le_refl _, Nat.le_refl _⟩
  | cons s slaves ih =>
    have hs := slaveBytes_bounds h s
    rw [List.map_cons, List.sum_cons, List.length_cons]
    omega

/-- Four slaves always fit into a report, eight never do. -/
theorem slaves_fit (h : CompactPrinter lib number) (slaves : List SlaveStatus) :
    (slaves.length ≤ 4 → slaveReportBytes number slaves ≤ maxPayloadBytes) ∧
      (slaveReportBytes number slaves ≤ maxPayloadBytes → slaves.length < 8) := by
  have hslaves := slaves_bounds h slaves
  have htotal := h.number (.fin slaves.length)
  have honline := h.number (.fin (slaveCount slaves .online))
  have hoffline := h.number (.fin (slaveCount slaves .offline))
  have hunknown := h.number (.fin (slaveCount slaves .unknown))
  have herrors := h.number (.fin (errorSum slaves))
  have hbus : 5 ≤ (busStatus slaves).length ∧ (busStatus slaves).length ≤ 8 := by
    unfold busStatus
    split_ifs <;> decide
  unfold slaveReportBytes maxPayloadBytes
  omega

theorem handedSlaveStatus_fits_iff (h : CompactPrinter lib number) (slaves : List SlaveStatus) :
    (∀ d ∈ handedSlaveStatus env slaves, Fits lib d) ↔ ReportFits number env slaves := by
  unfold handedSlaveStatus ReportFits
  by_cases hsilent : env.reportMode ≠ .gateway ∨ env.connected = false
  · rw [if_pos hsilent]
    refine iff_of_true (List.forall_mem_nil _) fun hmode hconnected => ?_
    rcases hsilent with hother | hdown
    · exact absurd hmode hother
    · exact absurd (hconnected.symm.trans hdown) Bool.false_ne_true.symm
  · obtain ⟨hmode, hup⟩ := not_or.1 hsilent
    rw [if_neg hsilent, List.forall_mem_singleton, Fits, slaveStatus_length h]
    exact ⟨fun hfits _ _ => hfits, fun hfits => hfits (not_not.1 hmode) (eq_true_of_ne_false hup)⟩

theorem handedTransition_fits_iff (h : CompactPrinter lib number) (beyond : CStr)
    (r : Subdevices × Option Subdev) :
    (∀ d ∈ Telemetry.handedTransition env beyond r, Fits lib d) ↔
      TransitionFits number env beyond r := by
  unfold Telemetry.handedTransition TransitionFits
  cases r.2 with
  | none => exact iff_of_true (List.forall_mem_nil _) fun hno => by cases hno
  | some d =>
    rw [Option.elim_some, handedSlaveStatus_fits_iff h]
    exact ⟨fun hfits _ => hfits, fun hfits => hfits rfl⟩

theorem gatewayStatus_fits (h : CompactPrinter lib number) (status : GatewayStatus)
    (hup : status.activeUplink.length < 12) : Fits lib (gatewayStatusJson status) := by
  have hnames : "firmware_version".toList.length = 16 ∧ "free_heap".toList.length = 9 ∧
      "uptime".toList.length = 6 ∧ "network_type".toList.length = 12 ∧
      "wifi_rssi".toList.length = 9 ∧ "rs485_online_count".toList.length = 18 ∧
      "rs485_error_count".toList.length = 17 ∧ "cache_count".toList.length = 11 := by decide
  have hversion : (quote "1.0.0".toList).length = 7 := by decide
  have hnetwork : (quote (if status.activeUplink = [] then "offline".toList
      else status.activeUplink)).length ≤ 68 := by
    split
    · decide
    · have hquote := quote_length_le status.activeUplink
      omega
  have hheap := h.number (.fin status.freeHeap)
  have huptime := h.number (.fin status.uptimeS)
  have hrssi := h.number (.fin status.wifiRssi)
  have honline := h.number (.fin status.onlineCount)
  have herrors := h.number (.fin status.errorCount)
  have hcache := h.number (.fin status.cacheCount)
  unfold Fits gatewayStatusJson jsonNat
  rw [h.obj_length (List.cons_ne_nil _ _)]
  simp only [List.map_cons, List.map_nil, List.sum_cons, List.sum_nil]
  rw [fieldBytes_plain (by decide), fieldBytes_plain (by decide), fieldBytes_plain (by decide),
    fieldBytes_plain (by decide), fieldBytes_plain (by decide), fieldBytes_plain (by decide),
    fieldBytes_plain (by decide), fieldBytes_plain (by decide), compact_num_length,
    compact_num_length, compact_num_length, compact_num_length, compact_num_length,
    compact_num_length, Json.compact, Json.compact]
  unfold maxPayloadBytes
  omega

end Packets

/-! ## Every run -/

section Runs

variable {lib : JsonLib} {number : CFloat → CStr}

/-- **One step.** -/
theorem payloadsFit_iff (h : CompactPrinter lib number) (s : Telemetry) (st : TelemetryStep) :
    PayloadsFit lib s st ↔ KeepsLimit lib number s st := by
  unfold PayloadsFit
  cases st with
  | publishContext env hold ctx => exact handedContext_fits_iff h hold ctx s.adapter
  | flush env hold => exact handedFlush_fits_iff h hold s.adapter
  | replayContext env ctx => exact iff_of_true (handedReplay_fits h ctx s.adapter) trivial
  | gatewayStatus env status activeUplink =>
    refine iff_of_true ?_ trivial
    show ∀ d ∈ handedGatewayStatus env _, Fits lib d
    unfold handedGatewayStatus
    split
    · exact List.forall_mem_nil _
    · rw [List.forall_mem_singleton]
      exact gatewayStatus_fits h _ activeUplink.lt
  | slaveStatus env beyond => exact handedSlaveStatus_fits_iff h _
  | registerSuccess env beyond address => exact handedTransition_fits_iff h beyond _
  | registerFailure env beyond address => exact handedTransition_fits_iff h beyond _
  | mqttConnected env => exact iff_of_true (List.forall_mem_nil _) trivial
  | response nowMs accepted errorCode =>
    exact iff_of_true (List.forall_mem_nil _) trivial

/-- **Payloads within the limit.** Every payload of a run is short enough exactly if
every step of it keeps the limit. -/
theorem payloads_fit_run (h : CompactPrinter lib number) (s : Telemetry)
    (steps : List TelemetryStep) :
    AllSteps (Telemetry.step lib) (PayloadsFit lib) s steps ↔
      AllSteps (Telemetry.step lib) (KeepsLimit lib number) s steps :=
  allSteps_iff (fun _ _ _ _ _ => trivial) (fun s st _ _ => payloadsFit_iff h s st)
    (K := fun _ _ => True) trivial

end Runs

def shortNumber (x : CFloat) : CStr := (Json.renderNumber x).take 25

theorem shortNumber_printer : CompactPrinter (.compactPrinting shortNumber) shortNumber where
  print _ := rfl
  number _ := List.length_take_le 25 _

def statusLink : LinkEnv where
  reportMode := .gateway
  nowMs := 100000
  connected := true
  clientAccepts _ := true

/-- The first `n` slaves answer once each, and their status is reported. -/
def reportedSlaves (n : Nat) : List TelemetryStep :=
  (List.range n).map (fun i => .registerSuccess statusLink [] (printDecimal (i + 1))) ++
    [.slaveStatus statusLink []]

theorem payloads_fit_run_one :
    AllSteps (Telemetry.step (.compactPrinting shortNumber))
      (PayloadsFit (.compactPrinting shortNumber)) bootTelemetry (reportedSlaves 1) := by
  refine (payloads_fit_run shortNumber_printer bootTelemetry (reportedSlaves 1)).2
    ⟨fun hmoved => absurd hmoved (by decide +kernel), fun _ _ => ?_, trivial⟩
  decide +kernel

/-- Eight slaves are reported in one payload that is too long. -/
theorem eight_slaves_exceed :
    ¬ AllSteps (Telemetry.step (.compactPrinting shortNumber))
      (PayloadsFit (.compactPrinting shortNumber)) bootTelemetry (reportedSlaves 8) := by
  decide +kernel

end McpGateway.Thingscloud
