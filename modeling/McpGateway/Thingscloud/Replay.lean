import McpGateway.Thingscloud.PropertyKeys

/-!
# The live path and the replay path

One context can reach the cloud in two ways: `thingscloud_publish_context`
and the next `thingscloud_flush`, or as a record that is read back and handed
to `thingscloud_replay_context`. The record loses the quality, the custom
gateway key and non-finite values; `same_publishes_iff` says for which
contexts the two ways publish the same.
-/

namespace McpGateway.Thingscloud

open McpGateway.Lib McpGateway.Tcm

/-! ## The two paths -/

/-- What `thingscloud_publish_context` and `thingscloud_flush` send, with no backlog. -/
def livePublishes (lib : JsonLib) (env : LinkEnv) (ctx : TcmContext) (a : Adapter) :
    List Publish :=
  let r := thingscloudPublishContext lib env false ctx a
  r.2 ++ (thingscloudFlush lib env false r.1).2

/-- What is sent when the context is cached, read back and replayed. -/
def offlinePublishes (lib : JsonLib) (env : LinkEnv) (ctx : TcmContext) (a : Adapter) :
    List Publish :=
  match tcmSerializeJson lib ctx tcmMaxJsonLen with
  | none => []
  | some payload =>
    match tcmDeserializeJson lib payload with
    | none => []
    | some ctx' => (thingscloudReplayContext lib env ctx' a).sent

/-- Nothing keeps a publish from going out. -/
structure CanSend (env : LinkEnv) (a : Adapter) : Prop where
  connected : env.connected = true
  accepts : ∀ p, env.clientAccepts p = true
  token : (tcRateAllow a env.nowMs).1 = true

/-- A publish can go out, and nothing waits for the next flush. -/
structure LinkOpen (env : LinkEnv) (a : Adapter) : Prop extends CanSend env a where
  agg : a.agg = []
  gwAgg : a.gwAgg = []

/-! ## One property -/

section OneProperty

variable {lib : JsonLib} {env : LinkEnv} {a : Adapter}

def subdeviceDoc (p : CloudProperty) : Json :=
  .obj [(p.deviceAddress.str, .obj [(p.propertyKey.str, valueJson p.value)])]

def gatewayDoc (p : CloudProperty) : Json := .obj [(p.propertyKey.str, valueJson p.value)]

theorem tcPublishTelemetry_open (h : CanSend env a) (p : Publish) :
    (tcPublishTelemetry env a p).err = .ok ∧ (tcPublishTelemetry env a p).sent = [p] := by
  simp [tcPublishTelemetry, h.token, mqttPublish, h.accepts]

theorem publishSubdeviceAggregated_one (h : CanSend env a) {p : CloudProperty}
    (hfit : (lib.printUnformatted (subdeviceDoc p)).length ≤ maxPayloadBytes) :
    (publishSubdeviceAggregated lib env a [p]).sent =
      [⟨.gatewayAttributes, .json (subdeviceDoc p)⟩] := by
  have hdoc : devicesJson (addToDevice [] p) = subdeviceDoc p := rfl
  have hsend := (tcPublishTelemetry_open h ⟨.gatewayAttributes, .json (subdeviceDoc p)⟩).2
  simp only [publishSubdeviceAggregated, subdeviceLoop, h.connected, hdoc, hfit, if_true,
    reduceCtorEq, if_false, publishJsonObject, Nat.not_lt.2 hfit, hsend, List.nil_append,
    Nat.zero_lt_one, and_self, Nat.zero_add, gt_iff_lt]

theorem publishGatewayAttributes_one (h : CanSend env a) (p : CloudProperty) :
    (publishGatewayAttributes lib env a [p]).sent =
      if p.propertyKey.str = [] then [] else [⟨.attributes, .json (gatewayDoc p)⟩] := by
  have hsend := (tcPublishTelemetry_open h ⟨.attributes, .json (gatewayDoc p)⟩).2
  by_cases hk : p.propertyKey.str = []
  · simp [publishGatewayAttributes, publishGwAttrChunked, gwAttrLoop, h.connected, hk]
  · simp only [publishGatewayAttributes, publishGwAttrChunked, gwAttrLoop, h.connected, hk,
      if_false, reduceCtorEq, or_self, Nat.zero_add, gt_iff_lt, Nat.lt_irrefl, and_false,
      Nat.zero_lt_one, if_true, List.nil_append]
    exact hsend

end OneProperty

/-! ## The live path -/

/-- What `add_context_to_agg` leaves in an empty buffer. -/
def subdeviceProperty (nowMs : Int) (ctx : TcmContext) : CloudProperty :=
  match propertyValue ctx with
  | none => blankProperty nowMs ctx
  | some v =>
    { blankProperty nowMs ctx with
      value := v
      deviceAddress := .copy 40 (deviceAddress ctx.channelId ctx.slaveId)
      propertyKey := .copy 64 ctx.pointId.str }

/-- What `add_context_to_gw_agg` leaves in an empty buffer under a valid key. -/
def gatewayProperty (nowMs : Int) (ctx : TcmContext) (key : CStr) : CloudProperty :=
  match propertyValue ctx with
  | none => blankProperty nowMs ctx
  | some v => { blankProperty nowMs ctx with value := v, propertyKey := .copy 64 key }

section Live

variable {lib : JsonLib} {env : LinkEnv} {a : Adapter} {ctx : TcmContext}

/-- The limiter does not look at the buffers or the report mode. -/
theorem tcRateAllow_frame (a : Adapter) (agg gwAgg : List CloudProperty) (generation : Nat)
    (mode : Option ReportMode) (nowMs : Int) :
    (tcRateAllow { a with
      agg := agg, gwAgg := gwAgg, configGeneration := generation, lastReportMode := mode }
      nowMs).1 = (tcRateAllow a nowMs).1 := by
  unfold tcRateAllow tcRateRefill
  simp only
  split_ifs <;> rfl

theorem CanSend.frame (h : CanSend env a) (agg gwAgg : List CloudProperty) (generation : Nat)
    (mode : Option ReportMode) : CanSend env { a with
      agg := agg, gwAgg := gwAgg, configGeneration := generation, lastReportMode := mode } :=
  ⟨h.connected, h.accepts, (tcRateAllow_frame a _ _ _ _ _).trans h.token⟩

theorem checkModeChange_open (h : LinkOpen env a) : LinkOpen env (checkModeChange a env.reportMode) ∧
    (checkModeChange a env.reportMode).lastReportMode = some env.reportMode := by
  unfold checkModeChange
  split
  · exact ⟨h, ‹_›⟩
  · exact ⟨⟨h.toCanSend.frame _ _ _ _, rfl, rfl⟩, rfl⟩

theorem checkModeChange_same (hm : a.lastReportMode = some env.reportMode) :
    checkModeChange a env.reportMode = a := by rw [checkModeChange, if_pos hm]

theorem addToBuffer_nil (same : CloudProperty → Bool) (filled : Bool × CloudProperty)
    (name : CloudProperty → CloudProperty) :
    addToBuffer [] same filled name = [if filled.1 then name filled.2 else filled.2] := rfl

theorem addContextToAgg_open (h : a.agg = []) :
    addContextToAgg env.nowMs ctx a = { a with agg := [subdeviceProperty env.nowMs ctx] } := by
  simp only [addContextToAgg, h, addToBuffer_nil, formatDeviceAddress_eq, fillPropertyValue,
    subdeviceProperty]
  cases propertyValue ctx <;> rfl

theorem addContextToGwAgg_open (h : a.gwAgg = []) :
    addContextToGwAgg env.nowMs ctx a = match gatewayKey ctx with
      | .error _ => a
      | .ok key => { a with gwAgg := [gatewayProperty env.nowMs ctx key] } := by
  unfold addContextToGwAgg
  cases gatewayKey ctx with
  | error e => rfl
  | ok key =>
    simp only [h, addToBuffer_nil, fillPropertyValue, gatewayProperty]
    cases propertyValue ctx <;> rfl

/-- What the live path sends of a good sample with a point name. -/
def liveSent (env : LinkEnv) (ctx : TcmContext) : List Publish :=
  match env.reportMode with
  | .subdevice => [⟨.gatewayAttributes, .json (subdeviceDoc (subdeviceProperty env.nowMs ctx))⟩]
  | .gateway =>
    match gatewayKey ctx, propertyValue ctx with
    | .ok key, some _ => [⟨.attributes, .json (gatewayDoc (gatewayProperty env.nowMs ctx key))⟩]
    | _, _ => []

theorem flushIfFull_short (h : bufferFull a env.reportMode = false) :
    flushIfFull lib env false a = (a, []) := by
  rw [flushIfFull, h]
  rfl

theorem thingscloudFlush_subdevice (hmode : env.reportMode = .subdevice)
    (hm : a.lastReportMode = some .subdevice) (hne : a.agg ≠ []) :
    (thingscloudFlush lib env false a).2 = (publishSubdeviceAggregated lib env a a.agg).sent := by
  simp only [thingscloudFlush, hmode, checkModeChange, hm, hne, if_true, if_false,
    Bool.false_eq_true]

theorem thingscloudFlush_gateway (hmode : env.reportMode = .gateway)
    (hm : a.lastReportMode = some .gateway) :
    (thingscloudFlush lib env false a).2 =
      if a.gwAgg = [] then [] else (publishGatewayAttributes lib env a a.gwAgg).sent := by
  simp only [thingscloudFlush, hmode, checkModeChange, hm, if_true, if_false, Bool.false_eq_true]
  split <;> rfl

theorem thingscloudFlush_one (h : LinkOpen env a) (hm : a.lastReportMode = some env.reportMode)
    (hfit : (lib.printUnformatted (subdeviceDoc (subdeviceProperty env.nowMs ctx))).length ≤
      maxPayloadBytes) :
    (thingscloudFlush lib env false (addContext env ctx a)).2 = liveSent env ctx := by
  cases hmode : env.reportMode with
  | subdevice =>
    have hadd : addContext env ctx a = { a with agg := [subdeviceProperty env.nowMs ctx] } := by
      simp only [addContext, hmode, addContextToAgg_open h.agg]
    have hlast : (addContext env ctx a).lastReportMode = some .subdevice := by
      rw [hadd, ← hmode]
      exact hm
    rw [thingscloudFlush_subdevice hmode hlast (by rw [hadd]; exact List.cons_ne_nil _ _), hadd]
    simp only [liveSent, hmode]
    exact publishSubdeviceAggregated_one (h.toCanSend.frame _ a.gwAgg a.configGeneration
      a.lastReportMode) hfit
  | gateway =>
    have hadd : addContext env ctx a = match gatewayKey ctx with
        | .error _ => a
        | .ok key => { a with gwAgg := [gatewayProperty env.nowMs ctx key] } := by
      simp only [addContext, hmode, addContextToGwAgg_open h.gwAgg]
    simp only [hadd, liveSent, hmode]
    cases hkey : gatewayKey ctx with
    | error e =>
      simp only [thingscloudFlush_gateway hmode (hm.trans (congrArg some hmode)), h.gwAgg, if_true]
    | ok key =>
      obtain ⟨hne, hlen⟩ := gatewayKey_bounds hkey
      have hsend := @publishGatewayAttributes_one lib env _
        (h.toCanSend.frame a.agg [gatewayProperty env.nowMs ctx key] a.configGeneration
          a.lastReportMode) (gatewayProperty env.nowMs ctx key)
      have hlast : ({ a with gwAgg := [gatewayProperty env.nowMs ctx key] } :
          Adapter).lastReportMode = some .gateway := hm.trans (congrArg some hmode)
      simp only
      rw [thingscloudFlush_gateway hmode hlast, if_neg (List.cons_ne_nil _ _)]
      refine hsend.trans ?_
      cases hv : propertyValue ctx with
      | none => simp [gatewayProperty, hv, blankProperty, CBuf.empty]
      | some v => simp [gatewayProperty, hv, CBuf.copy_str_of_lt hlen, hne]

theorem bufferFull_empty (hagg : a.agg = []) (hgw : a.gwAgg = []) (mode : ReportMode) :
    bufferFull a mode = false := by
  cases mode <;> simp [bufferFull, hagg, hgw, aggBufferMax]

theorem bufferFull_addContext (h : LinkOpen env a) :
    bufferFull (addContext env ctx a) env.reportMode = false := by
  cases hmode : env.reportMode with
  | subdevice => simp [addContext, hmode, addContextToAgg_open h.agg, bufferFull, aggBufferMax]
  | gateway =>
    simp only [addContext, hmode, addContextToGwAgg_open h.gwAgg]
    cases gatewayKey ctx with
    | error e => exact bufferFull_empty h.agg h.gwAgg _
    | ok key => simp [bufferFull, aggBufferMax]

theorem livePublishes_eq (h : LinkOpen env a)
    (hfit : (lib.printUnformatted (subdeviceDoc (subdeviceProperty env.nowMs ctx))).length ≤
      maxPayloadBytes) :
    livePublishes lib env ctx a =
      if ctx.qualityState = .good ∧ ctx.pointId.str ≠ [] then liveSent env ctx else [] := by
  obtain ⟨hopen, hmode⟩ := checkModeChange_open h
  by_cases hrep : ctx.qualityState = .good ∧ ctx.pointId.str ≠ []
  · have hskip : ¬ (ctx.qualityState ≠ .good ∨ ctx.pointId.str = []) := by tauto
    have hempty := bufferFull_empty hopen.agg hopen.gwAgg env.reportMode
    rw [if_pos hrep]
    simp only [livePublishes, thingscloudPublishContext, if_neg hskip, flushIfFull_short hempty,
      checkModeChange_same hmode, hempty, Bool.false_eq_true, if_false,
      flushIfFull_short (bufferFull_addContext hopen), List.append_nil, List.nil_append]
    exact thingscloudFlush_one hopen hmode hfit
  · have hskip : ctx.qualityState ≠ .good ∨ ctx.pointId.str = [] := by tauto
    have hflush : (thingscloudFlush lib env false a).2 = [] := by
      cases hr : env.reportMode <;> rw [hr] at hopen <;>
        simp [thingscloudFlush, hr, hopen.agg, hopen.gwAgg]
    simp only [livePublishes, thingscloudPublishContext, hskip, if_true, hrep, if_false, hflush,
      List.append_nil]

end Live

/-! ## The replay path -/

section Replay

variable {lib : JsonLib} {env : LinkEnv} {a : Adapter} {ctx : TcmContext}

/-- The replay path sends what the live path would send of the same context. -/
theorem thingscloudReplayContext_open (h : CanSend env a) (hgood : ctx.qualityState = .good)
    (hpoint : ctx.pointId.str ≠ []) {v : CloudValue} (hv : propertyValue ctx = some v)
    (hfit : (lib.printUnformatted (subdeviceDoc (subdeviceProperty env.nowMs ctx))).length ≤
      maxPayloadBytes) :
    (thingscloudReplayContext lib env ctx a).sent = liveSent env ctx := by
  have hskip : ¬ (ctx.qualityState ≠ .good ∨ ctx.pointId.str = []) := by tauto
  have hfill : fillPropertyValue env.nowMs ctx =
      (true, { blankProperty env.nowMs ctx with value := v }) := by
    simp only [fillPropertyValue, hv]
  simp only [thingscloudReplayContext, h.connected, if_neg hskip, hfill, liveSent, hv,
    reduceCtorEq, if_false]
  cases hmode : env.reportMode with
  | subdevice =>
    simp only [formatDeviceAddress_eq, reduceCtorEq, if_false]
    have hp : subdeviceProperty env.nowMs ctx = { blankProperty env.nowMs ctx with
        value := v
        deviceAddress := .copy 40 (deviceAddress ctx.channelId ctx.slaveId)
        propertyKey := .copy 64 ctx.pointId.str } := by simp only [subdeviceProperty, hv]
    rw [← hp]
    exact publishSubdeviceAggregated_one h hfit
  | gateway =>
    cases hkey : gatewayKey ctx with
    | error e => rfl
    | ok key =>
      obtain ⟨hne, hlen⟩ := gatewayKey_bounds hkey
      have hp : gatewayProperty env.nowMs ctx key =
          { blankProperty env.nowMs ctx with value := v, propertyKey := .copy 64 key } := by
        simp only [gatewayProperty, hv]
      simp only [← hp]
      refine (publishGatewayAttributes_one h _).trans (if_neg ?_)
      rw [hp]
      simpa [CBuf.copy_str_of_lt hlen] using hne

/-- What the JSON library does with this context: the record it prints parses
back with `null` for non-finite numbers, and a packet of one property is short. -/
structure JsonFor (lib : JsonLib) (nowMs : Int) (ctx : TcmContext) : Prop where
  back : ∀ s, lib.printPreallocated (contextJson ctx) tcmMaxJsonLen = some s →
    lib.parse s = some (contextJson ctx).nullify
  short : ∀ c ∈ [ctx, restored ctx],
    (lib.printUnformatted (subdeviceDoc (subdeviceProperty nowMs c))).length ≤ maxPayloadBytes

theorem restoredNumber_finite (x : CFloat) : ∃ q, restoredNumber x (.fin 0) = .fin q := by
  cases x with
  | fin q => exact ⟨q, rfl⟩
  | _ => exact ⟨0, rfl⟩

theorem restored_value (ctx : TcmContext) : ∃ v, propertyValue (restored ctx) = some v := by
  obtain ⟨q, hq⟩ := restoredNumber_finite ctx.value
  exact Option.isSome_iff_exists.1 (@propertyValue_finite (restored ctx) q hq)

/-- What comes out of a record: the restored context, if the record was written. -/
theorem offlinePublishes_eq (h : CanSend env a) (hj : JsonFor lib env.nowMs ctx) :
    offlinePublishes lib env ctx a =
      if (tcmSerializeJson lib ctx tcmMaxJsonLen).isSome ∧ ctx.pointId.str ≠ [] then
        liveSent env (restored ctx)
      else [] := by
  unfold offlinePublishes
  cases hs : tcmSerializeJson lib ctx tcmMaxJsonLen with
  | none => simp
  | some payload =>
    simp only [tcmDeserializeJson, hj.back payload hs, Option.map_some, readContext_written,
      Option.isSome_some, true_and]
    by_cases hpoint : ctx.pointId.str = []
    · have hskip : (restored ctx).qualityState ≠ .good ∨ (restored ctx).pointId.str = [] :=
        Or.inr hpoint
      simp only [thingscloudReplayContext, h.connected, if_pos hskip, hpoint, ne_eq,
        not_true_eq_false, if_false, reduceCtorEq]
    · obtain ⟨v, hv⟩ := restored_value ctx
      rw [if_pos hpoint]
      exact @thingscloudReplayContext_open lib env a (restored ctx) h rfl hpoint v hv
        (hj.short _ (by simp))

end Replay

/-! ## For which contexts the two agree -/

def autoKey (ctx : TcmContext) : CStr :=
  'p' :: printDecimal (ctx.channelId + 1).toNat ++ "_s".toList ++
    printDecimal ctx.slaveId.toNat ++ '_' :: ctx.pointId.str

def ownKey (ctx : TcmContext) : CStr :=
  if ctx.gatewayPropertyKey.str = [] then autoKey ctx else ctx.gatewayPropertyKey.str

def hasKey (ctx : TcmContext) : Bool :=
  gatewayKeyValid
    (if ctx.gatewayPropertyKey.str = [] then ctx.pointId.str else ctx.gatewayPropertyKey.str)

/-- A non-finite sample is only reported as a Boolean or as text. -/
def hasValue (ctx : TcmContext) : Bool :=
  ctx.value.isFinite || decide (ctx.dataType = .bool) || decide (ctx.dataType = .ascii)

/-- Where both paths publish the same. `recorded` says that the record fits its
buffer. In gateway mode a point whose name makes no key is not replayed. -/
def SamePublished (mode : ReportMode) (recorded : Bool) (ctx : TcmContext) : Prop :=
  ctx.pointId.str = [] ∨
    match mode with
    | .subdevice =>
      if recorded = true then ctx.qualityState = .good ∧ ctx.value.isFinite = true
      else ctx.qualityState ≠ .good
    | .gateway =>
      if recorded = true ∧ gatewayKeyValid ctx.pointId.str = true then
        ctx.qualityState = .good ∧ ctx.value.isFinite = true ∧
          (ctx.gatewayPropertyKey.str = [] ∨ ctx.gatewayPropertyKey.str = autoKey ctx)
      else ¬ (ctx.qualityState = .good ∧ hasValue ctx = true ∧ hasKey ctx = true)

section Compare

variable {lib : JsonLib} {env : LinkEnv} {a : Adapter} {ctx : TcmContext}

theorem autoKey_length (ctx : TcmContext) : (autoKey ctx).length < 64 := by
  have h1 := (printDecimal_byte (ctx.channelId + 1)).2
  have h2 := (printDecimal_byte ctx.slaveId).2
  have h3 := ctx.pointId.lt
  simp only [autoKey, List.length_append, List.length_cons, String.length_toList]
  have h4 : "_s".length = 2 := rfl
  omega

theorem autoKey_valid (h : gatewayKeyValid ctx.pointId.str = true) :
    gatewayKeyValid (autoKey ctx) = true := generatedKey_valid h

theorem gatewayKey_eq (ctx : TcmContext) :
    gatewayKey ctx = if hasKey ctx = true then .ok (ownKey ctx) else .error .invalidArg := by
  by_cases hc : ctx.gatewayPropertyKey.str = []
  · have hlen := autoKey_length ctx
    have hauto : 'p' :: printDecimal (ctx.channelId + 1).toNat ++ "_s".toList ++
        printDecimal ctx.slaveId.toNat ++ '_' :: ctx.pointId.str = autoKey ctx := rfl
    simp only [gatewayKey, hc, ne_eq, not_true_eq_false, if_false, buildGatewayPropertyKey,
      OfNat.ofNat_ne_zero, hasKey, ownKey, if_true, hauto]
    cases hv : gatewayKeyValid ctx.pointId.str with
    | true => simp only [Bool.true_eq_false, if_false, if_neg (Nat.not_le.2 hlen), ge_iff_le,
        if_true]
    | false => simp
  · simp only [gatewayKey, hasKey, ownKey, hc, ne_eq, not_false_eq_true, if_true, if_false]

theorem hasValue_iff (ctx : TcmContext) : hasValue ctx = true ↔ ∃ v, propertyValue ctx = some v := by
  rw [← Option.isSome_iff_exists]
  cases hx : ctx.value with
  | fin q => simp [hasValue, hx, CFloat.isFinite, propertyValue_finite hx]
  | _ => cases hd : ctx.dataType <;> simp [hasValue, propertyValue, hx, hd, CFloat.isFinite]

theorem liveSent_gateway (hmode : env.reportMode = .gateway) :
    liveSent env ctx =
      if hasKey ctx = true ∧ hasValue ctx = true then
        [⟨.attributes, .json (gatewayDoc (gatewayProperty env.nowMs ctx (ownKey ctx)))⟩]
      else [] := by
  simp only [liveSent, hmode, gatewayKey_eq]
  cases hk : hasKey ctx with
  | false => simp
  | true =>
    cases hv : propertyValue ctx with
    | none =>
      have hno : hasValue ctx ≠ true := fun h => by
        obtain ⟨v, hv'⟩ := (hasValue_iff ctx).1 h
        rw [hv] at hv'
        cases hv'
      simp [hno]
    | some v => simp [(hasValue_iff ctx).2 ⟨v, hv⟩]

/-- The value survives the record exactly when it is finite. -/
theorem value_restored_iff {v v' : CloudValue} (hv : propertyValue ctx = some v)
    (hv' : propertyValue (restored ctx) = some v') :
    valueJson v' = valueJson v ↔ ctx.value.isFinite = true := by
  have hsame : ctx.value.isFinite = true → propertyValue (restored ctx) = propertyValue ctx := by
    intro hf
    simp only [propertyValue, restored, restoredNumber, hf, if_true]
  cases hf : ctx.value.isFinite with
  | true =>
    have heq := (hsame hf).symm.trans hv' |>.symm.trans hv
    simp [Option.some.inj heq]
  | false =>
    have hrest : (restored ctx).value = .fin 0 := by
      simp only [restored, restoredNumber, hf, Bool.false_eq_true, if_false]
    have hd : ctx.dataType = .bool ∨ ctx.dataType = .ascii := by
      have := (hasValue_iff ctx).2 ⟨v, hv⟩
      simpa [hasValue, hf] using this
    simp only [Bool.false_eq_true, iff_false]
    have htype : (restored ctx).dataType = ctx.dataType := rfl
    rcases hd with hd | hd
    · have hne : ctx.value.ne0 = true := by
        cases hx : ctx.value <;> simp_all [CFloat.isFinite, CFloat.ne0]
      simp only [propertyValue, htype, hd, hrest, Option.some.injEq] at hv hv'
      rw [← hv, ← hv', hne]
      simp [valueJson, CFloat.ne0]
    · simp only [propertyValue, htype, hd, hrest, Option.some.injEq] at hv hv'
      rw [← hv, ← hv']
      cases hx : ctx.value with
      | fin q => simp [hx, CFloat.isFinite] at hf
      | nan =>
        intro h
        exact absurd (Json.str.inj h) (by decide)
      | inf neg =>
        intro h
        cases neg <;> exact absurd (Json.str.inj h) (by decide)

/-- In sub-device mode the two packets agree exactly when the value is finite. -/
theorem subdeviceDoc_restored_iff (ctx : TcmContext) (nowMs : Int) :
    subdeviceDoc (subdeviceProperty nowMs (restored ctx)) =
        subdeviceDoc (subdeviceProperty nowMs ctx) ↔ ctx.value.isFinite = true := by
  obtain ⟨v', hv'⟩ := restored_value ctx
  have haddr : (CBuf.copy 40 (deviceAddress ctx.channelId ctx.slaveId)).str =
      deviceAddress ctx.channelId ctx.slaveId :=
    CBuf.copy_str_of_lt (deviceAddress_length ctx.channelId ctx.slaveId)
  cases hv : propertyValue ctx with
  | none =>
    have hfin : ctx.value.isFinite ≠ true := by
      intro hf
      obtain ⟨q, hq⟩ := CFloat.isFinite_iff.1 hf
      have := propertyValue_finite hq
      rw [hv] at this
      cases this
    have hempty : (CBuf.empty : CBuf 40).str = [] := rfl
    simp only [subdeviceDoc, subdeviceProperty, hv, hv', blankProperty, Json.obj.injEq,
      List.cons.injEq, Prod.mk.injEq, hempty]
    simp only [show (restored ctx).channelId = ctx.channelId from rfl,
      show (restored ctx).slaveId = ctx.slaveId from rfl, haddr, deviceAddress_ne_nil, false_and]
    exact iff_of_false not_false hfin
  | some v =>
    rw [← value_restored_iff hv hv']
    simp only [subdeviceDoc, subdeviceProperty, hv, hv', Json.obj.injEq, List.cons.injEq,
      Prod.mk.injEq, and_true]
    simp only [show (restored ctx).channelId = ctx.channelId from rfl,
      show (restored ctx).slaveId = ctx.slaveId from rfl,
      show (restored ctx).pointId = ctx.pointId from rfl, true_and]

/-- In gateway mode the two packets agree exactly when the value is finite and
the point goes by its generated key. -/
theorem gatewayDoc_restored_iff (hval : hasValue ctx = true) (nowMs : Int) :
    gatewayDoc (gatewayProperty nowMs (restored ctx) (autoKey ctx)) =
        gatewayDoc (gatewayProperty nowMs ctx (ownKey ctx)) ↔
      ctx.value.isFinite = true ∧
        (ctx.gatewayPropertyKey.str = [] ∨ ctx.gatewayPropertyKey.str = autoKey ctx) := by
  obtain ⟨v', hv'⟩ := restored_value ctx
  obtain ⟨v, hv⟩ := (hasValue_iff ctx).1 hval
  have hauto : (CBuf.copy 64 (autoKey ctx)).str = autoKey ctx :=
    CBuf.copy_str_of_lt (autoKey_length ctx)
  have hown : (CBuf.copy 64 (ownKey ctx)).str = ownKey ctx := by
    unfold ownKey
    split
    · exact hauto
    · exact CBuf.copy_str_of_lt ctx.gatewayPropertyKey.lt
  have hkey : autoKey ctx = ownKey ctx ↔
      ctx.gatewayPropertyKey.str = [] ∨ ctx.gatewayPropertyKey.str = autoKey ctx := by
    unfold ownKey
    split
    · rename_i hc
      simp [hc]
    · rename_i hc
      simp only [hc, false_or]
      exact eq_comm
  rw [← value_restored_iff hv hv', ← hkey]
  simp only [gatewayDoc, gatewayProperty, hv, hv', Json.obj.injEq, List.cons.injEq,
    Prod.mk.injEq, and_true, hauto, hown]
  exact and_comm

theorem single_eq_iff {α : Type*} {p q : Prop} [Decidable p] [Decidable q] {x y : α} :
    ((if p then [x] else []) = if q then [y] else []) ↔ if p then q ∧ x = y else ¬ q := by
  by_cases hp : p <;> by_cases hq : q <;> simp [hp, hq]

/-- With a valid point name, what makes the packets of gateway mode agree. -/
theorem same_gateway_iff (hk : gatewayKeyValid ctx.pointId.str = true) (nowMs : Int) :
    ((ctx.qualityState = .good ∧ hasKey ctx = true ∧ hasValue ctx = true) ∧
      gatewayDoc (gatewayProperty nowMs (restored ctx) (autoKey ctx)) =
        gatewayDoc (gatewayProperty nowMs ctx (ownKey ctx))) ↔
      ctx.qualityState = .good ∧ ctx.value.isFinite = true ∧
        (ctx.gatewayPropertyKey.str = [] ∨ ctx.gatewayPropertyKey.str = autoKey ctx) := by
  constructor
  · rintro ⟨⟨hgood, -, hval⟩, hdoc⟩
    exact ⟨hgood, (gatewayDoc_restored_iff hval nowMs).1 hdoc⟩
  · rintro ⟨hgood, hfin, hcustom⟩
    have hval : hasValue ctx = true := by simp [hasValue, hfin]
    have hkey : hasKey ctx = true := by
      rcases hcustom with hc | hc
      · simp only [hasKey, hc, if_true, hk]
      · have hne : autoKey ctx ≠ [] := by simp [autoKey]
        simp only [hasKey, hc, hne, if_false, autoKey_valid hk]
    exact ⟨⟨hgood, hkey, hval⟩, (gatewayDoc_restored_iff hval nowMs).2 ⟨hfin, hcustom⟩⟩

/-- **Live and replayed samples.** With an open link and nothing buffered,
caching a context and replaying the record publishes the same as the live path
exactly when `SamePublished` holds. -/
theorem same_publishes_iff (h : LinkOpen env a) (hj : JsonFor lib env.nowMs ctx) :
    offlinePublishes lib env ctx a = livePublishes lib env ctx a ↔
      SamePublished env.reportMode (tcmSerializeJson lib ctx tcmMaxJsonLen).isSome ctx := by
  rw [offlinePublishes_eq h.toCanSend hj, livePublishes_eq h (hj.short ctx (by simp))]
  by_cases hpoint : ctx.pointId.str = []
  · simp [SamePublished, hpoint]
  simp only [SamePublished, hpoint, false_or, ne_eq, not_false_eq_true, and_true]
  cases hmode : env.reportMode with
  | subdevice =>
    simp only [liveSent, hmode]
    rw [single_eq_iff]
    simp only [Publish.mk.injEq, Payload.json.injEq, true_and, subdeviceDoc_restored_iff]
  | gateway =>
    have hkey : hasKey (restored ctx) = gatewayKeyValid ctx.pointId.str := rfl
    have hown : ownKey (restored ctx) = autoKey ctx := rfl
    have hval : hasValue (restored ctx) = true := (hasValue_iff _).2 (restored_value ctx)
    simp only [liveSent_gateway hmode, hkey, hown, hval, and_true]
    rw [← ite_and, ← ite_and, single_eq_iff]
    simp only [Publish.mk.injEq, Payload.json.injEq, true_and]
    split
    · rename_i hr
      exact same_gateway_iff hr.2 env.nowMs
    · tauto

end Compare

/-! ## A point with a custom key -/

/-- The reading of a point that the mapping names `temp` in gateway mode. -/
def customContext : TcmContext := { sampleContext with gatewayPropertyKey := .copy 64 "temp".toList }

def gatewayLink : LinkEnv where
  reportMode := .gateway
  nowMs := 100000
  connected := true
  clientAccepts _ := true

def customLib : JsonLib := .knowing [contextJson customContext]

theorem gatewayLink_open : LinkOpen gatewayLink .boot :=
  ⟨⟨rfl, fun _ => rfl, by decide +kernel⟩, rfl, rfl⟩

theorem customLib_json : JsonFor customLib 100000 customContext where
  back := by
    intro s hs
    have hrender : s = (contextJson customContext).render := by
      simp only [customLib, JsonLib.knowing] at hs
      split at hs
      · exact (Option.some.inj hs).symm
      · cases hs
    simp [customLib, JsonLib.knowing, hrender]
  short := by
    intro c hc
    simp only [List.mem_cons, List.not_mem_nil, or_false] at hc
    rcases hc with rfl | rfl <;> decide +kernel

theorem same_publishes_iff_custom :
    offlinePublishes customLib gatewayLink customContext .boot =
        livePublishes customLib gatewayLink customContext .boot ↔
      SamePublished .gateway (tcmSerializeJson customLib customContext tcmMaxJsonLen).isSome
        customContext :=
  same_publishes_iff gatewayLink_open customLib_json

def Publish.text (p : Publish) : CStr :=
  match p.payload with
  | .json doc => doc.render
  | .text s => s

/-- The live path publishes `temp`, the replay another attribute. -/
theorem custom_key_differs :
    LinkOpen gatewayLink .boot ∧ JsonFor customLib 100000 customContext ∧
      (livePublishes customLib gatewayLink customContext .boot).map Publish.text =
        ["\x7b\"temp\":5\x7d".toList] ∧
      (offlinePublishes customLib gatewayLink customContext .boot).map Publish.text =
        ["\x7b\"p1_s1_reg_0\":5\x7d".toList] ∧
      offlinePublishes customLib gatewayLink customContext .boot ≠
        livePublishes customLib gatewayLink customContext .boot := by
  have hlive : (livePublishes customLib gatewayLink customContext .boot).map Publish.text =
      ["\x7b\"temp\":5\x7d".toList] := by decide +kernel
  have hoffline : (offlinePublishes customLib gatewayLink customContext .boot).map Publish.text =
      ["\x7b\"p1_s1_reg_0\":5\x7d".toList] := by decide +kernel
  refine ⟨gatewayLink_open, customLib_json, hlive, hoffline, fun h => ?_⟩
  rw [h, hlive] at hoffline
  exact absurd hoffline (by decide)

end McpGateway.Thingscloud
