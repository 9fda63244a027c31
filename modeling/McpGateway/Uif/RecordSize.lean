import McpGateway.Lib.CompactJson
import McpGateway.Uif.Persistence

/-!
# The size of a record

The bytes that `tcm_serialize_json` needs for a context, as one sum over what the
context holds, and the two paths of a validated sample that take `TCM_MAX_JSON_LEN`
bytes for it: the offline cache and the outgoing queue of a custom broker.
-/

namespace McpGateway.Uif

open McpGateway.Lib McpGateway.Storage McpGateway.Tcm

/-! ## The publishing task -/

/-- What becomes of a sample while the broker is connected. -/
inductive Published
  /-- In the outgoing queue, under its topic and sequence id. -/
  | queued (topic payload : CStr) (sequenceId : SeqId)
  /-- In the queue of the cache writer. -/
  | toCache (ctx : TcmContext)
  /-- Both queues are full: `data_loss_count`. -/
  | lost
  /-- `JSON serialization failed`, and the task goes on with the next sample. -/
  | serializationFailed

/-- What `publish_task` finds on the custom platform: the topic of the mapping, the
configured data topic, and room in the two queues. -/
structure CustomEnv where
  mapped : Option CStr
  dataPrefix : CStr
  outRoom : Bool
  cacheRoom : Bool

def publishCustom (lib : JsonLib) (env : CustomEnv) (ctx : TcmContext) : Published :=
  match tcmSerializeJson lib ctx tcmMaxJsonLen with
  | none => .serializationFailed
  | some payload =>
    if payload.length = 0 then .serializationFailed
    else if env.outRoom then
      .queued (recordTopic env.mapped env.dataPrefix ctx) payload ctx.sequenceId
    else if env.cacheRoom then .toCache ctx
    else .lost

/-! ## Printing into a buffer -/

/-- The library prints compactly into a buffer that holds the text and a few bytes
more, which depend on the document. -/
structure PreallocatedPrinter (lib : JsonLib) (number : CFloat → CStr) (margin : Json → Nat) :
    Prop where
  print : ∀ doc n, lib.printPreallocated doc n =
    if (doc.compact number).length + margin doc ≤ n then some (doc.compact number) else none
  low : ∀ doc, 1 ≤ margin doc
  high : ∀ doc, margin doc ≤ 5

/-! ## The bytes of a record -/

def recordStrings (ctx : TcmContext) : List CStr :=
  [ctx.tcmVersion.str, ctx.gatewayId.str, ctx.deviceId.str, ctx.pointId.str,
    protocolString ctx.sourceProtocol, dataTypeString ctx.dataType, byteOrderString ctx.byteOrder,
    ctx.measurementName.str, ctx.unit.str, qualityString ctx.qualityState,
    networkString ctx.networkState, operationString ctx.operationType,
    semanticSourceString ctx.semanticSource, semanticStatusString ctx.semanticStatus,
    ctx.semanticProfileId.str, ctx.semanticEvidence.str]

def recordNumbers (ctx : TcmContext) : List CFloat :=
  [.fin ctx.contextId.val, .fin ctx.sequenceId.val, .fin ctx.mappingVersion.val,
    .fin ctx.channelId.toNat, .fin ctx.slaveId.toNat, .fin ctx.functionCode.toNat,
    .fin ctx.registerAddress.toNat, .fin ctx.objectType.code, ctx.rawValue, ctx.scaleFactor,
    ctx.offset, ctx.value, .fin ctx.timestampMs, .fin ctx.semanticProfileVersion.val,
    .fin ctx.semanticConfidence.toNat, ctx.controlConstraint.validRangeMin,
    ctx.controlConstraint.validRangeMax]

/-- The letters of `true` or `false`. -/
def boolBytes (b : Bool) : Nat := if b then 4 else 5

/-- The optional field with its name, colon and comma. -/
def valueTextBytes (text : CStr) : Nat := if text = [] then 0 else 14 + (quote text).length

/-- The braces, names, colons and commas of the fields that are always there. -/
def fixedBytes : Nat := 579

/-- The bytes of a record with its numbers printed by `number`. -/
def recordBytes (number : CFloat → CStr) (ctx : TcmContext) : Nat :=
  fixedBytes + ((recordStrings ctx).map fun s => (quote s).length).sum +
    ((recordNumbers ctx).map fun x => (number x).length).sum +
    (boolBytes ctx.timestampSynchronized + boolBytes ctx.controlConstraint.writable) +
    valueTextBytes ctx.valueText.str

section Bytes

variable {number : CFloat → CStr}

def keyBytes (k : CStr) : Nat := (quote k).length + 2

theorem fieldBytes_sum (fields : List (CStr × Json)) :
    (fields.map (Json.fieldBytes number)).sum =
      ((fields.map Prod.fst).map keyBytes).sum +
        (fields.map fun f => (f.2.compact number).length).sum := by
  induction fields with
  | nil => rfl
  | cons f fs ih =>
    simp only [List.map_cons, List.sum_cons, ih, Json.fieldBytes, keyBytes]
    omega

theorem fieldBytes_sum_of_keys {fields : List (CStr × Json)} {keys : List CStr} {n : Nat}
    (hnames : fields.map Prod.fst = keys) (hkeys : (keys.map keyBytes).sum = n) :
    (fields.map (Json.fieldBytes number)).sum =
      n + (fields.map fun f => (f.2.compact number).length).sum := by
  rw [fieldBytes_sum, hnames, hkeys]

theorem bool_length (b : Bool) :
    (if b = true then "true".toList else "false".toList).length = boolBytes b := by
  cases b <;> rfl

theorem constraint_length (c : ControlConstraint) :
    ((constraintJson c).compact number).length =
      27 + boolBytes c.writable + (number c.validRangeMin).length +
        (number c.validRangeMax).length := by
  have hnames : (constraintFields c).map Prod.fst =
      ["writable".toList, "min".toList, "max".toList] := rfl
  have hkeys : ((["writable".toList, "min".toList, "max".toList] : List CStr).map
      keyBytes).sum = 26 := by decide +kernel
  have hne : constraintFields c ≠ [] := List.cons_ne_nil _ _
  rw [constraintJson, compact_obj_length hne, fieldBytes_sum_of_keys hnames hkeys]
  simp only [constraintFields, List.map_cons, List.map_nil, List.sum_cons, List.sum_nil,
    Json.compact, bool_length]
  omega

theorem headKeys_bytes : (headKeys.map keyBytes).sum = 302 := by
  simp only [headKeys, List.map_cons, List.map_nil]
  repeat rw [String.toList_ofList]
  decide

theorem tailKeys_bytes : (tailKeys.map keyBytes).sum = 249 := by
  simp only [tailKeys, List.map_cons, List.map_nil]
  repeat rw [String.toList_ofList]
  decide

theorem valueText_bytes (text : CStr) :
    ((if text = [] then [] else [("value_text".toList, Json.str text)]).map
      (Json.fieldBytes number)).sum = valueTextBytes text := by
  have hkey : keyBytes "value_text".toList = 14 := by decide +kernel
  unfold valueTextBytes
  split
  · rfl
  · rw [fieldBytes_sum]
    simp only [List.map_cons, List.map_nil, List.sum_cons, List.sum_nil, hkey, Json.compact]
    omega

/-- **The size of a record.** -/
theorem record_length (ctx : TcmContext) :
    ((contextJson ctx).compact number).length = recordBytes number ctx := by
  have hhead : (headFields ctx).map Prod.fst = headKeys := rfl
  have htail : (tailFields ctx).map Prod.fst = tailKeys := rfl
  have hne : contextFields ctx ≠ [] := List.cons_ne_nil _ _
  rw [contextJson, compact_obj_length hne, contextFields, List.map_append, List.map_append,
    List.sum_append, List.sum_append, fieldBytes_sum_of_keys hhead headKeys_bytes,
    fieldBytes_sum_of_keys htail tailKeys_bytes, valueText_bytes]
  simp only [headFields, tailFields, jsonNat, recordBytes, fixedBytes, recordStrings,
    recordNumbers, List.map_cons, List.map_nil, List.sum_cons, List.sum_nil, Json.compact,
    bool_length, constraint_length]
  omega

end Bytes

/-! ## Samples that fit -/

section Fit

variable {lib : JsonLib} {number : CFloat → CStr} {margin : Json → Nat}
  (h : PreallocatedPrinter lib number margin)

include h

theorem serialize_eq (ctx : TcmContext) (n : Nat) : tcmSerializeJson lib ctx n =
    if recordBytes number ctx + margin (contextJson ctx) ≤ n then
      some ((contextJson ctx).compact number) else none := by
  rw [tcmSerializeJson, h.print, record_length]

/-- Five spare bytes are enough for every record, and one is always needed. -/
theorem serialize_isSome {ctx : TcmContext} {n : Nat} (hfit : recordBytes number ctx + 5 ≤ n) :
    (tcmSerializeJson lib ctx n).isSome := by
  have hmargin := h.high (contextJson ctx)
  rw [serialize_eq h, if_pos (by omega)]
  rfl

theorem serialize_eq_none {ctx : TcmContext} {n : Nat} (hfull : n ≤ recordBytes number ctx) :
    tcmSerializeJson lib ctx n = none := by
  have hmargin := h.low (contextJson ctx)
  rw [serialize_eq h, if_neg (by omega)]

theorem publishCustom_failed_iff {ctx : TcmContext} (env : CustomEnv) :
    publishCustom lib env ctx = .serializationFailed ↔
      ¬ recordBytes number ctx + margin (contextJson ctx) ≤ tcmMaxJsonLen := by
  have hne : ((contextJson ctx).compact number).length ≠ 0 := by
    rw [record_length, recordBytes, fixedBytes]
    omega
  unfold publishCustom
  rw [serialize_eq h]
  constructor
  · intro hfailed hfit
    simp only [if_pos hfit, if_neg hne] at hfailed
    split_ifs at hfailed
  · intro hfull
    rw [if_neg hfull]

theorem cacheRecord_eq (st : Store) (ctx : TcmContext) (topic : CStr) (env : PutEnv) :
    uifCacheRecord lib st ctx topic env =
      if recordBytes number ctx + margin (contextJson ctx) ≤ tcmMaxJsonLen then
        offlineStorePut st ctx.sequenceId topic ((contextJson ctx).compact number) env
      else (.fail, st) := by
  unfold uifCacheRecord
  rw [serialize_eq h]
  split
  next hprint =>
    rw [if_neg]
    intro hfit
    rw [if_pos hfit] at hprint
    cases hprint
  next payload hprint =>
    split at hprint
    next hfit =>
      obtain rfl := Option.some.inj hprint
      rw [if_pos hfit]
    next => cases hprint

/-- **A sample is serialized exactly when its record fits**, on the path to the broker
and on the path to the cache. -/
theorem serialized_iff (ctx : TcmContext) :
    ((tcmSerializeJson lib ctx tcmMaxJsonLen).isSome ↔
      recordBytes number ctx + margin (contextJson ctx) ≤ 1024) ∧
    (∀ env, publishCustom lib env ctx ≠ .serializationFailed ↔
      recordBytes number ctx + margin (contextJson ctx) ≤ 1024) ∧
    ∀ st topic env, uifCacheRecord lib st ctx topic env =
      if recordBytes number ctx + margin (contextJson ctx) ≤ 1024 then
        offlineStorePut st ctx.sequenceId topic ((contextJson ctx).compact number) env
      else (.fail, st) := by
  refine ⟨?_, fun env => ?_, fun st topic env => cacheRecord_eq h st ctx topic env⟩
  · rw [serialize_eq h, tcmMaxJsonLen]
    split <;> simp [*]
  · rw [ne_eq, publishCustom_failed_iff h, not_not, tcmMaxJsonLen]

end Fit

/-! ## Short and long names -/

/-- `sampleContext` with names as long as their fields hold and numbers of a few digits. -/
def longContext : TcmContext :=
  { sampleContext with
    gatewayId := .copy 48 (List.replicate 47 'g')
    contextId := 100000
    sequenceId := 100000
    mappingVersion := 100
    deviceId := .copy 32 (List.replicate 31 'd')
    pointId := .copy 32 (List.replicate 31 'p')
    registerAddress := 40001
    measurementName := .copy 32 (List.replicate 31 'm')
    unit := .copy 16 (List.replicate 15 'u')
    rawValue := .fin 12345
    value := .fin 12345
    valueText := .copy 32 (List.replicate 31 't')
    timestampMs := 1790000000000
    semanticProfileId := .copy 32 (List.replicate 31 's')
    semanticConfidence := 100
    semanticEvidence := .copy 48 (List.replicate 47 'e')
    controlConstraint :=
      { writable := true
        validRangeMin := .fin (-10000)
        validRangeMax := .fin 10000 } }

theorem compactPrinting_preallocated (number : CFloat → CStr) :
    PreallocatedPrinter (.compactPrinting number) number fun _ => 1 where
  print _ _ := rfl
  low _ := Nat.le_refl 1
  high _ := by decide

theorem serialized_iff_sample :
    (recordBytes Json.renderNumber sampleContext + 1 ≤ 1024) ∧
    (tcmSerializeJson (.compactPrinting Json.renderNumber) sampleContext tcmMaxJsonLen).isSome :=
  have hfit : recordBytes Json.renderNumber sampleContext + 1 ≤ 1024 := by decide +kernel
  ⟨hfit, (serialized_iff (compactPrinting_preallocated _) sampleContext).1.2 hfit⟩

/-- **A valid context that neither path keeps.** -/
theorem long_names_not_serialized :
    tcmValidate longContext = true ∧
    tcmSerializeJson (.compactPrinting Json.renderNumber) longContext tcmMaxJsonLen = none ∧
    publishCustom (.compactPrinting Json.renderNumber) ⟨none, "data/".toList, true, true⟩
      longContext = .serializationFailed ∧
    (uifCacheRecord (.compactPrinting Json.renderNumber) (offlineStoreInit emptyBoot plainInit).2
      longContext "data".toList (putWith 1048576)).1 = .fail := by
  have hprinter := compactPrinting_preallocated Json.renderNumber
  have hsize : 1024 < recordBytes Json.renderNumber longContext := by decide +kernel
  have hfull : ¬ recordBytes Json.renderNumber longContext + 1 ≤ tcmMaxJsonLen := by
    rw [tcmMaxJsonLen]
    omega
  refine ⟨by decide +kernel, serialize_eq_none hprinter (Nat.le_of_lt hsize),
    (publishCustom_failed_iff hprinter _).2 hfull, ?_⟩
  rw [cacheRecord_eq hprinter, if_neg hfull]

end McpGateway.Uif
