import McpGateway.Tcm.Context
import McpGateway.Lib.Json

/-!
# TCM records as JSON

`tcm_serialize_json` and `tcm_deserialize_json`. The record has no field for
`gateway_property_key`, and `quality_state`, `network_state` and most values
of `operation_type` are written but not read back.
-/

namespace McpGateway.Tcm

open McpGateway.Lib

/-! ## Names of the enumerators -/

def protocolString : SourceProtocol → CStr
  | .modbusTcp => "MODBUS_TCP".toList
  | .modbusRtu => "MODBUS_RTU".toList

def dataTypeString : DataType → CStr
  | .int16 => "int16".toList
  | .uint16 => "uint16".toList
  | .float32 => "float32".toList
  | .int32 => "int32".toList
  | .uint32 => "uint32".toList
  | .bool => "bool".toList
  | .int64 => "int64".toList
  | .uint64 => "uint64".toList
  | .float64 => "float64".toList
  | .bcd16 => "bcd16".toList
  | .bitfield16 => "bitfield16".toList
  | .ascii => "ascii".toList

def byteOrderString : ByteOrder → CStr
  | .abcd => "ABCD".toList
  | .cdab => "CDAB".toList
  | .badc => "BADC".toList
  | .dcba => "DCBA".toList
  | .other _ => "ABCD".toList

def qualityString : QualityState → CStr
  | .good => "good".toList
  | .stale => "stale".toList
  | .invalid => "invalid".toList

def networkString : NetworkState → CStr
  | .online => "online".toList
  | .delayed => "delayed".toList
  | .offline => "offline".toList
  | .replayed => "replayed".toList

def operationString : OperationType → CStr
  | .readPublish => "read_publish".toList
  | .subscribe => "subscribe".toList
  | .write => "write".toList
  | .replay => "replay".toList
  | .readOnly => "read_only".toList

def semanticSourceString : SemanticSource → CStr
  | .unresolved => "unresolved".toList
  | .profile => "profile".toList
  | .user => "user".toList
  | .discovery => "discovery".toList
  | .imported => "imported".toList

def semanticStatusString : SemanticStatus → CStr
  | .unresolved => "unresolved".toList
  | .inferred => "inferred".toList
  | .resolved => "resolved".toList
  | .verified => "verified".toList
  | .conflict => "conflict".toList

/-- The first entry whose name is `s`, else `dflt`: a chain of `strcmp`. -/
def parseName {α : Type*} (names : List (CStr × α)) (dflt : α) (s : Option CStr) : α :=
  match s with
  | none => dflt
  | some s => ((names.find? fun n => n.1 = s).map Prod.snd).getD dflt

def parseDataType : Option CStr → DataType :=
  parseName (([.int16, .float32, .int32, .uint32, .bool, .int64, .uint64, .float64, .bcd16,
    .bitfield16, .ascii] : List DataType).map fun t => (dataTypeString t, t)) .uint16

def parseSemanticSource : Option CStr → SemanticSource :=
  parseName (([.profile, .user, .discovery, .imported] : List SemanticSource).map fun t =>
    (semanticSourceString t, t)) .unresolved

def parseSemanticStatus : Option CStr → SemanticStatus :=
  parseName (([.inferred, .resolved, .verified, .conflict] : List SemanticStatus).map fun t =>
    (semanticStatusString t, t)) .unresolved

def parseByteOrder : Option CStr → ByteOrder :=
  parseName (([.cdab, .badc, .dcba] : List ByteOrder).map fun t => (byteOrderString t, t)) .abcd

theorem parseDataType_string (t : DataType) : parseDataType (some (dataTypeString t)) = t := by
  cases t <;> decide

def namedByteOrder : ByteOrder → ByteOrder
  | .other _ => .abcd
  | t => t

theorem parseByteOrder_string (t : ByteOrder) :
    parseByteOrder (some (byteOrderString t)) = namedByteOrder t := by
  cases t with
  | other _ => rfl
  | _ => decide

theorem parseSemanticSource_string (t : SemanticSource) :
    parseSemanticSource (some (semanticSourceString t)) = t := by
  cases t <;> decide

theorem parseSemanticStatus_string (t : SemanticStatus) :
    parseSemanticStatus (some (semanticStatusString t)) = t := by
  cases t <;> decide

/-! ## The record -/

def jsonNat (n : Nat) : Json := .num (.fin n)

def constraintFields (c : ControlConstraint) : List (CStr × Json) :=
  [("writable".toList, .bool c.writable), ("min".toList, .num c.validRangeMin),
    ("max".toList, .num c.validRangeMax)]

def constraintJson (c : ControlConstraint) : Json := .obj (constraintFields c)

/-- The fields `tcm_serialize_json` writes before the optional `value_text`. -/
def headFields (ctx : TcmContext) : List (CStr × Json) :=
  [("tcm_version".toList, .str ctx.tcmVersion.str),
    ("gateway_id".toList, .str ctx.gatewayId.str),
    ("context_id".toList, jsonNat ctx.contextId.val),
    ("sequence_id".toList, jsonNat ctx.sequenceId.val),
    ("mapping_version".toList, jsonNat ctx.mappingVersion.val),
    ("device_id".toList, .str ctx.deviceId.str),
    ("point_id".toList, .str ctx.pointId.str),
    ("source_protocol".toList, .str (protocolString ctx.sourceProtocol)),
    ("channel_id".toList, jsonNat ctx.channelId.toNat),
    ("slave_id".toList, jsonNat ctx.slaveId.toNat),
    ("function_code".toList, jsonNat ctx.functionCode.toNat),
    ("register_address".toList, jsonNat ctx.registerAddress.toNat),
    ("data_type".toList, .str (dataTypeString ctx.dataType)),
    ("object_type".toList, jsonNat ctx.objectType.code),
    ("byte_order".toList, .str (byteOrderString ctx.byteOrder)),
    ("measurement_name".toList, .str ctx.measurementName.str),
    ("unit".toList, .str ctx.unit.str),
    ("raw_value".toList, .num ctx.rawValue),
    ("scale_factor".toList, .num ctx.scaleFactor),
    ("offset".toList, .num ctx.offset),
    ("value".toList, .num ctx.value)]

def tailFields (ctx : TcmContext) : List (CStr × Json) :=
  [("timestamp_ms".toList, .num (.fin ctx.timestampMs)),
    ("quality_state".toList, .str (qualityString ctx.qualityState)),
    ("network_state".toList, .str (networkString ctx.networkState)),
    ("operation_type".toList, .str (operationString ctx.operationType)),
    ("semantic_source".toList, .str (semanticSourceString ctx.semanticSource)),
    ("semantic_status".toList, .str (semanticStatusString ctx.semanticStatus)),
    ("semantic_profile_id".toList, .str ctx.semanticProfileId.str),
    ("semantic_profile_version".toList, jsonNat ctx.semanticProfileVersion.val),
    ("semantic_confidence".toList, jsonNat ctx.semanticConfidence.toNat),
    ("semantic_evidence".toList, .str ctx.semanticEvidence.str),
    ("timestamp_synchronized".toList, .bool ctx.timestampSynchronized),
    ("control_constraint".toList, constraintJson ctx.controlConstraint)]

/-- The fields of `tcm_serialize_json`, in its order. -/
def contextFields (ctx : TcmContext) : List (CStr × Json) :=
  headFields ctx ++
    (if ctx.valueText.str = [] then [] else [("value_text".toList, .str ctx.valueText.str)]) ++
    tailFields ctx

def contextJson (ctx : TcmContext) : Json := .obj (contextFields ctx)

/-- `tcm_serialize_json` into a buffer of `n` bytes. -/
def tcmSerializeJson (lib : JsonLib) (ctx : TcmContext) (n : Nat) : Option CStr :=
  lib.printPreallocated (contextJson ctx) n

/-! ## Reading a record back -/

/-- `copy_json_string` into a field that holds `old`. -/
def copyJsonString (root : Json) (name : String) {n : Nat} [NeZero n] (old : CBuf n) : CBuf n :=
  match Json.string? (root.getItemCaseSensitive name.toList) with
  | some s => .copy n s
  | none => old

/-- `JSON_UINT` into an unsigned field of `w` bits that holds 0. -/
def jsonUint (root : Json) (name : String) (w : Nat) : Nat :=
  match Json.number? (root.getItemCaseSensitive name.toList) with
  | some x => x.toUInt w
  | none => 0

def jsonNumber (root : Json) (name : String) (old : CFloat) : CFloat :=
  (Json.number? (root.getItemCaseSensitive name.toList)).getD old

def jsonName (root : Json) (name : String) : Option CStr :=
  Json.string? (root.getItemCaseSensitive name.toList)

/-- `ctx->timestamp_ms = value->valuedouble`. -/
def jsonTimestamp (root : Json) : Int :=
  match Json.number? (root.getItemCaseSensitive "timestamp_ms".toList) with
  | some (.fin q) => trunc q
  | _ => 0

def readConstraint (root : Json) : ControlConstraint :=
  match root.getItemCaseSensitive "control_constraint".toList with
  | some (.obj fields) =>
    { writable := Json.isTrue ((Json.obj fields).getItemCaseSensitive "writable".toList)
      validRangeMin := jsonNumber (.obj fields) "min" (.fin 0)
      validRangeMax := jsonNumber (.obj fields) "max" (.fin 0) }
  | _ => TcmContext.zero.controlConstraint

/-- `tcm_deserialize_json` on the parsed document. -/
def readContext (root : Json) : TcmContext :=
  { TcmContext.zero with
    tcmVersion := copyJsonString root "tcm_version" (.copy 8 tcmVersion)
    gatewayId := copyJsonString root "gateway_id" .empty
    deviceId := copyJsonString root "device_id" .empty
    pointId := copyJsonString root "point_id" .empty
    measurementName := copyJsonString root "measurement_name" .empty
    unit := copyJsonString root "unit" .empty
    valueText := copyJsonString root "value_text" .empty
    semanticProfileId := copyJsonString root "semantic_profile_id" .empty
    semanticEvidence := copyJsonString root "semantic_evidence" .empty
    contextId := Fin.ofNat _ (jsonUint root "context_id" 32)
    sequenceId := Fin.ofNat _ (jsonUint root "sequence_id" 32)
    mappingVersion := Fin.ofNat _ (jsonUint root "mapping_version" 32)
    channelId := UInt8.ofNat (jsonUint root "channel_id" 8)
    slaveId := UInt8.ofNat (jsonUint root "slave_id" 8)
    functionCode := UInt8.ofNat (jsonUint root "function_code" 8)
    registerAddress := UInt16.ofNat (jsonUint root "register_address" 16)
    timestampMs := jsonTimestamp root
    objectType := .ofCode (jsonUint root "object_type" 32)
    semanticProfileVersion := Fin.ofNat _ (jsonUint root "semantic_profile_version" 32)
    semanticConfidence := UInt8.ofNat (jsonUint root "semantic_confidence" 8)
    value := jsonNumber root "value" (.fin 0)
    rawValue := jsonNumber root "raw_value" (.fin 0)
    scaleFactor := jsonNumber root "scale_factor" (.fin 1)
    offset := jsonNumber root "offset" (.fin 0)
    sourceProtocol :=
      if jsonName root "source_protocol" = some "MODBUS_TCP".toList then .modbusTcp
      else .modbusRtu
    dataType := parseDataType (jsonName root "data_type")
    byteOrder := parseByteOrder (jsonName root "byte_order")
    semanticSource := parseSemanticSource (jsonName root "semantic_source")
    semanticStatus := parseSemanticStatus (jsonName root "semantic_status")
    timestampSynchronized :=
      Json.isTrue (root.getItemCaseSensitive "timestamp_synchronized".toList)
    operationType :=
      if jsonName root "operation_type" = some "write".toList then .write else .readPublish
    controlConstraint := readConstraint root }

def tcmDeserializeJson (lib : JsonLib) (s : CStr) : Option TcmContext :=
  (lib.parse s).map readContext

/-! ## Writing a record and reading it back -/

def headKeys : List CStr :=
  ["tcm_version", "gateway_id", "context_id", "sequence_id", "mapping_version", "device_id",
    "point_id", "source_protocol", "channel_id", "slave_id", "function_code", "register_address",
    "data_type", "object_type", "byte_order", "measurement_name", "unit", "raw_value",
    "scale_factor", "offset", "value"].map String.toList

def tailKeys : List CStr :=
  ["timestamp_ms", "quality_state", "network_state", "operation_type", "semantic_source",
    "semantic_status", "semantic_profile_id", "semantic_profile_version", "semantic_confidence",
    "semantic_evidence", "timestamp_synchronized", "control_constraint"].map String.toList

theorem recordKeys_nodup : (headKeys ++ ["value_text".toList] ++ tailKeys).Nodup := by
  simp only [headKeys, tailKeys, List.map_cons, List.map_nil, List.cons_append, List.nil_append]
  -- A literal is `String.ofList` of its characters: they are compared, not its bytes.
  repeat rw [String.toList_ofList]
  decide

section Restore

variable {ctx : TcmContext}

theorem contextFields_keys : ((contextFields ctx).map Prod.fst).Sublist
    (headKeys ++ ["value_text".toList] ++ tailKeys) := by
  unfold contextFields
  rw [List.map_append, List.map_append]
  refine List.Sublist.append (List.Sublist.append (List.Sublist.refl headKeys) ?_)
    (List.Sublist.refl tailKeys)
  split
  · exact List.nil_sublist _
  · exact List.Sublist.refl _

theorem find_of_mem {fields : List (CStr × Json)} (hn : (fields.map Prod.fst).Nodup)
    {k : CStr} {v : Json} (h : (k, v) ∈ fields) :
    (Json.obj fields).getItemCaseSensitive k = some v := by
  induction fields with
  | nil => cases h
  | cons f fs ih =>
    obtain ⟨hf, hn⟩ := List.nodup_cons.1 hn
    simp only [Json.getItemCaseSensitive, List.find?_cons]
    rcases List.mem_cons.1 h with rfl | h
    · simp
    · have hne : f.1 ≠ k := fun e => hf (e ▸ List.mem_map_of_mem h)
      have hrest := ih hn h
      rw [Json.getItemCaseSensitive] at hrest
      simp only [hne, decide_false, hrest]

theorem written_field {fields : List (CStr × Json)} (hn : (fields.map Prod.fst).Nodup)
    {k : CStr} {v : Json} (h : (k, v) ∈ fields) :
    (Json.obj fields).nullify.getItemCaseSensitive k = some v.nullify := by
  rw [getItem_nullify, find_of_mem hn h, Option.map_some]

theorem field_back {k : CStr} {v : Json} (h : (k, v) ∈ contextFields ctx) :
    (contextJson ctx).nullify.getItemCaseSensitive k = some v.nullify :=
  written_field (contextFields_keys.nodup recordKeys_nodup) h

theorem constraint_field {c : ControlConstraint} {k : CStr} {v : Json}
    (h : (k, v) ∈ constraintFields c) :
    (constraintJson c).nullify.getItemCaseSensitive k = some v.nullify := by
  have hkeys : (["writable".toList, "min".toList, "max".toList] : List CStr).Nodup := by decide
  exact @written_field (constraintFields c) hkeys k v h

theorem head_mem {f : CStr × Json} (i : Nat) (h : (headFields ctx)[i]? = some f) :
    f ∈ contextFields ctx :=
  List.mem_append_left _ (List.mem_append_left _ (List.mem_of_getElem? h))

theorem tail_mem {f : CStr × Json} (i : Nat) (h : (tailFields ctx)[i]? = some f) :
    f ∈ contextFields ctx :=
  List.mem_append_right _ (List.mem_of_getElem? h)

theorem str_back {name : String} {n : Nat} [NeZero n] {b old : CBuf n}
    (h : (name.toList, Json.str b.str) ∈ contextFields ctx) :
    copyJsonString (contextJson ctx).nullify name old = b := by
  simp [copyJsonString, field_back h, Json.string?]

theorem code_back {name : String} {m w : Nat} (h : (name.toList, jsonNat m) ∈ contextFields ctx) :
    jsonUint (contextJson ctx).nullify name w = m % 2 ^ w := by
  simp [jsonUint, field_back h, Json.number?, jsonNat, CFloat.toUInt_natCast]

theorem nat_back {name : String} {m w : Nat} (h : (name.toList, jsonNat m) ∈ contextFields ctx)
    (hm : m < 2 ^ w) : jsonUint (contextJson ctx).nullify name w = m := by
  rw [code_back h, Nat.mod_eq_of_lt hm]

theorem name_back {name : String} {s : CStr} (h : (name.toList, Json.str s) ∈ contextFields ctx) :
    jsonName (contextJson ctx).nullify name = some s := by
  simp [jsonName, field_back h, Json.string?]

/-- A number that was written, or the default where it was not finite. -/
def restoredNumber (x old : CFloat) : CFloat := if x.isFinite then x else old

theorem number_of_field {root : Json} {name : String} {x : CFloat} (old : CFloat)
    (h : root.getItemCaseSensitive name.toList = some (Json.num x).nullify) :
    jsonNumber root name old = restoredNumber x old := by
  rw [jsonNumber, h]
  cases hx : x.isFinite <;> simp [Json.number?, restoredNumber, Json.nullify, hx]

theorem number_back {name : String} {x old : CFloat}
    (h : (name.toList, Json.num x) ∈ contextFields ctx) :
    jsonNumber (contextJson ctx).nullify name old = restoredNumber x old :=
  number_of_field old (field_back h)

theorem valueText_back :
    copyJsonString (contextJson ctx).nullify "value_text" CBuf.empty = ctx.valueText := by
  by_cases ht : ctx.valueText.str = []
  · have hnone : (contextJson ctx).nullify.getItemCaseSensitive "value_text".toList = none := by
      have hkey : "value_text".toList ∉ headKeys ++ tailKeys := by decide +kernel
      have hfields : (contextFields ctx).map Prod.fst = headKeys ++ tailKeys := by
        simp only [contextFields, ht, if_true, List.append_nil, List.map_append]; rfl
      rw [contextJson, getItem_nullify, Option.map_eq_none_iff]
      simp only [Json.getItemCaseSensitive, Option.map_eq_none_iff, List.find?_eq_none,
        decide_eq_true_eq]
      exact fun f hf e => hkey (hfields ▸ e ▸ List.mem_map_of_mem hf)
    have hb : ctx.valueText = CBuf.empty := by
      cases hv : ctx.valueText with
      | mk s hs => rw [hv] at ht; cases ht; rfl
    rw [copyJsonString, hnone, hb]
    rfl
  · refine str_back (b := ctx.valueText) ?_
    simp [contextFields, ht]

theorem constraint_back : readConstraint (contextJson ctx).nullify =
    { writable := ctx.controlConstraint.writable
      validRangeMin := restoredNumber ctx.controlConstraint.validRangeMin (.fin 0)
      validRangeMax := restoredNumber ctx.controlConstraint.validRangeMax (.fin 0) } := by
  have hfield {k : CStr} {v : Json} (i : Nat)
      (h : (constraintFields ctx.controlConstraint)[i]? = some (k, v)) :=
    constraint_field (List.mem_of_getElem? h)
  have hw := hfield 0 rfl
  have hmin := hfield 1 rfl
  have hmax := hfield 2 rfl
  rw [constraintJson, nullify_obj] at hw hmin hmax
  rw [readConstraint, @field_back ctx _ _ (tail_mem 11 rfl), constraintJson, nullify_obj]
  simp only [hw, number_of_field _ hmin, number_of_field _ hmax, nullify_bool, Json.isTrue]

def restored (ctx : TcmContext) : TcmContext :=
  { ctx with
    byteOrder := namedByteOrder ctx.byteOrder
    objectType := .ofCode (ctx.objectType.code % 2 ^ 32)
    rawValue := restoredNumber ctx.rawValue (.fin 0)
    scaleFactor := restoredNumber ctx.scaleFactor (.fin 1)
    offset := restoredNumber ctx.offset (.fin 0)
    value := restoredNumber ctx.value (.fin 0)
    qualityState := .good
    networkState := .online
    operationType := if ctx.operationType = .write then .write else .readPublish
    gatewayPropertyKey := .empty
    controlConstraint :=
      { writable := ctx.controlConstraint.writable
        validRangeMin := restoredNumber ctx.controlConstraint.validRangeMin (.fin 0)
        validRangeMax := restoredNumber ctx.controlConstraint.validRangeMax (.fin 0) } }

/-- **What survives the record**: everything but the quality, the network
state, the finer operation types, the custom gateway key, and non-finite
numbers. -/
theorem readContext_written : readContext (contextJson ctx).nullify = restored ctx := by
  have hts : jsonTimestamp (contextJson ctx).nullify = ctx.timestampMs := by
    rw [jsonTimestamp, @field_back ctx _ _ (tail_mem 0 rfl)]
    simp [Json.number?, trunc]
  have hsync : Json.isTrue ((contextJson ctx).nullify.getItemCaseSensitive
      "timestamp_synchronized".toList) = ctx.timestampSynchronized := by
    rw [@field_back ctx _ _ (tail_mem 10 rfl), nullify_bool]; rfl
  have hproto : (if jsonName (contextJson ctx).nullify "source_protocol" =
      some "MODBUS_TCP".toList then SourceProtocol.modbusTcp else .modbusRtu) =
        ctx.sourceProtocol := by
    rw [@name_back ctx _ (protocolString ctx.sourceProtocol) (head_mem 7 rfl)]
    cases ctx.sourceProtocol <;> decide
  have hop : (if jsonName (contextJson ctx).nullify "operation_type" = some "write".toList
      then OperationType.write else .readPublish) =
        if ctx.operationType = .write then .write else .readPublish := by
    rw [@name_back ctx _ (operationString ctx.operationType) (tail_mem 3 rfl)]
    cases ctx.operationType <;> decide
  unfold readContext restored
  rw [str_back (b := ctx.tcmVersion) (head_mem 0 rfl),
    str_back (b := ctx.gatewayId) (head_mem 1 rfl),
    str_back (b := ctx.deviceId) (head_mem 5 rfl),
    str_back (b := ctx.pointId) (head_mem 6 rfl),
    str_back (b := ctx.measurementName) (head_mem 15 rfl),
    str_back (b := ctx.unit) (head_mem 16 rfl), valueText_back,
    str_back (b := ctx.semanticProfileId) (tail_mem 6 rfl),
    str_back (b := ctx.semanticEvidence) (tail_mem 9 rfl),
    nat_back (m := ctx.contextId.val) (head_mem 2 rfl) ctx.contextId.isLt,
    nat_back (m := ctx.sequenceId.val) (head_mem 3 rfl) ctx.sequenceId.isLt,
    nat_back (m := ctx.mappingVersion.val) (head_mem 4 rfl) ctx.mappingVersion.isLt,
    nat_back (m := ctx.channelId.toNat) (head_mem 8 rfl) ctx.channelId.toNat_lt,
    nat_back (m := ctx.slaveId.toNat) (head_mem 9 rfl) ctx.slaveId.toNat_lt,
    nat_back (m := ctx.functionCode.toNat) (head_mem 10 rfl) ctx.functionCode.toNat_lt,
    nat_back (m := ctx.registerAddress.toNat) (head_mem 11 rfl) ctx.registerAddress.toNat_lt,
    code_back (m := ctx.objectType.code) (head_mem 13 rfl),
    nat_back (m := ctx.semanticProfileVersion.val) (tail_mem 7 rfl)
      ctx.semanticProfileVersion.isLt,
    nat_back (m := ctx.semanticConfidence.toNat) (tail_mem 8 rfl) ctx.semanticConfidence.toNat_lt,
    number_back (x := ctx.value) (head_mem 20 rfl),
    number_back (x := ctx.rawValue) (head_mem 17 rfl),
    number_back (x := ctx.scaleFactor) (head_mem 18 rfl),
    number_back (x := ctx.offset) (head_mem 19 rfl),
    name_back (s := dataTypeString ctx.dataType) (head_mem 12 rfl),
    name_back (s := byteOrderString ctx.byteOrder) (head_mem 14 rfl),
    name_back (s := semanticSourceString ctx.semanticSource) (tail_mem 4 rfl),
    name_back (s := semanticStatusString ctx.semanticStatus) (tail_mem 5 rfl),
    parseDataType_string, parseByteOrder_string, parseSemanticSource_string,
    parseSemanticStatus_string, constraint_back, hts, hsync, hproto, hop]
  simp [Fin.ofNat_eq_cast, TcmContext.zero]

end Restore

/-! ## A reading -/

/-- Holding register 0 of slave 1 with value 5, as `tcm_build_context` builds it. -/
def sampleContext : TcmContext :=
  (tcmBuildContext
    { gatewayId := "gw".toList, nowMs := 100000, contextId := 1, sequenceId := 1 }
    1 3 0 (.fin 5) .good .online).getD .zero

example : tcmValidate sampleContext = true := by decide

end McpGateway.Tcm
