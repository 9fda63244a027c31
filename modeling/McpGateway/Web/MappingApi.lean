import McpGateway.Amm.EntryInvariant
import McpGateway.Amm.ImportUnion
import McpGateway.Amm.Rollback
import McpGateway.Web.MappingJson

/-!
# The mapping requests

The handlers of `web_server.c` that read or change the mapping table, with the
discovery that applies what a scan found. A handler takes the text of the
request and the answers of the NVS calls, and returns its response and the
store. Buffers are allocated and requests arrive whole.
-/

namespace McpGateway.Web

open McpGateway.Lib McpGateway.Tcm McpGateway.Amm McpGateway.Thingscloud

/-! ## Requests and responses -/

structure Response where
  status : Nat
  text : CStr
  deriving DecidableEq

def okResponse : Response := ⟨200, Json.render (.obj [("status".toList, .str "ok".toList)])⟩

def reasonResponse (status : Nat) (reason : String) : Response :=
  ⟨status, Json.render
    (.obj [("status".toList, .str "error".toList), ("reason".toList, .str reason.toList)])⟩

def errorResponse (status : Nat) (error : CStr) : Response :=
  ⟨status, Json.render (.obj [("error".toList, .str error)])⟩

/-- `parse_request_json` and `parse_large_request_json`: a text that is empty or
longer than `limit` is not read. -/
def parseRequestJson (lib : JsonLib) (limit : Nat) (text : CStr) : Option Json :=
  if text = [] ∨ text.length > limit then none else lib.parse text

def requestLimit : Nat := 4096
def profileLimit : Nat := 768 * 1024

theorem place_isIdentity : IsIdentity placeOf := by
  constructor <;> intros <;> rfl

/-! ## `GET /api/mappings` -/

def exportedItems (cfg : TopicConfig) (pool : StatePool) (a : AmmTable) : List Json :=
  a.entries.map (mappingJson cfg pool)

/-- `mappings_get_handler`: the text of its chunks. -/
def mappingsGetHandler (lib : JsonLib) (cfg : TopicConfig) (pool : StatePool) (a : AmmTable) : CStr :=
  '[' :: List.intercalate [','] ((exportedItems cfg pool a).map lib.printUnformatted) ++ [']']

/-! ## `POST /api/mappings` -/

/-- `gateway_key_conflicts`: another place has the key. -/
def gatewayKeyConflicts (a : AmmTable) (e : AmmMappingEntry) (key : CStr) : Bool :=
  key ≠ [] && a.entries.any fun x =>
    decide (placeOf x ≠ placeOf e) && decide (mappingEffectiveGwKey x 64 ≠ []) &&
      decide (mappingEffectiveGwKey x 64 = key)

/-- The entry moved here from another place, which the request names. -/
def movedFrom (old : Place) (e : AmmMappingEntry) : Bool :=
  old.slaveId ≠ 0 && decide (old ≠ placeOf e)

/-- The checks of `mappings_post_handler` on the entry; `none` when it goes to the table. -/
def postRefusal (a : AmmTable) (e : AmmMappingEntry) : Option Response :=
  if customTopicOk e = false then some (reasonResponse 400 "custom MQTT topic is required")
  else if customKeyOk e = false then some (reasonResponse 400 "invalid gateway_property_key")
  else if gatewayKeyConflicts a e (mappingEffectiveGwKey e 64) then
    some (reasonResponse 409 "duplicate gateway property key")
  else none

/-- `mappings_post_handler`; `f` and `g` answer the calls of the add and of the remove. -/
def mappingsPostHandler (lib : JsonLib) (text : CStr) (f g : AmmFaults) (s : AmmStore) :
    Response × AmmStore :=
  match parseRequestJson lib requestLimit text with
  | none => (⟨400, "Bad Request".toList⟩, s)
  | some root =>
    let e := readPosted s.ram.defaultPollMs root
    let old := readOldPlace root
    match postRefusal s.ram e with
    | some refusal => (refusal, s)
    | none =>
      let added := s.perform (.add e) f
      if added.1 ≠ .ok then (reasonResponse 200 "table full or invalid args", added.2)
      else if movedFrom old e then
        (okResponse, (added.2.perform
          (.removeForChannel old.protocol old.channelId old.slaveId old.registerAddress) g).2)
      else (okResponse, added.2)

/-! ## `POST /api/mappings/import` -/

def arrayItems : Option Json → List Json
  | some (.arr items) => items
  | _ => []

def importResponse (imported total capacity : Nat) : Response :=
  ⟨200, Json.render (.obj [("status".toList, .str "ok".toList),
    ("imported".toList, jsonNat imported), ("total_mappings".toList, jsonNat total),
    ("capacity".toList, jsonNat capacity)])⟩

def importFailure (err : EspErr) : Response :=
  errorResponse 400 ("Profile import failed: ".toList ++ err.name)

/-- `mappings_import_post_handler`. A successful import counts every entry. -/
def mappingsImportPostHandler (lib : JsonLib) (text : CStr) (f : AmmFaults) (s : AmmStore) :
    Response × AmmStore :=
  match parseRequestJson lib profileLimit text with
  | none => (errorResponse 400 "Invalid or oversized mapping profile".toList, s)
  | some root =>
    let items := arrayItems (root.getObjectItem "mappings".toList)
    let replaceDevices := Json.isTrue (root.getObjectItem "replace_devices".toList)
    if items = [] ∨ items.length > s.ram.capacity then
      (errorResponse 400 "Mapping count exceeds runtime capacity".toList, s)
    else
      match items.mapM (mappingEntryFromJson s.ram.defaultPollMs) with
      | none => (importFailure .invalidArg, s)
      | some entries =>
        let r := s.perform (.import entries replaceDevices) f
        if r.1 ≠ .ok then (importFailure r.1, r.2)
        else (importResponse entries.length r.2.ram.entries.length r.2.ram.capacity, r.2)

/-! ## `POST /api/mappings/rollback` -/

def mappingsRollbackPostHandler (f : AmmFaults) (s : AmmStore) : Response × AmmStore :=
  let r := s.perform .rollback f
  (if r.1 = .ok then okResponse
    else errorResponse 409 "No valid AMM rollback snapshot".toList, r.2)

/-! ## `POST /api/discover/apply` -/

/-- What the two builders of discovered mappings fill in: the register profile
and `semantic_inference_build_raw_mapping`. The other fields stay zero. -/
structure DiscoveredMapping where
  sourceProtocol : SourceProtocol
  channelId : UInt8
  slaveId : UInt8
  functionCode : UInt8
  registerAddress : UInt16
  dataType : DataType
  byteOrderName : Option CStr
  scaleFactor : CFloat
  offset : CFloat
  pollIntervalMs : UInt32
  priority : UInt8
  readStartAddress : UInt16
  readRegisterCount : UInt8
  valueRegisterIndex : UInt8
  deviceId : CBuf 32
  pointId : CBuf 32
  measurementName : CBuf 32
  unit : CBuf 16
  constraint : ControlConstraint
  semanticSource : SemanticSource
  semanticStatus : SemanticStatus
  semanticConfidence : UInt8
  semanticProfileId : CBuf 32
  semanticProfileVersion : SeqId
  semanticEvidence : CBuf 48

/-- The entry a builder leaves. Its numbers are stored as `float`, and its byte order comes from
a name, as in `profile_byte_order`. -/
def DiscoveredMapping.entry (d : DiscoveredMapping) : AmmMappingEntry :=
  { AmmMappingEntry.zero with
    sourceProtocol := d.sourceProtocol
    channelId := d.channelId
    slaveId := d.slaveId
    functionCode := d.functionCode
    objectType := objectTypeOf d.functionCode
    registerAddress := d.registerAddress
    dataType := d.dataType
    byteOrder := parseByteOrder d.byteOrderName
    scaleFactor := toFloat d.scaleFactor
    offset := toFloat d.offset
    pollIntervalMs := d.pollIntervalMs
    priority := d.priority
    readStartAddress := d.readStartAddress
    readRegisterCount := d.readRegisterCount
    valueRegisterIndex := d.valueRegisterIndex
    active := true
    discovered := true
    retryCount := 2
    retryBackoffMs := 50
    deviceId := d.deviceId
    pointId := d.pointId
    measurementName := d.measurementName
    unit := d.unit
    mqttTopic := .copy 128
      ("factory/data/".toList ++ d.deviceId.str ++ '/' :: d.pointId.str)
    constraint :=
      { writable := d.constraint.writable
        validRangeMin := toFloat d.constraint.validRangeMin
        validRangeMax := toFloat d.constraint.validRangeMax }
    semanticSource := d.semanticSource
    semanticStatus := d.semanticStatus
    semanticConfidence := d.semanticConfidence
    semanticProfileId := d.semanticProfileId
    semanticProfileVersion := d.semanticProfileVersion
    semanticEvidence := d.semanticEvidence }

/-! ## Runs -/

/-- A request that changes the table. `modbus_discover_apply_mappings` makes one
`discoverApply` of the devices that match a profile, and one of the others. -/
inductive MappingRequest
  | post (text : CStr) (f g : AmmFaults)
  | importPost (text : CStr) (f : AmmFaults)
  | rollback (f : AmmFaults)
  | discoverApply (found : List DiscoveredMapping) (f : AmmFaults)

def MappingRequest.step (lib : JsonLib) (s : AmmStore) : MappingRequest → AmmStore
  | .post text f g => (mappingsPostHandler lib text f g s).2
  | .importPost text f => (mappingsImportPostHandler lib text f s).2
  | .rollback f => (mappingsRollbackPostHandler f s).2
  | .discoverApply found f =>
    (s.perform (.import (found.map DiscoveredMapping.entry) true) f).2

/-! ## What a request does to the table -/

section Steps

variable {lib : JsonLib} {s : AmmStore}

/-- A posted request leaves the store, adds its entry, or adds it and removes the old one. -/
theorem post_cases (lib : JsonLib) (text : CStr) (f g : AmmFaults) (s : AmmStore) :
    ((mappingsPostHandler lib text f g s).2 = s ∧
        ∀ root, parseRequestJson lib requestLimit text = some root →
          postRefusal s.ram (readPosted s.ram.defaultPollMs root) ≠ none) ∨
      ∃ root, let e := readPosted s.ram.defaultPollMs root
        parseRequestJson lib requestLimit text = some root ∧ postRefusal s.ram e = none ∧
          ((mappingsPostHandler lib text f g s).2 = (s.perform (.add e) f).2 ∨
            (s.perform (.add e) f).1 = .ok ∧ movedFrom (readOldPlace root) e = true ∧
              ∃ call, call = AmmCall.removeForChannel (readOldPlace root).protocol
                  (readOldPlace root).channelId (readOldPlace root).slaveId
                  (readOldPlace root).registerAddress ∧
                (mappingsPostHandler lib text f g s).2 =
                  ((s.perform (.add e) f).2.perform call g).2) := by
  unfold mappingsPostHandler
  cases hroot : parseRequestJson lib requestLimit text with
  | none => exact .inl ⟨rfl, fun root h => by cases h⟩
  | some root =>
    simp only
    cases hrefusal : postRefusal s.ram (readPosted s.ram.defaultPollMs root) with
    | some refusal =>
      refine .inl ⟨rfl, fun root' h => ?_⟩
      rw [← Option.some.inj h, hrefusal]
      exact Option.some_ne_none refusal
    | none =>
      refine .inr ⟨root, rfl, hrefusal, ?_⟩
      simp only
      split
      · exact .inl rfl
      · rename_i hok
        split
        · rename_i hmoved
          exact .inr ⟨not_not.1 hok, hmoved, _, rfl, rfl⟩
        · exact .inl rfl

theorem parseRequestJson_some {limit : Nat} {text : CStr} {root : Json}
    (h : parseRequestJson lib limit text = some root) :
    text ≠ [] ∧ text.length ≤ limit ∧ lib.parse text = some root := by
  unfold parseRequestJson at h
  split at h
  · cases h
  · rename_i htext
    rw [not_or] at htext
    exact ⟨htext.1, Nat.le_of_not_lt htext.2, h⟩

/-- The profile is read: its entries fit and can be imported. -/
structure ReadsProfile (lib : JsonLib) (s : AmmStore) (text : CStr) (root : Json)
    (entries : List AmmMappingEntry) : Prop where
  parsed : parseRequestJson lib profileLimit text = some root
  nonempty : arrayItems (root.getObjectItem "mappings".toList) ≠ []
  fits : (arrayItems (root.getObjectItem "mappings".toList)).length ≤ s.ram.capacity
  read : (arrayItems (root.getObjectItem "mappings".toList)).mapM
    (mappingEntryFromJson s.ram.defaultPollMs) = some entries

def profileCall (root : Json) (entries : List AmmMappingEntry) : AmmCall :=
  .import entries (Json.isTrue (root.getObjectItem "replace_devices".toList))

theorem ReadsProfile.unique {text : CStr} {root root' : Json}
    {entries entries' : List AmmMappingEntry} (h : ReadsProfile lib s text root entries)
    (h' : ReadsProfile lib s text root' entries') :
    root = root' ∧ entries = entries' := by
  obtain rfl := Option.some.inj (h.parsed.symm.trans h'.parsed)
  exact ⟨rfl, Option.some.inj (h.read.symm.trans h'.read)⟩

theorem ReadsProfile.handler {text : CStr} {root : Json} {entries : List AmmMappingEntry}
    (h : ReadsProfile lib s text root entries) (f : AmmFaults) :
    ((mappingsImportPostHandler lib text f s).1.status = 200 ↔
        (s.perform (profileCall root entries) f).1 = .ok) ∧
      (mappingsImportPostHandler lib text f s).2 = (s.perform (profileCall root entries) f).2 := by
  have hcount : ¬ (arrayItems (root.getObjectItem "mappings".toList) = [] ∨
      (arrayItems (root.getObjectItem "mappings".toList)).length > s.ram.capacity) :=
    not_or.2 ⟨h.nonempty, Nat.not_lt.2 h.fits⟩
  unfold mappingsImportPostHandler
  rw [h.parsed]
  simp only [if_neg hcount, h.read]
  rw [profileCall]
  split
  · rename_i hfailed
    exact ⟨iff_of_false (show ¬ (400 : Nat) = 200 by decide) hfailed, rfl⟩
  · rename_i hok
    exact ⟨iff_of_true rfl (not_not.1 hok), rfl⟩

theorem importPost_cases (lib : JsonLib) (text : CStr) (f : AmmFaults) (s : AmmStore) :
    (∃ root entries, ReadsProfile lib s text root entries) ∨
      (mappingsImportPostHandler lib text f s).1.status ≠ 200 ∧
        (mappingsImportPostHandler lib text f s).2 = s := by
  have hstatus : (400 : Nat) ≠ 200 := by decide
  unfold mappingsImportPostHandler
  cases hroot : parseRequestJson lib profileLimit text with
  | none => exact .inr ⟨hstatus, rfl⟩
  | some root =>
    simp only
    split
    · exact .inr ⟨hstatus, rfl⟩
    · rename_i hcount
      cases hentries : (arrayItems (root.getObjectItem "mappings".toList)).mapM
          (mappingEntryFromJson s.ram.defaultPollMs) with
      | none => exact .inr ⟨hstatus, rfl⟩
      | some entries =>
        rw [not_or, Nat.not_lt] at hcount
        exact .inl ⟨root, entries, hroot, hcount.1, hcount.2, hentries⟩

end Steps

end McpGateway.Web
