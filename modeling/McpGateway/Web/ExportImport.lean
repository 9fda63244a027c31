import McpGateway.Amm.Reimport
import McpGateway.Web.Accepted

/-!
# Exporting and importing the mappings

`GET /api/mappings` writes the fields of every mapping, and
`POST /api/mappings/import` reads most of them back. `readImported_exported` says
which entry comes back; `export_import_iff` for which tables the way through
both gives the same mappings.
-/

namespace McpGateway.Web

open McpGateway.Lib McpGateway.Tcm McpGateway.Amm McpGateway.Thingscloud

/-! ## Numbers that come back -/

theorem valueInt_natCast {n : Nat} (h : n < 2 ^ 31) : Json.valueInt (.fin n) = n := by
  by_cases hmax : (n : ℚ) ≥ 2 ^ 31 - 1
  · rw [Json.valueInt, if_pos hmax]
    have hle : ((2147483647 : Nat) : ℚ) ≤ n := by
      push_cast
      linarith
    have hle : 2147483647 ≤ n := by exact_mod_cast hle
    omega
  · have hmin : ¬ (n : ℚ) ≤ -2 ^ 31 := by
      have hnonneg : (0 : ℚ) ≤ n := Nat.cast_nonneg n
      intro hle
      linarith
    rw [Json.valueInt, if_neg hmax, if_neg hmin, CFloat.trunc_natCast]

theorem valueInt_large {n : Nat} (h : 2 ^ 31 ≤ n) : Json.valueInt (.fin n) = 2 ^ 31 - 1 := by
  have hge : (n : ℚ) ≥ 2 ^ 31 - 1 := by
    have hle : ((2 ^ 31 : Nat) : ℚ) ≤ n := by exact_mod_cast h
    push_cast at hle
    linarith
  rw [Json.valueInt, if_pos hge]

@[simp] theorem intUInt8_toNat (u : UInt8) : intUInt8 (.fin u.toNat) = u := by
  have hbound : u.toNat < 2 ^ 8 := u.toNat_lt
  have hlt : u.toNat < 2 ^ 31 := by omega
  rw [intUInt8, valueInt_natCast hlt]
  have hofInt : UInt8.ofInt (u.toNat : Int) = UInt8.ofNat u.toNat := by
    rw [UInt8.ofInt]
    congr 1
    omega
  rw [hofInt, UInt8.ofNat_toNat]

@[simp] theorem intUInt16_toNat (u : UInt16) : intUInt16 (.fin u.toNat) = u := by
  have hbound : u.toNat < 2 ^ 16 := u.toNat_lt
  have hlt : u.toNat < 2 ^ 31 := by omega
  rw [intUInt16, valueInt_natCast hlt]
  have hofInt : UInt16.ofInt (u.toNat : Int) = UInt16.ofNat u.toNat := by
    rw [UInt16.ofInt]
    congr 1
    omega
  rw [hofInt, UInt16.ofNat_toNat]

@[simp] theorem doubleUInt32_toNat (u : UInt32) : doubleUInt32 (.fin u.toNat) = u := by
  rw [doubleUInt32, CFloat.toUInt_natCast, Nat.mod_eq_of_lt u.toNat_lt, UInt32.ofNat_toNat]

/-- The byte order that an import reads: numbers are cut at the largest `int`. -/
def readableByteOrder (t : ByteOrder) : ByteOrder :=
  if t.code < 2 ^ 31 then .ofCode t.code else .ofCode (2 ^ 31 - 1)

theorem intByteOrder_code (t : ByteOrder) : intByteOrder (.fin t.code) = readableByteOrder t := by
  unfold intByteOrder readableByteOrder
  split
  · rename_i h
    rw [valueInt_natCast h]
    congr 1
    omega
  · rename_i h
    rw [valueInt_large (Nat.le_of_not_lt h)]
    rfl

/-! ## Fields that come back -/

def mappingKeys : List CStr :=
  ["source_protocol", "channel_id", "slave_id", "register_address", "data_type", "scale_factor",
    "offset", "function_code", "byte_order", "read_start_address", "read_register_count",
    "value_register_index", "poll_interval_ms", "priority", "mapping_version", "object_type",
    "bit_index", "string_length", "retry_count", "retry_backoff_ms", "semantic_source",
    "semantic_status", "semantic_profile_id", "semantic_profile_version", "semantic_confidence",
    "semantic_evidence", "device_id", "point_id", "measurement_name", "unit", "mqtt_topic",
    "mqtt_topic_mode", "effective_mqtt_topic", "gateway_property_key",
    "effective_gateway_property_key", "writable", "range_min", "range_max"].map String.toList

def stateKeys : List CStr :=
  ["current_timestamp_ms", "quality_state", "current_raw_value", "current_value",
    "current_value_text", "poll_status"].map String.toList

theorem exportedKeys_nodup : ((mappingKeys ++ stateKeys).map Json.toLower).Nodup := by
  simp only [mappingKeys, stateKeys, List.map_cons, List.map_nil, List.cons_append, List.nil_append]
  repeat rw [String.toList_ofList]
  decide

theorem mappingFields_keys (cfg : TopicConfig) (e : AmmMappingEntry) :
    (mappingFields cfg e).map Prod.fst = mappingKeys := by
  simp only [mappingFields, mappingKeys, List.map_cons, List.map_nil]

theorem stateFields_keys (state : Option TcmContext) :
    ((stateFields state).map Prod.fst).Sublist stateKeys := by
  cases state with
  | none =>
    show List.Sublist ["poll_status".toList] stateKeys
    decide
  | some state =>
    by_cases hshown : state.qualityState = .good ∨ state.qualityState = .stale
    · rw [stateFields, if_pos hshown]
      exact List.Sublist.refl stateKeys
    · rw [stateFields, if_neg hshown]
      show List.Sublist
        ["current_timestamp_ms".toList, "quality_state".toList, "poll_status".toList] stateKeys
      decide

section Fields

variable {cfg : TopicConfig} {pool : StatePool} {e : AmmMappingEntry} {name : String}

theorem exported_field {v : Json} (h : (name.toList, v) ∈ mappingFields cfg e) :
    (mappingJson cfg pool e).nullify.getObjectItem name.toList = some v.nullify := by
  have hkeys : ((mappingFields cfg e ++
      stateFields (tcmStatePoolGet e.deviceId.str e.pointId.str pool)).map Prod.fst).Sublist
        (mappingKeys ++ stateKeys) := by
    rw [List.map_append, mappingFields_keys]
    exact (List.Sublist.refl mappingKeys).append (stateFields_keys _)
  rw [mappingJson, nullify_obj, Json.getObjectItem]
  apply getItem_of_mem
  · have hnodup := (hkeys.map Json.toLower).nodup exportedKeys_nodup
    rw [List.map_map] at hnodup ⊢
    exact hnodup
  · exact List.mem_map.2 ⟨_, List.mem_append_left _ h, rfl⟩

theorem mappingFields_mem {f : CStr × Json} (i : Nat) (h : (mappingFields cfg e)[i]? = some f) :
    f ∈ mappingFields cfg e := List.mem_of_getElem? h

variable {α : Type*} {old : α}

theorem readNumber_nat {n : Nat} {conv : CFloat → α} (i : Nat)
    (h : (mappingFields cfg e)[i]? = some (name.toList, jsonNat n)) :
    readNumber (mappingJson cfg pool e).nullify name old conv = conv (.fin n) := by
  rw [readNumber, exported_field (mappingFields_mem i h), jsonNat, nullify_fin]
  rfl

theorem readNumber_num {x : CFloat} {conv : CFloat → α} (i : Nat)
    (h : (mappingFields cfg e)[i]? = some (name.toList, .num x)) :
    readNumber (mappingJson cfg pool e).nullify name old conv =
      if x.isFinite then conv x else old := by
  rw [readNumber, exported_field (mappingFields_mem i h)]
  cases x <;> rfl

theorem readText_str {t : CStr} {conv : CStr → α} (i : Nat)
    (h : (mappingFields cfg e)[i]? = some (name.toList, .str t)) :
    readText (mappingJson cfg pool e).nullify name old conv = conv t := by
  rw [readText, exported_field (mappingFields_mem i h), nullify_str]
  rfl

theorem readBool_bool {b old : Bool} (i : Nat)
    (h : (mappingFields cfg e)[i]? = some (name.toList, .bool b)) :
    readBool (mappingJson cfg pool e).nullify name old = b := by
  rw [readBool, exported_field (mappingFields_mem i h), nullify_bool]

end Fields

/-! ## Entries that come back -/

def reread (e : AmmMappingEntry) : AmmMappingEntry :=
  { e with
    mappingVersion := 0
    discovered := false
    active := true
    objectType := objectTypeOf e.functionCode
    byteOrder := readableByteOrder e.byteOrder
    scaleFactor := restoredNumber e.scaleFactor (.fin 1)
    offset := restoredNumber e.offset (.fin 0)
    constraint :=
      { writable := e.constraint.writable
        validRangeMin := restoredNumber e.constraint.validRangeMin (.fin 0)
        validRangeMax := restoredNumber e.constraint.validRangeMax (.fin 0) }
    semanticSource := .imported
    semanticStatus := .resolved }

theorem parseTopicMode_name {mode : MqttTopicMode} (h : mode = .auto ∨ mode = .custom) :
    parseTopicMode (topicModeName mode) = mode := by
  rcases h with rfl | rfl <;> decide

theorem readNumber_float {cfg : TopicConfig} {pool : StatePool} {e : AmmMappingEntry}
    {name : String} {x old : CFloat} (i : Nat) (hx : toFloat x = x)
    (h : (mappingFields cfg e)[i]? = some (name.toList, .num x)) :
    readNumber (mappingJson cfg pool e).nullify name old toFloat = restoredNumber x old := by
  rw [readNumber_num i h, hx, restoredNumber]

/-- **An exported object is read back.** -/
theorem readImported_exported {e : AmmMappingEntry} (h : Accepted e) (cfg : TopicConfig)
    (pool : StatePool) (dflt : UInt32) :
    readImported dflt (mappingJson cfg pool e).nullify = reread e := by
  have hfc : readNumber (mappingJson cfg pool e).nullify "function_code" (3 : UInt8) intUInt8 =
      e.functionCode := (readNumber_nat 7 rfl).trans (intUInt8_toNat _)
  have hversion : Fin.ofNat (2 ^ 32) (CFloat.toUInt 32 (.fin (e.semanticProfileVersion.val : ℚ))) =
      e.semanticProfileVersion := by
    rw [CFloat.toUInt_natCast, Nat.mod_eq_of_lt e.semanticProfileVersion.isLt]
    exact Fin.ext (Nat.mod_eq_of_lt e.semanticProfileVersion.isLt)
  unfold readImported reread
  simp only [importDefaults, AmmMappingEntry.zero]
  rw [hfc, readText_str 0 rfl, readNumber_nat 1 rfl, readNumber_nat 2 rfl, readNumber_nat 3 rfl,
    readText_str 4 rfl, readNumber_float 5 h.scale rfl, readNumber_float 6 h.offset rfl,
    readNumber_nat 8 rfl, readNumber_nat 9 rfl, readNumber_nat 10 rfl, readNumber_nat 11 rfl,
    readNumber_nat 12 rfl, readNumber_nat 13 rfl, readNumber_nat 16 rfl, readNumber_nat 17 rfl,
    readNumber_nat 18 rfl, readNumber_nat 19 rfl, readText_str 22 rfl, readNumber_nat 23 rfl,
    readNumber_nat 24 rfl, readText_str 25 rfl, readText_str 26 rfl, readText_str 27 rfl,
    readText_str 28 rfl, readText_str 29 rfl, readText_str 30 rfl, readText_str 31 rfl,
    readText_str 33 rfl, readBool_bool 35 rfl, readNumber_float 36 h.rangeMin rfl,
    readNumber_float 37 h.rangeMax rfl]
  simp only [parseProtocol_name, parseDataTypeName_name, parseTopicMode_name h.topicMode,
    intUInt8_toNat, intUInt16_toNat, doubleUInt32_toNat, intByteOrder_code, CBuf.copy_str, hversion]

/-! ## Which entries survive -/

def exportedPart (e : AmmMappingEntry) : AmmMappingEntry :=
  { e with
    mappingVersion := 0
    objectType := .other 0
    discovered := false
    active := true
    semanticSource := .unresolved
    semanticStatus := .unresolved
    semanticProfileId := .empty
    semanticProfileVersion := 0
    semanticConfidence := 0
    semanticEvidence := .empty }

/-- The entry as a table stores it that was imported from the exported one. -/
def imported (dflt : UInt32) (e : AmmMappingEntry) : AmmMappingEntry :=
  exportedPart (importEntry dflt 0 (reread e))

/-- What it takes of a stored entry to survive the export and the import. -/
structure PortableEntry (e : AmmMappingEntry) : Prop where
  importable : importable e = true
  byteOrder : e.byteOrder.code < 2 ^ 31
  scale : e.scaleFactor.isFinite = true ∧ e.scaleFactor ≠ .fin 0
  offset : e.offset.isFinite = true
  rangeMin : e.constraint.validRangeMin.isFinite = true
  rangeMax : e.constraint.validRangeMax.isFinite = true
  window : OwnWindow e

section Survive

variable {e : AmmMappingEntry}

theorem normalizeWindow_comm (e : AmmMappingEntry) (g : AmmMappingEntry → AmmMappingEntry)
    (hholds : windowHolds (g e) (pointCount (g e)).toNat = windowHolds e (pointCount e).toNat)
    (hown : { g e with
        readStartAddress := (g e).registerAddress
        readRegisterCount := pointCount (g e)
        valueRegisterIndex := 0 } =
      g { e with
        readStartAddress := e.registerAddress
        readRegisterCount := pointCount e
        valueRegisterIndex := 0 }) :
    normalizeWindow (g e) = g (normalizeWindow e) := by
  unfold normalizeWindow
  rw [hholds]
  split
  · rfl
  · exact hown

/-- Of a stored entry the normalisation changes only the window, as far as it is exported. -/
theorem exportedPart_normalize (hmode : e.mqttTopicMode = .auto ∨ e.mqttTopicMode = .custom)
    (hcount : e.retryCount ≠ 0) (hbackoff : e.retryBackoffMs ≠ 0) :
    exportedPart (ammNormalizeReadWindow e) = exportedPart (normalizeWindow e) := by
  rw [ammNormalizeReadWindow, normalizeTopicMode_of hmode, normalizeObjectType_eq,
    normalizeRetries]
  simp only [if_neg hcount, if_neg hbackoff]
  have hcomm := normalizeWindow_comm e (fun x => { x with
    objectType := normalObjectType e.objectType e.functionCode
    semanticConfidence := if e.semanticConfidence > 100 then 100 else e.semanticConfidence })
    rfl rfl
  exact (congrArg exportedPart hcomm).trans rfl

def importedScale (x : CFloat) : CFloat :=
  if restoredNumber x (.fin 1) = .fin 0 then .fin 1 else restoredNumber x (.fin 1)

def changed (e x : AmmMappingEntry) : AmmMappingEntry :=
  { x with
    byteOrder := readableByteOrder e.byteOrder
    scaleFactor := importedScale e.scaleFactor
    offset := restoredNumber e.offset (.fin 0)
    constraint :=
      { writable := e.constraint.writable
        validRangeMin := restoredNumber e.constraint.validRangeMin (.fin 0)
        validRangeMax := restoredNumber e.constraint.validRangeMax (.fin 0) } }

theorem imported_eq (h : Served e) (dflt : UInt32) :
    imported dflt e = exportedPart (changed e (normalizeWindow e)) := by
  have hinterval : withPollInterval dflt { reread e with active := true, mappingVersion := 0 } =
      reread e := if_neg h.interval
  have hscale : (if (reread e).scaleFactor = .fin 0 then { reread e with scaleFactor := .fin 1 }
      else reread e) = { reread e with scaleFactor := importedScale e.scaleFactor } := by
    unfold importedScale
    by_cases hzero : restoredNumber e.scaleFactor (.fin 1) = .fin 0
    · rw [if_pos hzero]
      exact if_pos hzero
    · rw [if_neg hzero]
      exact if_neg hzero
  unfold imported importEntry
  rw [hinterval]
  simp only
  have hnormal :
      exportedPart (ammNormalizeReadWindow
        { reread e with scaleFactor := importedScale e.scaleFactor }) =
      exportedPart (normalizeWindow
        { reread e with scaleFactor := importedScale e.scaleFactor }) :=
    exportedPart_normalize h.topicMode h.retryCount h.retryBackoff
  rw [hscale, hnormal]
  have hcomm := normalizeWindow_comm e (fun x => { changed e x with
    mappingVersion := 0
    discovered := false
    active := true
    objectType := objectTypeOf e.functionCode
    semanticSource := .imported
    semanticStatus := .resolved }) rfl rfl
  exact (congrArg exportedPart hcomm).trans rfl

theorem restoredNumber_eq_iff {x old : CFloat} (hold : old.isFinite = true) :
    restoredNumber x old = x ↔ x.isFinite = true := by
  unfold restoredNumber
  by_cases hx : x.isFinite = true
  · simp [hx]
  · rw [if_neg hx]
    refine iff_of_false (fun heq => hx ?_) hx
    rw [← heq]
    exact hold

theorem importedScale_eq_iff {x : CFloat} :
    importedScale x = x ↔ x.isFinite = true ∧ x ≠ .fin 0 := by
  unfold importedScale restoredNumber
  by_cases hx : x.isFinite = true
  · rw [if_pos hx]
    by_cases hzero : x = .fin 0
    · rw [hzero, if_pos rfl]
      exact iff_of_false (by decide +kernel) fun h => h.2 rfl
    · rw [if_neg hzero]
      exact iff_of_true rfl ⟨hx, hzero⟩
  · rw [if_neg hx, if_neg (by decide +kernel)]
    refine iff_of_false (fun heq => hx ?_) fun h => hx h.1
    rw [← heq]
    rfl

theorem readableByteOrder_eq_iff (h : ByteOrder.ofCode e.byteOrder.code = e.byteOrder) :
    readableByteOrder e.byteOrder = e.byteOrder ↔ e.byteOrder.code < 2 ^ 31 := by
  unfold readableByteOrder
  split
  · rename_i hlt
    exact iff_of_true h hlt
  · rename_i hlt
    refine iff_of_false (fun heq => hlt ?_) hlt
    rw [← heq, code_ofCode]
    decide

/-- **The mapping survives exactly when the entry is portable.** -/
theorem imported_eq_iff (h : Served e) (himportable : importable e = true) (dflt : UInt32) :
    imported dflt e = exportedPart e ↔ PortableEntry e := by
  rw [imported_eq h]
  constructor
  · intro heq
    have hconstraint := congrArg AmmMappingEntry.constraint heq
    have hwindow : OwnWindow e := by
      by_cases hholds : windowHolds e (pointCount e).toNat = true
      · exact .inl hholds
      · rw [normalizeWindow, if_neg hholds] at heq
        exact .inr ⟨(congrArg AmmMappingEntry.readStartAddress heq).symm,
          (congrArg AmmMappingEntry.readRegisterCount heq).symm,
          (congrArg AmmMappingEntry.valueRegisterIndex heq).symm⟩
    have hscale : importedScale e.scaleFactor = e.scaleFactor :=
      congrArg AmmMappingEntry.scaleFactor heq
    have horder : readableByteOrder e.byteOrder = e.byteOrder :=
      congrArg AmmMappingEntry.byteOrder heq
    have hoffset : restoredNumber e.offset (.fin 0) = e.offset :=
      congrArg AmmMappingEntry.offset heq
    have hmin : restoredNumber e.constraint.validRangeMin (.fin 0) = e.constraint.validRangeMin :=
      congrArg ControlConstraint.validRangeMin hconstraint
    have hmax : restoredNumber e.constraint.validRangeMax (.fin 0) = e.constraint.validRangeMax :=
      congrArg ControlConstraint.validRangeMax hconstraint
    exact
      { importable := himportable
        byteOrder := (readableByteOrder_eq_iff h.byteOrder).1 horder
        scale := importedScale_eq_iff.1 hscale
        offset := (restoredNumber_eq_iff rfl).1 hoffset
        rangeMin := (restoredNumber_eq_iff rfl).1 hmin
        rangeMax := (restoredNumber_eq_iff rfl).1 hmax
        window := hwindow }
  · intro hportable
    rw [normalizeWindow_of_own hportable.window, changed,
      (readableByteOrder_eq_iff h.byteOrder).2 hportable.byteOrder,
      importedScale_eq_iff.2 hportable.scale, (restoredNumber_eq_iff rfl).2 hportable.offset,
      (restoredNumber_eq_iff rfl).2 hportable.rangeMin,
      (restoredNumber_eq_iff rfl).2 hportable.rangeMax]

end Survive

/-! ## The way through export and import -/

def importBody (text rest : CStr) : CStr := "\x7b\"mappings\":".toList ++ text ++ rest

/-- The library reads the exported array back, with `null` for what is not finite. -/
structure ReadsExport (lib : JsonLib) (items : List Json) (body : CStr) (root : Json) : Prop where
  parsed : lib.parse body = some root
  mappings : root.getObjectItem "mappings".toList = some (.arr (items.map Json.nullify))

/-- Imported on a new device of that capacity, the profile makes the same mappings. -/
def RoundTrips (lib : JsonLib) (capacity : Nat) (a : AmmTable) (body : CStr) : Prop :=
  (mappingsImportPostHandler lib body .ok (.fresh capacity)).1.status = 200 ∧
    (mappingsImportPostHandler lib body .ok (.fresh capacity)).2.ram.entries.map exportedPart =
      a.entries.map exportedPart

/-- What it takes of a table to survive. -/
structure Portable (a : AmmTable) (body : CStr) : Prop where
  size : body.length ≤ profileLimit
  nonempty : a.entries ≠ []
  names : (a.entries.map AmmMappingEntry.names).Nodup
  entries : ∀ e ∈ a.entries, PortableEntry e

section RoundTrip

variable {lib : JsonLib} {cfg : TopicConfig} {pool : StatePool} {capacity : Nat} {a : AmmTable}
  {body : CStr} {root : Json}

theorem mappingEntryFromJson_exported {e : AmmMappingEntry} (h : Accepted e) (dflt : UInt32) :
    mappingEntryFromJson dflt (mappingJson cfg pool e).nullify =
      if importable e then some (reread e) else none := by
  have hread := readImported_exported h cfg pool dflt
  have hkey : ¬ customKeyOk (reread e) = false := by
    show ¬ customKeyOk e = false
    rw [h.customKey]
    decide
  have htopic : ¬ customTopicOk (reread e) = false := by
    show ¬ customTopicOk e = false
    rw [h.customTopic]
    decide
  rw [mappingJson, nullify_obj] at hread ⊢
  simp only [mappingEntryFromJson, hread, if_neg hkey, if_neg htopic]
  show (if importable e = false then none else some (reread e)) = _
  cases importable e <;> rfl

theorem read_exported (h : ∀ e ∈ a.entries, Accepted e) (dflt : UInt32)
    (entries : List AmmMappingEntry) :
    ((exportedItems cfg pool a).map Json.nullify).mapM (mappingEntryFromJson dflt) = some entries ↔
      (∀ e ∈ a.entries, importable e = true) ∧ entries = a.entries.map reread := by
  have hread : ((exportedItems cfg pool a).map Json.nullify).map (mappingEntryFromJson dflt) =
      a.entries.map fun e => if importable e then some (reread e) else none := by
    rw [exportedItems, List.map_map, List.map_map]
    exact List.map_congr_left fun e he => mappingEntryFromJson_exported (h e he) dflt
  rw [mapM_eq_some_iff, hread]
  constructor
  · intro heq
    have himportable : ∀ e ∈ a.entries, importable e = true := by
      intro e he
      have hmem : (if importable e then some (reread e) else none) ∈ entries.map some := by
        rw [← heq]
        exact List.mem_map_of_mem he
      obtain ⟨x, -, hx⟩ := List.mem_map.1 hmem
      cases himportable : importable e with
      | true => rfl
      | false =>
        rw [himportable] at hx
        cases hx
    refine ⟨himportable, ?_⟩
    have hsome : entries.map some = (a.entries.map reread).map some := by
      rw [← heq, List.map_map]
      refine List.map_congr_left fun e he => ?_
      rw [himportable e he]
      rfl
    exact ((Option.some_injective _).list_map hsome)
  · rintro ⟨himportable, rfl⟩
    rw [List.map_map]
    refine List.map_congr_left fun e he => ?_
    rw [himportable e he]
    rfl

theorem staged_exported (entries : List AmmMappingEntry) :
    (stagedEntries (.empty capacity) 0 (entries.map reread)).map exportedPart =
      entries.map (imported pollIntervalMs) := by
  have hunversioned : ∀ l : List AmmMappingEntry,
      l.map exportedPart = (l.map unversioned).map exportedPart := by
    intro l
    rw [List.map_map]
    rfl
  rw [hunversioned, stagedEntries_unversioned, List.map_map, List.map_map]
  rfl

theorem readsProfile_exported (h : ReadsExport lib (exportedItems cfg pool a) body root)
    (hbody : body ≠ []) (haccepted : ∀ e ∈ a.entries, Accepted e)
    (hlength : a.entries.length ≤ capacity) (entries : List AmmMappingEntry) :
    ReadsProfile lib (.fresh capacity) body root entries ↔
      body.length ≤ profileLimit ∧ a.entries ≠ [] ∧ (∀ e ∈ a.entries, importable e = true) ∧
        entries = a.entries.map reread := by
  have hitems : arrayItems (root.getObjectItem "mappings".toList) =
      (exportedItems cfg pool a).map Json.nullify := by
    rw [h.mappings]
    rfl
  have hempty : (exportedItems cfg pool a).map Json.nullify = [] ↔ a.entries = [] := by
    rw [exportedItems, List.map_eq_nil_iff, List.map_eq_nil_iff]
  have hcount : ((exportedItems cfg pool a).map Json.nullify).length = a.entries.length := by
    rw [exportedItems, List.length_map, List.length_map]
  constructor
  · intro hprofile
    have hread := hprofile.read
    have hne := hprofile.nonempty
    rw [hitems, read_exported haccepted] at hread
    rw [hitems, ne_eq, hempty] at hne
    exact ⟨(parseRequestJson_some hprofile.parsed).2.1, hne, hread⟩
  · rintro ⟨hsize, hne, hread⟩
    have htext : ¬ (body = [] ∨ body.length > profileLimit) :=
      not_or.2 ⟨hbody, Nat.not_lt.2 hsize⟩
    refine ⟨?_, ?_, ?_, ?_⟩
    · rw [parseRequestJson, if_neg htext, h.parsed]
    · rwa [hitems, ne_eq, hempty]
    · rwa [hitems, hcount]
    · rwa [hitems, read_exported haccepted]

theorem reread_names (entries : List AmmMappingEntry) :
    (entries.map reread).map AmmMappingEntry.names = entries.map AmmMappingEntry.names := by
  rw [List.map_map]
  rfl

theorem reread_keys (entries : List AmmMappingEntry) :
    (entries.map reread).map AmmMappingEntry.key = entries.map AmmMappingEntry.key := by
  rw [List.map_map]
  rfl

theorem perform_exported (hkeys : (a.entries.map AmmMappingEntry.key).Nodup)
    (hlength : a.entries.length ≤ capacity) (hne : a.entries ≠ [])
    (himportable : ∀ e ∈ a.entries, importable e = true)
    (hnames : (a.entries.map AmmMappingEntry.names).Nodup) (root : Json) :
    ((AmmStore.fresh capacity).perform (profileCall root (a.entries.map reread)) .ok).1 = .ok ∧
      ((AmmStore.fresh capacity).perform (profileCall root (a.entries.map reread))
        .ok).2.ram.entries.map exportedPart = a.entries.map (imported pollIntervalMs) := by
  have hkeys' : ((a.entries.map reread).map AmmMappingEntry.key).Nodup := by rwa [reread_keys]
  have hconflict : profileConflicts (a.entries.map reread) = false := by
    rwa [profileConflicts_eq_false_iff hkeys', reread_names]
  have himportable' : ∀ x ∈ a.entries.map reread, importable x = true := by
    intro x hx
    obtain ⟨e, he, rfl⟩ := List.mem_map.1 hx
    exact himportable e he
  have hne' : a.entries.map reread ≠ [] := by rwa [ne_eq, List.map_eq_nil_iff]
  have hlength' : (a.entries.map reread).length ≤ capacity := by rwa [List.length_map]
  obtain ⟨hok, htable⟩ := perform_import_fresh hne' hconflict himportable' hlength' hkeys'
    (Json.isTrue (root.getObjectItem "replace_devices".toList))
  refine ⟨hok, ?_⟩
  rw [profileCall, AmmTable.entries, htable, ← staged_exported,
    List.filter_eq_self.2 fun x hx => stagedEntries_active hx]

end RoundTrip

def requestedTable (lib : JsonLib) (capacity : Nat) (requests : List MappingRequest) : AmmTable :=
  (run (MappingRequest.step lib) (.fresh capacity) requests).ram

/-- **Export and import.** After any requests to a new device, the exported table comes
back exactly when it is portable. -/
theorem export_import_iff (lib : JsonLib) (cfg : TopicConfig) (pool : StatePool) (capacity : Nat)
    (requests : List MappingRequest) (rest : CStr) {root : Json}
    (h : ReadsExport lib (exportedItems cfg pool (requestedTable lib capacity requests))
      (importBody (mappingsGetHandler lib cfg pool (requestedTable lib capacity requests)) rest)
      root) :
    RoundTrips lib capacity (requestedTable lib capacity requests)
        (importBody (mappingsGetHandler lib cfg pool (requestedTable lib capacity requests)) rest) ↔
      Portable (requestedTable lib capacity requests)
        (importBody (mappingsGetHandler lib cfg pool (requestedTable lib capacity requests))
          rest) := by
  have hinv : RequestInv capacity (run (MappingRequest.step lib) (.fresh capacity) requests) :=
    (requestInv_fresh capacity).run requests
  generalize ha : requestedTable lib capacity requests = a at h ⊢
  rw [requestedTable] at ha
  have hserved : ∀ e ∈ a.entries, Served e := by
    intro e he
    rw [← ha] at he
    obtain ⟨hmem, hactive⟩ := List.mem_filter.1 he
    exact hinv.entries.ram e hmem hactive
  have haccepted : ∀ e ∈ a.entries, Accepted e := fun e he => (hserved e he).toAccepted
  have hkeys : (a.entries.map AmmMappingEntry.key).Nodup := by
    rw [← ha]
    exact hinv.keys.ram
  have hlength : a.entries.length ≤ capacity := by
    have hfits := hinv.fits.length
    rw [hinv.fits.capacity, ha] at hfits
    exact (List.length_filter_le _ _).trans hfits
  have hbody : importBody (mappingsGetHandler lib cfg pool a) rest ≠ [] := List.cons_ne_nil _ _
  generalize importBody (mappingsGetHandler lib cfg pool a) rest = body at h hbody ⊢
  have hprofile := readsProfile_exported h hbody haccepted hlength
  constructor
  · rintro ⟨hstatus, hsame⟩
    rcases importPost_cases lib body .ok (.fresh capacity) with ⟨root', entries, hread⟩ | hrefused
    · obtain rfl : root = root' :=
        Option.some.inj (h.parsed.symm.trans (parseRequestJson_some hread.parsed).2.2)
      obtain ⟨hsize, hne, himportable, rfl⟩ := (hprofile entries).1 hread
      rw [(hread.handler .ok).1] at hstatus
      have hnames : (a.entries.map AmmMappingEntry.names).Nodup := by
        rw [← reread_names, ← profileConflicts_eq_false_iff (by rwa [reread_keys])]
        exact perform_import_conflict hstatus
      rw [(hread.handler .ok).2,
        (perform_exported hkeys hlength hne himportable hnames root).2] at hsame
      have hentries := List.map_inj_left.1 hsame
      exact ⟨hsize, hne, hnames, fun e he =>
        (imported_eq_iff (hserved e he) (himportable e he) _).1 (hentries e he)⟩
    · exact absurd hstatus hrefused.1
  · rintro ⟨hsize, hne, hnames, hentries⟩
    have himportable : ∀ e ∈ a.entries, importable e = true :=
      fun e he => (hentries e he).importable
    have hread := (hprofile _).2 ⟨hsize, hne, himportable, rfl⟩
    obtain ⟨hok, hmade⟩ := perform_exported hkeys hlength hne himportable hnames root
    refine ⟨(hread.handler .ok).1.2 hok, ?_⟩
    rw [(hread.handler .ok).2, hmade]
    refine List.map_congr_left fun e he => ?_
    exact (imported_eq_iff (hserved e he) (himportable e he) _).2 (hentries e he)

def discoveredPower : DiscoveredMapping where
  sourceProtocol := .modbusRtu
  channelId := 0
  slaveId := 1
  functionCode := 3
  registerAddress := 0
  dataType := .uint16
  byteOrderName := none
  scaleFactor := .fin 1
  offset := .fin 0
  pollIntervalMs := 1000
  priority := 5
  readStartAddress := 0
  readRegisterCount := 1
  valueRegisterIndex := 0
  deviceId := .copy 32 "meter".toList
  pointId := .copy 32 "power".toList
  measurementName := .copy 32 "power".toList
  unit := .copy 16 "W".toList
  constraint := ⟨false, .fin 0, .fin 0⟩
  semanticSource := .profile
  semanticStatus := .resolved
  semanticConfidence := 90
  semanticProfileId := .copy 32 "meter".toList
  semanticProfileVersion := 1
  semanticEvidence := .copy 48 "profile".toList

def sampleTopics : TopicConfig := ⟨"factory/data".toList, "gw".toList⟩

def profileOf (a : AmmTable) : Json :=
  .obj [("mappings".toList, .arr (exportedItems sampleTopics (.empty 8) a))]

theorem profileOf_reads (a : AmmTable) :
    ReadsExport (.knowing [profileOf a]) (exportedItems sampleTopics (.empty 8) a)
      (importBody (mappingsGetHandler (.knowing [profileOf a]) sampleTopics (.empty 8) a)
        "\x7d".toList) (profileOf a).nullify where
  parsed := by
    have hrender : (profileOf a).render = importBody
        (mappingsGetHandler (.knowing [profileOf a]) sampleTopics (.empty 8) a) "\x7d".toList := by
      unfold profileOf importBody mappingsGetHandler
      rw [Json.render, Json.renderFields, Json.render, renderItems_eq]
      rfl
    rw [← hrender]
    exact knowing_parse _
  mappings := by
    rw [profileOf, nullify_obj, List.map_singleton, nullify_arr]
    rfl

def discoveredTable : AmmTable :=
  requestedTable (.knowing []) 64 [.discoverApply [discoveredPower] .ok]

def discoveredLib : JsonLib := .knowing [profileOf discoveredTable]

theorem discovered_round_trip : RoundTrips discoveredLib 64
    (requestedTable discoveredLib 64 [.discoverApply [discoveredPower] .ok])
    (importBody (mappingsGetHandler discoveredLib sampleTopics (.empty 8)
      (requestedTable discoveredLib 64 [.discoverApply [discoveredPower] .ok])) "\x7d".toList) := by
  have htable : requestedTable discoveredLib 64 [.discoverApply [discoveredPower] .ok] =
      discoveredTable := rfl
  have hreads := profileOf_reads discoveredTable
  rw [← htable] at hreads
  refine (export_import_iff _ _ _ _ _ _ hreads).2 ?_
  rw [htable]
  refine ⟨by decide +kernel, by decide +kernel, by decide +kernel, fun e he => ?_⟩
  have hentries : discoveredTable.entries =
      [{ discoveredPower.entry with mappingVersion := 1 }] := by decide +kernel
  have he : e ∈ discoveredTable.entries := he
  rw [hentries, List.mem_singleton] at he
  rw [he]
  exact
    { importable := by decide +kernel
      byteOrder := by decide
      scale := by decide +kernel
      offset := by decide +kernel
      rangeMin := by decide +kernel
      rangeMax := by decide +kernel
      window := .inl (by decide +kernel) }

/-- A posted mapping with the function code that writes a register. -/
def postedRoot : Json :=
  .obj [("slave_id".toList, jsonNat 1), ("function_code".toList, jsonNat 6),
    ("device_id".toList, .str "meter".toList), ("point_id".toList, .str "power".toList)]

def postedTable : AmmTable :=
  requestedTable (.knowing [postedRoot]) 64 [.post postedRoot.render .ok .ok]

/-- A library that reads the request, its export and the export of a new device. -/
def postedLib : JsonLib := .knowing [postedRoot, profileOf postedTable, profileOf (.empty 64)]

def exportAnswer (requests : List MappingRequest) : Response :=
  (mappingsImportPostHandler postedLib
    (importBody (mappingsGetHandler postedLib sampleTopics (.empty 8)
      (requestedTable postedLib 64 requests)) "\x7d".toList) .ok (.fresh 64)).1

/-- A device without mappings exports a profile that is refused, and so does one
that took the posted mapping. -/
theorem exports_not_imported :
    exportAnswer [] = errorResponse 400 "Mapping count exceeds runtime capacity".toList ∧
      ¬ RoundTrips postedLib 64 (requestedTable postedLib 64 [])
        (importBody (mappingsGetHandler postedLib sampleTopics (.empty 8)
          (requestedTable postedLib 64 [])) "\x7d".toList) ∧
      (mappingsPostHandler postedLib postedRoot.render .ok .ok (.fresh 64)).1 = okResponse ∧
      exportAnswer [.post postedRoot.render .ok .ok] = importFailure .invalidArg := by
  unfold RoundTrips
  decide +kernel

end McpGateway.Web
