import McpGateway.Amm.Rebuild

/-!
# Migration of older schemas

What the entries of schemas 2, 4, 5 and 6 mean as entries of today (`meaning`),
and for which images `amm_load_from_nvs` loads just that. Schema 6 is copied as
a true prefix. Schema 5 ends in padding that the copy puts into the next field,
schema 4 gets object types of its own, and schema 2 is copied as a prefix which
it is not: its fields stand four bytes earlier.
-/

namespace McpGateway.Amm

open McpGateway.Lib McpGateway.Tcm

/-! ## Schemas and their meaning -/

inductive OldSchema
  | v2 | v4 | v5 | v6
  deriving DecidableEq

namespace OldSchema

def number : OldSchema → Nat
  | .v2 => 2
  | .v4 => 4
  | .v5 => 5
  | .v6 => 6

def fields : OldSchema → List AmmField
  | .v2 => fieldsV2
  | .v4 => fieldsV4
  | .v5 => fieldsV5
  | .v6 => fieldsV6

def ownWindow (e : AmmMappingEntry) : AmmMappingEntry :=
  { e with
    readStartAddress := e.registerAddress
    readRegisterCount := ammPointRegisterCount e.dataType
    valueRegisterIndex := 0 }

/-- The entry that an image stands for: the fields its structure has, the object
type of the function code and an empty property key where they are missing, and
the read window, the provenance and the topic mode that go with the schema. -/
def meaning (v : OldSchema) (bytes : List UInt8) : AmmMappingEntry :=
  let e := entryIn v.fields bytes
  match v with
  | .v2 => ownWindow { e with objectType := objectTypeOf e.functionCode }
  | .v4 =>
    { e with
      objectType := objectTypeOf e.functionCode
      semanticSource := .imported
      semanticStatus := .resolved
      semanticConfidence := 100
      semanticEvidence := .copy 48 "schema-v4 migration".toList }
  | .v5 => e
  | .v6 => migrateTopicMode e

end OldSchema

/-! ## Bytes of a missing field -/

section Bytes

/-- A field has the same bytes, or zeros where there were none. -/
def SameBytes (r r' : AmmField → List UInt8) (f : AmmField) : Prop :=
  r f = r' f ∨ ∃ j, r f = List.replicate j 0 ∧ r' f = []

variable {r r' : AmmField → List UInt8} {f : AmmField}

theorem SameBytes.nat (h : SameBytes r r' f) : leNat (r f) = leNat (r' f) := by
  rcases h with h | ⟨j, hzero, hnone⟩
  · rw [h]
  · rw [hzero, hnone, leNat_replicate_zero]
    rfl

theorem SameBytes.string (h : SameBytes r r' f) (n : Nat) [NeZero n] :
    stringOf n (r f) = stringOf n (r' f) := by
  rcases h with h | ⟨j, hzero, hnone⟩
  · rw [h]
  · rw [hzero, hnone]
    cases j <;> rfl

theorem SameBytes.float (h : SameBytes r r' f) : floatOf (r f) = floatOf (r' f) := by
  rw [floatOf, h.nat, floatOf]

theorem SameBytes.bool (h : SameBytes r r' f) : boolOf (r f) = boolOf (r' f) := by
  rw [boolOf, h.nat, boolOf]

theorem SameBytes.constraint (h : SameBytes r r' f) :
    constraintOf (r f) = constraintOf (r' f) := by
  rcases h with h | ⟨j, hzero, hnone⟩
  · rw [h]
  · rw [hzero, hnone]
    simp only [constraintOf, List.take_replicate, List.drop_replicate, List.take_nil,
      List.drop_nil, boolOf, floatOf, leNat_replicate_zero]
    rfl

theorem entryOf_congr (h : ∀ f, SameBytes r r' f) : entryOf r = entryOf r' := by
  simp only [entryOf, fun f => (h f).nat, fun f => (h f).float, fun f => (h f).bool,
    fun f => (h f).constraint, fun f n [NeZero n] => (h f).string n]

theorem entryOf_key (r : AmmField → List UInt8) (bytes : List UInt8) :
    entryOf (Function.update r .gatewayPropertyKey bytes) =
      { entryOf r with gatewayPropertyKey := stringOf 64 bytes } := rfl

end Bytes

/-! ## Prefix copies -/

section Prefix

variable {fs gs : List AmmField} {bytes : List UInt8} {f : AmmField}

/-- An image filled up to the size of today's entry. -/
def padded (bytes : List UInt8) : List UInt8 :=
  bytes ++ List.replicate (sizeOfFields fieldsV7 - bytes.length) 0

theorem sameBytes_of_prefix (gs : List AmmField) (hfields : fieldsV7 = fs ++ gs)
    (hlen : endOfFields AmmField.ctype 0 fs ≤ bytes.length) (hf : f ∈ fs) :
    SameBytes (readField AmmField.ctype fieldsV7 (padded bytes))
      (readField AmmField.ctype fs bytes) f := by
  left
  rw [hfields]
  exact readField_prefix gs _ ctype_align_pos hlen hf

theorem sameBytes_of_past {o : Nat} (ho : offsetOf? AmmField.ctype fieldsV7 f = some o)
    (hlen : bytes.length ≤ o) (hf : offsetOf? AmmField.ctype fs f = none) :
    SameBytes (readField AmmField.ctype fieldsV7 (padded bytes))
      (readField AmmField.ctype fs bytes) f := by
  obtain ⟨j, hj⟩ := readField_past (k := sizeOfFields fieldsV7 - bytes.length) ho hlen
  refine .inr ⟨j, hj, ?_⟩
  rw [readField, hf]

/-- Schema 6 is a prefix of today's. -/
theorem copied_v6 (hlen : bytes.length = sizeOfFields fieldsV6) :
    copiedEntry bytes = entryIn fieldsV6 bytes := by
  refine entryOf_congr fun f => ?_
  by_cases hf : f = .mqttTopicMode
  · subst hf
    exact sameBytes_of_past (o := 468) (by decide) (by rw [hlen]; decide +kernel) (by decide)
  · refine sameBytes_of_prefix [.mqttTopicMode] rfl (by rw [hlen]; decide +kernel) ?_
    revert hf
    cases f <;> decide

/-- Schema 5 is a prefix too, but for the padding behind its last field. -/
theorem copied_v5 (hlen : bytes.length = sizeOfFields fieldsV5) :
    copiedEntry bytes =
      { entryIn fieldsV5 bytes with
        gatewayPropertyKey :=
          stringOf 64 (readField AmmField.ctype fieldsV7 (padded bytes) .gatewayPropertyKey) } := by
  rw [entryIn, ← entryOf_key]
  refine entryOf_congr fun f => ?_
  by_cases hkey : f = .gatewayPropertyKey
  · subst hkey
    left
    rw [Function.update_self]
    rfl
  · have hupdate : ∀ b, Function.update (readField AmmField.ctype fieldsV5 bytes)
        .gatewayPropertyKey b f = readField AmmField.ctype fieldsV5 bytes f :=
      fun b => by rw [Function.update_of_ne hkey]
    unfold SameBytes
    rw [hupdate]
    by_cases hf : f = .mqttTopicMode
    · subst hf
      exact sameBytes_of_past (o := 468) (by decide) (by rw [hlen]; decide +kernel) (by decide)
    · refine sameBytes_of_prefix [.gatewayPropertyKey, .mqttTopicMode] rfl
        (by rw [hlen]; decide +kernel) ?_
      revert hf hkey
      cases f <;> decide

/-- The key that is copied from the padding is empty when its first byte is 0. -/
theorem paddingKey_iff (hlen : bytes.length = sizeOfFields fieldsV5) :
    stringOf 64 (readField AmmField.ctype fieldsV7 (padded bytes) .gatewayPropertyKey) =
      CBuf.empty ↔ bytes[401]? = some 0 := by
  have hlt : 401 < bytes.length := by
    rw [hlen]
    decide +kernel
  have hread : readField AmmField.ctype fieldsV7 (padded bytes) .gatewayPropertyKey =
      bytes[401] :: ((padded bytes).drop 402).take 63 := by
    have hoffset : offsetOf? AmmField.ctype fieldsV7 .gatewayPropertyKey = some 401 := by decide
    have hsize : AmmField.ctype .gatewayPropertyKey = ⟨64, 1⟩ := rfl
    have hdrop : (padded bytes).drop 401 = bytes[401] :: (padded bytes).drop 402 := by
      have hpadded : 401 < (padded bytes).length := by
        rw [padded, List.length_append]
        omega
      rw [List.drop_eq_getElem_cons hpadded]
      congr 1
      exact List.getElem_append_left hlt
    rw [readField, hoffset, hsize]
    show ((padded bytes).drop 401).take 64 = _
    rw [hdrop]
    rfl
  rw [hread, List.getElem?_eq_getElem hlt, Option.some.injEq]
  by_cases hzero : bytes[401] = 0
  · rw [hzero]
    exact iff_of_true rfl rfl
  · refine iff_of_false (fun h => ?_) hzero
    have hstr := congrArg CBuf.str h
    simp only [stringOf, List.takeWhile_cons, ne_eq, hzero, not_false_eq_true, decide_true,
      if_true, List.map_cons] at hstr
    cases hstr

end Prefix

/-! ## The parts of an entry -/

section Parts

/-- The fields before `object_type`, which stand at the same place in every schema. -/
def headOf (e : AmmMappingEntry) :=
  (e.mappingVersion, e.sourceProtocol, e.channelId, e.slaveId, e.functionCode, e.registerAddress,
    e.dataType, e.byteOrder)

/-- The fields of schema 2 behind them. -/
def bodyOf (e : AmmMappingEntry) :=
  (e.scaleFactor, e.offset, e.pollIntervalMs, e.priority, e.discovered, e.deviceId, e.pointId,
    e.measurementName, e.unit, e.mqttTopic, e.constraint, e.active)

def restOf (e : AmmMappingEntry) :=
  (e.readStartAddress, e.readRegisterCount, e.valueRegisterIndex, e.bitIndex, e.stringLength,
    e.retryCount, e.retryBackoffMs, e.semanticSource, e.semanticStatus, e.semanticProfileId,
    e.semanticProfileVersion, e.semanticConfidence, e.semanticEvidence, e.gatewayPropertyKey,
    e.mqttTopicMode)

theorem entry_ext {e e' : AmmMappingEntry} (hhead : headOf e = headOf e')
    (hobject : e.objectType = e'.objectType) (hbody : bodyOf e = bodyOf e')
    (hrest : restOf e = restOf e') : e = e' := by
  cases e
  cases e'
  simp only [headOf, bodyOf, restOf, Prod.mk.injEq] at hhead hobject hbody hrest
  simp only [hhead, hobject, hbody, hrest]

variable {bytes : List UInt8}

theorem sameBytes_v2 (hlen : bytes.length = sizeOfFields fieldsV2) {f : AmmField}
    (hf : f ∉ AmmField.objectType :: fieldsBody) :
    SameBytes (readField AmmField.ctype fieldsV7 (padded bytes))
      (readField AmmField.ctype fieldsV2 bytes) f := by
  have hshort : endOfFields AmmField.ctype 0 fieldsHead ≤ bytes.length := by
    rw [hlen]
    decide +kernel
  by_cases hhead : f ∈ fieldsHead
  · left
    have htoday := readField_prefix (.objectType :: fieldsBody ++ fieldsWindow ++
      fieldsIndustrial ++ [.gatewayPropertyKey, .mqttTopicMode])
      (List.replicate (sizeOfFields fieldsV7 - bytes.length) 0) ctype_align_pos hshort hhead
    have hthen := readField_prefix fieldsBody [] ctype_align_pos hshort hhead
    rw [List.append_nil] at hthen
    exact htoday.trans hthen.symm
  · have hpast : (offsetOf? AmmField.ctype fieldsV7 f).any (fun o => decide (296 ≤ o)) = true ∧
        offsetOf? AmmField.ctype fieldsV2 f = none := by
      revert hf hhead
      cases f <;> decide +kernel
    obtain ⟨o, ho, hle⟩ := (Option.any_eq_true _ _).1 hpast.1
    refine sameBytes_of_past ho ?_ hpast.2
    rw [hlen]
    exact Nat.le_trans (by decide +kernel) (of_decide_eq_true hle)

theorem copied_v2_head (hlen : bytes.length = sizeOfFields fieldsV2) :
    headOf (copiedEntry bytes) = headOf (entryIn fieldsV2 bytes) := by
  have h := fun f hf => sameBytes_v2 (f := f) hlen hf
  show headOf (entryOf (readField AmmField.ctype fieldsV7 (padded bytes))) = _
  simp only [headOf, entryIn, entryOf, (h .mappingVersion (by decide)).nat,
    (h .sourceProtocol (by decide)).nat, (h .channelId (by decide)).nat,
    (h .slaveId (by decide)).nat, (h .functionCode (by decide)).nat,
    (h .registerAddress (by decide)).nat, (h .dataType (by decide)).nat,
    (h .byteOrder (by decide)).nat]

theorem copied_v2_rest (hlen : bytes.length = sizeOfFields fieldsV2) :
    restOf (copiedEntry bytes) = restOf (entryIn fieldsV2 bytes) := by
  have h := fun f hf => sameBytes_v2 (f := f) hlen hf
  show restOf (entryOf (readField AmmField.ctype fieldsV7 (padded bytes))) = _
  simp only [restOf, entryIn, entryOf, (h .readStartAddress (by decide)).nat,
    (h .readRegisterCount (by decide)).nat, (h .valueRegisterIndex (by decide)).nat,
    (h .bitIndex (by decide)).nat, (h .stringLength (by decide)).nat,
    (h .retryCount (by decide)).nat, (h .retryBackoffMs (by decide)).nat,
    (h .semanticSource (by decide)).nat, (h .semanticStatus (by decide)).nat,
    (h .semanticProfileId (by decide)).string, (h .semanticProfileVersion (by decide)).nat,
    (h .semanticConfidence (by decide)).nat, (h .semanticEvidence (by decide)).string,
    (h .gatewayPropertyKey (by decide)).string, (h .mqttTopicMode (by decide)).nat]

end Parts

/-! ## What is loaded -/

/-- The entry that `amm_load_from_nvs` makes of an image, before its defaults. -/
def OldSchema.copied : OldSchema → List UInt8 → AmmMappingEntry
  | .v2, bytes => migrateV2 (copiedEntry bytes)
  | .v4, bytes => migrateV4 (entryIn fieldsV4 bytes)
  | .v5, bytes => copiedEntry bytes
  | .v6, bytes => migrateTopicMode (copiedEntry bytes)

/-- The image of schema 2 reads the same, after the defaults, where the fields
of today's entry stand. -/
structure ReadsShifted (dflt : UInt32) (bytes : List UInt8) : Prop where
  objectType :
    normalObjectType (copiedEntry bytes).objectType (copiedEntry bytes).functionCode =
      objectTypeOf (copiedEntry bytes).functionCode
  body : bodyOf (withScale (withPollInterval dflt (copiedEntry bytes))) =
    bodyOf (withScale (withPollInterval dflt (entryIn fieldsV2 bytes)))

/-- The images that are loaded as they are meant: all of schema 6; of schema 5
those whose first byte of padding is 0; of schema 4 those that are no coils and
no discrete inputs; of schema 2 those that read the same four bytes later. -/
def OldSchema.Keeps (dflt : UInt32) (bytes : List UInt8) : OldSchema → Prop
  | .v2 => ReadsShifted dflt bytes
  | .v4 => (entryIn fieldsV4 bytes).functionCode ≠ 1 ∧ (entryIn fieldsV4 bytes).functionCode ≠ 2
  | .v5 => bytes[401]? = some 0
  | .v6 => True

section Loaded

variable {bytes : List UInt8} {dflt : UInt32}

theorem bodyOf_loadedEntry (dflt : UInt32) (e : AmmMappingEntry) :
    bodyOf (loadedEntry dflt e) = bodyOf (withScale (withPollInterval dflt e)) := by
  rw [loadedEntry_eq]
  exact normalize_keeps bodyOf (fun _ _ => rfl) (fun _ _ => rfl) (fun _ _ _ _ => rfl)
    (fun _ _ _ _ => rfl) _

theorem loadedEntry_objectType (dflt : UInt32) (e : AmmMappingEntry) :
    (loadedEntry dflt e).objectType = normalObjectType e.objectType e.functionCode := by
  rw [loadedEntry_eq, normalize_objectType, defaults_eq]

theorem bodyOf_defaults_congr {e e' : AmmMappingEntry} (h : bodyOf e = bodyOf e') :
    bodyOf (withScale (withPollInterval dflt e)) =
      bodyOf (withScale (withPollInterval dflt e')) := by
  simp only [bodyOf, Prod.mk.injEq] at h
  simp only [defaults_eq, bodyOf, h]

theorem ownWindow_rest {e e' : AmmMappingEntry} (hhead : headOf e = headOf e')
    (hrest : restOf e = restOf e') :
    restOf (OldSchema.ownWindow e) = restOf (OldSchema.ownWindow e') := by
  simp only [headOf, restOf, Prod.mk.injEq] at hhead hrest
  simp only [OldSchema.ownWindow, restOf, hhead, hrest]

/-- Two entries that differ in object type and body, loaded with their own windows. -/
theorem loaded_own_iff {c o : AmmMappingEntry} (hhead : headOf c = headOf o)
    (hrest : restOf c = restOf o) :
    loadedEntry dflt (OldSchema.ownWindow c) =
        loadedEntry dflt
          (OldSchema.ownWindow { o with objectType := objectTypeOf o.functionCode }) ↔
      normalObjectType c.objectType c.functionCode = objectTypeOf c.functionCode ∧
        bodyOf (withScale (withPollInterval dflt c)) =
          bodyOf (withScale (withPollInterval dflt o)) := by
  have hcode : c.functionCode = o.functionCode := congrArg (fun p => p.2.2.2.2.1) hhead
  constructor
  · intro h
    constructor
    · have hobject := congrArg AmmMappingEntry.objectType h
      rw [loadedEntry_objectType, loadedEntry_objectType] at hobject
      rw [hcode, ← normalObjectType_objectTypeOf, ← hcode]
      rwa [← hcode] at hobject
    · have hbody := congrArg bodyOf h
      rw [bodyOf_loadedEntry, bodyOf_loadedEntry] at hbody
      have hleft : bodyOf (OldSchema.ownWindow c) = bodyOf c := rfl
      have hright : bodyOf (OldSchema.ownWindow
          { o with objectType := objectTypeOf o.functionCode }) = bodyOf o := rfl
      rwa [bodyOf_defaults_congr hleft, bodyOf_defaults_congr hright] at hbody
  · rintro ⟨hobject, hbody⟩
    have hwindow : restOf (OldSchema.ownWindow c) =
        restOf (OldSchema.ownWindow { o with objectType := objectTypeOf o.functionCode }) :=
      ownWindow_rest hhead hrest
    have hsame : withScale (withPollInterval dflt (OldSchema.ownWindow c)) =
        { withScale (withPollInterval dflt
            (OldSchema.ownWindow { o with objectType := objectTypeOf o.functionCode })) with
          objectType := c.objectType } := by
      rw [defaults_eq, defaults_eq] at hbody ⊢
      exact entry_ext hhead rfl hbody hwindow
    rw [loadedEntry_eq, loadedEntry_eq, hsame]
    refine normalize_congr_objectType ?_
    rw [defaults_eq]
    show normalObjectType c.objectType o.functionCode =
      normalObjectType (objectTypeOf o.functionCode) o.functionCode
    rw [← hcode, hobject, normalObjectType_objectTypeOf]

theorem loaded_v2_iff (hlen : bytes.length = sizeOfFields fieldsV2) :
    loadedEntry dflt (OldSchema.v2.copied bytes) = loadedEntry dflt (OldSchema.v2.meaning bytes) ↔
      ReadsShifted dflt bytes := by
  have hcopied : OldSchema.v2.copied bytes =
      ammNormalizeReadWindow (OldSchema.ownWindow (copiedEntry bytes)) := rfl
  rw [hcopied, loadedEntry_normalize]
  refine (loaded_own_iff (copied_v2_head hlen) (copied_v2_rest hlen)).trans ?_
  exact ⟨fun h => ⟨h.1, h.2⟩, fun h => ⟨h.objectType, h.body⟩⟩

theorem v4_objectType_iff (functionCode : UInt8) :
    (if functionCode = 4 then ObjectType.inputRegister else .holdingRegister) =
      objectTypeOf functionCode ↔ functionCode ≠ 1 ∧ functionCode ≠ 2 := by
  unfold objectTypeOf
  by_cases hrange : 1 ≤ functionCode ∧ functionCode ≤ 4
  · rw [if_pos hrange]
    have hcases : functionCode = 1 ∨ functionCode = 2 ∨ functionCode = 3 ∨ functionCode = 4 := by
      simp only [← UInt8.toNat_inj, UInt8.le_iff_toNat_le] at hrange ⊢
      have hone : (1 : UInt8).toNat = 1 := rfl
      have htwo : (2 : UInt8).toNat = 2 := rfl
      have hthree : (3 : UInt8).toNat = 3 := rfl
      have hfour : (4 : UInt8).toNat = 4 := rfl
      omega
    rcases hcases with rfl | rfl | rfl | rfl <;> decide
  · rw [if_neg hrange]
    have hne : functionCode ≠ 4 ∧ functionCode ≠ 1 ∧ functionCode ≠ 2 := by
      refine ⟨?_, ?_, ?_⟩ <;> rintro rfl <;> exact hrange (by decide)
    rw [if_neg hne.1]
    exact iff_of_true rfl hne.2

theorem loaded_v4_iff :
    loadedEntry dflt (OldSchema.v4.copied bytes) = loadedEntry dflt (OldSchema.v4.meaning bytes) ↔
      (entryIn fieldsV4 bytes).functionCode ≠ 1 ∧ (entryIn fieldsV4 bytes).functionCode ≠ 2 := by
  have hcopied : OldSchema.v4.copied bytes = ammNormalizeReadWindow
      { OldSchema.v4.meaning bytes with
        objectType := if (entryIn fieldsV4 bytes).functionCode = 4 then .inputRegister
          else .holdingRegister } := rfl
  have htype : (OldSchema.v4.meaning bytes).objectType =
      objectTypeOf (entryIn fieldsV4 bytes).functionCode := rfl
  rw [hcopied, loadedEntry_normalize, ← v4_objectType_iff]
  constructor
  · intro h
    have hobject := congrArg AmmMappingEntry.objectType h
    rw [loadedEntry_objectType, loadedEntry_objectType, htype] at hobject
    have hvalid : ∀ (p : Prop) [Decidable p] (code : UInt8),
        normalObjectType (if p then .inputRegister else .holdingRegister) code =
          if p then .inputRegister else .holdingRegister := by
      intro p _ code
      split <;> rfl
    have hmeant := normalObjectType_objectTypeOf (entryIn fieldsV4 bytes).functionCode
    exact (hvalid _ _).symm.trans (hobject.trans hmeant)
  · intro h
    rw [h, ← htype]

theorem propertyKey_isIdentity : IsIdentity AmmMappingEntry.gatewayPropertyKey := by
  constructor <;> intros <;> rfl

theorem loaded_v5_iff (hlen : bytes.length = sizeOfFields fieldsV5) :
    loadedEntry dflt (OldSchema.v5.copied bytes) = loadedEntry dflt (OldSchema.v5.meaning bytes) ↔
      bytes[401]? = some 0 := by
  have hmeaning : OldSchema.v5.meaning bytes = entryIn fieldsV5 bytes := rfl
  have hempty : (entryIn fieldsV5 bytes).gatewayPropertyKey = CBuf.empty := rfl
  rw [← paddingKey_iff hlen, OldSchema.copied, copied_v5 hlen, hmeaning]
  constructor
  · intro h
    have hkey := congrArg AmmMappingEntry.gatewayPropertyKey h
    rwa [propertyKey_isIdentity.loadedEntry, propertyKey_isIdentity.loadedEntry] at hkey
  · intro h
    rw [h, ← hempty]

/-- No active entry of schema 2 is among them: the copy leaves every entry inactive. -/
theorem ReadsShifted.inactive (h : ReadsShifted dflt bytes)
    (hlen : bytes.length = sizeOfFields fieldsV2) : (entryIn fieldsV2 bytes).active = false := by
  have hoffset : offsetOf? AmmField.ctype fieldsV7 .active = some 296 := by decide
  have hpast : bytes.length ≤ 296 := by
    rw [hlen]
    decide +kernel
  obtain ⟨j, hj⟩ := readField_past (k := sizeOfFields fieldsV7 - bytes.length) hoffset hpast
  have hcopied : (copiedEntry bytes).active = false := by
    show boolOf (readField AmmField.ctype fieldsV7 _ .active) = false
    rw [hj, boolOf, leNat_replicate_zero]
    rfl
  have hbody := h.body
  rw [defaults_eq, defaults_eq] at hbody
  simp only [bodyOf, Prod.mk.injEq] at hbody
  rw [← hcopied]
  exact hbody.2.2.2.2.2.2.2.2.2.2.2.symm

/-- An accepted image is loaded as it is meant exactly when it is one of `Keeps`. -/
theorem loaded_iff {v : OldSchema} (hlen : bytes.length = sizeOfFields v.fields) :
    loadedEntry dflt (v.copied bytes) = loadedEntry dflt (v.meaning bytes) ↔
      v.Keeps dflt bytes := by
  cases v with
  | v2 => exact loaded_v2_iff hlen
  | v4 => exact loaded_v4_iff
  | v5 => exact loaded_v5_iff hlen
  | v6 =>
    have hsame : OldSchema.v6.copied bytes = OldSchema.v6.meaning bytes := by
      rw [OldSchema.copied, copied_v6 hlen]
      rfl
    rw [hsame]
    exact iff_of_true rfl trivial

theorem loadBlob_legacy {v : OldSchema} (hlen : bytes.length = sizeOfFields v.fields) :
    loadBlob v.number (.legacy bytes) = .ok (v.copied bytes) := by
  obtain ⟨h2, h4, h5, h6, h7, -⟩ := sizes
  rw [loadBlob, h2, h4, h5, h6, h7]
  cases v with
  | v2 =>
    rw [show bytes.length = 296 from hlen.trans h2]
    rfl
  | v4 =>
    rw [show bytes.length = 300 from hlen.trans h4]
    rfl
  | v5 =>
    rw [show bytes.length = 404 from hlen.trans h5]
    rfl
  | v6 =>
    rw [show bytes.length = 468 from hlen.trans h6]
    rfl

end Loaded

/-- The partition is an image that schema `v` wrote. -/
structure IsImage (v : OldSchema) (n : AmmNvs) : Prop where
  schema : n.schema = some v.number
  entry : ∀ i blob, n.entry i = some blob →
    ∃ bytes, blob = .legacy bytes ∧ bytes.length = sizeOfFields v.fields

/-- **Migration.** When a load accepts an image of schema 2, 4, 5 or 6, it gives
the entry that slot `i` means, with the defaults of every load, exactly when
the bytes of the slot are among those that `Keeps` names. -/
theorem migration_iff {v : OldSchema} {n : AmmNvs} (h : IsImage v n) {capacity : Nat}
    (hok : (ammLoadFromNvs .ok n (.empty capacity)).1 = .ok) {count : Int}
    (hcount : n.count = some count) {i : Nat} (hi : (i : Int) < count) {bytes : List UInt8}
    (hbytes : n.entry i = some (.legacy bytes)) :
    (ammLoadFromNvs .ok n (.empty capacity)).2.table[i]? =
        some (loadedEntry (loadedPollMs .ok n pollIntervalMs) (v.meaning bytes)) ↔
      v.Keeps (loadedPollMs .ok n pollIntervalMs) bytes := by
  have hschema : loadedSchema .ok n = v.number := by
    rw [loadedSchema, h.schema]
    rfl
  obtain ⟨bytes', hsame, hlen⟩ := h.entry i _ hbytes
  obtain rfl := Blob.legacy.inj hsame
  rcases load_cases .ok n (.empty capacity) with ⟨herr, -⟩ |
    ⟨count', entries, hcount', -, -, hslots, heq⟩
  · exact absurd hok herr
  · obtain rfl := Option.some.inj (hcount.symm.trans hcount')
    obtain ⟨hlength, hslot⟩ := loadSlots_ok hslots
    have hlt : i < entries.length := by omega
    obtain ⟨blob, hblob, hload⟩ := loadSlot_ok (hslot i _ (List.getElem?_eq_getElem hlt))
    rw [Nat.zero_add, hbytes] at hblob
    obtain rfl := Option.some.inj hblob
    rw [hschema, loadBlob_legacy hlen] at hload
    rw [heq, ← loaded_iff hlen]
    simp only [List.getElem?_map, List.getElem?_eq_getElem hlt, Option.map_some,
      Option.some.injEq, ← Except.ok.inj hload]
    rfl

def oneSlotImage (v : OldSchema) (bytes : List UInt8) : AmmNvs :=
  { AmmNvs.empty with
    count := some 1
    schema := some v.number
    entry := fun i => if i = 0 then some (.legacy bytes) else none }

theorem oneSlotImage_isImage {v : OldSchema} {bytes : List UInt8}
    (hlen : bytes.length = sizeOfFields v.fields) : IsImage v (oneSlotImage v bytes) where
  schema := rfl
  entry i blob h := by
    simp only [oneSlotImage] at h
    split at h
    · exact ⟨bytes, (Option.some.inj h).symm, hlen⟩
    · cases h

/-- Bytes at their offsets, and zeros between them. -/
def bytesAt (size : Nat) (parts : List (Nat × List UInt8)) : List UInt8 :=
  parts.foldl (fun bytes part => bytes.take part.1 ++ part.2 ++ bytes.drop (part.1 + part.2.length))
    (List.replicate size 0)

/-- Register 16 of slave 5 in schema 4: scaled by 0.1, read every 500 ms, with its names. -/
def registerV4 (functionCode : UInt8) (point : CStr) : List UInt8 :=
  bytesAt 300 [(0, [3]), (8, [1, 5, functionCode]), (12, [16, 0]), (24, [205, 204, 204, 61]),
    (32, [244, 1]), (38, "meter".toList.map fun c => UInt8.ofNat c.toNat),
    (70, point.map fun c => UInt8.ofNat c.toNat), (292, [1])]

def meterV4 : AmmNvs :=
  { oneSlotImage .v4 (registerV4 3 "power".toList) with
    count := some 2
    entry := fun i =>
      [registerV4 3 "power".toList, registerV4 4 "voltage".toList][i]?.map .legacy }

theorem meterV4_isImage : IsImage .v4 meterV4 where
  schema := rfl
  entry i blob h := by
    obtain ⟨bytes, hbytes, rfl⟩ := Option.map_eq_some_iff.1 h
    have hlen : ∀ bytes ∈ [registerV4 3 "power".toList, registerV4 4 "voltage".toList],
        bytes.length = sizeOfFields OldSchema.v4.fields := by decide +kernel
    exact ⟨bytes, rfl, hlen bytes (List.mem_of_getElem? hbytes)⟩

theorem meter_v4_kept :
    ((ammLoadFromNvs .ok meterV4 (.empty 1000)).2.table[1]?.map fun e =>
        (e.active, e.functionCode, e.pollIntervalMs, e.pointId.str)) =
      some (true, 4, 500, "voltage".toList) := by
  have hkeeps : OldSchema.v4.Keeps (loadedPollMs .ok meterV4 pollIntervalMs)
      (registerV4 4 "voltage".toList) := by
    unfold OldSchema.Keeps
    decide +kernel
  rw [(migration_iff meterV4_isImage (by decide +kernel) rfl (by decide) rfl).2 hkeeps]
  decide +kernel

/-- An active entry of schema 2 is loaded as an inactive one. -/
theorem active_v2_lost :
    IsImage .v2 (oneSlotImage .v2 ((List.replicate 296 0).set 292 1)) ∧
      (ammLoadFromNvs .ok (oneSlotImage .v2 ((List.replicate 296 0).set 292 1))
        (.empty 1000)).1 = .ok ∧
      (OldSchema.v2.meaning ((List.replicate 296 0).set 292 1)).active = true ∧
      ((ammLoadFromNvs .ok (oneSlotImage .v2 ((List.replicate 296 0).set 292 1))
        (.empty 1000)).2.table.map AmmMappingEntry.active) = [false] :=
  ⟨oneSlotImage_isImage (by decide +kernel), by decide +kernel, by decide +kernel,
    by decide +kernel⟩

end McpGateway.Amm
