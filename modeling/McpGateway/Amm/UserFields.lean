import McpGateway.Amm.EntryInvariant
import McpGateway.Amm.Reimport

/-!
# What an import leaves of a user's entry

`amm_overlay_user_semantics` copies the user's fields one by one onto the entry
that an import makes of a batch entry. The fields it leaves out come from the
batch.
-/

namespace McpGateway.Amm

open McpGateway.Lib McpGateway.Tcm

/-- The user's engineering fields that the overlay copies. -/
structure OverlaidSame (user e : AmmMappingEntry) : Prop where
  dataType : e.dataType = user.dataType
  byteOrder : e.byteOrder = user.byteOrder
  scaleFactor : e.scaleFactor = user.scaleFactor
  offset : e.offset = user.offset
  readStartAddress : e.readStartAddress = user.readStartAddress
  readRegisterCount : e.readRegisterCount = user.readRegisterCount
  valueRegisterIndex : e.valueRegisterIndex = user.valueRegisterIndex
  pollIntervalMs : e.pollIntervalMs = user.pollIntervalMs
  priority : e.priority = user.priority
  constraint : e.constraint = user.constraint
  deviceId : e.deviceId = user.deviceId
  pointId : e.pointId = user.pointId
  measurementName : e.measurementName = user.measurementName
  unit : e.unit = user.unit
  mqttTopic : e.mqttTopic = user.mqttTopic
  mqttTopicMode : e.mqttTopicMode = user.mqttTopicMode

/-- Those that it leaves as the batch has them. -/
structure OmittedSame (user e : AmmMappingEntry) : Prop where
  bitIndex : e.bitIndex = user.bitIndex
  stringLength : e.stringLength = user.stringLength
  retryCount : e.retryCount = user.retryCount
  retryBackoffMs : e.retryBackoffMs = user.retryBackoffMs
  gatewayPropertyKey : e.gatewayPropertyKey = user.gatewayPropertyKey

/-- All engineering fields are the user's. -/
structure EngineeringSame (user e : AmmMappingEntry) : Prop
  extends OverlaidSame user e, OmittedSame user e

variable {a : AmmTable} {user e : AmmMappingEntry}

/-- The fields of `OmittedSame`. -/
def omittedFields (e : AmmMappingEntry) : UInt8 × UInt8 × UInt8 × UInt16 × CBuf 64 :=
  (e.bitIndex, e.stringLength, e.retryCount, e.retryBackoffMs, e.gatewayPropertyKey)

theorem omittedSame_iff : OmittedSame user e ↔ omittedFields e = omittedFields user := by
  unfold omittedFields
  rw [Prod.mk.injEq, Prod.mk.injEq, Prod.mk.injEq, Prod.mk.injEq]
  constructor
  · exact fun h => ⟨h.bitIndex, h.stringLength, h.retryCount, h.retryBackoffMs,
      h.gatewayPropertyKey⟩
  · rintro ⟨hbit, hlength, hcount, hbackoff, hgateway⟩
    exact ⟨hbit, hlength, hcount, hbackoff, hgateway⟩

theorem omittedFields_normalize (e : AmmMappingEntry) :
    omittedFields (ammNormalizeReadWindow e) = omittedFields (normalizeRetries e) := by
  rw [ammNormalizeReadWindow, normalizeWindow_keeps omittedFields fun _ _ _ _ => rfl,
    normalizeObjectType_eq]
  unfold normalizeTopicMode
  split <;> rfl

theorem omittedFields_importEntry (dflt : UInt32) (v : SeqId) (e : AmmMappingEntry) :
    omittedFields (importEntry dflt v e) = omittedFields (normalizeRetries e) := by
  rw [importEntry, omittedFields_normalize]
  unfold withPollInterval
  split <;> split <;> rfl

theorem userEntry_congr {x : AmmMappingEntry} (h : x.key = user.key) :
    userEntry a.table x = userEntry a.table user := by
  unfold userEntry ammSamePhysicalPoint
  rw [h]

theorem userEntry_isSome (hmem : user ∈ a.table) (hactive : user.active = true)
    (huser : user.semanticSource = .user) : ∃ first, userEntry a.table user = some first := by
  refine Option.isSome_iff_exists.1 (List.find?_isSome.2 ⟨user, hmem, ?_⟩)
  rw [hactive, huser]
  simp [ammSamePhysicalPoint]

/-- After an import the lookup of an imported address finds the last entry of the batch. -/
theorem import_ok_find {nvs : NvsAnswers} {entries : List AmmMappingEntry} {replaceDevices : Bool}
    (hok : (ammImportMappings nvs entries replaceDevices a).1 = .ok) {k : PhysicalKey}
    (hk : k ∈ entries.map AmmMappingEntry.key) :
    ammFindMappingForObject k (ammImportMappings nvs entries replaceDevices a).2.2 =
      lastImported a entries k := by
  have hbatch : k ∈ (importedBatch a entries).map AmmMappingEntry.key := by
    rw [stagedEntries_key]
    exact hk
  obtain ⟨s, hs, -⟩ := lastWith_isSome hbatch
  rw [ammFindMappingForObject, import_ok_entries hok, importResult, addedEntries,
    ← foldl_putKeyed_eq, find?_foldl_putKeyed, lastImported, hs, Option.some_or]

theorem engineeringSame_overlay (user first x : AmmMappingEntry) (v : SeqId) :
    EngineeringSame user { ammOverlayUserSemantics first x with mappingVersion := v } ↔
      OverlaidSame user first ∧ OmittedSame user x := by
  constructor
  · intro h
    have hoverlaid := h.toOverlaidSame
    have homitted := h.toOmittedSame
    refine ⟨?_, ?_⟩
    · cases hoverlaid
      constructor <;> assumption
    · cases homitted
      constructor <;> assumption
  · intro h
    obtain ⟨hoverlaid, homitted⟩ := h
    refine ⟨?_, ?_⟩
    · cases hoverlaid
      constructor <;> assumption
    · cases homitted
      constructor <;> assumption

theorem lastImported_eq {entries : List AmmMappingEntry} {k : PhysicalKey} {e : AmmMappingEntry}
    (h : lastWith AmmMappingEntry.key entries k = some e) :
    ∃ v, lastImported a entries k =
      some { overlayUser a.table (importEntry a.defaultPollMs 0 e) with mappingVersion := v } := by
  have hlast := lastImported_unversioned a entries k
  rw [h] at hlast
  obtain ⟨s, hs, hcanonical⟩ := Option.map_eq_some_iff.1 hlast
  refine ⟨s.mappingVersion, hs.trans (congrArg some ?_)⟩
  exact congrArg (fun x : AmmMappingEntry => { x with mappingVersion := s.mappingVersion }) hcanonical

/-- **An import keeps a user's engineering fields exactly when the batch has the omitted ones.** -/
theorem import_keeps_engineering_iff {nvs : NvsAnswers} {entries : List AmmMappingEntry}
    {replaceDevices : Bool} {a : AmmTable} {user : AmmMappingEntry} (hmem : user ∈ a.table)
    (hactive : user.active = true) (huser : user.semanticSource = .user)
    (hkey : user.key ∈ entries.map AmmMappingEntry.key)
    (hok : (ammImportMappings nvs entries replaceDevices a).1 = .ok) :
    (∃ e, ammFindMappingForObject user.key (ammImportMappings nvs entries replaceDevices a).2.2 =
        some e ∧ EngineeringSame user e) ↔
      (∀ first, userEntry a.table user = some first → OverlaidSame user first) ∧
        ∀ e, lastWith AmmMappingEntry.key entries user.key = some e →
          OmittedSame user (normalizeRetries e) := by
  obtain ⟨first, hfirst⟩ := userEntry_isSome hmem hactive huser
  obtain ⟨e, he, hsame⟩ := lastWith_isSome hkey
  obtain ⟨v, hlast⟩ := lastImported_eq (a := a) he
  have hoverlay : overlayUser a.table (importEntry a.defaultPollMs 0 e) =
      ammOverlayUserSemantics first (importEntry a.defaultPollMs 0 e) := by
    refine overlayUser_of_some ?_
    rw [userEntry_importEntry, userEntry_congr hsame, hfirst]
  rw [hoverlay] at hlast
  have homitted : OmittedSame user (importEntry a.defaultPollMs 0 e) ↔
      OmittedSame user (normalizeRetries e) := by
    rw [omittedSame_iff, omittedSame_iff, omittedFields_importEntry]
  have hkept := engineeringSame_overlay user first (importEntry a.defaultPollMs 0 e) v
  rw [homitted] at hkept
  rw [import_ok_find hok hkey, hlast]
  constructor
  · rintro ⟨x, hx, hengineering⟩
    obtain rfl := Option.some.inj hx
    obtain ⟨hoverlaid, hrest⟩ := hkept.1 hengineering
    refine ⟨fun first' hfirst' => ?_, fun e' he' => ?_⟩
    · obtain rfl := Option.some.inj (hfirst.symm.trans hfirst')
      exact hoverlaid
    · obtain rfl := Option.some.inj (he.symm.trans he')
      exact hrest
  · rintro ⟨hoverlaid, hrest⟩
    exact ⟨_, rfl, hkept.2 ⟨hoverlaid first hfirst, hrest e he⟩⟩

/-- The user's power of the meter, reported under a property key of its own. -/
def powerEntry : AmmMappingEntry :=
  (AmmTable.empty 64).stored { samplePoint with
    semanticSource := .user
    gatewayPropertyKey := .copy 64 "power_w".toList }

def powerTable : AmmTable := (ammAddMapping .ok powerEntry (.empty 64)).2

theorem import_keeps_engineering_power :
    (∃ e, ammFindMappingForObject powerEntry.key
        (ammImportMappings .ok meterProfile true powerTable).2.2 = some e ∧
          EngineeringSame powerEntry e) ↔
      (∀ first, userEntry powerTable.table powerEntry = some first →
        OverlaidSame powerEntry first) ∧
        ∀ e, lastWith AmmMappingEntry.key meterProfile powerEntry.key = some e →
          OmittedSame powerEntry (normalizeRetries e) :=
  have hmem : powerEntry ∈ powerTable.table := by decide +kernel
  have hkey : powerEntry.key ∈ meterProfile.map AmmMappingEntry.key := by decide +kernel
  have hok : (ammImportMappings .ok meterProfile true powerTable).1 = .ok := by decide +kernel
  import_keeps_engineering_iff hmem rfl rfl hkey hok

/-- The profile has no property key for the power, and the import takes the user's away. -/
theorem property_key_lost :
    Reachable powerTable ∧ powerEntry ∈ powerTable.table ∧ powerEntry.active = true ∧
      powerEntry.semanticSource = .user ∧
      powerEntry.key ∈ meterProfile.map AmmMappingEntry.key ∧
      (ammImportMappings .ok meterProfile true powerTable).1 = .ok ∧
      ¬ ∃ e, ammFindMappingForObject powerEntry.key
        (ammImportMappings .ok meterProfile true powerTable).2.2 = some e ∧
          EngineeringSame powerEntry e := by
  refine ⟨.add .ok powerEntry (.empty 64), by decide +kernel, rfl, rfl, by decide +kernel,
    by decide +kernel, ?_⟩
  rintro ⟨e, he, hsame⟩
  have hlost : (ammFindMappingForObject powerEntry.key
      (ammImportMappings .ok meterProfile true powerTable).2.2).map
        AmmMappingEntry.gatewayPropertyKey ≠ some powerEntry.gatewayPropertyKey := by
    decide +kernel
  rw [he] at hlost
  exact hlost (congrArg some hsame.gatewayPropertyKey)

end McpGateway.Amm
