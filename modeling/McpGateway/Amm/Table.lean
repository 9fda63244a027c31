import McpGateway.Amm.Mapping

/-!
# The mapping table

The operations of `amm_mapping.c` on the table in memory. What the NVS calls
answer is an argument (`NvsAnswers`), and so is what `amm_rollback` reads
back; staging buffers are always allocated.
-/

namespace McpGateway.Amm

open McpGateway.Lib McpGateway.Tcm

/-- `s_mapping_table` up to `s_mapping_count`, with the other statics. -/
structure AmmTable where
  table : List AmmMappingEntry
  capacity : Nat
  modelVersion : SeqId
  defaultPollMs : UInt32

def pollIntervalMs : UInt32 := 1000

/-- The table `amm_init` starts with on empty flash. -/
def AmmTable.empty (capacity : Nat) : AmmTable :=
  { table := [], capacity := capacity, modelVersion := 0, defaultPollMs := pollIntervalMs }

/-- How the NVS calls of one operation end: those of the rollback snapshot and
those that save the entry or the table. -/
structure NvsAnswers where
  snapshot : EspErr
  save : EspErr

def NvsAnswers.ok : NvsAnswers := ⟨.ok, .ok⟩

def ammSnapshotPermitsMutation (err : EspErr) : Bool :=
  err = .ok || err = .notFound || err = .notSupported

/-- `amm_save_rollback_unlocked`: its result. -/
def ammSaveRollback (nvs : NvsAnswers) (a : AmmTable) : EspErr :=
  if a.table = [] then .notFound
  else if a.table.length > ammRollbackMaxEntries then
    if nvs.snapshot ≠ .ok then nvs.snapshot else .notSupported
  else nvs.snapshot

def withPollInterval (dflt : UInt32) (e : AmmMappingEntry) : AmmMappingEntry :=
  if e.pollIntervalMs = 0 then { e with pollIntervalMs := dflt } else e

def AmmTable.stored (a : AmmTable) (e : AmmMappingEntry) : AmmMappingEntry :=
  withPollInterval a.defaultPollMs
    { ammNormalizeReadWindow { e with active := true } with mappingVersion := a.modelVersion + 1 }

/-- Puts an entry into a slot under a new version. -/
def AmmTable.store (a : AmmTable) (i : Nat) (e : AmmMappingEntry) : AmmTable :=
  { a with table := a.table.set i (a.stored e), modelVersion := a.modelVersion + 1 }

def ammAddMapping (nvs : NvsAnswers) (e : AmmMappingEntry) (a : AmmTable) : EspErr × AmmTable :=
  let snapshot := ammSaveRollback nvs a
  match a.table.findIdx? fun x => x.active && ammSamePhysicalPoint x e with
  | some i =>
    if ammSnapshotPermitsMutation snapshot = false then (snapshot, a)
    else (nvs.save, a.store i e)
  | none =>
    if ammSnapshotPermitsMutation snapshot = false then (snapshot, a)
    else match a.table.findIdx? fun x => !x.active with
      | some i => (nvs.save, a.store i e)
      | none =>
        if a.table.length ≥ a.capacity then (.noMem, a)
        else
          (nvs.save,
            { a with table := a.table ++ [a.stored e], modelVersion := a.modelVersion + 1 })

/-- The body of the two remove functions, which differ in what they look for. -/
def ammRemoveWhere (sought : AmmMappingEntry → Bool) (nvs : NvsAnswers) (a : AmmTable) :
    EspErr × AmmTable :=
  match a.table.findIdx? fun x => x.active && sought x with
  | none => (.notFound, a)
  | some i =>
    let snapshot := ammSaveRollback nvs a
    if ammSnapshotPermitsMutation snapshot = false then (snapshot, a)
    else
      (nvs.save,
        { a with
          table := a.table.modify i fun x => { x with active := false }
          modelVersion := a.modelVersion + 1 })

def ammRemoveMapping (slaveId : UInt8) (regAddr : UInt16) :
    NvsAnswers → AmmTable → EspErr × AmmTable :=
  ammRemoveWhere fun x => decide (x.slaveId = slaveId) && decide (x.registerAddress = regAddr)

def ammRemoveMappingForChannel (protocol : SourceProtocol) (channelId slaveId : UInt8)
    (regAddr : UInt16) : NvsAnswers → AmmTable → EspErr × AmmTable :=
  ammRemoveWhere fun x =>
    decide (x.sourceProtocol = protocol) && decide (x.channelId = channelId) &&
      decide (x.slaveId = slaveId) && decide (x.registerAddress = regAddr)

def ammClearMappings (nvs : NvsAnswers) (a : AmmTable) : EspErr × AmmTable :=
  let snapshot := ammSaveRollback nvs a
  if ammSnapshotPermitsMutation snapshot = false then (snapshot, a)
  else if nvs.save ≠ .ok then (nvs.save, a)
  else (.ok, { a with table := [], modelVersion := a.modelVersion + 1 })

def ammUpdateMapping (nvs : NvsAnswers) (index : Int) (e : AmmMappingEntry) (a : AmmTable) :
    EspErr × AmmTable :=
  if index < 0 ∨ index ≥ a.capacity then (.invalidArg, a)
  else match a.table[index.toNat]? with
    | none => (.notFound, a)
    | some old =>
      if old.active = false then (.notFound, a)
      else
        let snapshot := ammSaveRollback nvs a
        if ammSnapshotPermitsMutation snapshot = false then (snapshot, a)
        else (nvs.save, a.store index.toNat e)

def ammSetPollIntervalAll (nvs : NvsAnswers) (ms : UInt32) (a : AmmTable) : EspErr × AmmTable :=
  if ms < 100 ∨ ms > 3600000 then (.invalidArg, a)
  else
    let snapshot := ammSaveRollback nvs a
    if ammSnapshotPermitsMutation snapshot = false then (snapshot, a)
    else
      (nvs.save,
        { a with
          defaultPollMs := ms
          modelVersion := a.modelVersion + 1
          table := a.table.map fun x =>
            if x.active then { x with pollIntervalMs := ms, mappingVersion := a.modelVersion + 1 }
            else x })

/-- `amm_rollback` with the snapshot read back from flash. -/
def ammRollback (read : Except EspErr (List AmmMappingEntry)) (nvs : NvsAnswers) (a : AmmTable) :
    EspErr × AmmTable :=
  match read with
  | .error e => (e, a)
  | .ok snapshot =>
    if snapshot = [] ∨ snapshot.length > a.capacity then (.invalidSize, a)
    else
      (nvs.save,
        { a with
          table := snapshot.map fun x => { x with mappingVersion := a.modelVersion + 1 }
          modelVersion := a.modelVersion + 1 })

/-! ## Import -/

def ammImportContainsDevice (entries : List AmmMappingEntry) (c : AmmMappingEntry) : Bool :=
  entries.any fun e =>
    decide (e.sourceProtocol = c.sourceProtocol) && decide (e.channelId = c.channelId) &&
      decide (e.slaveId = c.slaveId)

/-- Two entries of a profile that agree in only one of source and names. -/
def profileConflict (a b : AmmMappingEntry) : Bool :=
  ammSamePhysicalPoint a b != decide (a.names = b.names)

def profileConflicts : List AmmMappingEntry → Bool
  | [] => false
  | e :: es => es.any (profileConflict e) || profileConflicts es

/-- What the import loop carries along. -/
structure Staging where
  table : List AmmMappingEntry
  modelVersion : SeqId
  imported : Nat

/-- The entries kept from the old table; `none` when they exceed the capacity. -/
def stageKept (a : AmmTable) (entries : List AmmMappingEntry) (replaceDevices : Bool) :
    Option (List AmmMappingEntry) :=
  let kept := a.table.filter fun x =>
    x.active && !(replaceDevices && ammImportContainsDevice entries x)
  if kept.length > a.capacity then none else some kept

def importable (e : AmmMappingEntry) : Bool :=
  decide (1 ≤ e.slaveId) && decide (1 ≤ e.functionCode) && decide (e.functionCode ≤ 4) &&
    decide (e.deviceId.str ≠ []) && decide (e.pointId.str ≠ [])

def importEntry (dflt : UInt32) (version : SeqId) (e : AmmMappingEntry) : AmmMappingEntry :=
  let e := withPollInterval dflt { e with active := true, mappingVersion := version }
  ammNormalizeReadWindow
    (if e.scaleFactor = .fin 0 then { e with scaleFactor := .fin 1 } else e)

/-- The user's entry at the same physical point overlays a staged one. -/
def overlayUser (table : List AmmMappingEntry) (e : AmmMappingEntry) : AmmMappingEntry :=
  match table.find? fun x =>
      x.active && decide (x.semanticSource = .user) && ammSamePhysicalPoint x e with
  | some user => ammOverlayUserSemantics user e
  | none => e

/-- Replaces the staged entry at the same physical point, or appends. -/
def stageEntry (capacity : Nat) (table : List AmmMappingEntry) (e : AmmMappingEntry) :
    Option (List AmmMappingEntry) :=
  match table.findIdx? fun x => ammSamePhysicalPoint x e with
  | some i => some (table.set i e)
  | none => if table.length < capacity then some (table ++ [e]) else none

def importLoop (a : AmmTable) : List AmmMappingEntry → Staging → Except EspErr Staging
  | [], st => .ok st
  | e :: es, st =>
    if importable e = false then .error .invalidArg
    else
      let version := st.modelVersion + 1
      let staged := overlayUser a.table (importEntry a.defaultPollMs version e)
      match stageEntry a.capacity st.table staged with
      | none => .error .noMem
      | some table => importLoop a es ⟨table, version, st.imported + 1⟩

/-- `amm_import_mappings`: its result, the imported count and the table. -/
def ammImportMappings (nvs : NvsAnswers) (entries : List AmmMappingEntry) (replaceDevices : Bool)
    (a : AmmTable) : EspErr × Nat × AmmTable :=
  if entries = [] then (.invalidArg, 0, a)
  else if profileConflicts entries then (.invalidState, 0, a)
  else if ammSnapshotPermitsMutation (ammSaveRollback nvs a) = false ∧ a.table ≠ [] then
    (.fail, 0, a)
  else match stageKept a entries replaceDevices with
    | none => (.noMem, 0, a)
    | some kept =>
      match importLoop a entries ⟨kept, a.modelVersion, 0⟩ with
      | .error e => (e, 0, a)
      | .ok st =>
        if nvs.save ≠ .ok then (nvs.save, 0, a)
        else (.ok, st.imported, { a with table := st.table, modelVersion := st.modelVersion })

/-! ## Lookups -/

/-- The active entries, in slot order: `amm_get_entries`, `amm_get_entry_at`
and `amm_get_mapping_count` together. -/
def AmmTable.entries (a : AmmTable) : List AmmMappingEntry := a.table.filter AmmMappingEntry.active

def ammFindMappingForObject (key : PhysicalKey) (a : AmmTable) : Option AmmMappingEntry :=
  a.entries.find? fun x => x.key = key

def ammFindMappingForChannel (protocol : SourceProtocol) (channelId slaveId : UInt8)
    (regAddr : UInt16) (a : AmmTable) : Option AmmMappingEntry :=
  a.entries.find? fun x =>
    decide (x.sourceProtocol = protocol) && decide (x.channelId = channelId) &&
      decide (x.slaveId = slaveId) && decide (x.registerAddress = regAddr)

def ammFindMappingByPoint (deviceId pointId : CStr) (a : AmmTable) : Option AmmMappingEntry :=
  a.entries.find? fun x => x.names = (deviceId, pointId)

/-- `amm_enrich_context` with the entry its lookup found. -/
def enrichWith (e : AmmMappingEntry) (ctx : TcmContext) : TcmContext :=
  { ctx with
    deviceId := e.deviceId
    pointId := e.pointId
    measurementName := e.measurementName
    unit := e.unit
    controlConstraint := e.constraint
    sourceProtocol := e.sourceProtocol
    channelId := e.channelId
    dataType := e.dataType
    byteOrder := e.byteOrder
    scaleFactor := e.scaleFactor
    offset := e.offset
    mappingVersion := e.mappingVersion
    objectType := e.objectType
    semanticSource := e.semanticSource
    semanticStatus := e.semanticStatus
    semanticProfileId := e.semanticProfileId
    semanticProfileVersion := e.semanticProfileVersion
    semanticConfidence := e.semanticConfidence
    semanticEvidence := e.semanticEvidence
    gatewayPropertyKey := e.gatewayPropertyKey
    rawValue := ctx.value
    value := (ctx.value.mul e.scaleFactor).add e.offset }

def contextKey (ctx : TcmContext) : PhysicalKey :=
  ⟨ctx.sourceProtocol, ctx.channelId, ctx.slaveId, ctx.functionCode, ctx.registerAddress⟩

/-- `amm_enrich_context`; a context without a mapping stays as it is. -/
def ammEnrichContext (a : AmmTable) (ctx : TcmContext) : EspErr × TcmContext :=
  match ammFindMappingForObject (contextKey ctx) a with
  | none => (.notFound, ctx)
  | some e => (.ok, enrichWith e ctx)

/-! ## Operations -/

/-- The operations that change the table, with their arguments. -/
inductive AmmOp
  | add (nvs : NvsAnswers) (e : AmmMappingEntry)
  | remove (nvs : NvsAnswers) (slaveId : UInt8) (regAddr : UInt16)
  | removeForChannel (nvs : NvsAnswers) (protocol : SourceProtocol) (channelId slaveId : UInt8)
    (regAddr : UInt16)
  | clear (nvs : NvsAnswers)
  | update (nvs : NvsAnswers) (index : Int) (e : AmmMappingEntry)
  | setPollIntervalAll (nvs : NvsAnswers) (ms : UInt32)
  | import (nvs : NvsAnswers) (entries : List AmmMappingEntry) (replaceDevices : Bool)
  | rollback (nvs : NvsAnswers) (read : Except EspErr (List AmmMappingEntry))

def AmmOp.apply : AmmOp → AmmTable → AmmTable
  | .add nvs e, a => (ammAddMapping nvs e a).2
  | .remove nvs slaveId regAddr, a => (ammRemoveMapping slaveId regAddr nvs a).2
  | .removeForChannel nvs protocol channelId slaveId regAddr, a =>
    (ammRemoveMappingForChannel protocol channelId slaveId regAddr nvs a).2
  | .clear nvs, a => (ammClearMappings nvs a).2
  | .update nvs index e, a => (ammUpdateMapping nvs index e a).2
  | .setPollIntervalAll nvs ms, a => (ammSetPollIntervalAll nvs ms a).2
  | .import nvs entries replaceDevices, a => (ammImportMappings nvs entries replaceDevices a).2.2
  | .rollback nvs read, a => (ammRollback read nvs a).2

/-! ## Reachable tables -/

/-- The tables that `amm_add_mapping` and `amm_import_mappings` make of an
empty one, whatever the NVS calls answer. -/
inductive Reachable : AmmTable → Prop
  | empty (capacity : Nat) : Reachable (.empty capacity)
  | add {a : AmmTable} (nvs : NvsAnswers) (e : AmmMappingEntry) :
      Reachable a → Reachable (ammAddMapping nvs e a).2
  | import {a : AmmTable} (nvs : NvsAnswers) (entries : List AmmMappingEntry)
      (replaceDevices : Bool) :
      Reachable a → Reachable (ammImportMappings nvs entries replaceDevices a).2.2

end McpGateway.Amm
