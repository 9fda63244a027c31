import McpGateway.Amm.Plan
import McpGateway.Amm.Schema
import McpGateway.Lib.Durable

/-!
# The AMM partition

The keys of the namespace `amm_mapping`, and the functions of `amm_mapping.c`
that write and read them. Every `nvs_set_*` and `nvs_erase_key` takes effect at
once or fails; opening a handle and `nvs_commit` can only fail. A namespace that
does not exist is one without keys. `nvs_get_blob` is one read of a blob with its
length; the rollback blob is a list of entries.
-/

namespace McpGateway.Amm

open McpGateway.Lib McpGateway.Tcm

structure AmmNvs where
  count : Option Int
  schema : Option Nat
  pollMs : Option UInt32
  entry : Nat → Option Blob
  rollbackCount : Option Int
  rollback : Option (List AmmMappingEntry)

/-- `nvs_erase_all`, or a new partition. -/
def AmmNvs.empty : AmmNvs := ⟨none, none, none, fun _ => none, none, none⟩

/-- An error of an NVS call itself: none of the codes that have another meaning. -/
structure NvsFault where
  code : EspErr
  fails : code ≠ .ok ∧ code ≠ .notFound ∧ code ≠ .notSupported ∧ code ≠ .nvsNotFound

def NvsFault.fail : NvsFault := ⟨.fail, by decide⟩

/-- The answers of the NVS calls of a function, by their number. -/
abbrev NvsCalls := Nat → Option NvsFault

def NvsCalls.ok : NvsCalls := fun _ => none

def codeOf : Option NvsFault → EspErr
  | none => .ok
  | some e => e.code

/-! ## Single calls -/

namespace AmmNvs

def setCount (count : Nat) (n : AmmNvs) : AmmNvs := { n with count := some count }
def setSchema (n : AmmNvs) : AmmNvs := { n with schema := some ammNvsSchemaVersion }
def setPollMs (ms : UInt32) (n : AmmNvs) : AmmNvs := { n with pollMs := some ms }
def setEntry (i : Nat) (e : AmmMappingEntry) (n : AmmNvs) : AmmNvs :=
  { n with entry := Function.update n.entry i (some (.current e)) }
def eraseEntry (i : Nat) (n : AmmNvs) : AmmNvs := { n with entry := Function.update n.entry i none }
def setRollbackCount (count : Nat) (n : AmmNvs) : AmmNvs := { n with rollbackCount := some count }
def setRollback (table : List AmmMappingEntry) (n : AmmNvs) : AmmNvs :=
  { n with rollback := some table }
def eraseRollbackCount (n : AmmNvs) : AmmNvs := { n with rollbackCount := none }
def eraseRollback (n : AmmNvs) : AmmNvs := { n with rollback := none }

end AmmNvs

/-- A function that makes these calls and stops at the first error. -/
def durably (f : NvsCalls) (calls : List (AmmNvs → AmmNvs)) (n : AmmNvs) : EspErr × AmmNvs :=
  (codeOf (attempt f 0 calls n).1, (attempt f 0 calls n).2)

/-! ## Saving -/

/-- `nvs_open_from_partition` and `nvs_commit`. -/
def openHandle : AmmNvs → AmmNvs := id
def commit : AmmNvs → AmmNvs := id

/-- The calls of `amm_save_entry_to_nvs_unlocked`. -/
def entryCalls (count i : Nat) (e : AmmMappingEntry) : List (AmmNvs → AmmNvs) :=
  [openHandle, .setCount count, .setSchema, .setEntry i e, commit]

/-- `amm_save_entry_to_nvs_unlocked`. -/
def ammSaveEntryToNvs (f : NvsCalls) (i : Nat) (a : AmmTable) (n : AmmNvs) : EspErr × AmmNvs :=
  match a.table[i]? with
  | none => (.invalidArg, n)
  | some e => durably f (entryCalls a.table.length i e) n

/-- The blobs of a table from slot `i` on. -/
def blobCalls : Nat → List AmmMappingEntry → List (AmmNvs → AmmNvs)
  | _, [] => []
  | i, e :: es => .setEntry i e :: blobCalls (i + 1) es

/-- The calls of `amm_save_table_to_nvs_unlocked`; slots from the new count up
to `oldCount` are erased. -/
def tableCalls (dflt : UInt32) (table : List AmmMappingEntry) (oldCount : Nat) :
    List (AmmNvs → AmmNvs) :=
  [openHandle, .setCount table.length, .setSchema, .setPollMs dflt] ++ blobCalls 0 table ++
    (List.range' table.length (oldCount - table.length)).map AmmNvs.eraseEntry ++ [commit]

/-- `amm_save_table_to_nvs_unlocked` with `s_mapping_count = oldCount`. -/
def ammSaveTableToNvs (f : NvsCalls) (dflt : UInt32) (table : List AmmMappingEntry)
    (capacity oldCount : Nat) (n : AmmNvs) : EspErr × AmmNvs :=
  if table.length > capacity then (.invalidArg, n)
  else durably f (tableCalls dflt table oldCount) n

/-- The calls of `amm_clear_mappings`; without a snapshot every key is erased. -/
def clearCalls (dflt : UInt32) (oldCount : Nat) : List (AmmNvs → AmmNvs) :=
  openHandle ::
    ((if oldCount > ammRollbackMaxEntries then [fun _ => .empty] else []) ++
      [.setCount 0, .setSchema, .setPollMs dflt, commit])

/-- The first part of `amm_save_rollback_unlocked`: both keys of the snapshot
are erased, the second one also when the first call failed. -/
def dropRollback (f : NvsCalls) (n : AmmNvs) : Option NvsFault × AmmNvs :=
  match f 0 with
  | some e => (some e, n)
  | none =>
    let n₁ := if (f 1).isSome then n else n.eraseRollbackCount
    let n₂ := if (f 2).isSome then n₁ else n₁.eraseRollback
    ((f 1).or ((f 2).or (f 3)), n₂)

def rollbackCalls (table : List AmmMappingEntry) : List (AmmNvs → AmmNvs) :=
  [openHandle, .setRollbackCount table.length, .setRollback table, commit]

/-- `amm_save_rollback_unlocked`. -/
def ammSaveRollbackToNvs (f : NvsCalls) (a : AmmTable) (n : AmmNvs) : EspErr × AmmNvs :=
  if a.table = [] then (.notFound, n)
  else if a.table.length > ammRollbackMaxEntries then
    match dropRollback f n with
    | (some e, n) => (e.code, n)
    | (none, n) => (.notSupported, n)
  else durably f (rollbackCalls a.table) n

/-! ## Reading -/

/-- What `amm_rollback` reads back; a blob shorter than its count is filled up with zeros. -/
def readRollback (f : NvsCalls) (capacity : Nat) (n : AmmNvs) : SnapshotRead :=
  match f 0, f 1 with
  | some e, _ | none, some e => .error e.code
  | none, none =>
    match n.rollbackCount with
    | none => .error .nvsNotFound
    | some count =>
      if count ≤ 0 ∨ count > capacity then .error .invalidSize
      else match f 2, n.rollback with
        | some e, _ => .error e.code
        | none, none => .error .nvsNotFound
        | none, some blob =>
          if blob.length > count.toNat then .error .nvsInvalidLength
          else .ok (blob ++ List.replicate (count.toNat - blob.length) .zero)

/-- A snapshot read back: the stored blob, filled up to the stored count. -/
theorem readRollback_ok {f : NvsCalls} {capacity : Nat} {n : AmmNvs}
    {table : List AmmMappingEntry} (h : readRollback f capacity n = .ok table) :
    ∃ count blob, n.rollbackCount = some count ∧ 0 < count ∧ count ≤ capacity ∧
      n.rollback = some blob ∧ blob.length ≤ count.toNat ∧
      table = blob ++ List.replicate (count.toNat - blob.length) .zero := by
  unfold readRollback at h
  split at h
  · cases h
  · cases h
  · split at h
    · cases h
    · rename_i count hcount
      split at h
      · cases h
      · rename_i hrange
        split at h
        · cases h
        · cases h
        · rename_i blob _ hblob
          split at h
          · cases h
          · rename_i hlen
            cases h
            exact ⟨count, blob, hcount, by omega, by omega, hblob, by omega, rfl⟩

theorem readRollback_error {f : NvsCalls} {capacity : Nat} {n : AmmNvs} {err : EspErr}
    (h : readRollback f capacity n = .error err) : err ≠ .ok := by
  unfold readRollback at h
  split at h
  · rename_i e _
    cases h
    exact e.fails.1
  · rename_i e _ _
    cases h
    exact e.fails.1
  · split at h
    · cases h
      nofun
    · split at h
      · cases h
        nofun
      · split at h
        · rename_i e _
          cases h
          exact e.fails.1
        · cases h
          nofun
        · split at h <;> cases h
          nofun

def loadSlot (f : NvsCalls) (schema : Nat) (n : AmmNvs) (i : Nat) : Except EspErr AmmMappingEntry :=
  match f (4 + 2 * i), n.entry i with
  | some e, _ => .error e.code
  | none, none => .error .nvsNotFound
  | none, some blob =>
    match loadBlob schema blob, f (5 + 2 * i) with
    | .error e, _ => .error e
    | .ok _, some e => .error e.code
    | .ok entry, none => .ok entry

/-- The slots from `i` on. -/
def loadSlots (f : NvsCalls) (schema : Nat) (n : AmmNvs) :
    Nat → Nat → Except EspErr (List AmmMappingEntry)
  | _, 0 => .ok []
  | i, k + 1 =>
    match loadSlot f schema n i, loadSlots f schema n (i + 1) k with
    | .error e, _ | .ok _, .error e => .error e
    | .ok entry, .ok entries => .ok (entry :: entries)

/-- The model version that loaded slots give: the greatest of theirs, at least 1. -/
def loadedVersion (table : List AmmMappingEntry) : SeqId :=
  table.foldl (fun v e => max v e.mappingVersion) 1

/-- The default interval that the partition gives, if it stores a valid one. -/
def loadedPollMs (f : NvsCalls) (n : AmmNvs) (dflt : UInt32) : UInt32 :=
  match f 1, n.pollMs with
  | none, some ms => if 100 ≤ ms ∧ ms ≤ 3600000 then ms else dflt
  | _, _ => dflt

/-- `s_loaded_schema_version`. -/
def loadedSchema (f : NvsCalls) (n : AmmNvs) : Nat :=
  if (f 2).isSome then 0 else n.schema.getD 0

def ammLoadFromNvs (f : NvsCalls) (n : AmmNvs) (a : AmmTable) : EspErr × AmmTable :=
  match f 0 with
  | some e => (e.code, a)
  | none =>
    let dflt := loadedPollMs f n a.defaultPollMs
    let a := { a with defaultPollMs := dflt }
    match f 3, n.count with
    | some e, _ => (e.code, a)
    | none, none => (.notFound, a)
    | none, some count =>
      if count < 0 ∨ count > a.capacity then (.invalidSize, a)
      else match loadSlots f (loadedSchema f n) n 0 count.toNat with
        | .error e => (e, { a with table := [] })
        | .ok entries =>
          (.ok,
            { a with
              table := entries.map (loadedEntry dflt)
              modelVersion := loadedVersion (entries.map (loadedEntry dflt)) })

/-! ## What a load reads -/

section Load

variable {f : NvsCalls} {schema : Nat} {n : AmmNvs} {i k : Nat}

theorem loadSlot_ok {e : AmmMappingEntry} (h : loadSlot f schema n i = .ok e) :
    ∃ blob, n.entry i = some blob ∧ loadBlob schema blob = .ok e := by
  unfold loadSlot at h
  split at h
  · cases h
  · cases h
  · rename_i blob _ hblob
    split at h
    · cases h
    · cases h
    · rename_i entry hentry _
      cases h
      exact ⟨blob, hblob, hentry⟩

theorem loadBlob_error {blob : Blob} {err : EspErr} (h : loadBlob schema blob = .error err) :
    err = .invalidSize := by
  cases blob with
  | current e =>
    rw [loadBlob] at h
    split at h <;> cases h
    rfl
  | legacy bytes =>
    rw [loadBlob] at h
    split at h
    · cases h
    · split at h
      · cases h
      · split at h
        · cases h
        · split at h
          · cases h
          · split at h <;> cases h
            rfl

theorem loadSlot_error {err : EspErr} (h : loadSlot f schema n i = .error err) : err ≠ .ok := by
  unfold loadSlot at h
  split at h
  · rename_i e _
    cases h
    exact e.fails.1
  · cases h
    nofun
  · split at h
    · rename_i e he
      cases h
      rw [loadBlob_error he]
      nofun
    · rename_i e _ _
      cases h
      exact e.fails.1
    · cases h

theorem loadSlots_ok {entries : List AmmMappingEntry} (h : loadSlots f schema n i k = .ok entries) :
    entries.length = k ∧
      ∀ (j : Nat) (e : AmmMappingEntry), entries[j]? = some e →
        loadSlot f schema n (i + j) = .ok e := by
  induction k generalizing i entries with
  | zero =>
    cases h
    exact ⟨rfl, fun j e he => absurd he (by simp)⟩
  | succ k ih =>
    rw [loadSlots] at h
    split at h
    · cases h
    · cases h
    · rename_i entry rest hentry hrest
      cases h
      obtain ⟨hlen, hslots⟩ := ih hrest
      refine ⟨by rw [List.length_cons, hlen], fun j e he => ?_⟩
      cases j with
      | zero =>
        cases he
        exact hentry
      | succ j =>
        rw [Nat.add_succ, ← Nat.succ_add]
        exact hslots j e he

theorem loadSlots_error {err : EspErr} (h : loadSlots f schema n i k = .error err) : err ≠ .ok := by
  induction k generalizing i err with
  | zero => cases h
  | succ k ih =>
    rw [loadSlots] at h
    split at h
    · rename_i e he
      cases h
      exact loadSlot_error he
    · rename_i _ e _ he
      cases h
      exact ih he
    · cases h

/-- A load ends with an error, with the table as it was or empty, or it reads
every slot below the stored count. -/
theorem load_cases (f : NvsCalls) (n : AmmNvs) (a : AmmTable) :
    ((ammLoadFromNvs f n a).1 ≠ .ok ∧
        ((ammLoadFromNvs f n a).2.table = a.table ∨ (ammLoadFromNvs f n a).2.table = [])) ∨
      ∃ count entries, n.count = some count ∧ 0 ≤ count ∧ count ≤ a.capacity ∧
        loadSlots f (loadedSchema f n) n 0 count.toNat = .ok entries ∧
        ammLoadFromNvs f n a =
          (.ok,
            { a with
              defaultPollMs := loadedPollMs f n a.defaultPollMs
              table := entries.map (loadedEntry (loadedPollMs f n a.defaultPollMs))
              modelVersion :=
                loadedVersion (entries.map (loadedEntry (loadedPollMs f n a.defaultPollMs))) }) := by
  unfold ammLoadFromNvs
  cases h0 : f 0 with
  | some e => exact .inl ⟨e.fails.1, .inl rfl⟩
  | none =>
    simp only
    cases h3 : f 3 with
    | some e => exact .inl ⟨e.fails.1, .inl rfl⟩
    | none =>
      cases hcount : n.count with
      | none => exact .inl ⟨nofun, .inl rfl⟩
      | some count =>
        simp only
        by_cases hrange : count < 0 ∨ count > a.capacity
        · rw [if_pos hrange]
          exact .inl ⟨nofun, .inl rfl⟩
        · rw [if_neg hrange]
          cases hslots : loadSlots f (loadedSchema f n) n 0 count.toNat with
          | error e => exact .inl ⟨loadSlots_error hslots, .inr rfl⟩
          | ok entries => exact .inr ⟨count, entries, rfl, by omega, by omega, hslots, rfl⟩

end Load

end McpGateway.Amm
