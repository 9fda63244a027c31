import McpGateway.Amm.Persistence
import McpGateway.Amm.PhysicalKeys

/-!
# What an import leaves

`amm_import_mappings` as one expression. Its loops keep entries, replace the
first kept entry of an imported address in place and append the other ones;
`import_ok` says which entries that leaves, in which order.
-/

namespace McpGateway.Amm

open McpGateway.Lib McpGateway.Tcm

/-- The imported entries: each batch entry with its defaults, normalised and overlaid. -/
abbrev importedBatch (a : AmmTable) (entries : List AmmMappingEntry) : List AmmMappingEntry :=
  stagedEntries a a.modelVersion entries

/-- The last imported entry at an address. -/
abbrev lastImported (a : AmmTable) (entries : List AmmMappingEntry) :
    PhysicalKey → Option AmmMappingEntry :=
  lastWith AmmMappingEntry.key (importedBatch a entries)

/-- The last imported entries at the addresses that were not kept. -/
def addedEntries (a : AmmTable) (entries : List AmmMappingEntry) (replaceDevices : Bool) :
    List AmmMappingEntry :=
  newcomers AmmMappingEntry.key (importedBatch a entries) (keptEntries a entries replaceDevices)

/-- Every kept entry at an imported address replaced, then the added ones. -/
def importUnion (a : AmmTable) (entries : List AmmMappingEntry) (replaceDevices : Bool) :
    List AmmMappingEntry :=
  (keptEntries a entries replaceDevices).map (fun x => (lastImported a entries x.key).getD x) ++
    addedEntries a entries replaceDevices

/-- The first kept entry at each imported address replaced, then the added ones. -/
def importResult (a : AmmTable) (entries : List AmmMappingEntry) (replaceDevices : Bool) :
    List AmmMappingEntry :=
  replaceFirsts AmmMappingEntry.key (lastImported a entries) []
      (keptEntries a entries replaceDevices) ++
    addedEntries a entries replaceDevices

section Import

variable {a : AmmTable} {entries : List AmmMappingEntry} {replaceDevices : Bool} {nvs : NvsAnswers}

theorem importLoop_counts {es : List AmmMappingEntry} {st st' : Staging}
    (h : importLoop a es st = .ok st') : st'.imported = st.imported + es.length := by
  induction es generalizing st with
  | nil =>
    cases h
    rfl
  | cons e es ih =>
    rw [importLoop] at h
    split at h
    · cases h
    · simp only at h
      split at h
      · cases h
      · rw [ih h, List.length_cons]
        show st.imported + 1 + es.length = _
        omega

/-- An import that returns `ESP_OK` went through all its entries and was saved. -/
theorem import_ok_cases (h : (ammImportMappings nvs entries replaceDevices a).1 = .ok) :
    entries ≠ [] ∧ ¬ profileConflicts entries = true ∧
      ∃ kept st, stageKept a entries replaceDevices = some kept ∧
        importLoop a entries ⟨kept, a.modelVersion, 0⟩ = .ok st ∧
          ammImportMappings nvs entries replaceDevices a =
            (.ok, st.imported, { a with table := st.table, modelVersion := st.modelVersion }) := by
  unfold ammImportMappings at h ⊢
  split at h
  · cases h
  · rename_i hne
    rw [if_neg hne]
    split at h
    · cases h
    · rename_i hconflict
      rw [if_neg hconflict]
      split at h
      · cases h
      · rename_i hsnapshot
        rw [if_neg hsnapshot]
        split at h
        · cases h
        · rename_i kept hkept
          split at h
          · rename_i err herr
            exact absurd h (importLoop_error herr)
          · rename_i st hloop
            split at h
            · rename_i hsave
              exact absurd h hsave
            · rename_i hsave
              exact ⟨hne, hconflict, kept, st, hkept, hloop, if_neg hsave⟩

theorem importLoop_table {kept : List AmmMappingEntry} {st : Staging}
    (hkept : stageKept a entries replaceDevices = some kept)
    (hloop : importLoop a entries ⟨kept, a.modelVersion, 0⟩ = .ok st) :
    st.table = importResult a entries replaceDevices := by
  rw [(importLoop_ok hloop).1, stageKept_eq hkept]
  exact foldl_putKeyed_eq AmmMappingEntry.key _ _

theorem importResult_perm (a : AmmTable) (entries : List AmmMappingEntry) (replaceDevices : Bool) :
    (importResult a entries replaceDevices).Perm (importedEntries a entries replaceDevices) := by
  have hperm := foldl_putKeyed_perm AmmMappingEntry.key (importedBatch a entries)
    (keptEntries a entries replaceDevices)
  rw [stagedEntries_key, foldl_putKeyed_eq] at hperm
  exact hperm

theorem importResult_active {x : AmmMappingEntry}
    (h : x ∈ importResult a entries replaceDevices) : x.active = true :=
  importedEntries_active ((importResult_perm a entries replaceDevices).subset h)

theorem keptEntries_nodup (h : (a.entries.map AmmMappingEntry.key).Nodup) :
    ((keptEntries a entries replaceDevices).map AmmMappingEntry.key).Nodup := by
  have hsub : (keptEntries a entries replaceDevices).Sublist a.entries :=
    List.monotone_filter_right _ fun x hx => (Bool.and_eq_true_iff.1 hx).1
  exact (hsub.map _).nodup h

/-- With distinct addresses every kept entry is the first at its address. -/
theorem importResult_of_nodup (h : (a.entries.map AmmMappingEntry.key).Nodup) :
    importResult a entries replaceDevices = importUnion a entries replaceDevices := by
  unfold importResult importUnion
  rw [replaceFirsts_of_nodup (keptEntries_nodup h) fun k _ => List.not_mem_nil]

theorem import_ok_entries (h : (ammImportMappings nvs entries replaceDevices a).1 = .ok) :
    (ammImportMappings nvs entries replaceDevices a).2.2.entries =
      importResult a entries replaceDevices := by
  obtain ⟨-, -, kept, st, hkept, hloop, himport⟩ := import_ok_cases h
  rw [himport]
  show st.table.filter AmmMappingEntry.active = _
  rw [importLoop_table hkept hloop, List.filter_eq_self]
  exact fun x hx => importResult_active hx

theorem stageEntry_isSome_iff {capacity : Nat} {table : List AmmMappingEntry} {e : AmmMappingEntry} :
    (∃ table', stageEntry capacity table e = some table') ↔
      e.key ∈ table.map AmmMappingEntry.key ∨ table.length < capacity := by
  unfold stageEntry ammSamePhysicalPoint
  cases hfind : table.findIdx? fun x => decide (x.key = e.key) with
  | some i =>
    obtain ⟨hlt, hi, -⟩ := List.findIdx?_eq_some_iff_getElem.1 hfind
    have hmem : e.key ∈ table.map AmmMappingEntry.key :=
      of_decide_eq_true hi ▸ List.mem_map_of_mem (List.getElem_mem hlt)
    exact iff_of_true ⟨_, rfl⟩ (.inl hmem)
  | none =>
    have hnot : e.key ∉ table.map AmmMappingEntry.key := by
      intro hmem
      obtain ⟨x, hx, hkey⟩ := List.mem_map.1 hmem
      have hx' := List.findIdx?_eq_none_iff.1 hfind x hx
      rw [decide_eq_true hkey] at hx'
      cases hx'
    by_cases hroom : table.length < capacity
    · simp [hroom]
    · simp only [if_neg hroom]
      exact iff_of_false (fun hx => by obtain ⟨t, ht⟩ := hx; cases ht) (not_or.2 ⟨hnot, hroom⟩)

theorem importLoop_room {es : List AmmMappingEntry} {st : Staging}
    (himportable : ∀ e ∈ es, importable e = true)
    (hroom : st.table.length + es.length ≤ a.capacity) :
    ∃ st', importLoop a es st = .ok st' := by
  induction es generalizing st with
  | nil => exact ⟨st, rfl⟩
  | cons e es ih =>
    obtain ⟨hhead, htail⟩ := List.forall_mem_cons.1 himportable
    have hhead' : ¬ importable e = false := by rw [hhead]; decide
    rw [List.length_cons] at hroom
    have hfree : st.table.length < a.capacity := by omega
    obtain ⟨table, htable⟩ := stageEntry_isSome_iff.2 (Or.inr hfree :
      (overlayUser a.table (importEntry a.defaultPollMs (st.modelVersion + 1) e)).key ∈
        st.table.map AmmMappingEntry.key ∨ st.table.length < a.capacity)
    have hlength : table.length ≤ st.table.length + 1 := by
      rw [stageEntry_eq htable]
      exact putKeyed_length _ _
    rw [importLoop, if_neg hhead']
    simp only [htable]
    refine ih htail ?_
    show table.length + es.length ≤ a.capacity
    omega

end Import

/-! ## Importing on a new device -/

section Fresh

variable {capacity : Nat} {entries : List AmmMappingEntry}

/-- On a new device a batch is imported if it has no conflicts, can be imported and fits. -/
theorem perform_import_fresh (hne : entries ≠ []) (hconflict : profileConflicts entries = false)
    (himportable : ∀ e ∈ entries, importable e = true) (hlength : entries.length ≤ capacity)
    (hnodup : (entries.map AmmMappingEntry.key).Nodup) (replaceDevices : Bool) :
    ((AmmStore.fresh capacity).perform (.import entries replaceDevices) .ok).1 = .ok ∧
      ((AmmStore.fresh capacity).perform (.import entries replaceDevices) .ok).2.ram.table =
        stagedEntries (.empty capacity) 0 entries := by
  have hkept : stageKept (.empty capacity) entries replaceDevices = some [] := by
    rw [stageKept]
    exact if_neg (Nat.not_lt_zero capacity)
  have hroom : ([] : List AmmMappingEntry).length + entries.length ≤ capacity := by
    rw [List.length_nil]
    omega
  obtain ⟨st, hst⟩ : ∃ st, importLoop (.empty capacity) entries ⟨[], 0, 0⟩ = .ok st :=
    importLoop_room himportable hroom
  have hplan : (AmmStore.fresh capacity).plan (.import entries replaceDevices) .ok =
      .change { AmmTable.empty capacity with table := st.table, modelVersion := st.modelVersion }
        .staged := by
    show planImport entries replaceDevices (.empty capacity) = _
    have hloop : importLoop (.empty capacity) entries
        ⟨[], (AmmTable.empty capacity).modelVersion, 0⟩ = .ok st := hst
    rw [planImport, if_neg hne, hconflict, if_neg Bool.false_ne_true, hkept]
    simp only [hloop]
  have htable : st.table = stagedEntries (.empty capacity) 0 entries := by
    rw [(importLoop_ok hst).1, foldl_putKeyed_of_nodup, List.nil_append]
    rwa [List.nil_append, stagedEntries_key]
  have hfits : ¬ st.table.length > capacity := by
    have hkeys := congrArg List.length (stagedEntries_key (a := .empty capacity) 0 entries)
    rw [← htable, List.length_map, List.length_map] at hkeys
    omega
  have hanswer : ∀ i, NvsCalls.ok i = none := fun _ => rfl
  have hsave : ∀ n, (SaveKind.staged.perform .ok (.empty capacity)
      { AmmTable.empty capacity with table := st.table, modelVersion := st.modelVersion } n).1 =
        .ok := by
    intro n
    show (ammSaveTableToNvs .ok _ st.table capacity _ n).1 = .ok
    rw [ammSaveTableToNvs, if_neg hfits, durably, attempt_of_none hanswer]
    rfl
  have hout : (AmmStore.fresh capacity).CarriesOut (.import entries replaceDevices) .ok
      { AmmTable.empty capacity with table := st.table, modelVersion := st.modelVersion }
        .staged := ⟨hplan, rfl, fun _ => hsave _⟩
  rw [hout.perform]
  exact ⟨hsave _, htable⟩

theorem profileConflicts_eq_false_iff (h : (entries.map AmmMappingEntry.key).Nodup) :
    profileConflicts entries = false ↔ (entries.map AmmMappingEntry.names).Nodup := by
  induction entries with
  | nil => exact iff_of_true rfl List.nodup_nil
  | cons e es ih =>
    obtain ⟨hnew, hnodup⟩ := List.nodup_cons.1 h
    have hhead : es.any (profileConflict e) = false ↔ e.names ∉ es.map AmmMappingEntry.names := by
      rw [List.any_eq_false, List.mem_map, not_exists]
      refine forall_congr' fun x => ?_
      rw [not_and]
      refine imp_congr_right fun hx => ?_
      have hkey : ¬ e.key = x.key := fun heq => hnew (heq ▸ List.mem_map_of_mem hx)
      rw [profileConflict, ammSamePhysicalPoint, decide_eq_false hkey, Bool.false_bne,
        decide_eq_true_eq, eq_comm]
    rw [profileConflicts, Bool.or_eq_false_iff, ih hnodup, hhead, List.map_cons, List.nodup_cons]

theorem perform_import_conflict {s : AmmStore} {replaceDevices : Bool} {f : AmmFaults}
    (hok : (s.perform (.import entries replaceDevices) f).1 = .ok) :
    profileConflicts entries = false := by
  obtain ⟨next, save, hout, -⟩ := perform_ok hok
  exact (planImport_change hout.1).1

end Fresh

/-- What an import that returns `ESP_OK` leaves and reports. -/
structure ImportedUnion (a : AmmTable) (entries : List AmmMappingEntry) (replaceDevices : Bool)
    (imported : Nat) (after : List AmmMappingEntry) : Prop where
  result : after = importResult a entries replaceDevices
  union : (a.entries.map AmmMappingEntry.key).Nodup → after = importUnion a entries replaceDevices
  distinct : (a.entries.map AmmMappingEntry.key).Nodup → (after.map AmmMappingEntry.key).Nodup
  fits : after.length ≤ a.capacity
  counted : imported = entries.length

/-- **An import computes the union of the kept and the imported entries, in order.** -/
theorem import_ok_union {nvs : NvsAnswers} {entries : List AmmMappingEntry} {replaceDevices : Bool}
    {a : AmmTable} (h : (ammImportMappings nvs entries replaceDevices a).1 = .ok) :
    ImportedUnion a entries replaceDevices (ammImportMappings nvs entries replaceDevices a).2.1
      (ammImportMappings nvs entries replaceDevices a).2.2.entries := by
  have hentries := import_ok_entries h
  obtain ⟨-, -, kept, st, hkept, hloop, himport⟩ := import_ok_cases h
  rw [himport] at hentries ⊢
  refine ⟨hentries, fun hnodup => hentries.trans (importResult_of_nodup hnodup), fun hnodup => ?_,
    ?_, (importLoop_counts hloop).trans (Nat.zero_add _)⟩
  · have hdistinct := importedEntries_keys hnodup entries replaceDevices
    have hperm := (importResult_perm a entries replaceDevices).map AmmMappingEntry.key
    rw [hentries]
    exact hperm.nodup_iff.2 hdistinct
  · rw [hentries, ← importLoop_table hkept hloop]
    exact importLoop_fits hloop (stageKept_fits hkept)

def currentBatch : List AmmMappingEntry := [holdingPoint 0 "meter".toList "current".toList]

def meterAndPump : AmmTable :=
  (run AmmStore.step (.fresh 1000) [.call (.add samplePoint) .ok,
    .call (.add (holdingPoint 5 "pump".toList "flow".toList)) .ok,
    .call (.add (holdingPoint 1 "meter".toList "voltage".toList)) .ok]).ram

theorem import_ok_union_meter :
    (ammImportMappings .ok (currentBatch ++ [holdingPoint 2 "meter".toList "energy".toList]) false
        meterAndPump).2.2.entries.map (fun e => e.pointId.str) =
      ["current".toList, "flow".toList, "voltage".toList, "energy".toList] := by
  have hok : (ammImportMappings .ok
      (currentBatch ++ [holdingPoint 2 "meter".toList "energy".toList]) false meterAndPump).1 =
        .ok := by decide +kernel
  rw [(import_ok_union hok).union (by decide +kernel)]
  decide +kernel

/-- A table with the address twice, as an update makes it: the second entry stays. -/
theorem second_entry_stays :
    (ammImportMappings .ok currentBatch false
        (run AmmStore.step (.fresh 1000) AmmStore.duplicateSteps).ram).1 = .ok ∧
      (ammImportMappings .ok currentBatch false
          (run AmmStore.step (.fresh 1000) AmmStore.duplicateSteps).ram).2.2.entries ≠
        importUnion (run AmmStore.step (.fresh 1000) AmmStore.duplicateSteps).ram currentBatch
          false := by decide +kernel

end McpGateway.Amm
