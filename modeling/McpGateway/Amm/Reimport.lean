import McpGateway.Amm.ImportUnion
import McpGateway.Amm.Rollback

/-!
# Importing a profile again

With `replace_devices` an import drops all entries of the devices of its batch,
so a second import of the batch meets the kept entries of the first one and, in
place of the user's entries, the entries that the first one made of them.
`import_again` says that it makes the same table of them, up to the versions.
-/

namespace McpGateway.Amm

open McpGateway.Lib McpGateway.Tcm

/-! ## Entries up to their versions -/

@[simp] theorem unversioned_key (e : AmmMappingEntry) : (unversioned e).key = e.key := rfl

/-- The function does not look at the version, and keeps it. -/
def KeepsVersion (g : AmmMappingEntry → AmmMappingEntry) : Prop :=
  ∀ e v, g { e with mappingVersion := v } = { g e with mappingVersion := v }

theorem KeepsVersion.comp {g h : AmmMappingEntry → AmmMappingEntry} (hg : KeepsVersion g)
    (hh : KeepsVersion h) : KeepsVersion fun e => g (h e) := by
  intro e v
  show g (h { e with mappingVersion := v }) = _
  rw [hh, hg]

theorem keepsVersion_window : KeepsVersion normalizeWindow := by
  intro e v
  unfold normalizeWindow
  by_cases h : windowHolds e (pointCount e).toNat = true
  · rw [if_pos h]
    exact if_pos h
  · rw [if_neg h]
    exact if_neg h

theorem keepsVersion_objectType : KeepsVersion normalizeObjectType := by
  intro e v
  unfold normalizeObjectType
  split <;> rfl

theorem keepsVersion_topicMode : KeepsVersion normalizeTopicMode := by
  intro e v
  unfold normalizeTopicMode
  split <;> rfl

theorem keepsVersion_retries : KeepsVersion normalizeRetries := fun _ _ => rfl

theorem keepsVersion_normalize : KeepsVersion ammNormalizeReadWindow :=
  keepsVersion_window.comp
    (keepsVersion_retries.comp (keepsVersion_objectType.comp keepsVersion_topicMode))

theorem keepsVersion_interval (dflt : UInt32) : KeepsVersion (withPollInterval dflt) := by
  intro e v
  unfold withPollInterval
  split <;> rfl

theorem keepsVersion_scale : KeepsVersion fun e =>
    if e.scaleFactor = .fin 0 then { e with scaleFactor := .fin 1 } else e := by
  intro e v
  by_cases h : e.scaleFactor = .fin 0
  · simp only [if_pos h]
  · simp only [if_neg h]

theorem importEntry_version (dflt : UInt32) (v w : SeqId) (e : AmmMappingEntry) :
    importEntry dflt w e = { importEntry dflt v e with mappingVersion := w } := by
  have hkeeps := keepsVersion_normalize.comp
    (keepsVersion_scale.comp (keepsVersion_interval dflt))
  exact hkeeps { e with active := true, mappingVersion := v } w

/-- An entry of the batch as an import leaves it, up to its version. -/
def canonical (a : AmmTable) (e : AmmMappingEntry) : AmmMappingEntry :=
  unversioned (overlayUser a.table (importEntry a.defaultPollMs 0 e))

@[simp] theorem canonical_key (a : AmmTable) (e : AmmMappingEntry) : (canonical a e).key = e.key := by
  rw [canonical, unversioned_key, overlayUser_key, key_isIdentity.importEntry]
  rfl

theorem overlayUser_version (table : List AmmMappingEntry) (e : AmmMappingEntry) (v : SeqId) :
    overlayUser table { e with mappingVersion := v } =
      { overlayUser table e with mappingVersion := v } := by
  unfold overlayUser
  have hsame : ∀ x, ammSamePhysicalPoint x { e with mappingVersion := v } =
      ammSamePhysicalPoint x e := fun _ => rfl
  simp only [hsame]
  split <;> rfl

theorem stagedEntries_unversioned (a : AmmTable) (v : SeqId) (es : List AmmMappingEntry) :
    (stagedEntries a v es).map unversioned = es.map (canonical a) := by
  induction es generalizing v with
  | nil => rfl
  | cons e es ih =>
    rw [stagedEntries, List.map_cons, List.map_cons, ih, canonical,
      importEntry_version a.defaultPollMs 0 (v + 1), overlayUser_version]
    rfl

theorem lastImported_unversioned (a : AmmTable) (entries : List AmmMappingEntry) (k : PhysicalKey) :
    (lastImported a entries k).map unversioned =
      (lastWith AmmMappingEntry.key entries k).map (canonical a) := by
  rw [lastImported, ← lastWith_map unversioned_key, stagedEntries_unversioned,
    lastWith_map (canonical_key a)]

/-! ## The table after a first import -/

section First

variable {a : AmmTable} {entries : List AmmMappingEntry}

theorem containsDevice_of_key {x : AmmMappingEntry}
    (h : x.key ∈ entries.map AmmMappingEntry.key) : ammImportContainsDevice entries x = true := by
  obtain ⟨e, he, hkey⟩ := List.mem_map.1 h
  have hprotocol : e.sourceProtocol = x.sourceProtocol := congrArg PhysicalKey.sourceProtocol hkey
  have hchannel : e.channelId = x.channelId := congrArg PhysicalKey.channelId hkey
  have hslave : e.slaveId = x.slaveId := congrArg PhysicalKey.slaveId hkey
  rw [ammImportContainsDevice, List.any_eq_true]
  refine ⟨e, he, ?_⟩
  rw [decide_eq_true hprotocol, decide_eq_true hchannel, decide_eq_true hslave]
  rfl

theorem keptEntries_key {x : AmmMappingEntry} (h : x ∈ keptEntries a entries true) :
    x.key ∉ entries.map AmmMappingEntry.key := by
  intro hmem
  have hnot := (Bool.and_eq_true_iff.1 (List.mem_filter.1 h).2).2
  rw [containsDevice_of_key hmem] at hnot
  cases hnot

theorem importResult_replacing (a : AmmTable) (entries : List AmmMappingEntry) :
    importResult a entries true = keptEntries a entries true ++ addedEntries a entries true := by
  have hnone : ∀ k ∈ (keptEntries a entries true).map AmmMappingEntry.key,
      lastImported a entries k = (fun _ => none) k := by
    intro k hk
    obtain ⟨x, hx, rfl⟩ := List.mem_map.1 hk
    refine lastWith_none ?_
    rw [stagedEntries_key]
    exact keptEntries_key hx
  rw [importResult, replaceFirsts_congr [] _ hnone, replaceFirsts_none]

theorem addedEntries_keys (a : AmmTable) (entries : List AmmMappingEntry) (replaceDevices : Bool) :
    (addedEntries a entries replaceDevices).map AmmMappingEntry.key =
      (entries.map AmmMappingEntry.key).eraseDups.filter
        (· ∉ (keptEntries a entries replaceDevices).map AmmMappingEntry.key) := by
  rw [addedEntries, newcomers, filterMap_keys, stagedEntries_key]
  intro k hk
  exact lastWith_isSome (List.mem_eraseDups.1 (List.mem_filter.1 hk).1)

theorem addedEntries_nodup (a : AmmTable) (entries : List AmmMappingEntry) (replaceDevices : Bool) :
    ((addedEntries a entries replaceDevices).map AmmMappingEntry.key).Nodup := by
  rw [addedEntries_keys]
  exact (nodup_eraseDups _).filter _

theorem mem_addedEntries {e s : AmmMappingEntry} (he : e ∈ entries)
    (hs : lastImported a entries e.key = some s) : s ∈ addedEntries a entries true := by
  refine List.mem_filterMap.2 ⟨e.key, List.mem_filter.2 ⟨?_, ?_⟩, hs⟩
  · rw [List.mem_eraseDups, stagedEntries_key]
    exact List.mem_map_of_mem he
  · refine decide_eq_true fun hmem => ?_
    obtain ⟨x, hx, hkey⟩ := List.mem_map.1 hmem
    exact keptEntries_key hx (hkey ▸ List.mem_map_of_mem he)

theorem addedEntries_key {x : AmmMappingEntry} (h : x ∈ addedEntries a entries true) :
    x.key ∈ entries.map AmmMappingEntry.key := by
  obtain ⟨k, -, hk⟩ := List.mem_filterMap.1 h
  rw [← stagedEntries_key a.modelVersion entries]
  exact List.mem_map_of_mem (lastWith_some hk).1

structure Imported (a : AmmTable) (entries : List AmmMappingEntry) (a' : AmmTable) : Prop where
  table : a'.table = keptEntries a entries true ++ addedEntries a entries true
  capacity : a'.capacity = a.capacity
  interval : a'.defaultPollMs = a.defaultPollMs

theorem keptEntries_again {a' : AmmTable} (h : Imported a entries a') :
    keptEntries a' entries true = keptEntries a entries true := by
  have hkept : (keptEntries a entries true).filter
      (fun x => x.active && !(true && ammImportContainsDevice entries x)) =
        keptEntries a entries true :=
    List.filter_eq_self.2 fun x hx => (List.mem_filter.1 hx).2
  have hadded : (addedEntries a entries true).filter
      (fun x => x.active && !(true && ammImportContainsDevice entries x)) = [] := by
    refine List.filter_eq_nil_iff.2 fun x hx => ?_
    rw [containsDevice_of_key (addedEntries_key hx)]
    simp
  rw [keptEntries, h.table, List.filter_append, hkept, hadded, List.append_nil]

/-! ## The user's entries of the second import -/

theorem overlay_canonical (a : AmmTable) (e : AmmMappingEntry) :
    unversioned (ammOverlayUserSemantics (canonical a e) (importEntry a.defaultPollMs 0 e)) =
      canonical a e := by
  unfold canonical overlayUser
  generalize importEntry a.defaultPollMs 0 e = x
  split <;> rfl

/-- An entry that is not the user's was not overlaid. -/
theorem canonical_of_not_user {e : AmmMappingEntry} (h : (canonical a e).semanticSource ≠ .user) :
    canonical a e = unversioned (importEntry a.defaultPollMs 0 e) := by
  unfold canonical overlayUser at h ⊢
  split
  · rename_i user huser
    have hsource : user.semanticSource = .user := by
      have hfound := List.find?_some huser
      simp only [Bool.and_eq_true, decide_eq_true_eq] at hfound
      exact hfound.1.2
    rw [huser] at h
    exact absurd hsource h
  · rfl

/-- **The second import makes the same entry of a last one of the batch.** -/
theorem canonical_again {a' : AmmTable} (h : Imported a entries a') {k : PhysicalKey}
    {e : AmmMappingEntry} (he : lastWith AmmMappingEntry.key entries k = some e) :
    canonical a' e = canonical a e := by
  obtain ⟨hmem, rfl⟩ := lastWith_some he
  have hlast := lastImported_unversioned a entries e.key
  rw [he] at hlast
  obtain ⟨s, hs, hcanonical⟩ := Option.map_eq_some_iff.1 hlast
  have hkey : s.key = e.key := (lastWith_some hs).2
  have hadded := mem_addedEntries hmem hs
  have hactive : s.active = true := stagedEntries_active (lastWith_some hs).1
  have hfind : a'.table.find? (fun x => x.active && decide (x.semanticSource = .user) &&
      ammSamePhysicalPoint x (importEntry a'.defaultPollMs 0 e)) =
        if s.semanticSource = .user then some s else none := by
    have hpoint : (importEntry a'.defaultPollMs 0 e).key = s.key := by
      rw [key_isIdentity.importEntry, hkey]
      rfl
    have hkept : (keptEntries a entries true).find? (fun x => x.active &&
        decide (x.semanticSource = .user) && decide (x.key = s.key)) = none := by
      refine List.find?_eq_none.2 fun x hx hP => keptEntries_key hx ?_
      rw [of_decide_eq_true (Bool.and_eq_true_iff.1 hP).2, hkey]
      exact List.mem_map_of_mem hmem
    have hown := find?_of_nodup (addedEntries_nodup a entries true) hadded
      fun x => x.active && decide (x.semanticSource = .user)
    simp only [ammSamePhysicalPoint, hpoint]
    rw [h.table, List.find?_append, hkept, Option.none_or, hown, hactive, Bool.true_and]
    simp only [decide_eq_true_eq]
  by_cases huser : s.semanticSource = .user
  · rw [if_pos huser] at hfind
    have hsame : canonical a' e =
        unversioned (ammOverlayUserSemantics (unversioned s) (importEntry a'.defaultPollMs 0 e)) := by
      rw [canonical, overlayUser, hfind]
      rfl
    rw [hsame, hcanonical, h.interval]
    exact overlay_canonical a e
  · rw [if_neg huser] at hfind
    have hnot : (canonical a e).semanticSource ≠ .user := by
      rw [← hcanonical]
      exact huser
    rw [canonical_of_not_user hnot, canonical, overlayUser, hfind, h.interval]

theorem addedEntries_again {a' : AmmTable} (h : Imported a entries a') :
    (addedEntries a' entries true).map unversioned =
      (addedEntries a entries true).map unversioned := by
  unfold addedEntries newcomers
  rw [keptEntries_again h, stagedEntries_key, stagedEntries_key, List.map_filterMap,
    List.map_filterMap]
  refine List.filterMap_congr fun k _ => ?_
  have hfirst := lastImported_unversioned a entries k
  have hsecond := lastImported_unversioned a' entries k
  rw [lastImported] at hfirst hsecond
  rw [hfirst, hsecond]
  cases he : lastWith AmmMappingEntry.key entries k with
  | none => rfl
  | some e => rw [Option.map_some, Option.map_some, canonical_again h he]

/-! ## The second import succeeds -/

/-- Whether the loop succeeds depends on the addresses alone. -/
theorem importLoop_again {a' : AmmTable} (hcapacity : a'.capacity = a.capacity)
    {es : List AmmMappingEntry} {st st' r : Staging} (h : importLoop a es st = .ok r)
    (hkeys : st'.table.map AmmMappingEntry.key = st.table.map AmmMappingEntry.key) :
    ∃ r', importLoop a' es st' = .ok r' := by
  induction es generalizing st st' with
  | nil => exact ⟨st', rfl⟩
  | cons e es ih =>
    rw [importLoop] at h ⊢
    split at h
    · cases h
    · rename_i himportable
      rw [if_neg himportable]
      simp only at h ⊢
      have hstagedKey : ∀ (b : AmmTable) v,
          (overlayUser b.table (importEntry b.defaultPollMs v e)).key = e.key := by
        intro b v
        rw [overlayUser_key, key_isIdentity.importEntry]
        rfl
      split at h
      · cases h
      · rename_i table htable
        have hroom := stageEntry_isSome_iff.1 ⟨table, htable⟩
        have hlength := congrArg List.length hkeys
        rw [List.length_map, List.length_map] at hlength
        rw [hstagedKey] at hroom
        obtain ⟨table', htable'⟩ := stageEntry_isSome_iff.2
          (show (overlayUser a'.table (importEntry a'.defaultPollMs (st'.modelVersion + 1) e)).key ∈
            st'.table.map AmmMappingEntry.key ∨ st'.table.length < a'.capacity by
              rw [hstagedKey, hkeys, hlength, hcapacity]
              exact hroom)
        rw [htable']
        refine ih h ?_
        rw [stageEntry_eq htable, stageEntry_eq htable', putKeyed_keys, putKeyed_keys, hstagedKey,
          hstagedKey, hkeys]

theorem import_succeeds (hne : entries ≠ []) (hconflict : ¬ profileConflicts entries = true)
    {replaceDevices : Bool} {kept : List AmmMappingEntry} {st : Staging}
    (hkept : stageKept a entries replaceDevices = some kept)
    (hloop : importLoop a entries ⟨kept, a.modelVersion, 0⟩ = .ok st) :
    (ammImportMappings .ok entries replaceDevices a).1 = .ok := by
  have hpermits : ¬ (ammSnapshotPermitsMutation (ammSaveRollback .ok a) = false ∧ a.table ≠ []) := by
    have hsnapshot : ammSnapshotPermitsMutation (ammSaveRollback .ok a) = true := by
      unfold ammSaveRollback
      split
      · rfl
      · split <;> rfl
    rw [hsnapshot]
    exact fun hdenied => absurd hdenied.1 (by decide)
  have hsave : ¬ NvsAnswers.ok.save ≠ .ok := not_not.2 rfl
  rw [ammImportMappings, if_neg hne, if_neg hconflict, if_neg hpermits, hkept]
  simp only [hloop, if_neg hsave]

end First

/-- **Importing a profile again changes nothing but versions.** -/
theorem import_again {nvs : NvsAnswers} {entries : List AmmMappingEntry} {a : AmmTable}
    (h : (ammImportMappings nvs entries true a).1 = .ok) :
    (ammImportMappings .ok entries true (ammImportMappings nvs entries true a).2.2).1 = .ok ∧
      (ammImportMappings .ok entries true
          (ammImportMappings nvs entries true a).2.2).2.2.entries.map unversioned =
        (ammImportMappings nvs entries true a).2.2.entries.map unversioned := by
  have hunion := import_ok_entries h
  obtain ⟨hne, hconflict, kept, st, hkept, hloop, himport⟩ := import_ok_cases h
  generalize hafter : (ammImportMappings nvs entries true a).2.2 = a' at hunion ⊢
  have ha' : a' = { a with table := st.table, modelVersion := st.modelVersion } := by
    rw [← hafter, himport]
  have hfirst : Imported a entries a' := by
    rw [ha']
    exact ⟨(importLoop_table hkept hloop).trans (importResult_replacing a entries), rfl, rfl⟩
  have hkeptEntries := keptEntries_again hfirst
  have hkept' : stageKept a' entries true = some kept := by
    have hsame : a'.table.filter (fun x => x.active &&
        !(true && ammImportContainsDevice entries x)) = kept :=
      hkeptEntries.trans (stageKept_eq hkept).symm
    rw [stageKept, hsame, hfirst.capacity]
    exact if_neg (Nat.not_lt.2 (stageKept_fits hkept))
  obtain ⟨st', hloop'⟩ : ∃ st', importLoop a' entries ⟨kept, a'.modelVersion, 0⟩ = .ok st' :=
    importLoop_again hfirst.capacity hloop rfl
  have hok := import_succeeds hne hconflict hkept' hloop'
  refine ⟨hok, ?_⟩
  rw [import_ok_entries hok, hunion, importResult_replacing, importResult_replacing,
    List.map_append, List.map_append, hkeptEntries, addedEntries_again hfirst]

/-- A profile of two points, imported over a table with a user's entry for one. -/
def userTable : AmmTable :=
  (ammAddMapping .ok { holdingPoint 0 "meter".toList "power".toList with
    semanticSource := .user, scaleFactor := .fin 2 } (.empty 64)).2

def meterProfile : List AmmMappingEntry :=
  [holdingPoint 0 "meter".toList "p".toList, holdingPoint 1 "meter".toList "u".toList]

theorem meterProfile_again :
    (ammImportMappings .ok meterProfile true
        (ammImportMappings .ok meterProfile true userTable).2.2).1 = .ok ∧
      (ammImportMappings .ok meterProfile true
          (ammImportMappings .ok meterProfile true userTable).2.2).2.2.entries.map
            unversioned =
        (ammImportMappings .ok meterProfile true userTable).2.2.entries.map
          unversioned :=
  import_again (by decide +kernel)

end McpGateway.Amm
