import McpGateway.Amm.Rebuild

/-!
# The model version

Every operation counts the model version up, but the partition does not store
it: a load takes the greatest version of the slots it finds. `model_version_iff`
says along which runs of operations and reboots the version increases with every
operation, never decreases at a reboot and stands for one table.
-/

namespace McpGateway.Amm

open McpGateway.Lib McpGateway.Tcm

/-! ## The greatest version of the slots -/

theorem le_loadedVersion {v : SeqId} {table : List AmmMappingEntry} :
    v ≤ loadedVersion table ↔ v ≤ 1 ∨ ∃ x ∈ table, v ≤ x.mappingVersion := by
  have hfold : ∀ init : SeqId, v ≤ table.foldl (fun v e => max v e.mappingVersion) init ↔
      v ≤ init ∨ ∃ x ∈ table, v ≤ x.mappingVersion := by
    induction table with
    | nil => simp
    | cons x xs ih =>
      intro init
      rw [List.foldl_cons, ih, le_max_iff, List.exists_mem_cons_iff, or_assoc]
  exact hfold 1

/-- No slot has a version above `v`. -/
def VersionsUpTo (v : SeqId) (table : List AmmMappingEntry) : Prop :=
  ∀ x ∈ table, x.mappingVersion ≤ v

theorem loadedVersion_upTo (table : List AmmMappingEntry) :
    VersionsUpTo (loadedVersion table) table :=
  fun x hx => le_loadedVersion.2 (.inr ⟨x, hx, le_refl _⟩)

theorem loadedVersion_pos (table : List AmmMappingEntry) : 1 ≤ loadedVersion table :=
  le_loadedVersion.2 (.inl (le_refl _))

theorem loadedVersion_le {v : SeqId} {table : List AmmMappingEntry} (h : VersionsUpTo v table)
    (hpos : 1 ≤ v) : loadedVersion table ≤ v := by
  rcases le_loadedVersion.1 (le_refl (loadedVersion table)) with hone | ⟨x, hx, hle⟩
  · exact hone.trans hpos
  · exact hle.trans (h x hx)

theorem loadedVersion_eq_iff {v : SeqId} {table : List AmmMappingEntry} (h : VersionsUpTo v table)
    (hpos : 1 ≤ v) : v ≤ loadedVersion table ↔ v ≤ 1 ∨ ∃ x ∈ table, x.mappingVersion = v := by
  rw [le_loadedVersion]
  refine or_congr_right ⟨?_, ?_⟩
  · rintro ⟨x, hx, hle⟩
    exact ⟨x, hx, le_antisymm (h x hx) hle⟩
  · rintro ⟨x, hx, rfl⟩
    exact ⟨x, hx, le_refl _⟩

/-! ## Versions of entries -/

section Entries

theorem withPollInterval_version (dflt : UInt32) (e : AmmMappingEntry) :
    (withPollInterval dflt e).mappingVersion = e.mappingVersion := by
  unfold withPollInterval
  split <;> rfl

theorem withScale_version (e : AmmMappingEntry) :
    (withScale e).mappingVersion = e.mappingVersion := by
  unfold withScale
  split <;> rfl

theorem normalize_version (e : AmmMappingEntry) :
    (ammNormalizeReadWindow e).mappingVersion = e.mappingVersion :=
  normalize_keeps AmmMappingEntry.mappingVersion (fun _ _ => rfl) (fun _ _ => rfl)
    (fun _ _ _ _ => rfl) (fun _ _ _ _ => rfl) e

theorem loadedEntry_version (dflt : UInt32) (e : AmmMappingEntry) :
    (loadedEntry dflt e).mappingVersion = e.mappingVersion := by
  rw [loadedEntry_eq, normalize_version, withScale_version, withPollInterval_version]

theorem stored_version (a : AmmTable) (e : AmmMappingEntry) :
    (a.stored e).mappingVersion = a.modelVersion + 1 := by
  rw [AmmTable.stored, withPollInterval_version]

theorem staged_version (table : List AmmMappingEntry) (dflt : UInt32) (v : SeqId)
    (e : AmmMappingEntry) : (overlayUser table (importEntry dflt v e)).mappingVersion = v := by
  have himport : (importEntry dflt v e).mappingVersion = v :=
    loadedEntry_version dflt { e with active := true, mappingVersion := v }
  have hoverlay : (overlayUser table (importEntry dflt v e)).mappingVersion =
      (importEntry dflt v e).mappingVersion := by
    unfold overlayUser
    split <;> rfl
  exact hoverlay.trans himport

end Entries

/-! ## Operations count up -/

/-- How far an operation counts the version up. -/
def AmmCall.counts : AmmCall → Nat
  | .import entries _ => entries.length
  | _ => 1

section Changes

variable {a next : AmmTable} {read : SnapshotRead} {call : AmmCall} {save : SaveKind}

theorem succ_version {v : SeqId} (h : (v : Nat) + 1 < 2 ^ 32) : ((v + 1 : SeqId) : Nat) = v + 1 := by
  have hone : ((1 : SeqId) : Nat) = 1 := rfl
  rw [Fin.val_add, hone]
  omega

theorem staged_import (h : call.plan read a = .change next .staged) :
    ∃ entries replaceDevices, call = .import entries replaceDevices := by
  cases call with
  | «import» entries replaceDevices => exact ⟨entries, replaceDevices, rfl⟩
  | add e => obtain ⟨-, -, -, ⟨⟩⟩ := planAdd_change h
  | remove | removeForChannel => obtain ⟨-, -, -, ⟨⟩⟩ := planRemove_change h
  | update => obtain ⟨-, -, -, -, ⟨⟩⟩ := planUpdate_change h
  | setPollIntervalAll => obtain ⟨-, -, -, ⟨⟩⟩ := planSetPollIntervalAll_change h
  | clear => cases h
  | rollback => obtain ⟨-, -, -, -, -, ⟨⟩⟩ := planRollback_change h

theorem change_version (h : call.plan read a = .change next save) :
    1 ≤ call.counts ∧ (next.modelVersion : Nat) = (a.modelVersion + call.counts) % 2 ^ 32 := by
  have hone : ((1 : SeqId) : Nat) = 1 := rfl
  by_cases hsave : save = .staged
  · subst hsave
    obtain ⟨entries, replaceDevices, rfl⟩ := staged_import h
    obtain ⟨-, kept, st, -, hloop, rfl, -⟩ := planImport_change h
    refine ⟨List.length_pos_iff.2 ?_, (importLoop_ok hloop).2⟩
    rintro rfl
    cases h
  · have hcounts : call.counts = 1 := by
      cases call with
      | «import» entries replaceDevices =>
        obtain ⟨-, kept, st, -, -, -, rfl⟩ := planImport_change h
        exact absurd rfl hsave
      | _ => rfl
    rw [version_of_plan h hsave, hcounts, Fin.val_add, hone]
    exact ⟨le_refl 1, rfl⟩

theorem stagedEntries_upTo {v : SeqId} {es : List AmmMappingEntry} {x : AmmMappingEntry}
    (hroom : (v : Nat) + es.length < 2 ^ 32) (hx : x ∈ stagedEntries a v es) :
    (x.mappingVersion : Nat) ≤ v + es.length := by
  induction es generalizing v with
  | nil => cases hx
  | cons e es ih =>
    rw [List.length_cons] at hroom ⊢
    have hsucc : ((v + 1 : SeqId) : Nat) = v + 1 := succ_version (by omega)
    rcases List.mem_cons.1 hx with rfl | hx
    · rw [staged_version, hsucc]
      omega
    · have hlater := ih (by rw [hsucc]; omega) hx
      rw [hsucc] at hlater
      omega

theorem change_slots (h : call.plan read a = .change next save)
    (hroom : (a.modelVersion : Nat) + call.counts < 2 ^ 32) {x : AmmMappingEntry}
    (hx : x ∈ next.table) :
    (∃ y ∈ a.table, x.mappingVersion = y.mappingVersion) ∨
      x.mappingVersion ≤ next.modelVersion := by
  cases call with
  | add e =>
    obtain ⟨i, -, rfl, -⟩ := planAdd_change h
    rcases mem_put hx with hx | rfl
    · exact .inl ⟨x, hx, rfl⟩
    · right
      rw [stored_version, put_version]
  | remove | removeForChannel =>
    obtain ⟨i, -, rfl, -⟩ := planRemove_change h
    rcases mem_deactivate hx with hx | ⟨e, he, rfl⟩
    · exact .inl ⟨x, hx, rfl⟩
    · exact .inl ⟨e, he, rfl⟩
  | update index e =>
    obtain ⟨old, -, -, rfl, -⟩ := planUpdate_change h
    rcases List.mem_or_eq_of_mem_set hx with hx | rfl
    · exact .inl ⟨x, hx, rfl⟩
    · right
      rw [stored_version]
      exact le_refl _
  | setPollIntervalAll ms =>
    obtain ⟨-, -, rfl, -⟩ := planSetPollIntervalAll_change h
    obtain ⟨y, hy, rfl⟩ := List.mem_map.1 hx
    by_cases hactive : y.active = true
    · right
      rw [if_pos hactive]
      exact le_refl _
    · left
      rw [if_neg hactive]
      exact ⟨y, hy, rfl⟩
  | clear =>
    cases h
    cases hx
  | rollback =>
    obtain ⟨snapshot, -, -, -, rfl, -⟩ := planRollback_change h
    obtain ⟨y, -, rfl⟩ := List.mem_map.1 hx
    exact .inr (le_refl _)
  | «import» entries replaceDevices =>
    have hversion := (change_version h).2
    obtain ⟨-, kept, st, hkept, hloop, rfl, -⟩ := planImport_change h
    have hmem := (importLoop_perm hkept hloop).mem_iff.1 hx
    rcases List.mem_append.1 hmem with hold | hnew
    · exact .inl ⟨x, (List.mem_filter.1 ((dropFirsts_sublist _ _).subset hold)).1, rfl⟩
    · right
      rw [Nat.mod_eq_of_lt hroom] at hversion
      rw [Fin.le_def, hversion]
      exact stagedEntries_upTo hroom (lasts_subset hnew)

theorem change_upTo (h : call.plan read a = .change next save)
    (hroom : (a.modelVersion : Nat) + call.counts < 2 ^ 32)
    (hold : VersionsUpTo a.modelVersion a.table) : VersionsUpTo next.modelVersion next.table := by
  intro x hx
  rcases change_slots h hroom hx with ⟨y, hy, hsame⟩ | hnew
  · have hversion := (change_version h).2
    rw [Nat.mod_eq_of_lt hroom] at hversion
    have hle := Fin.le_def.1 (hold y hy)
    rw [hsame, Fin.le_def, hversion]
    omega
  · exact hnew

end Changes

/-! ## Runs with reboots -/

/-- An operation, or a reboot that can read the partition. -/
inductive LifeStep
  | call (c : FaultyCall)
  | reboot

namespace AmmStore

def lifeStep (s : AmmStore) : LifeStep → AmmStore
  | .call c => s.callStep c
  | .reboot => s.step (.reboot .ok)

/-- The operation succeeds; the count of an import is an `int`. -/
def Completes (s : AmmStore) : LifeStep → Prop
  | .call c => s.Succeeds c ∧ c.1.counts < 2 ^ 31
  | .reboot => True

/-- The version increases with an operation and does not decrease at a reboot. -/
def VersionGrows (s : AmmStore) : LifeStep → Prop
  | .call c => s.ram.modelVersion < (s.lifeStep (.call c)).ram.modelVersion
  | .reboot => s.ram.modelVersion ≤ (s.lifeStep .reboot).ram.modelVersion

/-- Whenever the run is at the same version again, the table has the same entries. -/
def OneTable (s : AmmStore) (steps : List LifeStep) : Prop :=
  ∀ before between after, steps = before ++ (between ++ after) →
    (run lifeStep s (before ++ between)).ram.modelVersion =
      (run lifeStep s before).ram.modelVersion →
    (run lifeStep s (before ++ between)).ram.entries = (run lifeStep s before).ram.entries

/-- The version has room for the operation; at a reboot it is the first one or
some slot has it, and the load leaves the active entries alone. -/
def KeepsVersion (s : AmmStore) : LifeStep → Prop
  | .call c => (s.ram.modelVersion : Nat) + c.1.counts < 2 ^ 32
  | .reboot =>
    (s.ram.modelVersion ≤ 1 ∨ ∃ x ∈ s.ram.table, x.mappingVersion = s.ram.modelVersion) ∧
      AllActive Settled s.ram.table

/-- A step that keeps the version keeps the entries. -/
def SameAtVersion (s : AmmStore) (st : LifeStep) : Prop :=
  (s.lifeStep st).ram.modelVersion = s.ram.modelVersion →
    (s.lifeStep st).ram.entries = s.ram.entries

theorem VersionGrows.le {s : AmmStore} {st : LifeStep} (h : s.VersionGrows st) :
    s.ram.modelVersion ≤ (s.lifeStep st).ram.modelVersion := by
  cases st with
  | call c => exact le_of_lt h
  | reboot => exact h

/-- While the version grows, one version is one table just when every step says so. -/
theorem oneTable_iff {s : AmmStore} {steps : List LifeStep}
    (h : AllSteps lifeStep VersionGrows s steps) :
    OneTable s steps ↔ AllSteps lifeStep SameAtVersion s steps := by
  constructor
  · intro hone
    refine (allSteps_iff_split s steps).2 fun before st after hsplit hversion => ?_
    have hentries := hone before [st] after hsplit
    rw [run_concat] at hentries
    exact hentries hversion
  · rintro hsame before between after rfl hversion
    have hboth := (h.and hsame).mono (fun s st hst => (⟨hst.1.le, hst.2⟩ :
      s.ram.modelVersion ≤ (s.lifeStep st).ram.modelVersion ∧ s.SameAtVersion st))
    have hbetween := ((allSteps_append _ _ _).1 ((allSteps_append _ _ _).1 hboth).2).1
    rw [run_append] at hversion ⊢
    exact (seen_of_counter (fun s : AmmStore => s.ram.modelVersion)
      (fun s : AmmStore => s.ram.entries) hbetween).2 hversion

/-- What is known before a step: no slot has a version above that of the table,
and the device is new or its partition holds the table. -/
structure VersionInv (s : AmmStore) : Prop where
  upTo : VersionsUpTo s.ram.modelVersion s.ram.table
  saved : s = .fresh s.ram.capacity ∨ InSync s.ram s.nvs ∧ 1 ≤ s.ram.modelVersion

theorem VersionInv.slots {s : AmmStore} (h : VersionInv s) : SlotsInSync s.ram s.nvs := by
  rcases h.saved with hfresh | ⟨hsync, -⟩
  · rw [hfresh]
    exact slotsInSync_fresh _
  · exact hsync.toSlotsInSync

theorem versionInv_fresh (capacity : Nat) : VersionInv (.fresh capacity) :=
  ⟨fun _ h => absurd h List.not_mem_nil, .inl rfl⟩

/-! ## One step -/

section Steps

variable {s : AmmStore}

theorem call_grows_iff (c : FaultyCall) (hok : s.Completes (.call c)) :
    s.VersionGrows (.call c) ↔ s.KeepsVersion (.call c) := by
  obtain ⟨next, save, hout, -⟩ := perform_ok hok.1
  obtain ⟨hpos, hversion⟩ := change_version hout.1
  have hafter : (s.lifeStep (.call c)).ram = next := congrArg (·.2.ram) hout.perform
  have hlt := s.ram.modelVersion.isLt
  have hcounts : c.1.counts < 2 ^ 31 := hok.2
  show s.ram.modelVersion < (s.lifeStep (.call c)).ram.modelVersion ↔
    (s.ram.modelVersion : Nat) + c.1.counts < 2 ^ 32
  rw [hafter, Fin.lt_def, hversion]
  omega

theorem VersionInv.call (h : VersionInv s) {c : FaultyCall} (hok : s.Completes (.call c))
    (hkeeps : s.KeepsVersion (.call c)) : VersionInv (s.lifeStep (.call c)) := by
  obtain ⟨next, save, hout, -⟩ := perform_ok hok.1
  have hafter : (s.lifeStep (.call c)).ram = next := congrArg (·.2.ram) hout.perform
  refine ⟨?_, .inr ⟨InSync.of_success h.slots hok.1, ?_⟩⟩
  · rw [hafter]
    exact change_upTo hout.1 hkeeps h.upTo
  · have hgrows := (call_grows_iff c hok).2 hkeeps
    have hlt := Fin.lt_def.1 hgrows
    have hone : ((1 : SeqId) : Nat) = 1 := rfl
    rw [Fin.le_def, hone]
    omega

theorem reboot_ram (h : InSync s.ram s.nvs) : s.lifeStep .reboot =
    ⟨{ s.ram with
        table := s.ram.table.map (loadedEntry s.ram.defaultPollMs)
        modelVersion := loadedVersion (s.ram.table.map (loadedEntry s.ram.defaultPollMs)) },
      s.nvs⟩ := by
  show AmmStore.mk (ammLoadFromNvs .ok s.nvs (.empty s.ram.capacity)).2 s.nvs = _
  rw [h.load]

theorem loaded_upTo {v : SeqId} {table : List AmmMappingEntry} (dflt : UInt32)
    (h : VersionsUpTo v table) : VersionsUpTo v (table.map (loadedEntry dflt)) := by
  intro x hx
  obtain ⟨y, hy, rfl⟩ := List.mem_map.1 hx
  rw [loadedEntry_version]
  exact h y hy

theorem VersionInv.reboot (h : VersionInv s) : VersionInv (s.lifeStep .reboot) := by
  rcases h.saved with hfresh | ⟨hsync, -⟩
  · rw [hfresh]
    exact versionInv_fresh _
  · rw [reboot_ram hsync]
    refine ⟨loadedVersion_upTo _, .inr ⟨⟨⟨?_, hsync.interval, ?_⟩, ?_, hsync.schema⟩,
      loadedVersion_pos _⟩⟩
    · rw [List.length_map]
      exact hsync.fits
    · intro i x hx
      obtain ⟨y, hy, rfl⟩ := Option.map_eq_some_iff.1 ((List.getElem?_map ..).symm.trans hx)
      obtain ⟨blob, e, hblob, hload, hsame⟩ := hsync.slot i y hy
      have hdflt := ne_zero_of_range hsync.interval_range.1
      have hagain := loadedEntry_of_settled s.ram.defaultPollMs (loaded_settled hdflt y)
      exact ⟨blob, e, hblob, hload, hsame.trans hagain.symm⟩
    · rw [List.length_map]
      exact hsync.count

/-- The entries that a load gives are those of the table when it leaves them alone. -/
theorem loaded_entries_iff {a : AmmTable} (hdflt : a.defaultPollMs ≠ 0) (v : SeqId) :
    AmmTable.entries { a with table := a.table.map (loadedEntry a.defaultPollMs),
                              modelVersion := v } = a.entries ↔ AllActive Settled a.table := by
  have hmap : (a.table.map (loadedEntry a.defaultPollMs)).filter AmmMappingEntry.active =
      a.entries.map (loadedEntry a.defaultPollMs) := by
    rw [List.filter_map]
    refine congrArg _ (congrFun (congrArg _ (funext fun e => ?_)) _)
    exact loadedEntry_active a.defaultPollMs e
  have hself : a.entries.map (loadedEntry a.defaultPollMs) = a.entries ↔
      ∀ e ∈ a.entries, loadedEntry a.defaultPollMs e = e := by
    have hinj := List.map_inj_left (l := a.entries) (f := loadedEntry a.defaultPollMs) (g := id)
    rwa [List.map_id] at hinj
  show (a.table.map (loadedEntry a.defaultPollMs)).filter AmmMappingEntry.active = _ ↔ _
  rw [hmap, hself]
  constructor
  · intro h e he hactive
    exact (loadedEntry_eq_iff hdflt).1 (h e (List.mem_filter.2 ⟨he, hactive⟩))
  · intro h e he
    obtain ⟨hmem, hactive⟩ := List.mem_filter.1 he
    exact loadedEntry_of_settled _ (h e hmem hactive)

theorem reboot_keeps_iff (h : VersionInv s) :
    s.VersionGrows .reboot ∧ s.SameAtVersion .reboot ↔ s.KeepsVersion .reboot := by
  unfold VersionGrows SameAtVersion KeepsVersion
  rcases h.saved with hfresh | ⟨hsync, hpos⟩
  · rw [hfresh]
    exact iff_of_true ⟨le_refl _, fun _ => rfl⟩ ⟨.inl (Fin.zero_le _), allActive_nil⟩
  · have hloaded := loaded_upTo s.ram.defaultPollMs h.upTo
    have hversions : (∃ x ∈ s.ram.table.map (loadedEntry s.ram.defaultPollMs),
        x.mappingVersion = s.ram.modelVersion) ↔
          ∃ x ∈ s.ram.table, x.mappingVersion = s.ram.modelVersion := by
      simp only [List.mem_map, exists_exists_and_eq_and, loadedEntry_version]
    rw [reboot_ram hsync, ← hversions, ← loadedVersion_eq_iff hloaded hpos]
    refine and_congr_right fun hgrows => ?_
    have hkept := le_antisymm (loadedVersion_le hloaded hpos) hgrows
    rw [loaded_entries_iff (ne_zero_of_range hsync.interval_range.1)]
    exact ⟨fun hsame => hsame hkept, fun hsettled _ => hsettled⟩

end Steps

/-- **Versions.** Along a run of successful operations and reboots of a new
device the version increases with every operation, does not decrease at a
reboot and stands for one table, just as long as it does not run over and every
reboot finds it in some slot and leaves the active entries alone. -/
theorem model_version_iff (capacity : Nat) (steps : List LifeStep)
    (hok : AllSteps lifeStep Completes (.fresh capacity) steps) :
    AllSteps lifeStep VersionGrows (.fresh capacity) steps ∧ OneTable (.fresh capacity) steps ↔
      AllSteps lifeStep KeepsVersion (.fresh capacity) steps := by
  have hsteps : AllSteps lifeStep VersionGrows (.fresh capacity) steps ∧
      OneTable (.fresh capacity) steps ↔
        AllSteps lifeStep (fun s st => s.VersionGrows st ∧ s.SameAtVersion st)
          (.fresh capacity) steps := by
    constructor
    · rintro ⟨hgrows, hone⟩
      exact hgrows.and ((oneTable_iff hgrows).1 hone)
    · intro hboth
      have hgrows := hboth.mono fun _ _ h => h.1
      exact ⟨hgrows, (oneTable_iff hgrows).2 (hboth.mono fun _ _ h => h.2)⟩
  have hsame : ∀ s st sts, VersionInv s ∧ AllSteps lifeStep Completes s (st :: sts) →
      (s.VersionGrows st ∧ s.SameAtVersion st ↔ s.KeepsVersion st) := by
    rintro s st sts ⟨h, hnow, -⟩
    cases st with
    | call c =>
      refine ⟨fun hgrows => (call_grows_iff c hnow).1 hgrows.1, fun hkeeps => ?_⟩
      have hgrows := (call_grows_iff c hnow).2 hkeeps
      exact ⟨hgrows, fun heq => absurd heq.symm (ne_of_lt hgrows)⟩
    | reboot => exact reboot_keeps_iff h
  rw [hsteps]
  refine allSteps_iff (K := fun s sts => VersionInv s ∧ AllSteps lifeStep Completes s sts) ?_ hsame
    ⟨versionInv_fresh capacity, hok⟩
  rintro s st sts ⟨h, hnow, hlater⟩ hstep
  refine ⟨?_, hlater⟩
  cases st with
  | call c => exact h.call hnow ((hsame s _ sts ⟨h, hnow, hlater⟩).1 hstep)
  | reboot => exact h.reboot

/-- A point is added and the device restarts: the version stays 1. -/
theorem sample_add_versions :
    AllSteps lifeStep VersionGrows (.fresh 1000) [.call (.add samplePoint, .ok), .reboot] ∧
      OneTable (.fresh 1000) [.call (.add samplePoint, .ok), .reboot] := by
  have hsettled : Settled ((AmmTable.empty 1000).stored samplePoint) := by
    refine (stored_settled_iff (by decide) samplePoint).2 ?_
    show CFloat.fin 1 ≠ .fin 0
    decide
  have hram : (lifeStep (.fresh 1000) (.call (.add samplePoint, .ok))).ram.table =
      [(AmmTable.empty 1000).stored samplePoint] := by decide +kernel
  refine (model_version_iff 1000 [.call (.add samplePoint, .ok), .reboot]
    ⟨⟨by unfold Succeeds; decide +kernel, by decide⟩, trivial, trivial⟩).2
    ⟨by show (0 : Nat) + 1 < 2 ^ 32; decide, ⟨?_, ?_⟩, trivial⟩
  · left
    decide +kernel
  · rw [hram]
    intro e he _
    rw [List.mem_singleton.1 he]
    exact hsettled

/-- A point is added and removed: the version is 2, and 1 after the restart. -/
def removedAtReboot : List LifeStep :=
  [.call (.add samplePoint, .ok),
    .call (.remove samplePoint.slaveId samplePoint.registerAddress, .ok), .reboot]

theorem removal_loses_version :
    ¬ (AllSteps lifeStep Completes (.fresh 1000) removedAtReboot →
      removedAtReboot.length < 2 ^ 32 →
      AllSteps lifeStep VersionGrows (.fresh 1000) removedAtReboot ∧
        OneTable (.fresh 1000) removedAtReboot) := by
  intro h
  have hcompletes : AllSteps lifeStep Completes (.fresh 1000) removedAtReboot := by
    refine ⟨⟨?_, by decide⟩, ⟨?_, by decide⟩, trivial, trivial⟩ <;>
    · unfold Succeeds
      decide +kernel
  obtain ⟨⟨-, -, hreboot, -⟩, -⟩ := h hcompletes (by decide)
  revert hreboot
  unfold VersionGrows
  decide +kernel

end AmmStore

end McpGateway.Amm
