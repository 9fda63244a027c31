import McpGateway.Amm.EntryInvariant
import McpGateway.Amm.Persistence

/-!
# The table after a reboot

A load gives an entry its defaults and normalises it. What the operations store
has to be a fixed point of that (`Settled`) for the partition to rebuild the
table; `rebuilds_run` says which operations store something else.
-/

namespace McpGateway.Amm

open McpGateway.Lib McpGateway.Tcm

/-! ## Entries that a load leaves alone -/

structure Settled (e : AmmMappingEntry) : Prop where
  interval : e.pollIntervalMs ≠ 0
  scale : e.scaleFactor ≠ .fin 0
  normal : Normal e

section Settled

variable {e : AmmMappingEntry} {dflt : UInt32}

theorem withPollInterval_of_ne (h : e.pollIntervalMs ≠ 0) : withPollInterval dflt e = e := by
  rw [withPollInterval, if_neg h]

theorem withPollInterval_ne (hdflt : dflt ≠ 0) (e : AmmMappingEntry) :
    (withPollInterval dflt e).pollIntervalMs ≠ 0 := by
  unfold withPollInterval
  split
  · exact hdflt
  · assumption

@[simp] theorem withPollInterval_scale (dflt : UInt32) (e : AmmMappingEntry) :
    (withPollInterval dflt e).scaleFactor = e.scaleFactor := by
  unfold withPollInterval
  split <;> rfl

/-- The scale that import and load give an entry without one. -/
def withScale (e : AmmMappingEntry) : AmmMappingEntry :=
  if e.scaleFactor = .fin 0 then { e with scaleFactor := .fin 1 } else e

theorem withScale_ne (e : AmmMappingEntry) : (withScale e).scaleFactor ≠ .fin 0 := by
  unfold withScale
  split
  · show CFloat.fin 1 ≠ .fin 0
    decide
  · assumption

@[simp] theorem withScale_interval (e : AmmMappingEntry) :
    (withScale e).pollIntervalMs = e.pollIntervalMs := by
  unfold withScale
  split <;> rfl

theorem loadedEntry_eq (dflt : UInt32) (e : AmmMappingEntry) :
    loadedEntry dflt e = ammNormalizeReadWindow (withScale (withPollInterval dflt e)) := rfl

theorem defaults_eq (dflt : UInt32) (e : AmmMappingEntry) :
    withScale (withPollInterval dflt e) =
      { e with
        pollIntervalMs := if e.pollIntervalMs = 0 then dflt else e.pollIntervalMs
        scaleFactor := if e.scaleFactor = .fin 0 then .fin 1 else e.scaleFactor } := by
  unfold withScale withPollInterval
  by_cases hms : e.pollIntervalMs = 0
  · simp only [if_pos hms]
    by_cases hscale : e.scaleFactor = .fin 0
    · simp only [if_pos hscale]
    · simp only [if_neg hscale]
  · simp only [if_neg hms]
    by_cases hscale : e.scaleFactor = .fin 0
    · simp only [if_pos hscale]
    · simp only [if_neg hscale]

theorem normalize_defaults (e : AmmMappingEntry) (ms : UInt32) (q : CFloat) :
    ammNormalizeReadWindow { e with pollIntervalMs := ms, scaleFactor := q } =
      { ammNormalizeReadWindow e with pollIntervalMs := ms, scaleFactor := q } := by
  have htopic : ∀ e : AmmMappingEntry,
      normalizeTopicMode { e with pollIntervalMs := ms, scaleFactor := q } =
        { normalizeTopicMode e with pollIntervalMs := ms, scaleFactor := q } := by
    intro e
    unfold normalizeTopicMode
    by_cases h : e.mqttTopicMode ≠ .custom
    · rw [if_pos h, if_pos h]
    · rw [if_neg h, if_neg h]
  have hobject : ∀ e : AmmMappingEntry,
      normalizeObjectType { e with pollIntervalMs := ms, scaleFactor := q } =
        { normalizeObjectType e with pollIntervalMs := ms, scaleFactor := q } := by
    intro e
    unfold normalizeObjectType
    by_cases h : e.objectType.code < 1 ∨ e.objectType.code > 4
    · rw [if_pos h, if_pos h]
    · rw [if_neg h, if_neg h]
  have hwindow : ∀ e : AmmMappingEntry,
      normalizeWindow { e with pollIntervalMs := ms, scaleFactor := q } =
        { normalizeWindow e with pollIntervalMs := ms, scaleFactor := q } := by
    intro e
    have hsame : windowHolds { e with pollIntervalMs := ms, scaleFactor := q }
        (pointCount { e with pollIntervalMs := ms, scaleFactor := q }).toNat =
          windowHolds e (pointCount e).toNat := rfl
    unfold normalizeWindow
    rw [hsame]
    by_cases h : windowHolds e (pointCount e).toNat = true
    · rw [if_pos h, if_pos h]
    · rw [if_neg h, if_neg h]
      rfl
  rw [ammNormalizeReadWindow, htopic, hobject, ammNormalizeReadWindow, ← hwindow]
  rfl

theorem loadedEntry_normalize (dflt : UInt32) (e : AmmMappingEntry) :
    loadedEntry dflt (ammNormalizeReadWindow e) = loadedEntry dflt e := by
  rw [loadedEntry_eq, loadedEntry_eq, defaults_eq, defaults_eq, normalize_pollIntervalMs,
    normalize_scaleFactor, normalize_defaults, normalize_of_normal (normal_normalize e)]
  exact (normalize_defaults e _ _).symm

theorem loaded_settled (hdflt : dflt ≠ 0) (e : AmmMappingEntry) : Settled (loadedEntry dflt e) := by
  rw [loadedEntry_eq]
  refine ⟨?_, ?_, normal_normalize _⟩
  · rw [normalize_pollIntervalMs, withScale_interval]
    exact withPollInterval_ne hdflt e
  · rw [normalize_scaleFactor]
    exact withScale_ne _

theorem loadedEntry_of_settled (dflt : UInt32) (h : Settled e) : loadedEntry dflt e = e := by
  rw [loadedEntry_eq, withPollInterval_of_ne h.interval, withScale, if_neg h.scale,
    normalize_of_normal h.normal]

theorem loadedEntry_eq_iff (hdflt : dflt ≠ 0) : loadedEntry dflt e = e ↔ Settled e := by
  refine ⟨fun h => ?_, loadedEntry_of_settled dflt⟩
  rw [← h]
  exact loaded_settled hdflt e

theorem imported_settled (hdflt : dflt ≠ 0) (v : SeqId) (e : AmmMappingEntry) :
    Settled (importEntry dflt v e) :=
  loaded_settled hdflt { e with active := true, mappingVersion := v }

theorem normal_stamped_iff (e : AmmMappingEntry) (v : SeqId) (ms : UInt32) :
    Normal { e with mappingVersion := v, pollIntervalMs := ms } ↔ Normal e :=
  ⟨fun h => ⟨h.topicMode, h.objectType, h.retryCount, h.retryBackoff, h.confidence, h.window⟩,
    fun h => ⟨h.topicMode, h.objectType, h.retryCount, h.retryBackoff, h.confidence, h.window⟩⟩

theorem normal_withPollInterval (dflt : UInt32) (e : AmmMappingEntry) :
    Normal (withPollInterval dflt e) ↔ Normal e := by
  unfold withPollInterval
  split
  · exact normal_stamped_iff e e.mappingVersion dflt
  · rfl

theorem settled_stable : Stable Settled where
  version e v := by
    have hnormal := normal_stamped_iff e v e.pollIntervalMs
    exact ⟨fun h => ⟨h.interval, h.scale, hnormal.1 h.normal⟩,
      fun h => ⟨h.interval, h.scale, hnormal.2 h.normal⟩⟩
  interval e ms hms h := by
    refine ⟨?_, h.scale, (normal_stamped_iff e e.mappingVersion ms).2 h.normal⟩
    rintro (hzero : ms = 0)
    rw [hzero] at hms
    exact absurd hms (by decide)

theorem stored_settled_iff {a : AmmTable} (hdflt : a.defaultPollMs ≠ 0) (e : AmmMappingEntry) :
    Settled (a.stored e) ↔ e.scaleFactor ≠ .fin 0 := by
  have hscale : (a.stored e).scaleFactor = e.scaleFactor := by
    rw [AmmTable.stored, withPollInterval_scale]
    exact normalize_scaleFactor _
  constructor
  · intro h
    rw [← hscale]
    exact h.scale
  · intro h
    refine ⟨withPollInterval_ne hdflt _, by rw [hscale]; exact h, ?_⟩
    have hnormal := normal_normalize { e with active := true }
    rw [AmmTable.stored, normal_withPollInterval]
    exact (normal_stamped_iff _ _ (ammNormalizeReadWindow { e with active := true }).pollIntervalMs).2
      hnormal

end Settled

/-! ## Staged entries -/

/-- The window of the user's entry holds as much text as is imported. -/
def StagedSettled (table : List AmmMappingEntry) (e : AmmMappingEntry) : Prop :=
  ∀ u, userEntry table e = some u → OwnWindow { u with stringLength := e.stringLength }

theorem overlay_settled_iff {u x : AmmMappingEntry} (hu : Settled u) (hx : Settled x)
    (hkey : u.registerAddress = x.registerAddress) :
    Settled (ammOverlayUserSemantics u x) ↔
      OwnWindow { u with stringLength := x.stringLength } := by
  have hwindow : OwnWindow (ammOverlayUserSemantics u x) ↔
      OwnWindow { u with stringLength := x.stringLength } := by
    unfold OwnWindow
    rw [hkey]
    rfl
  rw [← hwindow]
  refine ⟨fun h => h.normal.window, fun h => ⟨hu.interval, hu.scale, ?_⟩⟩
  exact ⟨hu.normal.topicMode, hx.normal.objectType, hx.normal.retryCount, hx.normal.retryBackoff,
    hu.normal.confidence, h⟩

theorem userEntry_address {table : List AmmMappingEntry} {e u : AmmMappingEntry}
    (h : userEntry table e = some u) : u.registerAddress = e.registerAddress := by
  have hu := List.find?_some h
  simp only [Bool.and_eq_true, ammSamePhysicalPoint, decide_eq_true_eq] at hu
  exact congrArg PhysicalKey.registerAddress hu.2

theorem staged_settled_iff {a : AmmTable} (h : AllActive Settled a.table)
    (hdflt : a.defaultPollMs ≠ 0) (v : SeqId) (e : AmmMappingEntry) :
    Settled (overlayUser a.table (importEntry a.defaultPollMs v e)) ↔
      StagedSettled a.table e := by
  have himported := imported_settled hdflt v e
  have huser := userEntry_importEntry a.table a.defaultPollMs v e
  unfold StagedSettled
  cases hu : userEntry a.table e with
  | none =>
    rw [overlayUser_of_none (huser.trans hu)]
    exact iff_of_true himported fun u hu => absurd hu nofun
  | some u =>
    obtain ⟨hmem, hactive⟩ := userEntry_active hu
    have hlength : (importEntry a.defaultPollMs v e).stringLength = e.stringLength := by
      rw [stringLength_isIdentity.importEntry]
    rw [overlayUser_of_some (huser.trans hu), overlay_settled_iff (h u hmem hactive) himported
      (userEntry_address (huser.trans hu)), hlength]
    exact ⟨fun hown _ hu => Option.some.inj hu ▸ hown, fun hown => hown u rfl⟩

/-! ## Rebuilding -/

def AmmStore.loaded (s : AmmStore) : EspErr × AmmTable :=
  ammLoadFromNvs .ok s.nvs (.empty s.ram.capacity)

/-- The next load succeeds and gives the slots, the active entries and the
default interval of the table. -/
structure Rebuilds (s : AmmStore) : Prop where
  ok : s.loaded.1 = .ok
  flags : s.loaded.2.table.map AmmMappingEntry.active = s.ram.table.map AmmMappingEntry.active
  entry : ∀ (i : Nat) (e : AmmMappingEntry), s.ram.table[i]? = some e → e.active = true →
    s.loaded.2.table[i]? = some e
  interval : s.loaded.2.defaultPollMs = s.ram.defaultPollMs

theorem ne_zero_of_range {ms : UInt32} (h : 100 ≤ ms) : ms ≠ 0 := by
  rintro rfl
  exact absurd h (by decide)

/-- In sync the table is rebuilt when a load leaves its active entries alone. -/
theorem rebuilds_iff {s : AmmStore} (h : InSync s.ram s.nvs) :
    Rebuilds s ↔ AllActive Settled s.ram.table := by
  have hload : s.loaded = _ := h.load
  have hdflt := ne_zero_of_range h.interval_range.1
  constructor
  · intro hrebuilds e he hactive
    obtain ⟨i, hi⟩ := List.mem_iff_getElem?.1 he
    have hentry := hrebuilds.entry i e hi hactive
    rw [hload] at hentry
    simp only [List.getElem?_map, hi, Option.map_some, Option.some.injEq] at hentry
    exact (loadedEntry_eq_iff hdflt).1 hentry
  · intro hall
    refine ⟨by rw [hload], ?_, fun i e hi hactive => ?_, by rw [hload]⟩
    · rw [hload]
      simp only [List.map_map, Function.comp_def, loadedEntry_active]
    · have hsettled := hall e (List.mem_of_getElem? hi) hactive
      rw [hload]
      simp only [List.getElem?_map, hi, Option.map_some, loadedEntry_of_settled _ hsettled]

/-! ## Runs of successful operations -/

/-- An operation with the answers of its NVS calls. -/
abbrev FaultyCall := AmmCall × AmmFaults

namespace AmmStore

def callStep (s : AmmStore) (c : FaultyCall) : AmmStore := s.step (.call c.1 c.2)

def Succeeds (s : AmmStore) (c : FaultyCall) : Prop := (s.perform c.1 c.2).1 = .ok

def RebuildsAfter (s : AmmStore) (c : FaultyCall) : Prop := Rebuilds (s.callStep c)

/-- What is added or updated has a scale, and what is imported fits into the
window of the user's entry. -/
def StoresSettled (s : AmmStore) : FaultyCall → Prop
  | (.add e, _) | (.update _ e, _) => e.scaleFactor ≠ .fin 0
  | (.import entries _, _) =>
      ∀ e ∈ lasts AmmMappingEntry.key entries, StagedSettled s.ram.table e
  | _ => True

/-- What is known before a step of a run of successful operations. -/
structure RunInv (s : AmmStore) : Prop where
  entries : EntryInv Settled s
  slots : SlotsInSync s.ram s.nvs

theorem keepsEntries_settled_iff {s : AmmStore} (h : RunInv s) {c : FaultyCall}
    (hok : s.Succeeds c) : KeepsEntries Settled s (.call c.1 c.2) ↔ s.StoresSettled c := by
  obtain ⟨call, f⟩ := c
  obtain ⟨next, save, hout, -⟩ := perform_ok hok
  have hdflt := ne_zero_of_range h.slots.interval_range.1
  cases call with
  | add e =>
    have hstored := stored_settled_iff hdflt e
    exact ⟨fun hkeeps => hstored.1 (hkeeps next save hout), fun hscale _ _ _ => hstored.2 hscale⟩
  | update index e =>
    have hstored := stored_settled_iff hdflt e
    exact ⟨fun hkeeps => hstored.1 (hkeeps next save hout), fun hscale _ _ _ => hstored.2 hscale⟩
  | «import» entries replaceDevices =>
    have hstaged := forall_lasts_staged (staged_settled_iff h.entries.ram hdflt)
      s.ram.modelVersion entries
    exact ⟨fun hkeeps => hstaged.1 (hkeeps next save hout), fun hfits _ _ _ => hstaged.2 hfits⟩
  | remove | removeForChannel | clear | setPollIntervalAll | rollback => rfl

theorem rebuildsAfter_iff {s : AmmStore} (h : RunInv s) {c : FaultyCall} (hok : s.Succeeds c) :
    s.RebuildsAfter c ↔ TableAfter (AllActive Settled) s (.call c.1 c.2) :=
  rebuilds_iff (InSync.of_success h.slots hok)

/-- **Refinement.** On a new device nothing is loaded; along a run of successful
operations the next load rebuilds the table exactly, just as long as each of
them stores entries that a load leaves alone. -/
theorem rebuilds_run (capacity : Nat) (calls : List FaultyCall)
    (hok : AllSteps callStep Succeeds (.fresh capacity) calls) :
    ¬ Rebuilds (.fresh capacity) ∧
      (AllSteps callStep RebuildsAfter (.fresh capacity) calls ↔
        AllSteps callStep StoresSettled (.fresh capacity) calls) := by
  refine ⟨fun h => absurd h.ok nofun, ?_⟩
  refine allSteps_iff (K := fun s cs => RunInv s ∧ AllSteps callStep Succeeds s cs) ?_ ?_
    ⟨⟨⟨allActive_nil, fun _ h => absurd h nofun⟩, slotsInSync_fresh capacity⟩, hok⟩
  · rintro s c cs ⟨h, hnow, hlater⟩ hafter
    refine ⟨⟨h.entries.step ((rebuildsAfter_iff h hnow).1 hafter), ?_⟩, hlater⟩
    exact (InSync.of_success h.slots hnow).toSlotsInSync
  · rintro s c cs ⟨h, hnow, -⟩
    rw [rebuildsAfter_iff h hnow, entries_step_iff settled_stable h.entries,
      keepsEntries_settled_iff h hnow]

instance succeedsDecidable (s : AmmStore) (c : FaultyCall) : Decidable (s.Succeeds c) :=
  inferInstanceAs (Decidable ((s.perform c.1 c.2).1 = .ok))

instance ownWindowDecidable (e : AmmMappingEntry) : Decidable (OwnWindow e) :=
  inferInstanceAs (Decidable (windowHolds e (pointCount e).toNat = true ∨
    e.readStartAddress = e.registerAddress ∧ e.readRegisterCount = pointCount e ∧
      e.valueRegisterIndex = 0))

instance stagedSettledDecidable (table : List AmmMappingEntry) (e : AmmMappingEntry) :
    Decidable (StagedSettled table e) :=
  decidable_of_iff (∀ u ∈ userEntry table e, OwnWindow { u with stringLength := e.stringLength })
    Iff.rfl

instance storesSettledDecidable (s : AmmStore) : (c : FaultyCall) → Decidable (s.StoresSettled c)
  | (.add e, _) | (.update _ e, _) => inferInstanceAs (Decidable (e.scaleFactor ≠ .fin 0))
  | (.import entries _, _) => inferInstanceAs
      (Decidable (∀ e ∈ lasts AmmMappingEntry.key entries, StagedSettled s.ram.table e))
  | (.remove .., _) | (.removeForChannel .., _) | (.clear, _) | (.setPollIntervalAll _, _)
  | (.rollback, _) => isTrue trivial

def scaledPoint (registerAddress : UInt16) (pollIntervalMs : UInt32) : AmmMappingEntry :=
  { holdingPoint registerAddress "meter".toList "energy".toList with
    dataType := .float32
    scaleFactor := .fin (1 / 10)
    pollIntervalMs := pollIntervalMs }

/-- Points are added, imported over, edited and removed. -/
def settledCalls : List FaultyCall :=
  [(.add samplePoint, .ok), (.add (scaledPoint 1 500), .ok),
    (.import [holdingPoint 0 "meter".toList "current".toList,
      holdingPoint 5 "pump".toList "flow".toList] false, .ok),
    (.update 1 (scaledPoint 2 2000), .ok), (.remove 1 0, .ok)]

theorem settled_calls_rebuild :
    AllSteps callStep RebuildsAfter (.fresh 1000) settledCalls :=
  (rebuilds_run 1000 settledCalls (by decide +kernel)).2.2 (by decide +kernel)

def scalelessPoint : AmmMappingEntry := { samplePoint with scaleFactor := .fin 0 }

/-- A point without a scale is added as it is and loaded with the scale 1. -/
theorem scaleless_add_not_rebuilt :
    ¬ (AllSteps callStep Succeeds (.fresh 1000) [(.add scalelessPoint, .ok)] →
      AllSteps callStep RebuildsAfter (.fresh 1000) [(.add scalelessPoint, .ok)]) := by
  intro h
  obtain ⟨hrebuilds, -⟩ := h ⟨by unfold Succeeds; decide +kernel, trivial⟩
  have hentry := hrebuilds.entry 0 ((AmmTable.empty 1000).stored scalelessPoint)
    (by decide +kernel) (stored_active _ _)
  revert hentry
  decide +kernel

end AmmStore

end McpGateway.Amm
