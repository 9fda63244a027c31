import McpGateway.Amm.Rebuild

/-!
# Table saves that stop part-way

A table save writes count, schema, interval and then one blob after the other
over those of the old table. `table_save_iff` says for every cut whether the
next load still gives one of the two tables, and when a failed import leaves
the partition with the table that is in memory.
-/

namespace McpGateway.Amm

open McpGateway.Lib McpGateway.Tcm

section Cuts

/-- The default interval that a load reads after `k` calls. -/
def cutInterval (a : AmmTable) (dflt : UInt32) (k : Nat) : UInt32 :=
  if k ≤ 3 then a.defaultPollMs else dflt

/-- The count has not changed, and what `k` calls wrote over the old table loads like it. -/
structure OldShown (a : AmmTable) (n : AmmNvs) (dflt : UInt32) (staged : List AmmMappingEntry)
    (k : Nat) : Prop where
  count : staged.length = a.table.length
  written : ∀ i x y, i + 4 < k → staged[i]? = some x → a.table[i]? = some y →
    loadedEntry (cutInterval a dflt k) x = loadedEntry (cutInterval a dflt k) y
  rest : ∀ i y, k ≤ i + 4 → a.table[i]? = some y → SlotLoads (cutInterval a dflt k) n i y

/-- The slots that `k` calls did not get to held the staged entries already. -/
def StagedStored (a : AmmTable) (n : AmmNvs) (dflt : UInt32) (staged : List AmmMappingEntry)
    (k : Nat) : Prop :=
  ∀ i x, k ≤ i + 4 → staged[i]? = some x → SlotLoads (cutInterval a dflt k) n i x

/-- A cut before the first write, or one that shows one of the tables. -/
def SafeCut (a : AmmTable) (n : AmmNvs) (dflt : UInt32) (staged : List AmmMappingEntry)
    (k : Nat) : Prop :=
  k ≤ 1 ∨ OldShown a n dflt staged k ∨ StagedStored a n dflt staged k

variable {a : AmmTable} {n m : AmmNvs} {staged : List AmmMappingEntry} {dflt : UInt32} {k : Nat}

theorem slotLoads_current_iff {d : UInt32} {i : Nat} {x y : AmmMappingEntry}
    (h : m.entry i = some (.current x)) :
    SlotLoads d m i y ↔ loadedEntry d x = loadedEntry d y := by
  constructor
  · rintro ⟨blob, e, hblob, hload, hsame⟩
    obtain rfl := Option.some.inj (h.symm.trans hblob)
    rw [loadBlob, if_pos rfl] at hload
    rw [Except.ok.inj hload]
    exact hsame
  · exact fun hsame => ⟨.current x, x, h, by rw [loadBlob, if_pos rfl], hsame⟩

theorem slotLoads_congr {d : UInt32} {i : Nat} {y : AmmMappingEntry}
    (h : m.entry i = n.entry i) : SlotLoads d m i y ↔ SlotLoads d n i y := by
  unfold SlotLoads
  rw [h]

section InSync

variable (h : InSync a n) (hcut : TableCut dflt staged n k m)
include h hcut

theorem cut_schema : m.schema = some ammNvsSchemaVersion := by
  rw [hcut.schema, h.schema]
  split <;> rfl

theorem cut_interval (hdflt : 100 ≤ dflt ∧ dflt ≤ 3600000) :
    loadedPollMs .ok m pollIntervalMs = cutInterval a dflt k := by
  have hpollMs := hcut.pollMs
  unfold cutInterval
  split
  · rename_i hk
    rw [if_pos hk] at hpollMs
    rw [loadedPollMs_congr hpollMs, h.interval]
  · rename_i hk
    rw [if_neg hk] at hpollMs
    exact loadedPollMs_of_some hpollMs hdflt _

theorem yields_old_iff (hdflt : 100 ≤ dflt ∧ dflt ≤ 3600000) :
    Yields a.capacity m a.table ↔ k ≤ 1 ∨ OldShown a n dflt staged k := by
  by_cases hk : k ≤ 1
  · rw [hcut.early hk, yields_iff h.schema, h.interval]
    exact iff_of_true ⟨h.count, h.fits, h.slot⟩ (.inl hk)
  rw [yields_iff (cut_schema h hcut), cut_interval h hcut hdflt, hcut.count, if_neg hk]
  constructor
  · rintro ⟨hcount, -, hslots⟩
    have hlen : staged.length = a.table.length := by
      have := Option.some.inj hcount
      omega
    refine .inr ⟨hlen, fun i x y hi hx hy => ?_, fun i y hi hy => ?_⟩
    · have hentry := hcut.entry i x hx
      rw [if_pos hi] at hentry
      exact (slotLoads_current_iff hentry).1 (hslots i y hy)
    · have hlt : i < staged.length := hlen ▸ (List.getElem?_eq_some_iff.1 hy).1
      have hentry := hcut.entry i _ (List.getElem?_eq_getElem hlt)
      rw [if_neg (by omega)] at hentry
      exact (slotLoads_congr hentry).1 (hslots i y hy)
  · rintro (hearly | hold)
    · exact absurd hearly hk
    · refine ⟨by rw [hold.count], h.fits, fun i y hy => ?_⟩
      have hlt : i < staged.length := hold.count ▸ (List.getElem?_eq_some_iff.1 hy).1
      have hx := List.getElem?_eq_getElem hlt
      have hentry := hcut.entry i _ hx
      by_cases hi : i + 4 < k
      · rw [if_pos hi] at hentry
        exact (slotLoads_current_iff hentry).2 (hold.written i _ y hi hx hy)
      · rw [if_neg hi] at hentry
        exact (slotLoads_congr hentry).2 (hold.rest i y (Nat.le_of_not_lt hi) hy)

theorem yields_staged_iff (hdflt : 100 ≤ dflt ∧ dflt ≤ 3600000)
    (hfits : staged.length ≤ a.capacity) (hk : ¬ k ≤ 1) :
    Yields a.capacity m staged ↔ StagedStored a n dflt staged k := by
  rw [yields_iff (cut_schema h hcut), cut_interval h hcut hdflt, hcut.count, if_neg hk]
  constructor
  · rintro ⟨-, -, hslots⟩ i x hi hx
    have hentry := hcut.entry i x hx
    rw [if_neg (by omega)] at hentry
    exact (slotLoads_congr hentry).1 (hslots i x hx)
  · refine fun hstored => ⟨rfl, hfits, fun i x hx => ?_⟩
    have hentry := hcut.entry i x hx
    by_cases hi : i + 4 < k
    · rw [if_pos hi] at hentry
      exact slotLoads_current hentry
    · rw [if_neg hi] at hentry
      exact (slotLoads_congr hentry).2 (hstored i x (Nat.le_of_not_lt hi) hx)

theorem safeCut_iff (hdflt : 100 ≤ dflt ∧ dflt ≤ 3600000) (hfits : staged.length ≤ a.capacity) :
    Yields a.capacity m a.table ∨ Yields a.capacity m staged ↔ SafeCut a n dflt staged k := by
  rw [yields_old_iff h hcut hdflt, SafeCut]
  by_cases hk : k ≤ 1
  · exact iff_of_true (.inl (.inl hk)) (.inl hk)
  · rw [yields_staged_iff h hcut hdflt hfits hk, or_assoc]

end InSync

theorem oldShown_iff (h : InSync a n) : OldShown a n a.defaultPollMs staged k ↔
    staged.length = a.table.length ∧
      ∀ i x y, i + 4 < k → staged[i]? = some x → a.table[i]? = some y →
        loadedEntry a.defaultPollMs x = loadedEntry a.defaultPollMs y := by
  have hinterval : cutInterval a a.defaultPollMs k = a.defaultPollMs := by
    unfold cutInterval
    split <;> rfl
  constructor
  · intro hold
    exact ⟨hold.count, fun i x y hi hx hy => by rw [← hinterval]; exact hold.written i x y hi hx hy⟩
  · rintro ⟨hcount, hwritten⟩
    refine ⟨hcount, ?_, fun i y _ hy => ?_⟩
    · rw [hinterval]
      exact hwritten
    · rw [hinterval]
      exact h.slot i y hy

end Cuts

/-! ## Imports -/

section Import

variable {s : AmmStore} {entries : List AmmMappingEntry} {replaceDevices : Bool} {f : AmmFaults}

/-- How many calls of the table save of an import succeed. -/
def importCalls (s : AmmStore) (f : AmmFaults) (next : AmmTable) : Nat :=
  answered f.save 0
    (tableCalls s.ram.defaultPollMs next.table s.ram.table.length).length

/-- The save is not reached, or it fails before its first write, or what it
wrote over the old table loads like it. -/
def ImportKeeps (s : AmmStore) (entries : List AmmMappingEntry) (replaceDevices : Bool)
    (f : AmmFaults) : Prop :=
  ∀ next, s.plan (.import entries replaceDevices) f = .change next .staged →
    ammSnapshotPermitsMutation (s.snapped f .staged).1 = true →
      importCalls s f next ≤ 1 ∨
        next.table.length = s.ram.table.length ∧
          ∀ i x y, i + 4 < importCalls s f next → next.table[i]? = some x →
            s.ram.table[i]? = some y →
              loadedEntry s.ram.defaultPollMs x = loadedEntry s.ram.defaultPollMs y

theorem InSync.sameSlots {a : AmmTable} {n m : AmmNvs} (h : InSync a n) (hm : SameSlots n m) :
    InSync a m :=
  ⟨h.toSlotsInSync.sameSlots hm, hm.count.trans h.count, hm.schema.trans h.schema⟩

theorem InSync.yields {a : AmmTable} {n : AmmNvs} (h : InSync a n) :
    Yields a.capacity n a.table := by
  rw [yields_iff h.schema, h.interval]
  exact ⟨h.count, h.fits, h.slot⟩

/-- An import that fails keeps the memory, and the partition when `ImportKeeps` says so. -/
theorem failed_import_iff (h : InSync s.ram s.nvs)
    (herr : (s.perform (.import entries replaceDevices) f).1 ≠ .ok) :
    (s.perform (.import entries replaceDevices) f).2.ram = s.ram ∧
      (Yields s.ram.capacity (s.perform (.import entries replaceDevices) f).2.nvs s.ram.table ↔
        ImportKeeps s entries replaceDevices f) := by
  have hkept : ∀ m, SameSlots s.nvs m → Yields s.ram.capacity m s.ram.table :=
    fun m hm => (h.sameSlots hm).yields
  cases hplan : s.plan (.import entries replaceDevices) f with
  | refused err =>
    simp only [AmmStore.perform, hplan]
    refine ⟨trivial, iff_of_true h.yields fun next hnext => ?_⟩
    cases hplan.symm.trans hnext
  | rejected err =>
    simp only [AmmStore.perform, hplan]
    refine ⟨trivial, iff_of_true (hkept _ (snapshot_sameSlots _ _ _)) fun next hnext => ?_⟩
    cases hplan.symm.trans hnext
  | change next save =>
    obtain ⟨-, kept, st, hstage, hloop, hnext, rfl⟩ := planImport_change hplan
    have hsnap := snapped_sameSlots s f .staged
    by_cases hpermits : ammSnapshotPermitsMutation (s.snapped f .staged).1 = false
    · simp only [AmmStore.perform, hplan, if_pos hpermits]
      refine ⟨trivial, iff_of_true (hkept _ hsnap) fun _ _ hok => ?_⟩
      rw [hpermits] at hok
      cases hok
    · have hfits : next.table.length ≤ s.ram.capacity := by
        rw [hnext]
        exact importLoop_fits hloop (stageKept_fits hstage)
      have hsave : SaveKind.staged.perform f.save s.ram next (s.snapped f .staged).2 =
          durably f.save (tableCalls s.ram.defaultPollMs next.table s.ram.table.length)
            (s.snapped f .staged).2 := by
        show ammSaveTableToNvs _ _ _ _ _ _ = _
        rw [ammSaveTableToNvs, if_neg (Nat.not_lt.2 hfits)]
      simp only [AmmStore.perform, hplan, if_neg hpermits, hsave] at herr ⊢
      have hkeeps : ImportKeeps s entries replaceDevices f ↔ importCalls s f next ≤ 1 ∨
          OldShown s.ram (s.snapped f .staged).2 s.ram.defaultPollMs next.table
            (importCalls s f next) := by
        rw [oldShown_iff (h.sameSlots hsnap)]
        constructor
        · exact fun hall => hall next hplan (by simpa using hpermits)
        · intro hone next' hnext' _
          obtain ⟨rfl, -⟩ := Plan.change.inj (hplan.symm.trans hnext')
          exact hone
      refine ⟨by simp [SaveKind.first, herr], ?_⟩
      rw [hkeeps, ← yields_old_iff (h.sameSlots hsnap)
        (tableCut s.ram.defaultPollMs next.table s.ram.table.length _ (importCalls s f next))
        h.interval_range]
      unfold durably importCalls
      rw [attempt_snd]

end Import

/-- For entries that a load leaves alone, a load yields a table when it gives the same one. -/
theorem yields_settled_iff {capacity : Nat} {n : AmmNvs} {table : List AmmMappingEntry}
    (h : ∀ e ∈ table, Settled e) :
    Yields capacity n table ↔ (ammLoadFromNvs .ok n (.empty capacity)).1 = .ok ∧
      (ammLoadFromNvs .ok n (.empty capacity)).2.table = table := by
  have hsame : ∀ d, table.map (loadedEntry d) = table := by
    intro d
    calc table.map (loadedEntry d) = table.map id :=
          List.map_congr_left fun e he => loadedEntry_of_settled d (h e he)
      _ = table := List.map_id table
  rw [Yields, hsame]

/-- **Interrupted table saves.** After any number of calls the next load yields
the old or the staged table exactly when the cut is safe; and a failed import
leaves memory as it was, and the partition with it exactly when `ImportKeeps`. -/
theorem table_save_iff {s : AmmStore} (h : InSync s.ram s.nvs) :
    (∀ (staged : List AmmMappingEntry) (dflt : UInt32) (oldCount k : Nat),
      staged.length ≤ s.ram.capacity → 100 ≤ dflt ∧ dflt ≤ 3600000 →
        (Yields s.ram.capacity (upTo k (tableCalls dflt staged oldCount) s.nvs) s.ram.table ∨
            Yields s.ram.capacity (upTo k (tableCalls dflt staged oldCount) s.nvs) staged ↔
          SafeCut s.ram s.nvs dflt staged k)) ∧
      ∀ entries replaceDevices f, (s.perform (.import entries replaceDevices) f).1 ≠ .ok →
        (s.perform (.import entries replaceDevices) f).2.ram = s.ram ∧
          (Yields s.ram.capacity (s.perform (.import entries replaceDevices) f).2.nvs s.ram.table ↔
            ImportKeeps s entries replaceDevices f) :=
  ⟨fun staged dflt oldCount k hfits hdflt =>
      safeCut_iff h (tableCut dflt staged oldCount s.nvs k) hdflt hfits,
    fun _ _ _ herr => failed_import_iff h herr⟩

def onePoint : AmmStore := ((AmmStore.fresh 1000).perform (.add samplePoint) .ok).2

theorem onePoint_sync : InSync onePoint.ram onePoint.nvs :=
  InSync.of_success (slotsInSync_fresh 1000) (by decide +kernel)

def twoPoints : AmmStore :=
  (onePoint.perform (.add (holdingPoint 1 "meter".toList "voltage".toList)) .ok).2

def threePoints : AmmStore := (twoPoints.perform (.add (AmmStore.scaledPoint 5 500)) .ok).2

/-- The saved table with another interval for the last point. -/
def editedPoints : List AmmMappingEntry :=
  threePoints.ram.table.take 2 ++ [threePoints.ram.stored (AmmStore.scaledPoint 5 2000)]

theorem threePoints_sync : InSync threePoints.ram threePoints.nvs :=
  have htwo : InSync twoPoints.ram twoPoints.nvs :=
    InSync.of_success onePoint_sync.toSlotsInSync (by decide +kernel)
  InSync.of_success htwo.toSlotsInSync (by decide +kernel)

/-- A save that is cut after the two entries which it does not change. -/
theorem edited_save_cut :
    Yields 1000 (upTo 6 (tableCalls 1000 editedPoints 3) threePoints.nvs) threePoints.ram.table ∨
      Yields 1000 (upTo 6 (tableCalls 1000 editedPoints 3) threePoints.nvs) editedPoints := by
  have hsame : ∀ i < 2, editedPoints[i]? = threePoints.ram.table[i]? := by decide +kernel
  refine ((table_save_iff threePoints_sync).1 editedPoints 1000 3 6 (by decide +kernel)
    (by decide)).2 (.inr (.inl ((oldShown_iff threePoints_sync).2 ⟨by decide +kernel, ?_⟩)))
  intro i x y hi hx hy
  rw [hsame i (by omega), hy] at hx
  rw [Option.some.inj hx]

/-- Two points to import in the place of the saved ones. -/
def otherPoints : AmmCall :=
  .import
    [holdingPoint 2 "meter".toList "energy".toList, holdingPoint 3 "meter".toList "current".toList]
    true

/-- The import fails at its second blob: the next load gives one entry of each model. -/
theorem failed_import_mixes_models :
    (twoPoints.perform otherPoints ⟨.ok, .ok, fun i => if i = 5 then some .fail else none⟩).1 =
        .fail ∧
      ¬ Yields 1000
          (twoPoints.perform otherPoints
            ⟨.ok, .ok, fun i => if i = 5 then some .fail else none⟩).2.nvs
          twoPoints.ram.table ∧
        ¬ Yields 1000
          (twoPoints.perform otherPoints
            ⟨.ok, .ok, fun i => if i = 5 then some .fail else none⟩).2.nvs
          (twoPoints.perform otherPoints .ok).2.ram.table := by
  unfold Yields
  decide +kernel

end McpGateway.Amm
