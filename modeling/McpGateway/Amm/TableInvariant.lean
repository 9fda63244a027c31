import McpGateway.Amm.Store

/-!
# Invariants of the table

A property `T` of the slots is brought back by a rollback and by a load. What it
takes to keep it along a run is said once here: it holds of the snapshot, and
the change of each operation keeps it.
-/

namespace McpGateway.Amm

open McpGateway.Lib McpGateway.Tcm

section Property

variable (T : List AmmMappingEntry → Prop)

def SnapshotHas (n : AmmNvs) : Prop := ∀ table, n.rollback = some table → T table

/-- Blobs of the running firmware only. -/
def CurrentBlobs (n : AmmNvs) : Prop := ∀ i b, n.entry i = some b → ∃ e, b = .current e

structure SnapshotInv (n : AmmNvs) : Prop where
  current : CurrentBlobs n
  snapshot : SnapshotHas T n

structure TableInv (s : AmmStore) : Prop where
  ram : T s.ram.table
  nvs : SnapshotInv T s.nvs

/-- The table after a step has the property. -/
def TableAfter (s : AmmStore) (st : AmmStep) : Prop := T (s.step st).ram.table

variable {T}

theorem currentBlobs_kept : KeptBySaves CurrentBlobs where
  count _ _ h := h
  schema _ h := h
  pollMs _ _ h := h
  entry i e n h j b hb := by
    simp only [AmmNvs.setEntry, Function.update_apply] at hb
    split at hb
    · exact ⟨e, (Option.some.inj hb).symm⟩
    · exact h j b hb
  erase i n h j b hb := by
    simp only [AmmNvs.eraseEntry, Function.update_apply] at hb
    split at hb
    · cases hb
    · exact h j b hb
  empty := fun _ _ h => absurd h nofun

theorem SnapshotHas.perform {s : AmmStore} (h : SnapshotHas T s.nvs) (hram : T s.ram.table)
    (call : AmmCall) (f : AmmFaults) : SnapshotHas T (s.perform call f).2.nvs := by
  have hkept : KeptBySaves (SnapshotHas T) :=
    ⟨⟨fun _ _ h => h, fun _ h => h, fun _ _ h => h, fun _ _ _ h => h, fun _ _ h => h⟩,
      fun _ h => absurd h nofun⟩
  refine hkept.step h (snapshot_induction h (fun _ _ h => h) ?_ (fun _ h => h) ?_ _)
  · intro _ _ table htable
    rw [← Option.some.inj htable]
    exact hram
  · exact fun _ _ _ h => absurd h nofun

theorem SnapshotInv.perform {s : AmmStore} (h : SnapshotInv T s.nvs) (hram : T s.ram.table)
    (call : AmmCall) (f : AmmFaults) : SnapshotInv T (s.perform call f).2.nvs := by
  refine ⟨currentBlobs_kept.step h.current ?_, h.snapshot.perform hram call f⟩
  exact snapshot_induction (P := CurrentBlobs) h.current (fun _ _ h => h) (fun _ h => h)
    (fun _ h => h) (fun _ h => h) _

theorem SnapshotHas.readRollback {n : AmmNvs} (h : SnapshotHas T n)
    (hzero : ∀ (table : List AmmMappingEntry) (k : Nat), T table →
      T (table ++ List.replicate k .zero))
    {f : NvsCalls} {capacity : Nat} {table : List AmmMappingEntry}
    (hread : readRollback f capacity n = .ok table) : T table := by
  obtain ⟨count, blob, -, -, -, hblob, -, rfl⟩ := readRollback_ok hread
  exact hzero blob _ (h blob hblob)

theorem TableInv.step {s : AmmStore} (h : TableInv T s) {st : AmmStep}
    (hafter : TableAfter T s st) : TableInv T (s.step st) := by
  refine ⟨hafter, ?_⟩
  cases st with
  | call call f => exact h.nvs.perform h.ram call f
  | load f => exact h.nvs
  | reboot f => exact h.nvs

theorem tableInv_fresh (hnil : T []) (capacity : Nat) : TableInv T (.fresh capacity) :=
  ⟨hnil, fun _ _ h => absurd h nofun, fun _ h => absurd h nofun⟩

/-- An operation keeps the property exactly when `G` holds, if its change does
and nothing is asked when there is none. -/
theorem perform_iff {s : AmmStore} (h : T s.ram.table) {call : AmmCall} {f : AmmFaults}
    {G : Prop}
    (hchange : ∀ next save, s.CarriesOut call f next save → (T next.table ↔ G))
    (hnone : (∀ next save, ¬ s.CarriesOut call f next save) → G) :
    T (s.perform call f).2.ram.table ↔ G := by
  by_cases hout : ∃ next save, s.CarriesOut call f next save
  · obtain ⟨next, save, hout⟩ := hout
    rw [hout.perform]
    exact hchange next save hout
  · rcases perform_cases s call f with hram | hout'
    · rw [hram]
      exact iff_of_true h (hnone fun next save hc => hout ⟨next, save, hc⟩)
    · exact absurd hout' hout

theorem SnapshotInv.loadSlots {n : AmmNvs} (h : SnapshotInv T n) {f : NvsCalls} {schema k : Nat}
    {entries : List AmmMappingEntry} (hslots : loadSlots f schema n 0 k = .ok entries) (i : Nat)
    (e : AmmMappingEntry) : entries[i]? = some e ↔ i < k ∧ n.entry i = some (.current e) := by
  obtain ⟨hlen, hslot⟩ := loadSlots_ok hslots
  have hstored : ∀ (i : Nat) (e : AmmMappingEntry), entries[i]? = some e →
      n.entry i = some (.current e) := by
    intro i e he
    obtain ⟨blob, hblob, hload⟩ := loadSlot_ok (hslot i e he)
    rw [Nat.zero_add] at hblob
    obtain ⟨e', rfl⟩ := h.current i blob hblob
    rw [loadBlob] at hload
    split at hload <;> cases hload
    exact hblob
  constructor
  · intro he
    have hi := (List.getElem?_eq_some_iff.1 he).1
    exact ⟨by omega, hstored i e he⟩
  · rintro ⟨hi, he⟩
    have hlt : i < entries.length := by omega
    have hsame := hstored i _ (List.getElem?_eq_getElem hlt)
    rw [List.getElem?_eq_getElem hlt, ← Blob.current.inj (Option.some.inj (he.symm.trans hsame))]

/-- A load keeps the property exactly when `G` holds, if the slots it reads do. -/
theorem SnapshotInv.load_iff {n : AmmNvs} {a : AmmTable} {f : NvsCalls} {G : Prop}
    (hram : T a.table) (hnil : T [])
    (hread : ∀ count entries, n.count = some count →
      Amm.loadSlots f (loadedSchema f n) n 0 count.toNat = .ok entries →
        (T (entries.map (loadedEntry (loadedPollMs f n a.defaultPollMs))) ↔ G)) :
    T (ammLoadFromNvs f n a).2.table ↔ ((ammLoadFromNvs f n a).1 = .ok → G) := by
  rcases load_cases f n a with ⟨herr, htable⟩ | ⟨count, entries, hcount, -, -, hslots, heq⟩
  · refine iff_of_true ?_ fun hok => absurd hok herr
    rcases htable with htable | htable
    · rwa [htable]
    · rwa [htable]
  · rw [heq]
    simp only [hread count entries hcount hslots, forall_const]

end Property

end McpGateway.Amm
