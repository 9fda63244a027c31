import McpGateway.Amm.Store

/-!
# The partition that holds a table

`InSync` says that the partition holds a table: its count, its schema, its
default interval and, slot by slot, entries that load like those of the table.
Every operation that succeeds ends in sync (`InSync.of_success`), and a reboot
in sync loads the table (`InSync.reboot`). `tableCut` tells what the first few
calls of a table save leave.
-/

namespace McpGateway.Amm

open McpGateway.Lib McpGateway.Tcm

/-! ## The calls of a table save -/

section Calls

variable {n : AmmNvs} {table : List AmmMappingEntry} {dflt : UInt32} {oldCount k : Nat}

/-- What the first `k` calls of a table save leave of the partition `n`. -/
structure TableCut (dflt : UInt32) (table : List AmmMappingEntry) (n : AmmNvs) (k : Nat)
    (m : AmmNvs) : Prop where
  count : m.count = if k ≤ 1 then n.count else some (table.length : Int)
  schema : m.schema = if k ≤ 2 then n.schema else some ammNvsSchemaVersion
  pollMs : m.pollMs = if k ≤ 3 then n.pollMs else some dflt
  entry : ∀ i x, table[i]? = some x →
    m.entry i = if i + 4 < k then some (.current x) else n.entry i
  early : k ≤ 1 → m = n

theorem upTo_blobCalls (j i : Nat) (es : List AmmMappingEntry) (n : AmmNvs) :
    ∃ entry, upTo j (blobCalls i es) n = { n with entry := entry } ∧
      (∀ p x, es[p]? = some x → entry (i + p) = if p < j then some (.current x) else n.entry (i + p)) ∧
      ∀ q, q < i → entry q = n.entry q := by
  induction es generalizing i j n with
  | nil => exact ⟨n.entry, upTo_nil j n, fun p x hx => absurd hx nofun, fun _ _ => rfl⟩
  | cons e es ih =>
    cases j with
    | zero => exact ⟨n.entry, rfl, fun p x _ => rfl, fun _ _ => rfl⟩
    | succ j =>
      obtain ⟨entry, heq, hslots, hbelow⟩ := ih j (i + 1) (n.setEntry i e)
      refine ⟨entry, heq, fun p x hx => ?_, fun q hq => ?_⟩
      · cases p with
        | zero =>
          have hhead : entry i = some (.current e) := by
            rw [hbelow i (Nat.lt_succ_self i)]
            exact Function.update_self i _ n.entry
          rw [← Option.some.inj hx, if_pos (Nat.succ_pos j)]
          exact hhead
        | succ p =>
          have hne : i + (p + 1) ≠ i := by omega
          have hslot := hslots p x hx
          rw [Nat.add_right_comm, Nat.add_assoc] at hslot
          rw [hslot]
          simp only [AmmNvs.setEntry, Function.update_of_ne hne, Nat.succ_lt_succ_iff]
      · rw [hbelow q (by omega)]
        exact Function.update_of_ne (Nat.ne_of_lt hq) _ n.entry

/-- Erasing slots from `i` on leaves those below alone. -/
theorem upTo_eraseCalls (j i c : Nat) (n : AmmNvs) :
    ∃ entry, upTo j ((List.range' i c).map AmmNvs.eraseEntry) n = { n with entry := entry } ∧
      ∀ q, q < i → entry q = n.entry q := by
  refine upTo_induction (P := fun m => ∃ entry, m = { n with entry := entry } ∧
    ∀ q, q < i → entry q = n.entry q) ⟨n.entry, rfl, fun _ _ => rfl⟩ ?_ j
  rintro g hg m ⟨entry, rfl, hbelow⟩
  obtain ⟨p, hp, rfl⟩ := List.mem_map.1 hg
  obtain ⟨hle, -⟩ := List.mem_range'_1.1 hp
  refine ⟨Function.update entry p none, rfl, fun q hq => ?_⟩
  have hne : q ≠ p := by omega
  rw [Function.update_of_ne hne, hbelow q hq]

theorem upTo_commit (k : Nat) (n : AmmNvs) : upTo k [commit] n = n := by
  cases k with
  | zero => rfl
  | succ k => exact upTo_nil k n

theorem tableCut (dflt : UInt32) (table : List AmmMappingEntry) (oldCount : Nat) (n : AmmNvs)
    (k : Nat) : TableCut dflt table n k (upTo k (tableCalls dflt table oldCount) n) := by
  rcases Nat.lt_or_ge k 4 with hk | hk
  · have hslots : ∀ i x, table[i]? = some x →
        n.entry i = if i + 4 < k then some (.current x) else n.entry i := by
      intro i x _
      rw [if_neg (by omega)]
    obtain rfl | rfl | rfl | rfl : k = 0 ∨ k = 1 ∨ k = 2 ∨ k = 3 := by omega
    · exact ⟨rfl, rfl, rfl, hslots, fun _ => rfl⟩
    · exact ⟨rfl, rfl, rfl, hslots, fun _ => rfl⟩
    · exact ⟨rfl, rfl, rfl, hslots, fun h => absurd h (by decide)⟩
    · exact ⟨rfl, rfl, rfl, hslots, fun h => absurd h (by decide)⟩
  · obtain ⟨j, rfl⟩ := Nat.exists_eq_add_of_le' hk
    have hhead : upTo (j + 4) [openHandle, .setCount table.length, .setSchema, .setPollMs dflt] n =
        ((n.setCount table.length).setSchema).setPollMs dflt := upTo_nil j _
    have hcount : j + 4 - [openHandle, .setCount table.length, .setSchema,
        .setPollMs dflt].length = j := rfl
    obtain ⟨entry, hblobs, hslots, -⟩ := upTo_blobCalls j 0 table
      (((n.setCount table.length).setSchema).setPollMs dflt)
    rw [tableCalls, upTo_append, upTo_append, upTo_append, hhead, hcount, hblobs, upTo_commit]
    obtain ⟨entry', herase, hbelow⟩ := upTo_eraseCalls _ table.length (oldCount - table.length) _
    rw [herase]
    refine ⟨?_, ?_, ?_, fun i x hx => ?_, fun h => absurd h (by omega)⟩
    · rw [if_neg (by omega)]
      rfl
    · rw [if_neg (by omega)]
      rfl
    · rw [if_neg (by omega)]
      rfl
    · show entry' i = _
      have hi := (List.getElem?_eq_some_iff.1 hx).1
      have hslot := hslots i x hx
      rw [Nat.zero_add] at hslot
      rw [hbelow i hi]
      refine hslot.trans ?_
      by_cases hij : i < j
      · rw [if_pos hij, if_pos (by omega)]
      · rw [if_neg hij, if_neg (by omega)]
        rfl

theorem blobCalls_length (i : Nat) (es : List AmmMappingEntry) :
    (blobCalls i es).length = es.length := by
  induction es generalizing i with
  | nil => rfl
  | cons e es ih => rw [blobCalls, List.length_cons, List.length_cons, ih]

theorem durably_ok {f : NvsCalls} {calls : List (AmmNvs → AmmNvs)}
    (h : (durably f calls n).1 = .ok) : (durably f calls n).2 = upTo calls.length calls n := by
  unfold durably at h ⊢
  rcases attempt_cases f 0 calls n with ⟨k, e, -, -, heq⟩ | heq
  · rw [heq] at h
    exact absurd h e.fails.1
  · rw [heq]

theorem tableSave_ok {f : NvsCalls} {capacity : Nat}
    (h : (ammSaveTableToNvs f dflt table capacity oldCount n).1 = .ok) :
    table.length ≤ capacity ∧
      TableCut dflt table n (table.length + 5)
        (ammSaveTableToNvs f dflt table capacity oldCount n).2 := by
  unfold ammSaveTableToNvs at h ⊢
  split at h
  · cases h
  · rename_i hfits
    rw [if_neg hfits, durably_ok h]
    have hcut := tableCut dflt table oldCount n (tableCalls dflt table oldCount).length
    have hlen : table.length + 5 ≤ (tableCalls dflt table oldCount).length := by
      simp only [tableCalls, List.length_append, List.length_cons, List.length_nil,
        blobCalls_length]
      omega
    refine ⟨Nat.le_of_not_lt hfits, ?_, ?_, ?_, fun i x hx => ?_, fun h => absurd h (by omega)⟩
    · rw [hcut.count, if_neg (by omega), if_neg (by omega)]
    · rw [hcut.schema, if_neg (by omega), if_neg (by omega)]
    · rw [hcut.pollMs, if_neg (by omega), if_neg (by omega)]
    · have hi := (List.getElem?_eq_some_iff.1 hx).1
      rw [hcut.entry i x hx, if_pos (by omega), if_pos (by omega)]

end Calls

/-! ## What a load yields -/

/-- Slot `i` holds an entry that loads like `x`. -/
def SlotLoads (dflt : UInt32) (n : AmmNvs) (i : Nat) (x : AmmMappingEntry) : Prop :=
  ∃ blob e, n.entry i = some blob ∧ loadBlob ammNvsSchemaVersion blob = .ok e ∧
    loadedEntry dflt e = loadedEntry dflt x

/-- The next load succeeds and gives the entries of `table`, as it loads entries. -/
def Yields (capacity : Nat) (n : AmmNvs) (table : List AmmMappingEntry) : Prop :=
  (ammLoadFromNvs .ok n (.empty capacity)).1 = .ok ∧
    (ammLoadFromNvs .ok n (.empty capacity)).2.table =
      table.map (loadedEntry (ammLoadFromNvs .ok n (.empty capacity)).2.defaultPollMs)

section Yields

variable {n : AmmNvs} {table : List AmmMappingEntry} {dflt : UInt32} {capacity : Nat}

theorem slotLoads_current {i : Nat} {x : AmmMappingEntry} (h : n.entry i = some (.current x)) :
    SlotLoads dflt n i x :=
  ⟨.current x, x, h, by rw [loadBlob, if_pos rfl], rfl⟩

theorem loadSlots_of_slots {i : Nat}
    (h : ∀ j x, table[j]? = some x → SlotLoads dflt n (i + j) x) :
    ∃ entries, loadSlots .ok ammNvsSchemaVersion n i table.length = .ok entries ∧
      entries.map (loadedEntry dflt) = table.map (loadedEntry dflt) := by
  induction table generalizing i with
  | nil => exact ⟨[], rfl, rfl⟩
  | cons x xs ih =>
    obtain ⟨blob, e, hblob, hload, hsame⟩ := h 0 x rfl
    have hrest : ∀ j y, xs[j]? = some y → SlotLoads dflt n (i + 1 + j) y := by
      intro j y hy
      have hslot := h (j + 1) y hy
      rwa [← Nat.add_assoc, Nat.add_right_comm] at hslot
    obtain ⟨entries, hentries, hmap⟩ := ih hrest
    refine ⟨e :: entries, ?_, by rw [List.map_cons, List.map_cons, hsame, hmap]⟩
    have hslot : loadSlot .ok ammNvsSchemaVersion n i = .ok e := by
      unfold loadSlot
      rw [Nat.add_zero] at hblob
      simp only [NvsCalls.ok, hblob, hload]
    rw [List.length_cons, loadSlots, hslot, hentries]

theorem loadedSchema_ok (hschema : n.schema = some ammNvsSchemaVersion) :
    loadedSchema .ok n = ammNvsSchemaVersion := by
  rw [loadedSchema, hschema]
  rfl

theorem load_of_slots (hschema : n.schema = some ammNvsSchemaVersion)
    (hcount : n.count = some (table.length : Int)) (hfits : table.length ≤ capacity)
    (hslots : ∀ i x, table[i]? = some x → SlotLoads (loadedPollMs .ok n pollIntervalMs) n i x) :
    ammLoadFromNvs .ok n (.empty capacity) =
      (.ok,
        { AmmTable.empty capacity with
          defaultPollMs := loadedPollMs .ok n pollIntervalMs
          table := table.map (loadedEntry (loadedPollMs .ok n pollIntervalMs))
          modelVersion :=
            loadedVersion (table.map (loadedEntry (loadedPollMs .ok n pollIntervalMs))) }) := by
  obtain ⟨entries, hentries, hmap⟩ := loadSlots_of_slots (i := 0)
    (fun j x hx => by rw [Nat.zero_add]; exact hslots j x hx)
  have hrange : ¬ ((table.length : Int) < 0 ∨ (table.length : Int) > (capacity : Int)) := by omega
  have hread : loadSlots .ok (loadedSchema .ok n) n 0 (table.length : Int).toNat =
      .ok entries := by
    rw [loadedSchema_ok hschema]
    exact hentries
  rw [← hmap]
  have hanswer : ∀ i, NvsCalls.ok i = none := fun _ => rfl
  simp only [ammLoadFromNvs, hanswer, hcount, AmmTable.empty, if_neg hrange, hread]

/-- A load yields a table when the partition has its count and its slots load like it. -/
theorem yields_iff (hschema : n.schema = some ammNvsSchemaVersion) :
    Yields capacity n table ↔ n.count = some (table.length : Int) ∧ table.length ≤ capacity ∧
      ∀ i x, table[i]? = some x → SlotLoads (loadedPollMs .ok n pollIntervalMs) n i x := by
  constructor
  · rintro ⟨hok, htable⟩
    rcases load_cases .ok n (.empty capacity) with ⟨herr, -⟩ | ⟨count, entries, hcount, hnn,
      hfits, hslots, heq⟩
    · exact absurd hok herr
    · obtain ⟨hlen, hslot⟩ := loadSlots_ok hslots
      rw [heq] at htable
      have hlength : entries.length = table.length := by
        simpa using congrArg List.length htable
      refine ⟨by rw [hcount, ← hlength, hlen, Int.toNat_of_nonneg hnn], ?_, fun i x hx => ?_⟩
      · have hcap : count ≤ capacity := hfits
        omega
      · have hi : i < entries.length := by
          rw [hlength]
          exact (List.getElem?_eq_some_iff.1 hx).1
        obtain ⟨blob, hblob, hload⟩ := loadSlot_ok (hslot i _ (List.getElem?_eq_getElem hi))
        rw [Nat.zero_add] at hblob
        rw [loadedSchema_ok hschema] at hload
        refine ⟨blob, _, hblob, hload, ?_⟩
        have hget := congrArg (fun l => l[i]?) htable
        simp only [List.getElem?_map, hx, List.getElem?_eq_getElem hi, Option.map_some,
          Option.some.injEq] at hget
        exact hget
  · rintro ⟨hcount, hfits, hslots⟩
    unfold Yields
    rw [load_of_slots hschema hcount hfits hslots]
    exact ⟨rfl, rfl⟩

end Yields

/-! ## In sync -/

/-- The slots of the partition load like those of the table, at its interval. -/
structure SlotsInSync (a : AmmTable) (n : AmmNvs) : Prop where
  fits : a.table.length ≤ a.capacity
  interval : loadedPollMs .ok n pollIntervalMs = a.defaultPollMs
  slot : ∀ i x, a.table[i]? = some x → SlotLoads a.defaultPollMs n i x

/-- The partition holds the table. -/
structure InSync (a : AmmTable) (n : AmmNvs) : Prop extends SlotsInSync a n where
  count : n.count = some (a.table.length : Int)
  schema : n.schema = some ammNvsSchemaVersion

/-- The keys that a load reads are the same. -/
structure SameSlots (n m : AmmNvs) : Prop where
  count : m.count = n.count
  schema : m.schema = n.schema
  pollMs : m.pollMs = n.pollMs
  entry : m.entry = n.entry

section InSync

variable {a next : AmmTable} {n m : AmmNvs}

theorem loadedPollMs_of_some {ms : UInt32} (h : n.pollMs = some ms)
    (hrange : 100 ≤ ms ∧ ms ≤ 3600000) (dflt : UInt32) : loadedPollMs .ok n dflt = ms := by
  have hanswer : NvsCalls.ok 1 = none := rfl
  simp only [loadedPollMs, hanswer, h, if_pos hrange]

theorem loadedPollMs_congr (h : m.pollMs = n.pollMs) (f : NvsCalls) (dflt : UInt32) :
    loadedPollMs f m dflt = loadedPollMs f n dflt := by
  unfold loadedPollMs
  rw [h]

theorem SlotsInSync.interval_range (h : SlotsInSync a n) :
    100 ≤ a.defaultPollMs ∧ a.defaultPollMs ≤ 3600000 :=
  h.interval ▸ loadedPollMs_range .ok n (pollRange_empty 0)

theorem InSync.load (h : InSync a n) :
    ammLoadFromNvs .ok n (.empty a.capacity) =
      (.ok,
        { a with
          table := a.table.map (loadedEntry a.defaultPollMs)
          modelVersion := loadedVersion (a.table.map (loadedEntry a.defaultPollMs)) }) := by
  have hload := load_of_slots h.schema h.count h.fits (by rw [h.interval]; exact h.slot)
  rw [hload, h.interval]
  rfl

theorem SlotsInSync.sameSlots (h : SlotsInSync a n) (hm : SameSlots n m) : SlotsInSync a m where
  fits := h.fits
  interval := (loadedPollMs_congr hm.pollMs _ _).trans h.interval
  slot i x hx := by
    obtain ⟨blob, e, hblob, hload⟩ := h.slot i x hx
    exact ⟨blob, e, by rw [hm.entry, hblob], hload⟩

theorem snapshot_sameSlots (f : NvsCalls) (a : AmmTable) (n : AmmNvs) :
    SameSlots n (ammSaveRollbackToNvs f a n).2 :=
  snapshot_induction (P := SameSlots n) ⟨rfl, rfl, rfl, rfl⟩
    (fun _ _ h => ⟨h.count, h.schema, h.pollMs, h.entry⟩)
    (fun _ h => ⟨h.count, h.schema, h.pollMs, h.entry⟩)
    (fun _ h => ⟨h.count, h.schema, h.pollMs, h.entry⟩)
    (fun _ h => ⟨h.count, h.schema, h.pollMs, h.entry⟩) f

theorem snapped_sameSlots (s : AmmStore) (f : AmmFaults) (save : SaveKind) :
    SameSlots s.nvs (s.snapped f save).2 := by
  unfold AmmStore.snapped
  split
  · exact snapshot_sameSlots f.snapshot s.ram s.nvs
  · exact ⟨rfl, rfl, rfl, rfl⟩

/-! ## Saves that succeed -/

/-- All slots but `i` are as they were. -/
structure OneSlot (a next : AmmTable) (i : Nat) : Prop where
  fits : next.table.length ≤ next.capacity
  interval : next.defaultPollMs = a.defaultPollMs
  slot : ∀ j x, j ≠ i → next.table[j]? = some x → a.table[j]? = some x

theorem entrySave_sync (h : SlotsInSync a n) {i : Nat} (hone : OneSlot a next i) {f : NvsCalls}
    (hok : (ammSaveEntryToNvs f i next n).1 = .ok) :
    InSync next (ammSaveEntryToNvs f i next n).2 := by
  unfold ammSaveEntryToNvs at hok ⊢
  cases hi : next.table[i]? with
  | none =>
    simp only [hi] at hok
    cases hok
  | some e =>
    simp only [hi] at hok ⊢
    rw [durably_ok hok]
    refine ⟨⟨hone.fits, h.interval.trans hone.interval.symm, fun j x hx => ?_⟩, rfl, rfl⟩
    by_cases hj : j = i
    · subst hj
      obtain rfl := Option.some.inj (hi.symm.trans hx)
      exact slotLoads_current (Function.update_self j _ n.entry)
    · obtain ⟨blob, e', hblob, hload⟩ := h.slot j x (hone.slot j x hj hx)
      rw [hone.interval]
      exact ⟨blob, e', (Function.update_of_ne hj _ n.entry).trans hblob, hload⟩

theorem tableSave_sync {f : NvsCalls} {capacity oldCount : Nat}
    (hrange : 100 ≤ next.defaultPollMs ∧ next.defaultPollMs ≤ 3600000)
    (hcapacity : next.capacity = capacity)
    (hok : (ammSaveTableToNvs f next.defaultPollMs next.table capacity oldCount n).1 = .ok) :
    InSync next (ammSaveTableToNvs f next.defaultPollMs next.table capacity oldCount n).2 := by
  obtain ⟨hfits, hcut⟩ := tableSave_ok hok
  have hpollMs := hcut.pollMs
  rw [if_neg (by omega)] at hpollMs
  refine ⟨⟨hcapacity ▸ hfits, loadedPollMs_of_some hpollMs hrange _, fun i x hx => ?_⟩, ?_, ?_⟩
  · have hi := (List.getElem?_eq_some_iff.1 hx).1
    have hentry := hcut.entry i x hx
    rw [if_pos (by omega)] at hentry
    exact slotLoads_current hentry
  · rw [hcut.count, if_neg (by omega)]
  · rw [hcut.schema, if_neg (by omega)]

theorem clearSave_sync {f : NvsCalls} {oldCount : Nat} (hempty : next.table = [])
    (hrange : 100 ≤ next.defaultPollMs ∧ next.defaultPollMs ≤ 3600000)
    (hok : (durably f (clearCalls next.defaultPollMs oldCount) n).1 = .ok) :
    InSync next (durably f (clearCalls next.defaultPollMs oldCount) n).2 := by
  have hkeys : ∃ m : AmmNvs, upTo (clearCalls next.defaultPollMs oldCount).length
      (clearCalls next.defaultPollMs oldCount) n =
        ((m.setCount 0).setSchema).setPollMs next.defaultPollMs := by
    unfold clearCalls
    split
    · exact ⟨.empty, rfl⟩
    · exact ⟨n, rfl⟩
  obtain ⟨m, hm⟩ := hkeys
  rw [durably_ok hok, hm]
  refine ⟨⟨?_, loadedPollMs_of_some rfl hrange _, fun i x hx => ?_⟩, ?_, rfl⟩
  · rw [hempty]
    exact Nat.zero_le _
  · rw [hempty] at hx
    cases hx
  · rw [hempty]
    rfl

/-! ## Operations that succeed -/

theorem store_oneSlot (hfits : a.table.length ≤ a.capacity) (i : Nat) (e : AmmMappingEntry) :
    OneSlot a (a.store i e) i := by
  refine ⟨?_, rfl, fun j x hj hx => ?_⟩
  · rw [AmmTable.store, List.length_set]
    exact hfits
  · rwa [AmmTable.store, List.getElem?_set_ne (Ne.symm hj)] at hx

theorem put_oneSlot (hfits : a.table.length ≤ a.capacity) {e : AmmMappingEntry} {i : Nat}
    (hi : addTarget e a = some i) : OneSlot a (a.put i e) i := by
  have hbound : i < a.table.length ∨ i = a.table.length ∧ a.table.length < a.capacity := by
    unfold addTarget at hi
    split at hi
    · rename_i j hj
      rw [← Option.some.inj hi]
      exact .inl (List.findIdx?_eq_some_iff_getElem.1 hj).1
    · split at hi
      · rename_i j hj
        rw [← Option.some.inj hi]
        exact .inl (List.findIdx?_eq_some_iff_getElem.1 hj).1
      · split at hi
        · cases hi
        · rename_i hroom
          exact .inr ⟨(Option.some.inj hi).symm, Nat.lt_of_not_le hroom⟩
  unfold AmmTable.put
  by_cases hlt : i < a.table.length
  · rw [if_pos hlt]
    exact store_oneSlot hfits i e
  · rw [if_neg hlt]
    have hroom := hbound.resolve_left hlt
    refine ⟨?_, rfl, fun j x hj hx => ?_⟩
    · rw [List.length_append]
      exact hroom.2
    · have hlen := (List.getElem?_eq_some_iff.1 hx).1
      rw [List.length_append, List.length_singleton] at hlen
      have hjlt : j < a.table.length := by omega
      rwa [List.getElem?_append_left hjlt] at hx

theorem deactivate_oneSlot (hfits : a.table.length ≤ a.capacity) (i : Nat) :
    OneSlot a (a.deactivate i) i := by
  refine ⟨?_, rfl, fun j x hj hx => ?_⟩
  · rw [AmmTable.deactivate, List.length_modify]
    exact hfits
  · simp only [AmmTable.deactivate, List.getElem?_modify, if_neg (Ne.symm hj)] at hx
    simpa using hx

theorem stageKept_fits {entries kept : List AmmMappingEntry} {replaceDevices : Bool}
    (h : stageKept a entries replaceDevices = some kept) : kept.length ≤ a.capacity := by
  unfold stageKept at h
  simp only at h
  split at h
  · cases h
  · rename_i hroom
    rw [← Option.some.inj h]
    exact Nat.le_of_not_lt hroom

theorem importLoop_fits {entries : List AmmMappingEntry} {st st' : Staging}
    (h : importLoop a entries st = .ok st')
    (hfits : st.table.length ≤ a.capacity) : st'.table.length ≤ a.capacity := by
  induction entries generalizing st with
  | nil =>
    cases h
    exact hfits
  | cons e es ih =>
    rw [importLoop] at h
    split at h
    · cases h
    · simp only at h
      split at h
      · cases h
      · rename_i table htable
        refine ih h ?_
        unfold stageEntry at htable
        split at htable
        · rw [← Option.some.inj htable, List.length_set]
          exact hfits
        · split at htable
          · rename_i hroom
            rw [← Option.some.inj htable, List.length_append]
            exact hroom
          · cases htable

theorem plan_fits {read : SnapshotRead} {call : AmmCall} {save : SaveKind}
    (h : call.plan read a = .change next save) (hfits : a.table.length ≤ a.capacity) :
    next.table.length ≤ next.capacity ∧ next.capacity = a.capacity := by
  cases call with
  | add e =>
    obtain ⟨i, hi, rfl, -⟩ := planAdd_change h
    refine ⟨(put_oneSlot hfits hi).fits, ?_⟩
    unfold AmmTable.put
    split <;> rfl
  | remove slaveId regAddr =>
    obtain ⟨i, -, rfl, -⟩ := planRemove_change h
    exact ⟨(deactivate_oneSlot hfits i).fits, rfl⟩
  | removeForChannel protocol channelId slaveId regAddr =>
    obtain ⟨i, -, rfl, -⟩ := planRemove_change h
    exact ⟨(deactivate_oneSlot hfits i).fits, rfl⟩
  | clear =>
    cases h
    exact ⟨Nat.zero_le _, rfl⟩
  | update index e =>
    obtain ⟨old, -, -, rfl, -⟩ := planUpdate_change h
    exact ⟨(store_oneSlot hfits index.toNat e).fits, rfl⟩
  | setPollIntervalAll ms =>
    obtain ⟨-, -, rfl, -⟩ := planSetPollIntervalAll_change h
    refine ⟨?_, rfl⟩
    rw [AmmTable.withPollMs, List.length_map]
    exact hfits
  | «import» entries replaceDevices =>
    obtain ⟨-, kept, st, hkept, hloop, rfl, -⟩ := planImport_change h
    have hst := importLoop_fits hloop (stageKept_fits hkept)
    exact ⟨hst, rfl⟩
  | rollback =>
    obtain ⟨snapshot, -, -, hsize, rfl, -⟩ := planRollback_change h
    refine ⟨?_, rfl⟩
    rw [AmmTable.restored, List.length_map]
    exact hsize

/-- **Saved.** An operation that succeeds leaves table and partition in sync. -/
theorem InSync.of_success {s : AmmStore} (h : SlotsInSync s.ram s.nvs) {call : AmmCall}
    {f : AmmFaults} (hok : (s.perform call f).1 = .ok) :
    InSync (s.perform call f).2.ram (s.perform call f).2.nvs := by
  obtain ⟨next, save, hout, hsaved⟩ := perform_ok hok
  rw [hout.perform]
  have hslots := h.sameSlots (snapped_sameSlots s f save)
  have hrange := h.interval_range
  have hplan := hout.1
  cases call with
  | add e =>
    obtain ⟨i, hi, rfl, rfl⟩ := planAdd_change hplan
    exact entrySave_sync hslots (put_oneSlot h.fits hi) hsaved
  | remove slaveId regAddr =>
    obtain ⟨i, -, rfl, rfl⟩ := planRemove_change hplan
    exact entrySave_sync hslots (deactivate_oneSlot h.fits i) hsaved
  | removeForChannel protocol channelId slaveId regAddr =>
    obtain ⟨i, -, rfl, rfl⟩ := planRemove_change hplan
    exact entrySave_sync hslots (deactivate_oneSlot h.fits i) hsaved
  | update index e =>
    obtain ⟨old, -, -, rfl, rfl⟩ := planUpdate_change hplan
    exact entrySave_sync hslots (store_oneSlot h.fits index.toNat e) hsaved
  | clear =>
    cases hplan
    exact clearSave_sync rfl hrange hsaved
  | setPollIntervalAll ms =>
    obtain ⟨hlow, hhigh, rfl, rfl⟩ := planSetPollIntervalAll_change hplan
    exact tableSave_sync ⟨hlow, hhigh⟩ rfl hsaved
  | «import» entries replaceDevices =>
    obtain ⟨-, kept, st, -, -, rfl, rfl⟩ := planImport_change hplan
    exact tableSave_sync hrange rfl hsaved
  | rollback =>
    obtain ⟨snapshot, -, -, -, rfl, rfl⟩ := planRollback_change hplan
    exact tableSave_sync hrange rfl hsaved

theorem slotsInSync_fresh (capacity : Nat) :
    SlotsInSync (AmmStore.fresh capacity).ram (AmmStore.fresh capacity).nvs :=
  ⟨Nat.zero_le _, rfl, fun _ _ h => absurd h nofun⟩

end InSync

end McpGateway.Amm
