import McpGateway.Amm.Rebuild

/-!
# Rollback

The snapshot that `amm_rollback` restores is taken by every mutator before its
last checks, and not at all of an empty table. So it holds the table before the
last successful operation only as long as no failed call took one since
(`LeavesSnapshot`) and there was a table to take it of.
-/

namespace McpGateway.Amm

open McpGateway.Lib McpGateway.Tcm

/-! ## The snapshot across an operation -/

structure SameSnapshot (n m : AmmNvs) : Prop where
  count : m.rollbackCount = n.rollbackCount
  table : m.rollback = n.rollback

theorem SameSnapshot.refl (n : AmmNvs) : SameSnapshot n n := ⟨rfl, rfl⟩

theorem SameSnapshot.trans {n m k : AmmNvs} (h : SameSnapshot n m) (h' : SameSnapshot m k) :
    SameSnapshot n k := ⟨h'.count.trans h.count, h'.table.trans h.table⟩

structure HasSnapshot (n : AmmNvs) (table : List AmmMappingEntry) : Prop where
  count : n.rollbackCount = some (table.length : Int)
  table : n.rollback = some table

section Snapshot

variable {s : AmmStore} {a next : AmmTable} {n m : AmmNvs} {f : NvsCalls}

theorem HasSnapshot.same {table : List AmmMappingEntry} (h : HasSnapshot n table)
    (hm : SameSnapshot n m) : HasSnapshot m table := ⟨hm.count.trans h.count, hm.table.trans h.table⟩

theorem readRollback_same (hm : SameSnapshot n m) (f : NvsCalls) (capacity : Nat) :
    readRollback f capacity m = readRollback f capacity n := by
  unfold readRollback
  rw [hm.count, hm.table]

/-- A save leaves the snapshot alone, unless it clears a large table. -/
theorem save_sameSnapshot (save : SaveKind)
    (hclear : save = .cleared → ¬ a.table.length > ammRollbackMaxEntries) :
    SameSnapshot n (save.perform f a next n).2 := by
  have hkept : KeptByWrites (SameSnapshot n) :=
    ⟨fun _ _ h => ⟨h.count, h.table⟩, fun _ h => ⟨h.count, h.table⟩,
      fun _ _ h => ⟨h.count, h.table⟩, fun _ _ _ h => ⟨h.count, h.table⟩,
      fun _ _ h => ⟨h.count, h.table⟩⟩
  exact hkept.perform (.refl n) save (fun hc hlarge => absurd hlarge (hclear hc)) f

/-- No snapshot is written: there is no table to take it of, the handle does not
open, or every erasing or writing call of it fails. -/
def SnapshotWritesNothing (f : NvsCalls) (a : AmmTable) : Prop :=
  a.table = [] ∨ f 0 ≠ none ∨
    f 1 ≠ none ∧ (a.table.length > ammRollbackMaxEntries → f 2 ≠ none)

theorem snapshot_writesNothing (h : SnapshotWritesNothing f a) :
    (ammSaveRollbackToNvs f a n).2 = n := by
  unfold ammSaveRollbackToNvs
  by_cases hempty : a.table = []
  · rw [if_pos hempty]
  · rw [if_neg hempty]
    have hfails := h.resolve_left hempty
    by_cases hlarge : a.table.length > ammRollbackMaxEntries
    · rw [if_pos hlarge]
      have hdrop : (dropRollback f n).2 = n := by
        unfold dropRollback
        cases h0 : f 0 with
        | some e => rfl
        | none =>
          obtain ⟨h1, h2⟩ := hfails.resolve_left (by simp [h0])
          simp only [Option.isSome_iff_ne_none.2 h1, Option.isSome_iff_ne_none.2 (h2 hlarge),
            if_true]
      cases hr : dropRollback f n with
      | mk r k =>
        rw [hr] at hdrop
        cases r <;> exact hdrop
    · rw [if_neg hlarge]
      unfold durably rollbackCalls
      cases h0 : f 0 with
      | some e => simp only [attempt, h0]
      | none =>
        obtain ⟨h1, -⟩ := hfails.resolve_left (by simp [h0])
        obtain ⟨e, he⟩ := Option.ne_none_iff_exists'.1 h1
        simp only [attempt, h0, he, Nat.zero_add]
        rfl

/-- A large table is not changed when its old snapshot could not be touched. -/
theorem large_snapshot_denied (h : SnapshotWritesNothing f a)
    (hlarge : a.table.length > ammRollbackMaxEntries) :
    ammSnapshotPermitsMutation (ammSaveRollbackToNvs f a n).1 = false := by
  have hne : a.table ≠ [] := by
    intro hempty
    rw [hempty] at hlarge
    cases hlarge
  have hdenied : ∀ e : NvsFault, ammSnapshotPermitsMutation e.code = false := by
    intro e
    obtain ⟨hok, hfound, hsupported, -⟩ := e.fails
    simp [ammSnapshotPermitsMutation, hok, hfound, hsupported]
  have hfails := h.resolve_left hne
  rw [ammSaveRollbackToNvs, if_neg hne, if_pos hlarge]
  cases h0 : f 0 with
  | some e =>
    have hdrop : dropRollback f n = (some e, n) := by
      rw [dropRollback, h0]
    rw [hdrop]
    exact hdenied e
  | none =>
    obtain ⟨h1, -⟩ := hfails.resolve_left (by simp [h0])
    obtain ⟨e, he⟩ := Option.ne_none_iff_exists'.1 h1
    have hdrop : (dropRollback f n).1 = some e := by
      simp only [dropRollback, h0, he, Option.some_or]
    cases hr : dropRollback f n with
    | mk r k =>
      rw [hr] at hdrop
      obtain rfl : r = some e := hdrop
      exact hdenied e

/-- A snapshot that permits the change of a small table holds that table. -/
theorem snapshot_holds (hne : a.table ≠ []) (hsize : a.table.length ≤ ammRollbackMaxEntries)
    (hpermits : ammSnapshotPermitsMutation (ammSaveRollbackToNvs f a n).1 = true) :
    HasSnapshot (ammSaveRollbackToNvs f a n).2 a.table := by
  have hlarge : ¬ a.table.length > ammRollbackMaxEntries := Nat.not_lt.2 hsize
  rw [ammSaveRollbackToNvs, if_neg hne, if_neg hlarge] at hpermits ⊢
  rcases attempt_cases f 0 (rollbackCalls a.table) n with ⟨k, e, -, -, heq⟩ | heq
  · obtain ⟨hok, hfound, hsupported, -⟩ := e.fails
    rw [durably, heq] at hpermits
    simp [codeOf, ammSnapshotPermitsMutation, hok, hfound, hsupported] at hpermits
  · rw [durably, heq]
    exact ⟨rfl, rfl⟩

end Snapshot

/-! ## Operations -/

section Operations

variable {s : AmmStore} {call : AmmCall} {f : AmmFaults}

theorem snapshots_of_plan {read : SnapshotRead} {a next : AmmTable} {save : SaveKind}
    (h : call.plan read a = .change next save) (hcall : call ≠ .rollback) :
    save.snapshots = true := by
  cases call with
  | add e =>
    obtain ⟨i, -, -, rfl⟩ := planAdd_change h
    rfl
  | remove slaveId regAddr =>
    obtain ⟨i, -, -, rfl⟩ := planRemove_change h
    rfl
  | removeForChannel protocol channelId slaveId regAddr =>
    obtain ⟨i, -, -, rfl⟩ := planRemove_change h
    rfl
  | clear =>
    cases h
    rfl
  | update index e =>
    obtain ⟨old, -, -, -, rfl⟩ := planUpdate_change h
    rfl
  | setPollIntervalAll ms =>
    obtain ⟨-, -, -, rfl⟩ := planSetPollIntervalAll_change h
    rfl
  | «import» entries replaceDevices =>
    obtain ⟨-, kept, st, -, -, -, rfl⟩ := planImport_change h
    rfl
  | rollback => exact absurd rfl hcall

/-- A call that fails without a snapshot: it is refused before, it is a
rollback, or the snapshot writes nothing. -/
def LeavesSnapshot (s : AmmStore) (c : FaultyCall) : Prop :=
  (∃ err, s.plan c.1 c.2 = .refused err) ∨ c.1 = .rollback ∨
    SnapshotWritesNothing c.2.snapshot s.ram

theorem planRollback_not_rejected {read : SnapshotRead} {a : AmmTable} {err : EspErr} :
    planRollback read a ≠ .rejected err := by
  unfold planRollback
  split
  · nofun
  · split <;> nofun

theorem LeavesSnapshot.same {c : FaultyCall} (h : LeavesSnapshot s c) :
    SameSnapshot s.nvs (s.callStep c).nvs := by
  obtain ⟨call, f⟩ := c
  show SameSnapshot s.nvs (s.perform call f).2.nvs
  unfold AmmStore.perform
  split
  · exact .refl _
  · rename_i err hplan
    rcases h with ⟨err', hrefused⟩ | rfl | hquiet
    · exact absurd (hplan.symm.trans hrefused) nofun
    · exact absurd hplan planRollback_not_rejected
    · show SameSnapshot s.nvs (ammSaveRollbackToNvs f.snapshot s.ram s.nvs).2
      rw [snapshot_writesNothing hquiet]
      exact .refl _
  · rename_i next save hplan
    have hsnapped : (s.snapped f save).2 = s.nvs ∧
        (ammSnapshotPermitsMutation (s.snapped f save).1 = true → save = .cleared →
          ¬ s.ram.table.length > ammRollbackMaxEntries) := by
      rcases h with ⟨err, hrefused⟩ | rfl | hquiet
      · exact absurd (hplan.symm.trans hrefused) nofun
      · obtain ⟨snapshot, -, -, -, -, rfl⟩ := planRollback_change hplan
        exact ⟨rfl, fun _ hc => absurd hc nofun⟩
      · unfold AmmStore.snapped
        split
        · refine ⟨snapshot_writesNothing hquiet, fun hpermits _ hlarge => ?_⟩
          rw [AmmStore.snapshot, large_snapshot_denied hquiet hlarge] at hpermits
          cases hpermits
        · rename_i hsnapshots
          refine ⟨rfl, fun _ hc => ?_⟩
          rw [hc] at hsnapshots
          exact absurd rfl hsnapshots
    by_cases hpermits : ammSnapshotPermitsMutation (s.snapped f save).1 = false
    · simp only [if_pos hpermits, hsnapped.1]
      exact .refl _
    · simp only [if_neg hpermits, hsnapped.1]
      exact save_sameSnapshot save (hsnapped.2 (by simpa using hpermits))

/-- What the snapshot is after an operation that succeeds: the table before it,
or what it was if there was no table. -/
theorem snapshot_of_success {c : FaultyCall} (hcall : c.1 ≠ .rollback)
    (hsize : s.ram.table.length ≤ ammRollbackMaxEntries) (hok : s.Succeeds c) :
    if s.ram.table = [] then SameSnapshot s.nvs (s.callStep c).nvs
    else HasSnapshot (s.callStep c).nvs s.ram.table := by
  obtain ⟨next, save, hout, -⟩ := perform_ok hok
  have hsnapshots := snapshots_of_plan hout.1 hcall
  have hpermits := hout.2.1
  rw [AmmStore.snapped, if_pos hsnapshots] at hpermits
  have hsave : SameSnapshot (s.snapshot c.2).2 (s.callStep c).nvs := by
    show SameSnapshot _ (s.perform c.1 c.2).2.nvs
    rw [hout.perform, AmmStore.snapped, if_pos hsnapshots]
    exact save_sameSnapshot save fun _ => Nat.not_lt.2 hsize
  by_cases hempty : s.ram.table = []
  · rw [if_pos hempty]
    have hnothing : (s.snapshot c.2).2 = s.nvs := snapshot_writesNothing (.inl hempty)
    rwa [hnothing] at hsave
  · rw [if_neg hempty]
    exact (snapshot_holds hempty hsize hpermits).same hsave

end Operations

/-! ## Tables that fit -/

section Fits

/-- A table within its capacity, which never changes. -/
structure Fits (capacity : Nat) (a : AmmTable) : Prop where
  capacity : a.capacity = capacity
  length : a.table.length ≤ a.capacity

variable {capacity : Nat}

theorem Fits.perform {s : AmmStore} (h : Fits capacity s.ram) (call : AmmCall) (f : AmmFaults) :
    Fits capacity (s.perform call f).2.ram := by
  rcases perform_cases s call f with hram | ⟨next, save, hout⟩
  · rwa [hram]
  · rw [hout.perform]
    obtain ⟨hlength, hcapacity⟩ := plan_fits hout.1 h.length
    exact ⟨hcapacity.trans h.capacity, hlength⟩

theorem load_capacity (f : NvsCalls) (n : AmmNvs) (a : AmmTable) :
    (ammLoadFromNvs f n a).2.capacity = a.capacity := by
  unfold ammLoadFromNvs
  split
  · rfl
  · simp only
    split
    · rfl
    · rfl
    · split
      · rfl
      · split <;> rfl

theorem Fits.load {a : AmmTable} (h : Fits capacity a) (f : NvsCalls) (n : AmmNvs) :
    Fits capacity (ammLoadFromNvs f n a).2 := by
  have hcapacity := load_capacity f n a
  refine ⟨hcapacity.trans h.capacity, ?_⟩
  rw [hcapacity]
  rcases load_cases f n a with ⟨-, htable | htable⟩ | ⟨count, entries, -, hnn, hfits, hslots, heq⟩
  · rw [htable]
    exact h.length
  · rw [htable]
    exact Nat.zero_le _
  · rw [heq]
    have hlen := (loadSlots_ok hslots).1
    show (entries.map _).length ≤ a.capacity
    rw [List.length_map]
    omega

theorem Fits.step {s : AmmStore} (h : Fits capacity s.ram) (st : AmmStep) :
    Fits capacity (s.step st).ram := by
  cases st with
  | call call f => exact h.perform call f
  | load f => exact h.load f s.nvs
  | reboot f =>
    have hempty : Fits capacity (.empty s.ram.capacity) := ⟨h.capacity, Nat.zero_le _⟩
    exact hempty.load f s.nvs

theorem Fits.run {s : AmmStore} (h : Fits capacity s.ram) (steps : List AmmStep) :
    Fits capacity (run AmmStore.step s steps).ram := by
  induction steps generalizing s with
  | nil => exact h
  | cons st steps ih => exact ih (h.step st)

theorem Fits.callRun {s : AmmStore} (h : Fits capacity s.ram) (calls : List FaultyCall) :
    Fits capacity (Lib.run AmmStore.callStep s calls).ram := by
  induction calls generalizing s with
  | nil => exact h
  | cons c calls ih => exact ih (h.perform c.1 c.2)

end Fits

/-! ## Undoing -/

def unversioned (e : AmmMappingEntry) : AmmMappingEntry := { e with mappingVersion := 0 }

/-- A rollback in the state `later` brings back the active entries of `s`; of an
empty table it brings back the empty table or ends with an error. -/
def Undoes (s later : AmmStore) : Prop :=
  let r := later.perform .rollback .ok
  if s.ram.table = [] then
    r.1 = .ok ∧ r.2.ram.table = [] ∨ r.1 ≠ .ok ∧ r.2.ram.table = later.ram.table
  else r.1 = .ok ∧ r.2.ram.entries.map unversioned = s.ram.entries.map unversioned

/-- `amm_rollback` finds no snapshot to restore. -/
def NoSnapshot (s : AmmStore) : Prop :=
  ∀ table, readRollback .ok s.ram.capacity s.nvs ≠ .ok table

section Undo

variable {s later : AmmStore} {table : List AmmMappingEntry}

theorem readRollback_holds {n : AmmNvs} {capacity : Nat} (h : HasSnapshot n table)
    (hne : table ≠ []) (hfits : table.length ≤ capacity) :
    readRollback .ok capacity n = .ok table := by
  have hpos : 0 < table.length := List.length_pos_iff.2 hne
  have hrange : ¬ ((table.length : Int) ≤ 0 ∨ (table.length : Int) > capacity) := by omega
  have hanswer : ∀ i, NvsCalls.ok i = none := fun _ => rfl
  have hlen : ¬ table.length > ((table.length : Int)).toNat := by omega
  have hfill : ((table.length : Int)).toNat - table.length = 0 := by omega
  simp only [readRollback, hanswer, h.count, if_neg hrange, h.table, if_neg hlen, hfill,
    List.replicate_zero, List.append_nil]

theorem readRollback_size {f : NvsCalls} {n : AmmNvs} {capacity : Nat}
    (h : readRollback f capacity n = .ok table) : table ≠ [] ∧ table.length ≤ capacity := by
  obtain ⟨count, blob, -, hpos, hcapacity, -, hle, heq⟩ := readRollback_ok h
  have hlen : table.length = count.toNat := by
    rw [heq, List.length_append, List.length_replicate]
    omega
  refine ⟨fun hnil => ?_, by omega⟩
  rw [hnil, List.length_nil] at hlen
  omega

theorem perform_rollback_ok
    (hread : readRollback .ok later.ram.capacity later.nvs = .ok table) :
    (later.perform .rollback .ok).1 = .ok ∧
      (later.perform .rollback .ok).2.ram = later.ram.restored table := by
  obtain ⟨hne, hlength⟩ := readRollback_size hread
  have hsize : ¬ (table = [] ∨ table.length > later.ram.capacity) :=
    not_or.2 ⟨hne, Nat.not_lt.2 hlength⟩
  have hplan : later.plan .rollback .ok = .change (later.ram.restored table) .restored := by
    show planRollback (readRollback .ok later.ram.capacity later.nvs) later.ram = _
    rw [hread, planRollback, if_neg hsize]
  have hfits : ¬ (later.ram.restored table).table.length > later.ram.capacity := by
    rw [AmmTable.restored, List.length_map]
    exact Nat.not_lt.2 hlength
  have hanswer : ∀ i, NvsCalls.ok i = none := fun _ => rfl
  have hsave : (SaveKind.restored.perform .ok later.ram (later.ram.restored table)
      (later.snapped .ok .restored).2).1 = .ok := by
    show (ammSaveTableToNvs .ok _ _ later.ram.capacity _ _).1 = .ok
    rw [ammSaveTableToNvs, if_neg hfits, durably, AmmFaults.ok, attempt_of_none hanswer]
    rfl
  have hout : later.CarriesOut .rollback .ok (later.ram.restored table) .restored := by
    refine ⟨hplan, rfl, fun hfirst => ?_⟩
    cases hfirst
  rw [hout.perform]
  exact ⟨hsave, rfl⟩

theorem perform_rollback_error {e : EspErr}
    (hread : readRollback .ok later.ram.capacity later.nvs = .error e) :
    (later.perform .rollback .ok).1 ≠ .ok ∧ (later.perform .rollback .ok).2.ram = later.ram := by
  have hplan : later.plan .rollback .ok = .refused e := by
    show planRollback (readRollback .ok later.ram.capacity later.nvs) later.ram = _
    rw [hread]
    rfl
  simp only [AmmStore.perform, hplan]
  exact ⟨readRollback_error hread, trivial⟩

theorem restored_entries (a : AmmTable) (table : List AmmMappingEntry) :
    (a.restored table).entries.map unversioned =
      (table.filter AmmMappingEntry.active).map unversioned := by
  unfold AmmTable.restored AmmTable.entries
  rw [List.filter_map, List.map_map]
  rfl

theorem leaves_run {s : AmmStore} {calls : List FaultyCall}
    (h : AllSteps AmmStore.callStep LeavesSnapshot s calls) :
    SameSnapshot s.nvs (run AmmStore.callStep s calls).nvs := by
  induction calls generalizing s with
  | nil => exact .refl _
  | cons c calls ih => exact h.1.same.trans (ih h.2)

end Undo

/-- **Rollback.** On a device that started on any partition: after a successful
operation on at most 256 slots and any calls that leave the snapshot alone, a
rollback undoes the operation, unless there was no table to take a snapshot of
and the partition held an older one. -/
theorem rollback_undoes_iff (capacity : Nat) (n : AmmNvs) (steps : List AmmStep)
    (op : FaultyCall) (calls : List FaultyCall) {s : AmmStore}
    (hs : s = run AmmStore.step ⟨.empty capacity, n⟩ steps)
    (hsize : s.ram.table.length ≤ ammRollbackMaxEntries) (hop : op.1 ≠ .rollback)
    (hok : s.Succeeds op)
    (hleaves : AllSteps AmmStore.callStep LeavesSnapshot (s.callStep op) calls) :
    Undoes s (run AmmStore.callStep (s.callStep op) calls) ↔
      (s.ram.table = [] → NoSnapshot s) := by
  have hfits : Fits capacity s.ram := by
    rw [hs]
    exact Fits.run (s := ⟨.empty capacity, n⟩) ⟨rfl, Nat.zero_le _⟩ steps
  have hlater : Fits capacity (run AmmStore.callStep (s.callStep op) calls).ram :=
    Fits.callRun (hfits.perform op.1 op.2) calls
  have hsnapshot := snapshot_of_success hop hsize hok
  have hsame := leaves_run hleaves
  generalize run AmmStore.callStep (s.callStep op) calls = later at hlater hsame ⊢
  unfold Undoes
  by_cases hempty : s.ram.table = []
  · rw [if_pos hempty] at hsnapshot
    have hread : readRollback .ok later.ram.capacity later.nvs =
        readRollback .ok s.ram.capacity s.nvs := by
      rw [readRollback_same (hsnapshot.trans hsame), hlater.capacity, hfits.capacity]
    simp only [hempty, forall_const, NoSnapshot, ← hread]
    cases hr : readRollback .ok later.ram.capacity later.nvs with
    | error e =>
      obtain ⟨herr, hram⟩ := perform_rollback_error hr
      exact iff_of_true (.inr ⟨herr, by rw [hram]⟩) nofun
    | ok table =>
      obtain ⟨hok, hram⟩ := perform_rollback_ok hr
      refine iff_of_false ?_ fun h => h table rfl
      rintro (⟨-, hnil⟩ | ⟨herr, -⟩)
      · rw [hram] at hnil
        exact (readRollback_size hr).1 (List.map_eq_nil_iff.1 hnil)
      · exact herr hok
  · rw [if_neg hempty] at hsnapshot
    have hread : readRollback .ok later.ram.capacity later.nvs = .ok s.ram.table := by
      refine readRollback_holds (hsnapshot.same hsame) hempty ?_
      rw [hlater.capacity, ← hfits.capacity]
      exact hfits.length
    obtain ⟨hok, hram⟩ := perform_rollback_ok hread
    simp only [if_neg hempty]
    refine iff_of_true ⟨hok, ?_⟩ fun h => absurd h hempty
    rw [hram, restored_entries]
    rfl

def pointSaved : AmmStore := run AmmStore.step (.fresh 1000) [.call (.add samplePoint) .ok]

/-- A removal that fails to find its point does not stand in the way. -/
theorem sample_removal_undone :
    Undoes pointSaved
      (run AmmStore.callStep (pointSaved.callStep (.remove 1 0, .ok)) [(.remove 9 9, .ok)]) :=
  (rollback_undoes_iff 1000 .empty [.call (.add samplePoint) .ok] (.remove 1 0, .ok)
    [(.remove 9 9, .ok)] rfl (by decide +kernel) nofun
    (by unfold AmmStore.Succeeds; decide +kernel) ⟨.inl ⟨.notFound, rfl⟩, trivial⟩).2
    fun h => absurd h (by decide +kernel)

/-- An import that fails on its first entry takes the snapshot of the update before it. -/
theorem failed_import_hides_snapshot :
    pointSaved.Succeeds (.update 0 { samplePoint with bitIndex := 1 }, .ok) ∧
      ¬ (pointSaved.callStep (.update 0 { samplePoint with bitIndex := 1 }, .ok)).Succeeds
        (.import [{ samplePoint with slaveId := 0 }] false, .ok) ∧
      ¬ Undoes pointSaved
        (run AmmStore.callStep
          (pointSaved.callStep (.update 0 { samplePoint with bitIndex := 1 }, .ok))
          [(.import [{ samplePoint with slaveId := 0 }] false, .ok)]) := by
  unfold AmmStore.Succeeds Undoes
  decide +kernel

end McpGateway.Amm
