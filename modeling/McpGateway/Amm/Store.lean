import McpGateway.Amm.Nvs
import McpGateway.Lib.Keyed
import McpGateway.Lib.Run

/-!
# The table and its partition

The AMM as one machine: the table in memory with the partition that holds it.
A step is an operation, with the answers of all its NVS calls, a load, or a
reboot. `perform_outcome` says that an operation does to the table what the
functions on tables do.
-/

namespace McpGateway.Amm

open McpGateway.Lib McpGateway.Tcm

structure AmmStore where
  ram : AmmTable
  nvs : AmmNvs

def AmmStore.fresh (capacity : Nat) : AmmStore := ⟨.empty capacity, .empty⟩

/-- A device that starts on stored slots of any firmware, without a snapshot. -/
def AmmStore.onSlots (capacity : Nat) (n : AmmNvs) : AmmStore :=
  ⟨.empty capacity, { n with rollbackCount := none, rollback := none }⟩

/-- The answers of the NVS calls of one operation: of its reads, its snapshot and its save. -/
structure AmmFaults where
  read : NvsCalls
  snapshot : NvsCalls
  save : NvsCalls

def AmmFaults.ok : AmmFaults := ⟨.ok, .ok, .ok⟩

/-- The save of an operation that changes `old` to `next`. -/
def SaveKind.perform (f : NvsCalls) (old next : AmmTable) (n : AmmNvs) : SaveKind → EspErr × AmmNvs
  | .entry i => ammSaveEntryToNvs f i next n
  | .table | .restored =>
    ammSaveTableToNvs f next.defaultPollMs next.table next.capacity next.table.length n
  | .staged => ammSaveTableToNvs f old.defaultPollMs next.table old.capacity old.table.length n
  | .cleared => durably f (clearCalls old.defaultPollMs old.table.length) n

def AmmStore.plan (s : AmmStore) (call : AmmCall) (f : AmmFaults) : Plan :=
  call.plan (readRollback f.read s.ram.capacity s.nvs) s.ram

def AmmStore.snapshot (s : AmmStore) (f : AmmFaults) : EspErr × AmmNvs :=
  ammSaveRollbackToNvs f.snapshot s.ram s.nvs

def AmmStore.snapped (s : AmmStore) (f : AmmFaults) (save : SaveKind) : EspErr × AmmNvs :=
  if save.snapshots then s.snapshot f else (.ok, s.nvs)

def AmmStore.perform (s : AmmStore) (call : AmmCall) (f : AmmFaults) : EspErr × AmmStore :=
  match s.plan call f with
  | .refused err => (err, s)
  | .rejected err =>
    let snap := s.snapshot f
    (if ammSnapshotPermitsMutation snap.1 then err else call.deniedError snap.1, ⟨s.ram, snap.2⟩)
  | .change next save =>
    let snap := s.snapped f save
    if ammSnapshotPermitsMutation snap.1 = false then (call.deniedError snap.1, ⟨s.ram, snap.2⟩)
    else
      let saved := save.perform f.save s.ram next snap.2
      (saved.1, ⟨if save.first && decide (saved.1 ≠ .ok) then s.ram else next, saved.2⟩)

inductive AmmStep
  | call (call : AmmCall) (f : AmmFaults)
  | load (f : NvsCalls)
  | reboot (f : NvsCalls)

/-- `amm_load_from_nvs` into the table. -/
def AmmStore.load (s : AmmStore) (f : NvsCalls) : EspErr × AmmStore :=
  let r := ammLoadFromNvs f s.nvs s.ram
  (r.1, ⟨r.2, s.nvs⟩)

/-- The statics are initialised, then the partition is loaded. -/
def AmmStore.reboot (s : AmmStore) (f : NvsCalls) : EspErr × AmmStore :=
  AmmStore.load ⟨.empty s.ram.capacity, s.nvs⟩ f

def AmmStore.outcome (s : AmmStore) : AmmStep → EspErr × AmmStore
  | .call call f => s.perform call f
  | .load f => s.load f
  | .reboot f => s.reboot f

def AmmStore.step (s : AmmStore) (st : AmmStep) : AmmStore := (s.outcome st).2

/-! ## The table after an operation -/

section Outcome

variable (s : AmmStore) (call : AmmCall) (f : AmmFaults)

theorem snapshot_answer (f : NvsCalls) (a : AmmTable) (n : AmmNvs) (save : EspErr) :
    ∃ answer, (ammSaveRollbackToNvs f a n).1 = ammSaveRollback ⟨answer, save⟩ a := by
  unfold ammSaveRollbackToNvs ammSaveRollback
  split
  · exact ⟨.ok, rfl⟩
  · split
    · cases dropRollback f n with
      | mk r m =>
        cases r with
        | none => exact ⟨.ok, rfl⟩
        | some e => exact ⟨e.code, by rw [if_pos e.fails.1]⟩
    · exact ⟨_, rfl⟩

/-- **The table half.** Memory and result of an operation are those of the
function on tables, for the answers its NVS calls gave. -/
theorem perform_outcome : ∃ nvs, (call.op nvs (readRollback f.read s.ram.capacity s.nvs)).outcome
    s.ram = ((s.perform call f).1, (s.perform call f).2.ram) := by
  unfold AmmStore.perform
  cases hplan : s.plan call f with
  | refused err =>
    refine ⟨.ok, ?_⟩
    rw [outcome_of_plan, ← AmmStore.plan, hplan]
    rfl
  | rejected err =>
    obtain ⟨answer, hsnap⟩ := snapshot_answer f.snapshot s.ram s.nvs .ok
    refine ⟨⟨answer, .ok⟩, ?_⟩
    rw [outcome_of_plan, ← AmmStore.plan, hplan]
    simp only [AmmCall.ends, AmmStore.snapshot, hsnap]
    split <;> rfl
  | change next save =>
    cases hs : save.snapshots with
    | false =>
      refine ⟨⟨.ok, (save.perform f.save s.ram next s.nvs).1⟩, ?_⟩
      rw [outcome_of_plan, ← AmmStore.plan, hplan]
      simp only [AmmCall.ends, AmmStore.snapped, hs, Bool.false_and, Bool.false_eq_true, if_false]
      rfl
    | true =>
      let result := (save.perform f.save s.ram next (s.snapshot f).2).1
      obtain ⟨answer, hsnap⟩ : ∃ answer,
          (s.snapshot f).1 = ammSaveRollback ⟨answer, result⟩ s.ram :=
        snapshot_answer f.snapshot s.ram s.nvs result
      refine ⟨⟨answer, result⟩, ?_⟩
      rw [outcome_of_plan, ← AmmStore.plan, hplan]
      simp only [AmmCall.ends, AmmStore.snapped, hs, Bool.true_and, ← hsnap, if_true]
      cases ammSnapshotPermitsMutation (s.snapshot f).1 <;> rfl

end Outcome

/-! ## What an operation does -/

section Cases

variable {s : AmmStore} {call : AmmCall} {f : AmmFaults}

/-- The plan of the operation is carried out: the snapshot permits it, and a
save that comes first succeeds. -/
def AmmStore.CarriesOut (s : AmmStore) (call : AmmCall) (f : AmmFaults) (next : AmmTable)
    (save : SaveKind) : Prop :=
  s.plan call f = .change next save ∧
    ammSnapshotPermitsMutation (s.snapped f save).1 = true ∧
    (save.first = true → (save.perform f.save s.ram next (s.snapped f save).2).1 = .ok)

theorem AmmStore.CarriesOut.perform {next : AmmTable} {save : SaveKind}
    (h : s.CarriesOut call f next save) :
    s.perform call f = ((save.perform f.save s.ram next (s.snapped f save).2).1,
      ⟨next, (save.perform f.save s.ram next (s.snapped f save).2).2⟩) := by
  obtain ⟨hplan, hpermits, hfirst⟩ := h
  simp only [AmmStore.perform, hplan, hpermits, Bool.true_eq_false, if_false]
  cases hf : save.first with
  | false => rfl
  | true => simp [hfirst hf]

/-- An operation keeps the table, or carries out its plan. -/
theorem perform_cases (s : AmmStore) (call : AmmCall) (f : AmmFaults) :
    (s.perform call f).2.ram = s.ram ∨
    ∃ next save, s.CarriesOut call f next save := by
  cases hplan : s.plan call f with
  | refused err =>
    left
    simp only [AmmStore.perform, hplan]
  | rejected err =>
    left
    simp only [AmmStore.perform, hplan]
  | change next save =>
    by_cases hpermits : ammSnapshotPermitsMutation (s.snapped f save).1 = false
    · left
      simp only [AmmStore.perform, hplan, if_pos hpermits]
    · by_cases hkeeps : (save.first && decide
          ((save.perform f.save s.ram next (s.snapped f save).2).1 ≠ .ok)) = true
      · left
        simp only [AmmStore.perform, hplan, if_neg hpermits, if_pos hkeeps]
      · right
        refine ⟨next, save, hplan, by simpa using hpermits, fun hfirst => ?_⟩
        simpa [hfirst] using hkeeps

/-- An operation that succeeds carries out its plan and saves it. -/
theorem perform_ok (h : (s.perform call f).1 = .ok) : ∃ next save,
    s.CarriesOut call f next save ∧
      (save.perform f.save s.ram next (s.snapped f save).2).1 = .ok := by
  have hdenied : ∀ err, ammSnapshotPermitsMutation err = false → call.deniedError err ≠ .ok := by
    intro err herr
    have hne : err ≠ .ok := by
      rintro rfl
      cases herr
    cases call with
    | «import» => nofun
    | _ => exact hne
  cases hplan : s.plan call f with
  | refused err =>
    simp only [AmmStore.perform, hplan] at h
    exact absurd h (refused_ne_ok (fun e he => readRollback_error he) hplan)
  | rejected err =>
    simp only [AmmStore.perform, hplan] at h
    split at h
    · exact absurd h (rejected_ne_ok hplan)
    · rename_i hpermits
      exact absurd h (hdenied _ (by simpa using hpermits))
  | change next save =>
    by_cases hpermits : ammSnapshotPermitsMutation (s.snapped f save).1 = false
    · simp only [AmmStore.perform, hplan, if_pos hpermits] at h
      exact absurd h (hdenied _ hpermits)
    · simp only [AmmStore.perform, hplan, if_neg hpermits] at h
      exact ⟨next, save, ⟨hplan, by simpa using hpermits, fun _ => h⟩, h⟩

/-- A predicate of the partition that the writes of a save keep. -/
structure KeptByWrites (P : AmmNvs → Prop) : Prop where
  count : ∀ count n, P n → P (n.setCount count)
  schema : ∀ n, P n → P n.setSchema
  pollMs : ∀ ms n, P n → P (n.setPollMs ms)
  entry : ∀ i e n, P n → P (n.setEntry i e)
  erase : ∀ i n, P n → P (n.eraseEntry i)

/-- One that also holds of the erased partition. -/
structure KeptBySaves (P : AmmNvs → Prop) : Prop extends KeptByWrites P where
  empty : P .empty

theorem durably_snd (f : NvsCalls) (calls : List (AmmNvs → AmmNvs)) (n : AmmNvs) :
    ∃ k, (durably f calls n).2 = upTo k calls n := by
  unfold durably
  rcases attempt_cases f 0 calls n with ⟨k, e, -, -, h⟩ | h
  · exact ⟨k, by rw [h]⟩
  · exact ⟨calls.length, by rw [h]⟩

theorem durably_induction {P : AmmNvs → Prop} {calls : List (AmmNvs → AmmNvs)} {n : AmmNvs}
    (h : P n) (hcall : ∀ g ∈ calls, ∀ n, P n → P (g n)) (f : NvsCalls) :
    P (durably f calls n).2 := by
  obtain ⟨k, hk⟩ := durably_snd f calls n
  rw [hk]
  exact upTo_induction h hcall k

theorem KeptByWrites.blobCalls {P : AmmNvs → Prop} (hP : KeptByWrites P) {i : Nat}
    {es : List AmmMappingEntry} : ∀ g ∈ blobCalls i es, ∀ n, P n → P (g n) := by
  induction es generalizing i with
  | nil => exact fun g hg => absurd hg List.not_mem_nil
  | cons e es ih =>
    intro g hg
    rcases List.mem_cons.1 hg with rfl | hg
    · exact hP.entry i e
    · exact ih g hg

theorem KeptByWrites.tableCalls {P : AmmNvs → Prop} (hP : KeptByWrites P) {dflt : UInt32}
    {table : List AmmMappingEntry} {oldCount : Nat} :
    ∀ g ∈ tableCalls dflt table oldCount, ∀ n, P n → P (g n) := by
  intro g hg
  simp only [McpGateway.Amm.tableCalls, List.mem_append, List.mem_cons, List.not_mem_nil,
    or_false, List.mem_map] at hg
  rcases hg with (((rfl | rfl | rfl | rfl) | hg) | ⟨i, -, rfl⟩) | rfl
  · exact fun n h => h
  · exact hP.count _
  · exact hP.schema
  · exact hP.pollMs _
  · exact hP.blobCalls g hg
  · exact hP.erase i
  · exact fun n h => h

/-- Saves keep what their calls keep; only the clearing of a large table erases the partition. -/
theorem KeptByWrites.perform {P : AmmNvs → Prop} (hP : KeptByWrites P) {old next : AmmTable}
    {n : AmmNvs} (h : P n) (save : SaveKind)
    (hclear : save = .cleared → old.table.length > ammRollbackMaxEntries → P .empty)
    (f : NvsCalls) : P (save.perform f old next n).2 := by
  have htable : ∀ dflt table capacity oldCount,
      P (ammSaveTableToNvs f dflt table capacity oldCount n).2 := by
    intro dflt table capacity oldCount
    unfold ammSaveTableToNvs
    split
    · exact h
    · exact durably_induction h hP.tableCalls f
  cases save with
  | entry i =>
    show P (ammSaveEntryToNvs f i next n).2
    unfold ammSaveEntryToNvs
    split
    · exact h
    · rename_i e _
      refine durably_induction h ?_ f
      simp only [entryCalls, List.forall_mem_cons]
      exact ⟨fun n h => h, hP.count _, hP.schema, hP.entry i e, fun n h => h,
        fun g hg => absurd hg List.not_mem_nil⟩
  | table | restored | staged => exact htable _ _ _ _
  | cleared =>
    refine durably_induction h ?_ f
    intro g hg
    simp only [clearCalls, List.mem_cons, List.mem_append, List.not_mem_nil, or_false] at hg
    rcases hg with rfl | hg | rfl | rfl | rfl | rfl
    · exact fun n h => h
    · split at hg
      · rename_i hlarge
        rw [List.mem_singleton.1 hg]
        exact fun _ _ => hclear rfl hlarge
      · cases hg
    · exact hP.count 0
    · exact hP.schema
    · exact hP.pollMs _
    · exact fun n h => h

theorem snapshot_induction {P : AmmNvs → Prop} {a : AmmTable} {n : AmmNvs} (h : P n)
    (hcount : ∀ count n, P n → P (n.setRollbackCount count))
    (hblob : ∀ n, P n → P (n.setRollback a.table))
    (hdropCount : ∀ n, P n → P n.eraseRollbackCount) (hdropBlob : ∀ n, P n → P n.eraseRollback)
    (f : NvsCalls) : P (ammSaveRollbackToNvs f a n).2 := by
  have hdrop : P (dropRollback f n).2 := by
    unfold dropRollback
    split
    · exact h
    · simp only
      split <;> split <;> simp [h, hdropCount, hdropBlob]
  unfold ammSaveRollbackToNvs
  split
  · exact h
  · split
    · cases hr : dropRollback f n with
      | mk r m =>
        rw [hr] at hdrop
        cases r <;> exact hdrop
    · refine durably_induction h ?_ f
      simp only [rollbackCalls, List.forall_mem_cons]
      exact ⟨fun n h => h, hcount _, hblob, fun n h => h,
        fun g hg => absurd hg List.not_mem_nil⟩

theorem KeptBySaves.step {P : AmmNvs → Prop} (hP : KeptBySaves P) (h : P s.nvs)
    (hsnap : P (s.snapshot f).2) : P (s.perform call f).2.nvs := by
  unfold AmmStore.perform
  split
  · exact h
  · exact hsnap
  · rename_i next save _
    have hsnapped : P (s.snapped f save).2 := by
      unfold AmmStore.snapped
      split
      · exact hsnap
      · exact h
    by_cases hpermits : ammSnapshotPermitsMutation (s.snapped f save).1 = false
    · simp only [if_pos hpermits]
      exact hsnapped
    · simp only [if_neg hpermits]
      exact hP.perform hsnapped save (fun _ _ => hP.empty) f.save

end Cases

/-! ## The default interval -/

/-- The default interval is one that `amm_set_poll_interval_all` accepts. -/
def PollRange (a : AmmTable) : Prop := 100 ≤ a.defaultPollMs ∧ a.defaultPollMs ≤ 3600000

theorem PollRange.ne_zero {a : AmmTable} (h : PollRange a) : a.defaultPollMs ≠ 0 := by
  intro hzero
  have hlow := h.1
  rw [hzero] at hlow
  revert hlow
  decide

theorem pollRange_empty (capacity : Nat) : PollRange (.empty capacity) := by
  show 100 ≤ pollIntervalMs ∧ pollIntervalMs ≤ 3600000
  decide

theorem loadedPollMs_range (f : NvsCalls) (n : AmmNvs) {dflt : UInt32}
    (h : 100 ≤ dflt ∧ dflt ≤ 3600000) :
    100 ≤ loadedPollMs f n dflt ∧ loadedPollMs f n dflt ≤ 3600000 := by
  unfold loadedPollMs
  split
  · split
    · assumption
    · exact h
  · exact h

theorem PollRange.load {a : AmmTable} (h : PollRange a) (f : NvsCalls) (n : AmmNvs) :
    PollRange (ammLoadFromNvs f n a).2 := by
  have hloaded := loadedPollMs_range f n h
  unfold ammLoadFromNvs
  split
  · exact h
  · simp only
    split
    · exact hloaded
    · exact hloaded
    · split
      · exact hloaded
      · split <;> exact hloaded

theorem PollRange.removeWhere {a : AmmTable} (h : PollRange a) (nvs : NvsAnswers)
    (sought : AmmMappingEntry → Bool) : PollRange (ammRemoveWhere sought nvs a).2 := by
  unfold ammRemoveWhere
  simp only
  repeat' split
  all_goals exact h

/-- `amm_set_poll_interval_all` takes only an interval of the range, and no other operation sets
it. -/
theorem PollRange.apply {a : AmmTable} (h : PollRange a) (op : AmmOp) : PollRange (op.apply a) := by
  cases op with
  | add nvs e =>
    show PollRange (ammAddMapping nvs e a).2
    unfold ammAddMapping
    simp only
    repeat' split
    all_goals exact h
  | remove nvs slaveId regAddr => exact h.removeWhere nvs _
  | removeForChannel nvs protocol channelId slaveId regAddr => exact h.removeWhere nvs _
  | clear nvs =>
    show PollRange (ammClearMappings nvs a).2
    unfold ammClearMappings
    simp only
    repeat' split
    all_goals exact h
  | update nvs index e =>
    show PollRange (ammUpdateMapping nvs index e a).2
    unfold ammUpdateMapping
    simp only
    repeat' split
    all_goals exact h
  | setPollIntervalAll nvs ms =>
    show PollRange (ammSetPollIntervalAll nvs ms a).2
    unfold ammSetPollIntervalAll
    by_cases hms : ms < 100 ∨ ms > 3600000
    · rw [if_pos hms]
      exact h
    · rw [if_neg hms]
      simp only
      split
      · exact h
      · exact ⟨UInt32.not_lt.1 fun hlt => hms (.inl hlt), UInt32.not_lt.1 fun hgt => hms (.inr hgt)⟩
  | «import» nvs entries replaceDevices =>
    show PollRange (ammImportMappings nvs entries replaceDevices a).2.2
    unfold ammImportMappings
    repeat' split
    all_goals exact h
  | rollback nvs read =>
    show PollRange (ammRollback read nvs a).2
    unfold ammRollback
    repeat' split
    all_goals exact h

theorem PollRange.perform {s : AmmStore} (h : PollRange s.ram) (call : AmmCall) (f : AmmFaults) :
    PollRange (s.perform call f).2.ram := by
  obtain ⟨nvs, hnvs⟩ := perform_outcome s call f
  have happly := h.apply (call.op nvs (readRollback f.read s.ram.capacity s.nvs))
  rwa [← AmmOp.outcome_snd, hnvs] at happly

end McpGateway.Amm
