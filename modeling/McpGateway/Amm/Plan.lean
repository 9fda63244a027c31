import McpGateway.Amm.Table

/-!
# What an operation plans

Each operation of the table refuses its arguments, takes the rollback snapshot,
checks what is left to check, and then changes the table and saves it. `AmmCall`
is an operation without the answers of the NVS calls, and `AmmCall.plan` what it
does up to its save. `outcome_of_plan` is the one lemma about the operations: it
says how each of them ends. `error_keeps_table_iff` tells when an operation that
ends with an error has left the table alone.
-/

namespace McpGateway.Amm

open McpGateway.Lib McpGateway.Tcm

/-- The operations with their arguments. -/
inductive AmmCall
  | add (e : AmmMappingEntry)
  | remove (slaveId : UInt8) (regAddr : UInt16)
  | removeForChannel (protocol : SourceProtocol) (channelId slaveId : UInt8) (regAddr : UInt16)
  | clear
  | update (index : Int) (e : AmmMappingEntry)
  | setPollIntervalAll (ms : UInt32)
  | import (entries : List AmmMappingEntry) (replaceDevices : Bool)
  | rollback

/-- What `amm_rollback` reads back. -/
abbrev SnapshotRead := Except EspErr (List AmmMappingEntry)

def AmmCall.op (nvs : NvsAnswers) (read : SnapshotRead) : AmmCall → AmmOp
  | .add e => .add nvs e
  | .remove slaveId regAddr => .remove nvs slaveId regAddr
  | .removeForChannel protocol channelId slaveId regAddr =>
    .removeForChannel nvs protocol channelId slaveId regAddr
  | .clear => .clear nvs
  | .update index e => .update nvs index e
  | .setPollIntervalAll ms => .setPollIntervalAll nvs ms
  | .import entries replaceDevices => .import nvs entries replaceDevices
  | .rollback => .rollback nvs read

def AmmOp.outcome : AmmOp → AmmTable → EspErr × AmmTable
  | .add nvs e, a => ammAddMapping nvs e a
  | .remove nvs slaveId regAddr, a => ammRemoveMapping slaveId regAddr nvs a
  | .removeForChannel nvs protocol channelId slaveId regAddr, a =>
    ammRemoveMappingForChannel protocol channelId slaveId regAddr nvs a
  | .clear nvs, a => ammClearMappings nvs a
  | .update nvs index e, a => ammUpdateMapping nvs index e a
  | .setPollIntervalAll nvs ms, a => ammSetPollIntervalAll nvs ms a
  | .import nvs entries replaceDevices, a =>
    let r := ammImportMappings nvs entries replaceDevices a
    (r.1, r.2.2)
  | .rollback nvs read, a => ammRollback read nvs a

theorem AmmOp.outcome_snd (op : AmmOp) (a : AmmTable) : (op.outcome a).2 = op.apply a := by
  cases op <;> rfl

/-! ## Plans -/

/-- What an operation saves: one slot, the table, a staged table before it is
published, the empty table before it is published, or a table read back. -/
inductive SaveKind
  | entry (i : Nat)
  | table
  | staged
  | cleared
  | restored
  deriving DecidableEq

def SaveKind.first : SaveKind → Bool
  | .staged | .cleared => true
  | _ => false

def SaveKind.snapshots : SaveKind → Bool
  | .restored => false
  | _ => true

/-- An operation refuses its arguments, ends after the snapshot, or changes the
table to `next` and saves it. -/
inductive Plan
  | refused (err : EspErr)
  | rejected (err : EspErr)
  | change (next : AmmTable) (save : SaveKind)

/-- The slot `amm_add_mapping` writes; `none` in a full table. -/
def addTarget (e : AmmMappingEntry) (a : AmmTable) : Option Nat :=
  match a.table.findIdx? fun x => x.active && ammSamePhysicalPoint x e with
  | some i => some i
  | none =>
    match a.table.findIdx? fun x => !x.active with
    | some i => some i
    | none => if a.table.length ≥ a.capacity then none else some a.table.length

/-- Puts an entry into a slot, or into a new one at the end. -/
def AmmTable.put (a : AmmTable) (i : Nat) (e : AmmMappingEntry) : AmmTable :=
  if i < a.table.length then a.store i e
  else { a with table := a.table ++ [a.stored e], modelVersion := a.modelVersion + 1 }

def AmmTable.deactivate (a : AmmTable) (i : Nat) : AmmTable :=
  { a with
    table := a.table.modify i fun x => { x with active := false }
    modelVersion := a.modelVersion + 1 }

/-- Every active entry polled at the interval `ms`. -/
def AmmTable.withPollMs (a : AmmTable) (ms : UInt32) : AmmTable :=
  { a with
    defaultPollMs := ms
    modelVersion := a.modelVersion + 1
    table := a.table.map fun x =>
      if x.active then { x with pollIntervalMs := ms, mappingVersion := a.modelVersion + 1 }
      else x }

/-- The table read back, under a new version. -/
def AmmTable.restored (a : AmmTable) (snapshot : List AmmMappingEntry) : AmmTable :=
  { a with
    table := snapshot.map fun x => { x with mappingVersion := a.modelVersion + 1 }
    modelVersion := a.modelVersion + 1 }

def planRemove (sought : AmmMappingEntry → Bool) (a : AmmTable) : Plan :=
  match a.table.findIdx? fun x => x.active && sought x with
  | none => .refused .notFound
  | some i => .change (a.deactivate i) (.entry i)

def planUpdate (index : Int) (e : AmmMappingEntry) (a : AmmTable) : Plan :=
  if index < 0 ∨ index ≥ a.capacity then .refused .invalidArg
  else match a.table[index.toNat]? with
    | none => .refused .notFound
    | some old =>
      if old.active = false then .refused .notFound
      else .change (a.store index.toNat e) (.entry index.toNat)

def planSetPollIntervalAll (ms : UInt32) (a : AmmTable) : Plan :=
  if ms < 100 ∨ ms > 3600000 then .refused .invalidArg
  else .change (a.withPollMs ms) .table

def planImport (entries : List AmmMappingEntry) (replaceDevices : Bool) (a : AmmTable) : Plan :=
  if entries = [] then .refused .invalidArg
  else if profileConflicts entries then .refused .invalidState
  else match stageKept a entries replaceDevices with
    | none => .rejected .noMem
    | some kept =>
      match importLoop a entries ⟨kept, a.modelVersion, 0⟩ with
      | .error e => .rejected e
      | .ok st => .change { a with table := st.table, modelVersion := st.modelVersion } .staged

def planRollback (read : SnapshotRead) (a : AmmTable) : Plan :=
  match read with
  | .error e => .refused e
  | .ok snapshot =>
    if snapshot = [] ∨ snapshot.length > a.capacity then .refused .invalidSize
    else .change (a.restored snapshot) .restored

def AmmCall.plan (read : SnapshotRead) (a : AmmTable) : AmmCall → Plan
  | .add e =>
    match addTarget e a with
    | none => .rejected .noMem
    | some i => .change (a.put i e) (.entry i)
  | .remove slaveId regAddr =>
    planRemove (fun x => decide (x.slaveId = slaveId) && decide (x.registerAddress = regAddr)) a
  | .removeForChannel protocol channelId slaveId regAddr =>
    planRemove
      (fun x =>
        decide (x.sourceProtocol = protocol) && decide (x.channelId = channelId) &&
          decide (x.slaveId = slaveId) && decide (x.registerAddress = regAddr)) a
  | .clear => .change { a with table := [], modelVersion := a.modelVersion + 1 } .cleared
  | .update index e => planUpdate index e a
  | .setPollIntervalAll ms => planSetPollIntervalAll ms a
  | .import entries replaceDevices => planImport entries replaceDevices a
  | .rollback => planRollback read a

/-- The result of an operation whose snapshot failed. -/
def AmmCall.deniedError (snapshot : EspErr) : AmmCall → EspErr
  | .import _ _ => .fail
  | _ => snapshot

/-- How an operation ends, by its plan and the answers of its NVS calls. -/
def AmmCall.ends (call : AmmCall) (nvs : NvsAnswers) (a : AmmTable) : Plan → EspErr × AmmTable
  | .refused err => (err, a)
  | .rejected err =>
    if ammSnapshotPermitsMutation (ammSaveRollback nvs a) then (err, a)
    else (call.deniedError (ammSaveRollback nvs a), a)
  | .change next save =>
    if save.snapshots && !ammSnapshotPermitsMutation (ammSaveRollback nvs a) then
      (call.deniedError (ammSaveRollback nvs a), a)
    else (nvs.save, if save.first && decide (nvs.save ≠ .ok) then a else next)

/-! ## The operations follow their plans -/

section Ends

variable (nvs : NvsAnswers) (a : AmmTable)

theorem outcome_add (e : AmmMappingEntry) (read : SnapshotRead) :
    ammAddMapping nvs e a = (AmmCall.add e).ends nvs a ((AmmCall.add e).plan read a) := by
  unfold ammAddMapping
  cases hsame : a.table.findIdx? fun x => x.active && ammSamePhysicalPoint x e with
  | some i =>
    have hi := (List.findIdx?_eq_some_iff_findIdx_eq.1 hsame).1
    simp only [AmmCall.plan, addTarget, hsame, AmmCall.ends, AmmTable.put, if_pos hi]
    cases ammSnapshotPermitsMutation (ammSaveRollback nvs a) <;>
      simp [SaveKind.snapshots, SaveKind.first, AmmCall.deniedError]
  | none =>
    cases hfree : a.table.findIdx? fun x => !x.active with
    | some i =>
      have hi := (List.findIdx?_eq_some_iff_findIdx_eq.1 hfree).1
      simp only [AmmCall.plan, addTarget, hsame, hfree, AmmCall.ends, AmmTable.put, if_pos hi]
      cases ammSnapshotPermitsMutation (ammSaveRollback nvs a) <;>
        simp [SaveKind.snapshots, SaveKind.first, AmmCall.deniedError]
    | none =>
      by_cases hfull : a.table.length ≥ a.capacity
      · simp only [AmmCall.plan, addTarget, hsame, hfree, if_pos hfull, AmmCall.ends]
        cases ammSnapshotPermitsMutation (ammSaveRollback nvs a) <;> simp [AmmCall.deniedError]
      · simp only [AmmCall.plan, addTarget, hsame, hfree, if_neg hfull, AmmCall.ends, AmmTable.put,
          Nat.lt_irrefl, if_false]
        cases ammSnapshotPermitsMutation (ammSaveRollback nvs a) <;>
          simp [SaveKind.snapshots, SaveKind.first, AmmCall.deniedError]

theorem outcome_remove (sought : AmmMappingEntry → Bool) {call : AmmCall}
    (hcall : call.deniedError (ammSaveRollback nvs a) = ammSaveRollback nvs a) :
    ammRemoveWhere sought nvs a = call.ends nvs a (planRemove sought a) := by
  unfold ammRemoveWhere planRemove
  cases a.table.findIdx? fun x => x.active && sought x with
  | none => rfl
  | some i =>
    simp only [AmmCall.ends, hcall, AmmTable.deactivate]
    cases ammSnapshotPermitsMutation (ammSaveRollback nvs a) <;>
      simp [SaveKind.snapshots, SaveKind.first]

theorem outcome_clear (read : SnapshotRead) :
    ammClearMappings nvs a = AmmCall.clear.ends nvs a (AmmCall.clear.plan read a) := by
  simp only [ammClearMappings, AmmCall.plan, AmmCall.ends, AmmCall.deniedError]
  cases ammSnapshotPermitsMutation (ammSaveRollback nvs a) with
  | false => rfl
  | true =>
    by_cases hsave : nvs.save = .ok <;> simp [SaveKind.snapshots, SaveKind.first, hsave]

theorem outcome_update (index : Int) (e : AmmMappingEntry) :
    ammUpdateMapping nvs index e a =
      (AmmCall.update index e).ends nvs a (planUpdate index e a) := by
  unfold ammUpdateMapping planUpdate
  by_cases hindex : index < 0 ∨ index ≥ a.capacity
  · rw [if_pos hindex, if_pos hindex]
    rfl
  · rw [if_neg hindex, if_neg hindex]
    cases a.table[index.toNat]? with
    | none => rfl
    | some old =>
      simp only
      by_cases hactive : old.active = false
      · rw [if_pos hactive, if_pos hactive]
        rfl
      · rw [if_neg hactive, if_neg hactive]
        simp only [AmmCall.ends, AmmCall.deniedError]
        cases ammSnapshotPermitsMutation (ammSaveRollback nvs a) <;>
          simp [SaveKind.snapshots, SaveKind.first]

theorem outcome_setPollIntervalAll (ms : UInt32) :
    ammSetPollIntervalAll nvs ms a =
      (AmmCall.setPollIntervalAll ms).ends nvs a (planSetPollIntervalAll ms a) := by
  unfold ammSetPollIntervalAll planSetPollIntervalAll
  by_cases hms : ms < 100 ∨ ms > 3600000
  · rw [if_pos hms, if_pos hms]
    rfl
  · rw [if_neg hms, if_neg hms]
    simp only [AmmCall.ends, AmmCall.deniedError]
    cases ammSnapshotPermitsMutation (ammSaveRollback nvs a) <;>
      simp [SaveKind.snapshots, SaveKind.first, AmmTable.withPollMs]

/-- The snapshot of an empty table is not taken and permits the import. -/
theorem import_denied_iff : ammSnapshotPermitsMutation (ammSaveRollback nvs a) = false ∧
    a.table ≠ [] ↔ ammSnapshotPermitsMutation (ammSaveRollback nvs a) = false := by
  refine ⟨fun h => h.1, fun h => ⟨h, ?_⟩⟩
  intro hempty
  rw [ammSaveRollback, if_pos hempty] at h
  cases h

theorem outcome_import (entries : List AmmMappingEntry) (replaceDevices : Bool) :
    ((ammImportMappings nvs entries replaceDevices a).1,
        (ammImportMappings nvs entries replaceDevices a).2.2) =
      (AmmCall.import entries replaceDevices).ends nvs a (planImport entries replaceDevices a) := by
  unfold ammImportMappings planImport
  simp only [import_denied_iff]
  by_cases hempty : entries = []
  · rw [if_pos hempty, if_pos hempty]
    rfl
  rw [if_neg hempty, if_neg hempty]
  cases profileConflicts entries with
  | true => rfl
  | false =>
    simp only [Bool.false_eq_true, if_false]
    cases hdenied : ammSnapshotPermitsMutation (ammSaveRollback nvs a) with
    | false =>
      simp only [if_true]
      cases stageKept a entries replaceDevices with
      | none => simp [AmmCall.ends, AmmCall.deniedError, hdenied]
      | some kept =>
        simp only
        cases importLoop a entries ⟨kept, a.modelVersion, 0⟩ <;>
          simp [AmmCall.ends, AmmCall.deniedError, hdenied, SaveKind.snapshots]
    | true =>
      simp only [Bool.true_eq_false, if_false]
      cases stageKept a entries replaceDevices with
      | none => simp [AmmCall.ends, hdenied]
      | some kept =>
        simp only
        cases importLoop a entries ⟨kept, a.modelVersion, 0⟩ with
        | error e => simp [AmmCall.ends, hdenied]
        | ok st =>
          by_cases hsave : nvs.save = .ok <;>
            simp [AmmCall.ends, hdenied, SaveKind.snapshots, SaveKind.first, hsave]

theorem outcome_rollback (read : SnapshotRead) :
    ammRollback read nvs a = AmmCall.rollback.ends nvs a (planRollback read a) := by
  unfold ammRollback planRollback
  cases read with
  | error e => rfl
  | ok snapshot =>
    simp only
    by_cases hsize : snapshot = [] ∨ snapshot.length > a.capacity
    · rw [if_pos hsize, if_pos hsize]
      rfl
    · rw [if_neg hsize, if_neg hsize]
      simp [AmmCall.ends, SaveKind.snapshots, SaveKind.first, AmmTable.restored]

theorem outcome_of_plan (read : SnapshotRead) (call : AmmCall) :
    (call.op nvs read).outcome a = call.ends nvs a (call.plan read a) := by
  cases call with
  | add e => exact outcome_add nvs a e read
  | remove slaveId regAddr => exact outcome_remove nvs a _ rfl
  | removeForChannel protocol channelId slaveId regAddr => exact outcome_remove nvs a _ rfl
  | clear => exact outcome_clear nvs a read
  | update index e => exact outcome_update nvs a index e
  | setPollIntervalAll ms => exact outcome_setPollIntervalAll nvs a ms
  | «import» entries replaceDevices => exact outcome_import nvs a entries replaceDevices
  | rollback => exact outcome_rollback nvs a read

end Ends

/-! ## Errors -/

section PlanErrors

variable {read : SnapshotRead} {a : AmmTable} {err : EspErr}

theorem importLoop_error {entries : List AmmMappingEntry} {st : Staging}
    (h : importLoop a entries st = .error err) : err ≠ .ok := by
  induction entries generalizing st with
  | nil => cases h
  | cons e es ih =>
    rw [importLoop] at h
    split at h
    · cases h
      nofun
    · simp only at h
      split at h
      · cases h
        nofun
      · exact ih h

theorem rejected_ne_ok {call : AmmCall} (h : call.plan read a = .rejected err) : err ≠ .ok := by
  cases call with
  | add e =>
    rw [AmmCall.plan] at h
    split at h <;> cases h
    nofun
  | remove | removeForChannel =>
    simp only [AmmCall.plan, planRemove] at h
    split at h <;> cases h
  | clear => cases h
  | update index e =>
    simp only [AmmCall.plan, planUpdate] at h
    split at h
    · cases h
    · split at h
      · cases h
      · split at h <;> cases h
  | setPollIntervalAll ms =>
    simp only [AmmCall.plan, planSetPollIntervalAll] at h
    split at h <;> cases h
  | «import» entries replaceDevices =>
    simp only [AmmCall.plan, planImport] at h
    split at h
    · cases h
    · split at h
      · cases h
      · split at h
        · cases h
          nofun
        · split at h <;> cases h
          rename_i hloop
          exact importLoop_error hloop
  | rollback =>
    simp only [AmmCall.plan, planRollback] at h
    split at h
    · cases h
    · split at h <;> cases h

theorem refused_ne_ok (hread : ∀ e, read = .error e → e ≠ .ok) {call : AmmCall}
    (h : call.plan read a = .refused err) : err ≠ .ok := by
  cases call with
  | add e =>
    rw [AmmCall.plan] at h
    split at h <;> cases h
  | remove | removeForChannel =>
    simp only [AmmCall.plan, planRemove] at h
    split at h <;> cases h
    nofun
  | clear => cases h
  | update index e =>
    simp only [AmmCall.plan, planUpdate] at h
    split at h
    · cases h
      nofun
    · split at h
      · cases h
        nofun
      · split at h <;> cases h
        nofun
  | setPollIntervalAll ms =>
    simp only [AmmCall.plan, planSetPollIntervalAll] at h
    split at h <;> cases h
    nofun
  | «import» entries replaceDevices =>
    simp only [AmmCall.plan, planImport] at h
    split at h
    · cases h
      nofun
    · split at h
      · cases h
        nofun
      · split at h
        · cases h
        · split at h <;> cases h
  | rollback =>
    simp only [AmmCall.plan, planRollback] at h
    split at h
    · cases h
      exact hread _ rfl
    · split at h <;> cases h
      nofun

end PlanErrors

/-! ## What a change is -/

section Changes

variable {read : SnapshotRead} {a next : AmmTable} {save : SaveKind}

theorem planAdd_change {e : AmmMappingEntry}
    (h : (AmmCall.add e).plan read a = .change next save) :
    ∃ i, addTarget e a = some i ∧ next = a.put i e ∧ save = .entry i := by
  rw [AmmCall.plan] at h
  split at h
  · cases h
  · rename_i i hi
    cases h
    exact ⟨i, hi, rfl, rfl⟩

theorem planRemove_change {sought : AmmMappingEntry → Bool}
    (h : planRemove sought a = .change next save) :
    ∃ i, i < a.table.length ∧ next = a.deactivate i ∧ save = .entry i := by
  unfold planRemove at h
  split at h
  · cases h
  · rename_i i hi
    cases h
    exact ⟨i, (List.findIdx?_eq_some_iff_findIdx_eq.1 hi).1, rfl, rfl⟩

theorem planUpdate_change {index : Int} {e : AmmMappingEntry}
    (h : planUpdate index e a = .change next save) :
    ∃ old, a.table[index.toNat]? = some old ∧ old.active = true ∧
      next = a.store index.toNat e ∧ save = .entry index.toNat := by
  unfold planUpdate at h
  split at h
  · cases h
  · split at h
    · cases h
    · rename_i old hold
      split at h
      · cases h
      · rename_i hactive
        cases h
        exact ⟨old, hold, by simpa using hactive, rfl, rfl⟩

theorem planSetPollIntervalAll_change {ms : UInt32}
    (h : planSetPollIntervalAll ms a = .change next save) :
    100 ≤ ms ∧ ms ≤ 3600000 ∧ next = a.withPollMs ms ∧ save = .table := by
  unfold planSetPollIntervalAll at h
  split at h
  · cases h
  · rename_i hms
    rw [not_or] at hms
    cases h
    exact ⟨UInt32.not_lt.1 hms.1, UInt32.not_lt.1 hms.2, rfl, rfl⟩

theorem planImport_change {entries : List AmmMappingEntry} {replaceDevices : Bool}
    (h : planImport entries replaceDevices a = .change next save) :
    profileConflicts entries = false ∧
      ∃ kept st, stageKept a entries replaceDevices = some kept ∧
        importLoop a entries ⟨kept, a.modelVersion, 0⟩ = .ok st ∧
        next = { a with table := st.table, modelVersion := st.modelVersion } ∧ save = .staged := by
  unfold planImport at h
  split at h
  · cases h
  · split at h
    · cases h
    · rename_i hconflict
      split at h
      · cases h
      · rename_i kept hkept
        split at h
        · cases h
        · rename_i st hst
          cases h
          exact ⟨by simpa using hconflict, kept, st, hkept, hst, rfl, rfl⟩

theorem planRollback_change (h : planRollback read a = .change next save) :
    ∃ snapshot, read = .ok snapshot ∧ snapshot ≠ [] ∧ snapshot.length ≤ a.capacity ∧
      next = a.restored snapshot ∧ save = .restored := by
  unfold planRollback at h
  split at h
  · cases h
  · rename_i snapshot
    split at h
    · cases h
    · rename_i hsize
      rw [not_or] at hsize
      cases h
      exact ⟨snapshot, rfl, hsize.1, Nat.le_of_not_lt hsize.2, rfl, rfl⟩

end Changes

/-! ## Tables after an error -/

section Errors

variable {nvs : NvsAnswers} {read : SnapshotRead} {a next : AmmTable} {call : AmmCall}
  {save : SaveKind}

theorem put_version (i : Nat) (e : AmmMappingEntry) :
    (a.put i e).modelVersion = a.modelVersion + 1 := by
  unfold AmmTable.put
  split <;> rfl

/-- Every change but an import counts the model version up by one. -/
theorem version_of_plan (h : call.plan read a = .change next save) (hsave : save ≠ .staged) :
    next.modelVersion = a.modelVersion + 1 := by
  cases call with
  | add e =>
    obtain ⟨i, -, rfl, -⟩ := planAdd_change h
    exact put_version i e
  | remove slaveId regAddr =>
    obtain ⟨i, -, rfl, -⟩ := planRemove_change h
    rfl
  | removeForChannel protocol channelId slaveId regAddr =>
    obtain ⟨i, -, rfl, -⟩ := planRemove_change h
    rfl
  | clear =>
    cases h
    rfl
  | update index e =>
    obtain ⟨old, -, -, rfl, -⟩ := planUpdate_change h
    rfl
  | setPollIntervalAll ms =>
    obtain ⟨-, -, rfl, -⟩ := planSetPollIntervalAll_change h
    rfl
  | «import» entries replaceDevices =>
    obtain ⟨-, kept, st, -, -, -, rfl⟩ := planImport_change h
    exact absurd rfl hsave
  | rollback =>
    obtain ⟨snapshot, -, -, -, rfl, -⟩ := planRollback_change h
    rfl

theorem succ_version_ne (v : SeqId) : v + 1 ≠ v := by
  intro h
  have hval := congrArg Fin.val h
  rw [Fin.val_add] at hval
  have hone : ((1 : SeqId) : Nat) = 1 := rfl
  have hlt := v.isLt
  omega

/-- The operation gets as far as its save, and has changed the table by then. -/
def AmmCall.ChangesFirst (call : AmmCall) (nvs : NvsAnswers) (read : SnapshotRead)
    (a : AmmTable) : Prop :=
  ∃ next save, call.plan read a = .change next save ∧ save.first = false ∧
    (save.snapshots = true → ammSnapshotPermitsMutation (ammSaveRollback nvs a) = true)

/-- **Error atomicity.** An operation that ends with an error leaves the table,
the model version and the default interval as they were, unless it had changed
the table already when its save failed. -/
theorem error_keeps_table_iff (call : AmmCall) (nvs : NvsAnswers) (read : SnapshotRead)
    (a : AmmTable) :
    (((call.op nvs read).outcome a).1 ≠ .ok → ((call.op nvs read).outcome a).2 = a) ↔
      ¬ (call.ChangesFirst nvs read a ∧ nvs.save ≠ .ok) := by
  rw [outcome_of_plan]
  cases hplan : call.plan read a with
  | refused err =>
    refine iff_of_true (fun _ => rfl) ?_
    rintro ⟨⟨next, save, hchange, -⟩, -⟩
    exact absurd (hplan.symm.trans hchange) nofun
  | rejected err =>
    refine iff_of_true (fun _ => ?_) ?_
    · simp only [AmmCall.ends]
      split <;> rfl
    · rintro ⟨⟨next, save, hchange, -⟩, -⟩
      exact absurd (hplan.symm.trans hchange) nofun
  | change next save =>
    have hchanges : call.ChangesFirst nvs read a ↔ save.first = false ∧
        (save.snapshots = true → ammSnapshotPermitsMutation (ammSaveRollback nvs a) = true) := by
      constructor
      · rintro ⟨next', save', hchange, h⟩
        obtain ⟨rfl, rfl⟩ := Plan.change.inj (hplan.symm.trans hchange)
        exact h
      · exact fun h => ⟨next, save, hplan, h⟩
    rw [hchanges]
    simp only [AmmCall.ends]
    by_cases hdenied : (save.snapshots &&
        !ammSnapshotPermitsMutation (ammSaveRollback nvs a)) = true
    · rw [if_pos hdenied]
      refine iff_of_true (fun _ => rfl) ?_
      rintro ⟨⟨-, hpermits⟩, -⟩
      simp only [Bool.and_eq_true, Bool.not_eq_true'] at hdenied
      exact absurd (hpermits hdenied.1) (by rw [hdenied.2]; exact Bool.false_ne_true)
    · rw [if_neg hdenied]
      have hpermits : save.snapshots = true →
          ammSnapshotPermitsMutation (ammSaveRollback nvs a) = true := by
        intro hsnap
        simpa [hsnap] using hdenied
      cases hfirst : save.first with
      | true => simp +contextual
      | false =>
        have hne : next ≠ a := by
          rintro rfl
          refine absurd (version_of_plan hplan ?_).symm (succ_version_ne _)
          rintro rfl
          cases hfirst
        refine ⟨fun h hfails => hne (h hfails.2), fun h hfails => ?_⟩
        exact absurd ⟨⟨rfl, hpermits⟩, hfails⟩ h

/-- A failed save of an added entry leaves the entry and a new model version behind. -/
theorem failed_add_changes_table :
    ((AmmCall.op ⟨.ok, .fail⟩ (.ok []) (.add samplePoint)).outcome (.empty 1000)).1 = .fail ∧
      ((AmmCall.op ⟨.ok, .fail⟩ (.ok []) (.add samplePoint)).outcome (.empty 1000)).2 ≠
        .empty 1000 := by
  refine ⟨rfl, fun h => ?_⟩
  exact absurd (congrArg AmmTable.modelVersion h) (by decide)

end Errors

end McpGateway.Amm
