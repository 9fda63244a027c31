import McpGateway.Storage.OfflineIndex

/-!
# Loss accounting

`s_data_loss` counts the records that `offline_store_put` and the pruning of
`offline_store_init` give up. `loss_balance`: over a run without cut-off files,
every record that came in is stored, was removed, or is counted as lost.

* `Medium.size`: the record files of a directory. Each directory operation says
  by its result how it changes the size (`removeOldest_size`, `removeRecord_size`,
  `writeRecord_size`, `writeWithRetry_size`).
* `Store.accounted`: the records on both media and the counted losses. `put`
  adds one to it on every path, `remove` takes away what it deletes, and the
  rest leaves it alone (`step_accounted`).
-/

namespace McpGateway.Storage

open McpGateway.Lib

/-! ## One directory -/

namespace Medium

def size (m : Medium) : Nat := m.dir.keys.length

variable {m : Medium} {id : SeqId} {topic payload : CStr}

theorem size_eq_zero : m.size = 0 ↔ m.dir.keys = [] := List.length_eq_zero_iff

theorem size_congr {m' : Medium} (h : m'.dir = m.dir) : m'.size = m.size := by
  rw [size, h, size]

theorem size_erase {m' : Medium} (h : m'.dir = m.dir.erase id) (hid : id ∈ m.dir) :
    m'.size + 1 = m.size := by
  have hpos : 0 < m.dir.keys.length := List.length_pos_of_mem (AList.mem_keys.1 hid)
  rw [size, h, AList.keys_erase, List.length_erase_of_mem (AList.mem_keys.1 hid), size]
  omega

theorem size_withFile (hid : id ∉ m.dir) (t : CStr) : (m.withFile id t).size = m.size + 1 := by
  have hkeys : (m.withFile id t).dir.keys = id :: m.dir.keys.erase id := AList.keys_insert m.dir
  rw [size, hkeys, List.length_cons, List.erase_of_not_mem (mt AList.mem_keys.2 hid), size]

theorem removeOldest_size (m : Medium) : m.removeOldest.2.size + m.removeOldest.1.toNat = m.size := by
  unfold removeOldest unlink
  by_cases h0 : m.count = 0 ∨ m.oldestValid = false
  · rw [if_pos h0]
    rfl
  · rw [if_neg h0]
    by_cases ha : m.access m.oldest = true
    · have hid : m.oldest ∈ m.dir := by
        unfold access at ha
        exact of_decide_eq_true (Bool.and_eq_true_iff.1 ha).2
      simp only [if_pos ha]
      exact size_erase (advanceOldest_dir _ _) hid
    · simp only [if_neg ha]
      rfl

theorem removeRecord_size (m : Medium) (id : SeqId) :
    (m.removeRecord id).2.size + (m.removeRecord id).1.toNat = m.size := by
  have hdir := removeRecord_dir m id
  by_cases ha : m.access id = true
  · have hid : id ∈ m.dir := by
      unfold access at ha
      exact of_decide_eq_true (Bool.and_eq_true_iff.1 ha).2
    have hremoved : (m.removeRecord id).1 = true := by
      unfold removeRecord unlink
      simp only [if_pos ha]
      split
      · rfl
      · split <;> rfl
    rw [if_pos ha] at hdir
    rw [hremoved]
    exact size_erase hdir hid
  · have hkept : (m.removeRecord id).1 = false := by
      unfold removeRecord unlink
      simp only [if_neg ha]
    rw [if_neg ha] at hdir
    rw [hkept]
    exact size_congr hdir

end Medium

/-- A write that fails leaves no file. -/
def WriteOutcome.Clean (w : WriteOutcome) : Prop := ∀ n, w ≠ .cutShort n

def stored (err : EspErr) : Nat := if err = .ok then 1 else 0

namespace Medium

variable {m : Medium} {id : SeqId} {topic payload : CStr}

theorem writeRecord_failed {w : WriteOutcome} (hw : w.Clean)
    (h : (m.writeRecord id topic payload w).1 ≠ .ok) :
    m.writeRecord id topic payload w = (.fail, m) := by
  cases hm : m.mounted with
  | false => simp [writeRecord, hm]
  | true =>
    cases w with
    | ok => exact absurd (by rw [writeRecord_ok hm]) h
    | openFailed => exact writeRecord_openFailed
    | cutShort n => exact absurd rfl (hw n)

theorem writeRecord_size (topic payload : CStr) {w : WriteOutcome} (hw : w.Clean)
    (hid : id ∉ m.dir) :
    (m.writeRecord id topic payload w).2.size =
      m.size + stored (m.writeRecord id topic payload w).1 := by
  by_cases h : (m.writeRecord id topic payload w).1 = .ok
  · have hm : m.mounted = true := by
      by_contra hm
      simp [writeRecord, hm] at h
    have hok : w = .ok := by
      cases w with
      | ok => rfl
      | openFailed =>
        rw [writeRecord_openFailed] at h
        cases h
      | cutShort n => exact absurd rfl (hw n)
    rw [hok, writeRecord_ok hm]
    exact size_withFile hid _
  · rw [writeRecord_failed hw h]
    rfl

/-- The second write of an eviction, after a first one that left nothing. -/
theorem retry_size (topic payload : CStr) {r : WriteOutcome} (hr : r.Clean) (hid : id ∉ m.dir) :
    (m.removeOldest.2.writeRecord id topic payload r).2.size + m.removeOldest.1.toNat =
      m.size + stored (m.removeOldest.2.writeRecord id topic payload r).1 := by
  have hevict := removeOldest_size m
  have hfresh : id ∉ m.removeOldest.2.dir := fun hmem =>
    hid (mem_ids.1 ((removeOldest_grows m).1 (mem_ids.2 hmem)))
  have hretry := writeRecord_size topic payload hr hfresh
  omega

theorem writeWithRetry_size (topic payload : CStr) {w r : WriteOutcome} (hw : w.Clean)
    (hr : r.Clean) (hid : id ∉ m.dir) :
    (m.writeWithRetry id topic payload w r).2.2.size +
        (m.writeWithRetry id topic payload w r).2.1.toNat =
      m.size + stored (m.writeWithRetry id topic payload w r).1 := by
  by_cases h : (m.writeRecord id topic payload w).1 = .ok
  · have hwrite := writeRecord_size topic payload hw hid
    rw [h] at hwrite
    simp only [writeWithRetry, if_pos h]
    rw [size_congr (noteStored_dir _ _), hwrite]
    rfl
  · have hfailed := writeRecord_failed hw h
    have hevict := removeOldest_size m
    have hretry := retry_size topic payload hr hid
    simp only [writeWithRetry, hfailed, reduceCtorEq, if_false]
    by_cases hremoved : m.removeOldest.1 = true
    · rw [hremoved] at hretry
      rw [if_pos hremoved]
      by_cases hok : (m.removeOldest.2.writeRecord id topic payload r).1 = .ok
      · rw [hok] at hretry
        rw [if_pos hok]
        show (noteStored _ id).size + 1 = _
        rw [size_congr (noteStored_dir _ _)]
        exact hretry
      · rw [if_neg hok]
        exact hretry
    · rw [if_neg hremoved]
      rw [Bool.eq_false_of_not_eq_true hremoved] at hevict
      exact hevict

end Medium

/-! ## The store -/

namespace Store

def records (st : Store) : Nat := st.flash.size + st.tf.size

def accounted (st : Store) : Nat := st.records + st.dataLoss

end Store

/-- No write of the call leaves a cut-off file. -/
structure PutEnv.Clean (env : PutEnv) : Prop where
  flashWrite : env.flashWrite.Clean
  tfWrite : env.tfWrite.Clean
  tfRetry : env.tfRetry.Clean
  flashRetry : env.flashRetry.Clean

def Op.Clean : Op → Prop
  | .put _ _ _ env => env.Clean
  | _ => True

/-- The flash is ready: `put` finds it so, and a mount formats only a partition
without records. -/
def FlashReady (st : Store) : Op → Prop
  | .put _ _ _ _ => st.flashReady = true
  | .init env => env.mount = .formatted → st.flash.dir.keys = []
  | _ => True

/-- The records that `offline_store_remove` deletes. -/
def removedBy (st : Store) : Op → Nat
  | .remove id => (st.flash.removeRecord id).1.toNat + (st.tf.removeRecord id).1.toNat
  | _ => 0

def broughtBy (_ : Store) : Op → Nat
  | .put _ _ _ _ => 1
  | _ => 0

section Accounting

variable {st : Store} {id : SeqId} {topic payload : CStr} {env : PutEnv}

/-! ### `offline_store_put` -/

theorem putFlash_accounted (henv : env.Clean) (hid : id ∉ st.flash.dir) :
    (putFlash st id topic payload env).2.accounted =
      st.accounted + stored (putFlash st id topic payload env).1 := by
  unfold putFlash
  by_cases hroom : flashHasRoom st topic payload env = true
  · have hwrite := Medium.writeRecord_size topic payload henv.flashWrite hid
    rw [if_pos hroom]
    by_cases hok : (st.flash.writeRecord id topic payload env.flashWrite).1 = .ok
    · rw [hok] at hwrite
      simp only [if_pos hok]
      show (Medium.noteStored _ id).size + st.tf.size + st.dataLoss =
        st.flash.size + st.tf.size + st.dataLoss + 1
      rw [Medium.size_congr (Medium.noteStored_dir _ _), hwrite]
      show st.flash.size + 1 + _ + _ = _
      omega
    · simp only [if_neg hok]
      rw [Medium.writeRecord_failed henv.flashWrite hok]
      rfl
  · rw [if_neg hroom]
    rfl

theorem putFlash_failed (henv : env.Clean)
    (h : (putFlash st id topic payload env).1 ≠ .ok) :
    putFlash st id topic payload env = (.fail, st) := by
  unfold putFlash at h ⊢
  by_cases hroom : flashHasRoom st topic payload env = true
  · rw [if_pos hroom] at h ⊢
    by_cases hok : (st.flash.writeRecord id topic payload env.flashWrite).1 = .ok
    · simp only [if_pos hok] at h
      exact absurd rfl h
    · simp only [if_neg hok]
      rw [Medium.writeRecord_failed henv.flashWrite hok]
  · rw [if_neg hroom]

theorem putTf_accounted (henv : env.Clean) (hid : id ∉ st.tf.dir) :
    (putTf st id topic payload env).2.accounted =
      st.accounted + stored (putTf st id topic payload env).1 := by
  let full := if st.tf.count ≥ uifCacheMaxRecords then st.tf.removeOldest else (false, st.tf)
  have hfull : full.2.size + full.1.toNat = st.tf.size ∧ id ∉ full.2.dir := by
    by_cases hcount : st.tf.count ≥ uifCacheMaxRecords
    · have heq : full = st.tf.removeOldest := if_pos hcount
      rw [heq]
      exact ⟨Medium.removeOldest_size _, fun hmem =>
        hid (Medium.mem_ids.1 ((Medium.removeOldest_grows _).1 (Medium.mem_ids.2 hmem)))⟩
    · have heq : full = (false, st.tf) := if_neg hcount
      rw [heq]
      exact ⟨rfl, hid⟩
  obtain ⟨hsize, hfresh⟩ := hfull
  have hwrite := Medium.writeWithRetry_size topic payload henv.tfWrite henv.tfRetry hfresh
  generalize hw : full.2.writeWithRetry id topic payload env.tfWrite env.tfRetry = w at hwrite
  have hput : putTf st id topic payload env =
      (w.1, { st with tf := w.2.2, dataLoss := st.dataLoss + full.1.toNat + w.2.1.toNat }) := by
    rw [← hw]
    rfl
  rw [hput]
  show st.flash.size + w.2.2.size + (st.dataLoss + full.1.toNat + w.2.1.toNat) =
    st.flash.size + st.tf.size + st.dataLoss + stored w.1
  omega

theorem putEvict_accounted (err : EspErr) (herr : err ≠ .ok) (henv : env.Clean)
    (hid : id ∉ st.flash.dir) :
    (putEvict st err id topic payload env).2.accounted =
      st.accounted + stored (putEvict st err id topic payload env).1 := by
  have hevict := Medium.removeOldest_size st.flash
  have hretry := Medium.retry_size topic payload henv.flashRetry hid
  unfold putEvict
  by_cases hremoved : st.flash.removeOldest.1 = true
  · rw [hremoved, Bool.toNat_true] at hretry
    simp only [if_pos hremoved]
    generalize st.flash.removeOldest.2.writeRecord id topic payload env.flashRetry = w at hretry
    by_cases hok : w.1 = .ok
    · rw [hok] at hretry
      simp only [if_pos hok]
      show (w.2.noteEvicted id).size + st.tf.size + (st.dataLoss + 1) =
        st.flash.size + st.tf.size + st.dataLoss + stored .ok
      rw [Medium.size_congr (Medium.noteEvicted_dir _ _)]
      omega
    · simp only [if_neg hok]
      show w.2.size + st.tf.size + (st.dataLoss + 1) =
        st.flash.size + st.tf.size + st.dataLoss + stored w.1
      omega
  · have hnone : stored err = 0 := if_neg herr
    rw [Bool.eq_false_of_not_eq_true hremoved, Bool.toNat_false] at hevict
    simp only [if_neg hremoved]
    show st.flash.removeOldest.2.size + st.tf.size + st.dataLoss =
      st.flash.size + st.tf.size + st.dataLoss + stored err
    omega

/-- **Each path of `put` stores its record or counts it as lost.** -/
theorem put_accounted (hready : st.flashReady = true) (henv : env.Clean)
    (hflash : id ∉ st.flash.dir) (htf : id ∉ st.tf.dir) :
    (offlineStorePut st id topic payload env).2.accounted = st.accounted + 1 := by
  have hrecord : (putRecord st id topic payload env).2.accounted =
      st.accounted + stored (putRecord st id topic payload env).1 := by
    unfold putRecord
    by_cases hok : (putFlash st id topic payload env).1 = .ok
    · simp only [if_pos hok]
      exact putFlash_accounted henv hflash
    · rw [putFlash_failed henv hok]
      simp only [reduceCtorEq, if_false]
      split
      · exact putTf_accounted henv htf
      · exact putEvict_accounted .fail (by decide) henv hflash
  unfold offlineStorePut
  rw [if_neg (by rw [hready]; decide)]
  by_cases hok : (putRecord st id topic payload env).1 = .ok
  · simp only [if_pos hok]
    rw [hrecord, hok]
    rfl
  · have hnone : stored (putRecord st id topic payload env).1 = 0 := if_neg hok
    simp only [if_neg hok]
    show (putRecord st id topic payload env).2.records + (_ + 1) = _
    have hsum : (putRecord st id topic payload env).2.records +
      (putRecord st id topic payload env).2.dataLoss = st.accounted + 0 := hnone ▸ hrecord
    omega

/-! ### The other operations -/

theorem pruneLoop_accounted (n : Nat) (st : Store) : (pruneLoop n st).accounted = st.accounted := by
  induction n generalizing st with
  | zero => rfl
  | succ n ih =>
    have hevict := Medium.removeOldest_size st.flash
    unfold pruneLoop
    split
    · by_cases hremoved : st.flash.removeOldest.1 = true
      · rw [hremoved, Bool.toNat_true] at hevict
        simp only [if_pos hremoved]
        rw [ih]
        show st.flash.removeOldest.2.size + st.tf.size + (st.dataLoss + 1) =
          st.flash.size + st.tf.size + st.dataLoss
        omega
      · rw [Bool.eq_false_of_not_eq_true hremoved, Bool.toNat_false] at hevict
        simp only [if_neg hremoved]
        show st.flash.removeOldest.2.size + st.tf.size + st.dataLoss =
          st.flash.size + st.tf.size + st.dataLoss
        omega
    · rfl

theorem initFinish_accounted (st : Store) : (initFinish st).accounted = st.accounted := by
  rw [← pruneLoop_accounted st.flash.count st]
  unfold initFinish
  simp only
  split <;> rfl

theorem recreateFlashCache_size {m : Medium} (hm : m.size = 0) (env : RecreateEnv) :
    (recreateFlashCache m env).2.size = 0 := by
  have hempty : m.ids = ∅ := Medium.ids_eq_empty.2 (Medium.size_eq_zero.1 hm)
  exact Medium.size_eq_zero.2 (Medium.ids_eq_empty.1 (recreate_spec hempty env).2.1)

theorem mountFlashCache_size {m : Medium} {o : MountOutcome}
    (h : o = .formatted → m.dir.keys = []) : (mountFlashCache m o).2.size = m.size := by
  cases o with
  | formatted =>
    rw [Medium.size_eq_zero.2 (h rfl)]
    rfl
  | ok => rfl
  | failed => rfl

theorem init_accounted {env : InitEnv} (h : env.mount = .formatted → st.flash.dir.keys = []) :
    (offlineStoreInit st env).2.accounted = st.accounted := by
  have hmount := mountFlashCache_size h
  have hkept : ∀ {flash : Medium} {ready : Bool},
      flash.size = st.flash.size → ({ st with flash := flash, flashReady := ready } : Store).accounted =
        st.accounted := by
    intro flash ready hsize
    show flash.size + st.tf.size + st.dataLoss = st.flash.size + st.tf.size + st.dataLoss
    rw [hsize]
  unfold offlineStoreInit
  by_cases hok : (mountFlashCache st.flash env.mount).1 = .ok
  · simp only [hok, ne_eq, not_true_eq_false, if_false]
    split
    · exact hkept hmount
    · split
      · rename_i hrebuild
        have hmounted : (mountFlashCache st.flash env.mount).2.mounted = true := by
          cases hm : env.mount with
          | failed =>
            rw [hm] at hok
            cases hok
          | ok => rfl
          | formatted => rfl
        have hzero : (mountFlashCache st.flash env.mount).2.size = 0 := by
          have hcount : (mountFlashCache st.flash env.mount).2.countIn = 0 := hrebuild.1
          rw [Medium.countIn, if_pos hmounted] at hcount
          exact hcount
        have hrecreated := recreateFlashCache_size
          (m := (mountFlashCache st.flash env.mount).2.loadStoreState) hzero env.recreate
        split
        · exact hkept (hrecreated.trans (hzero.symm.trans hmount))
        · rw [initFinish_accounted]
          exact hkept (hrecreated.trans (hzero.symm.trans hmount))
      · rw [initFinish_accounted]
        exact hkept hmount
  · rw [if_pos hok]
    exact hkept hmount

theorem peek_accounted (st : Store) : (offlineStorePeekOldest st).2.accounted = st.accounted := by
  rcases peek_state st with h | h
  · rw [h]
  · rw [h]
    unfold reload
    show _ + Medium.size _ + _ = st.flash.size + st.tf.size + st.dataLoss
    split <;> rfl

theorem remove_accounted (st : Store) (id : SeqId) :
    (offlineStoreRemove st id).2.accounted + removedBy st (.remove id) = st.accounted := by
  have hflash := Medium.removeRecord_size st.flash id
  have htf := Medium.removeRecord_size st.tf id
  show (st.flash.removeRecord id).2.size + (st.tf.removeRecord id).2.size + st.dataLoss +
    ((st.flash.removeRecord id).1.toNat + (st.tf.removeRecord id).1.toNat) =
      st.flash.size + st.tf.size + st.dataLoss
  omega

/-! ### Runs -/

/-- **One operation balances.** -/
theorem step_accounted {op : Op} (hfresh : FreshIds st [op]) (hready : FlashReady st op)
    (hclean : op.Clean) :
    st.accounted + broughtBy st op = (step st op).accounted + removedBy st op := by
  cases op with
  | init env => exact (init_accounted hready).symm
  | put id topic payload env =>
    obtain ⟨hflash, htf⟩ := hfresh.2 id List.mem_cons_self
    exact (put_accounted hready hclean hflash htf).symm
  | peek => exact (peek_accounted st).symm
  | remove id => exact (remove_accounted st id).symm
  | setTfMounted mounted => rfl

theorem total_broughtBy (st : Store) (ops : List Op) :
    total step broughtBy st ops = (putIds ops).length := by
  induction ops generalizing st with
  | nil => rfl
  | cons op ops ih =>
    rw [putIds_cons, List.length_append, ← ih (step st op)]
    cases op <;> rfl

end Accounting

/-- **Loss accounting balances**: the records before the run and those put are
the records now, the removed ones and the increase of `s_data_loss`. -/
theorem loss_balance {st : Store} {ops : List Op} (hids : FreshIds st ops)
    (hready : AllSteps step FlashReady st ops) (hclean : ∀ op ∈ ops, op.Clean) :
    (st.records + (putIds ops).length : Int) =
      (run step st ops).records + total step removedBy st ops +
        ((run step st ops).dataLoss - st.dataLoss) := by
  have hsteps : AllSteps step
      (fun st op => st.accounted + broughtBy st op = (step st op).accounted + removedBy st op)
      st ops := by
    induction ops generalizing st with
    | nil => trivial
    | cons op ops ih =>
      refine ⟨step_accounted hids.head hready.1 (hclean op List.mem_cons_self), ?_⟩
      exact ih hids.step hready.2 fun x hx => hclean x (List.mem_cons_of_mem op hx)
  have hbalance : st.records + st.dataLoss + _ = (run step st ops).records +
    (run step st ops).dataLoss + _ := balance_run hsteps
  rw [total_broughtBy] at hbalance
  omega

/-- Of the records 5, 9 and 3, one is evicted, one removed and one stored. -/
theorem loss_balance_lateRecordRun :
    (3 : Int) = (run step emptyBoot (lateRecordRun ++ [.remove 9])).records +
        total step removedBy emptyBoot (lateRecordRun ++ [.remove 9]) +
        ((run step emptyBoot (lateRecordRun ++ [.remove 9])).dataLoss - 0) :=
  have hids : FreshIds emptyBoot (lateRecordRun ++ [.remove 9]) :=
    ⟨by decide, fun _ _ => ⟨AList.notMem_empty _, AList.notMem_empty _⟩⟩
  have hready : AllSteps step FlashReady emptyBoot (lateRecordRun ++ [.remove 9]) :=
    ⟨fun _ => rfl, rfl, rfl, rfl, trivial, trivial⟩
  have hclean : ∀ op ∈ lateRecordRun ++ [.remove 9], op.Clean := by
    have hok : WriteOutcome.ok.Clean := by
      intro n h
      cases h
    have hwrite : ∀ free, (putWith free).Clean := fun free => ⟨hok, hok, hok, hok⟩
    simp [lateRecordRun, Op.Clean, hwrite]
  loss_balance hids hready hclean

end McpGateway.Storage
