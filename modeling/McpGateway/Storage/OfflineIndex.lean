import McpGateway.Storage.OfflineMedium
import McpGateway.Lib.Run

/-!
# The offline store's index

A run starts with `offline_store_init` on media with any contents and goes on
with `put`, `peek`, `remove`, `init` and changes of the TF card's mount state.
`StepOk` is the exact condition under which an operation leaves both indexes
right: `indexed_run_iff`. It fails for a `put` that evicts without a card and
writes an id below the new oldest, for a `put` that leaves a cut-off file
behind, and for an `init` that does not get to read a directory.
-/

namespace McpGateway.Storage

open McpGateway.Lib

/-! ## Runs -/

inductive Op
  | init (env : InitEnv)
  | put (id : SeqId) (topic payload : CStr) (env : PutEnv)
  | peek
  | remove (id : SeqId)
  | setTfMounted (mounted : Bool)

def step (st : Store) : Op → Store
  | .init env => (offlineStoreInit st env).2
  | .put id topic payload env => (offlineStorePut st id topic payload env).2
  | .peek => (offlineStorePeekOldest st).2
  | .remove id => (offlineStoreRemove st id).2
  | .setTfMounted b => { st with tf := { st.tf with mounted := b } }

def putIds (ops : List Op) : List SeqId :=
  ops.filterMap fun
    | .put id _ _ _ => some id
    | _ => none

/-- The statics before `offline_store_init`; the media may hold anything. -/
structure Boot (st : Store) : Prop where
  ready : st.flashReady = false
  flashMounted : st.flash.mounted = false
  flash : st.flash.count = 0 ∧ st.flash.oldest = 0 ∧ st.flash.oldestValid = false
  tf : st.tf.count = 0 ∧ st.tf.oldest = 0 ∧ st.tf.oldestValid = false

/-- Pairwise distinct ids, none of them on the media at the start. -/
def FreshIds (st : Store) (ops : List Op) : Prop :=
  (putIds ops).Nodup ∧ ∀ id ∈ putIds ops, id ∉ st.flash.dir ∧ id ∉ st.tf.dir

/-- `id` is stored on a mounted medium. -/
def Visible (st : Store) (id : SeqId) : Prop :=
  id ∈ st.flash.dir ∨ (st.tf.mounted = true ∧ id ∈ st.tf.dir)

/-- `offline_store_peek_oldest` goes for the least id on the mounted media,
and a record it returns is that one. -/
structure PeekLeast (st : Store) : Prop where
  empty : peekTarget st = none → ∀ id, ¬ Visible st id
  target : ∀ m id, peekTarget st = some (m, id) →
    id ∈ (st.medium m).dir ∧ (m = .tf → st.tf.mounted = true) ∧ ∀ id', Visible st id' → id ≤ id'
  result : ∀ r, (offlineStorePeekOldest st).1 = .ok r →
    peekTarget st = some (r.medium, r.sequenceId)

/-- Both cached indexes are right, and so is the choice of the oldest record. -/
structure Indexed (st : Store) : Prop where
  flash : st.flash.Agrees
  tf : st.tf.Agrees
  peek : PeekLeast st

/-! ## When an operation keeps the index -/

/-- How the first write of a `put` ends; not trying counts as not opening. -/
def flashOutcome (st : Store) (topic payload : CStr) (env : PutEnv) : WriteOutcome :=
  if flashHasRoom st topic payload env && st.flash.mounted then env.flashWrite else .openFailed

/-- `writeWithRetry` leaves no cut-off file behind. -/
def RetryOk (m : Medium) (write retry : WriteOutcome) : Prop :=
  match write with
  | .ok => True
  | .openFailed => m.count = 0 ∨ ∀ n, retry ≠ .cutShort n
  | .cutShort _ => m.count ≠ 0 ∧ retry = .ok

/-- The eviction without a card, after a first write that ended with `first`. -/
def EvictOk (m : Medium) (first : WriteOutcome) (id : SeqId) (second : WriteOutcome) : Prop :=
  if m.count = 0 then first = .openFailed
  else match first, second with
    | .cutShort _, .ok => m.count = 1 ∨ m.oldest < id ∨ m.oldest + 1 ∉ m.dir
    | _, .ok => m.count = 1 ∨ ∃ x ∈ m.dir, x ≠ m.oldest ∧ x < id
    | .openFailed, .openFailed => True
    | _, _ => False

def PutOk (st : Store) (id : SeqId) (topic payload : CStr) (env : PutEnv) : Prop :=
  st.flashReady = true →
    match flashOutcome st topic payload env with
    | .ok => True
    | first =>
      if st.tf.mounted then first = .openFailed ∧ RetryOk st.tf env.tfWrite env.tfRetry
      else EvictOk st.flash first id env.flashRetry

/-- Everything the rebuild of an unusable partition needs. -/
def RecreateEnv.Works (env : RecreateEnv) : Prop :=
  env.unmount = true ∧ env.format = true ∧ env.mount ≠ .failed ∧ env.mkdir = true

/-- `init` reads each directory, or the index was right without. -/
structure InitOk (st : Store) (env : InitEnv) : Prop where
  flash : (env.mount ≠ .failed ∧ env.mkdir = true) ∨ (mountFlashCache st.flash env.mount).2.Agrees
  tf : st.tf.Agrees ∨ (st.tf.mounted = true ∧ env.mount ≠ .failed ∧ env.mkdir = true ∧
    ((mountFlashCache st.flash env.mount).2.dir.keys = [] → noUsableSpace env.free = true →
      env.recreate.Works))

def StepOk (st : Store) : Op → Prop
  | .init env => InitOk st env
  | .put id topic payload env => PutOk st id topic payload env
  | _ => True

/-! ## Writing -/

namespace Medium

variable {m : Medium} {id : SeqId} {topic payload : CStr}

theorem writeRecord_ok (hm : m.mounted) : m.writeRecord id topic payload .ok =
    (.ok, m.withFile id (recordText id topic payload)) := by simp [writeRecord, hm, withFile]

theorem writeRecord_cutShort (hm : m.mounted) (n : Nat) :
    m.writeRecord id topic payload (.cutShort n) =
      (.fail, m.withFile id ((recordText id topic payload).take n)) := by
  simp [writeRecord, hm, withFile]

@[simp] theorem writeRecord_openFailed :
    m.writeRecord id topic payload .openFailed = (.fail, m) := by
  unfold writeRecord; split <;> rfl

/-- **When `writeWithRetry` keeps the index.** -/
theorem writeWithRetry_agrees_iff {write retry : WriteOutcome} (hm : m.mounted) (h : m.Agrees)
    (hid : id ∉ m.ids) :
    (m.writeWithRetry id topic payload write retry).2.2.Agrees ↔ RetryOk m write retry := by
  have ht := agrees_iff.1 h
  unfold writeWithRetry
  cases write with
  | ok => simpa [writeRecord_ok hm, RetryOk] using agrees_noteStored _ h hid
  | openFailed =>
    by_cases hc : m.count = 0
    · simpa [removeOldest_zero hc, RetryOk, hc] using h
    · obtain ⟨m', hr, he⟩ := removeOldest_pos hm ht subset_rfl hc
      have h' := he.agrees h hc
      have hid' : id ∉ m'.ids := fun hm => hid (Finset.mem_of_mem_erase (he.ids ▸ hm))
      cases retry with
      | ok =>
        simpa [hr, writeRecord_ok he.mounted, RetryOk] using agrees_noteStored _ h' hid'
      | openFailed => simpa [hr, RetryOk] using h'
      | cutShort n =>
        simpa [hr, writeRecord_cutShort he.mounted, RetryOk, hc] using
          not_agrees_withFile _ h' hid'
  | cutShort n =>
    rw [writeRecord_cutShort hm]
    obtain ⟨m₁, hm₁⟩ : ∃ m₁, m.withFile id ((recordText id topic payload).take n) = m₁ := ⟨_, rfl⟩
    have hT : Tracks m₁.count m₁.least m.ids := by rw [← hm₁]; exact ht
    have hids : m₁.ids = insert id m.ids := by rw [← hm₁]; exact withFile_ids _ _ _
    have hcount : m₁.count = m.count := by rw [← hm₁]; rfl
    rw [hm₁]
    by_cases hc : m.count = 0
    · have : ¬ m₁.Agrees := by rw [agrees_iff, hids]; exact hT.not_insert hid
      simpa [removeOldest_zero (hcount.trans hc), RetryOk, hc] using this
    · obtain ⟨m', hr, he⟩ := removeOldest_pos (by rw [← hm₁]; exact hm) hT
        (by rw [hids]; exact Finset.subset_insert _ _) (hcount ▸ hc)
      obtain ⟨l, hl, hm', -⟩ := he.least_cut hT (hcount ▸ hc) hid hids
      have hidT : id ∉ m.ids.erase m₁.oldest := fun hmem => hid (Finset.mem_of_mem_erase hmem)
      have hm'c : m'.count = m₁.count - 1 := he.count
      cases retry with
      | ok =>
        simpa [hr, writeRecord_ok he.mounted, RetryOk, hc] using
          he.retry_agrees _ hT (hcount ▸ hc) hid hids
      | openFailed =>
        have : ¬ m'.Agrees := by rw [agrees_iff, hm', hm'c]; exact hl.not_insert hidT
        simpa [hr, RetryOk] using this
      | cutShort k =>
        have : ¬ (m'.withFile id ((recordText id topic payload).take k)).Agrees := by
          rw [agrees_iff, withFile_ids, hm', Finset.insert_idem]
          exact fun h => hl.not_insert hidT (hm'c ▸ h)
        simpa [hr, writeRecord_cutShort he.mounted, RetryOk] using this

theorem removeRecord_agrees (h : m.Agrees) (id : SeqId) : (m.removeRecord id).2.Agrees := by
  have ht := agrees_iff.1 h
  by_cases ha : m.access id
  · obtain ⟨hm, hid⟩ : m.mounted = true ∧ id ∈ m.dir := by simpa [access] using ha
    have hc : m.count ≠ 0 := fun e => by
      have := ht.none_iff.1 (ht.none_iff_count.2 e)
      exact absurd (mem_ids.2 hid) (by simp [this])
    obtain ⟨hv, hl⟩ := least_of_count ht hc
    by_cases ho : m.oldest = id
    · subst ho
      have he := (evicted_advance hm).agrees h hc
      simpa [removeRecord, unlink, ha, hc, hv] using he
    · have he := ht.erase_ne (mem_ids.2 hid) (by rw [hl]; simpa using ho)
      rw [← ids_erase { m with dir := m.dir.erase id, count := m.count - 1 } id rfl] at he
      simpa [removeRecord, unlink, ha, hc, ho] using agrees_iff.2 he
  · simpa [removeRecord, unlink, ha] using h

/-! ## What an operation can add to a directory -/

theorem removeOldest_grows (m : Medium) :
    m.removeOldest.2.ids ⊆ m.ids ∧ m.removeOldest.2.mounted = m.mounted := by
  unfold removeOldest unlink
  by_cases h0 : m.count = 0 ∨ m.oldestValid = false
  · simp [h0]
  · by_cases ha : m.access m.oldest
    · simp only [h0, if_false, ha, if_true, advanceOldest_ids, advanceOldest_mounted, and_true]
      rw [@ids_erase m _ m.oldest rfl]
      exact Finset.erase_subset _ _
    · simp [h0, ha, ids]

theorem removeRecord_grows (m : Medium) (id : SeqId) :
    (m.removeRecord id).2.ids ⊆ m.ids ∧ (m.removeRecord id).2.mounted = m.mounted := by
  have he : m.ids.erase id ⊆ m.ids := Finset.erase_subset _ _
  unfold removeRecord unlink
  by_cases ha : m.access id
  · simp only [ha, if_true]
    split
    · rw [@ids_erase m _ id rfl]; exact ⟨he, rfl⟩
    · split
      · simp only [advanceOldest_ids, advanceOldest_mounted, and_true]
        rw [@ids_erase m _ id rfl]; exact he
      · rw [@ids_erase m _ id rfl]; exact ⟨he, rfl⟩
  · simp [ha]

theorem writeRecord_grows (m : Medium) (id : SeqId) (topic payload : CStr) (w : WriteOutcome) :
    (m.writeRecord id topic payload w).2.ids ⊆ insert id m.ids ∧
      (m.writeRecord id topic payload w).2.mounted = m.mounted := by
  cases hm : m.mounted with
  | false => simp [writeRecord, hm]
  | true =>
    cases w with
    | ok => simp [writeRecord_ok hm, hm]
    | openFailed => simp [hm]
    | cutShort n => simp [writeRecord_cutShort hm, hm]

theorem writeWithRetry_grows (m : Medium) (id : SeqId) (topic payload : CStr)
    (w r : WriteOutcome) :
    (m.writeWithRetry id topic payload w r).2.2.ids ⊆ insert id m.ids ∧
      (m.writeWithRetry id topic payload w r).2.2.mounted = m.mounted := by
  obtain ⟨h1, h1'⟩ := writeRecord_grows m id topic payload w
  obtain ⟨h2, h2'⟩ := removeOldest_grows (m.writeRecord id topic payload w).2
  obtain ⟨h3, h3'⟩ := writeRecord_grows (m.writeRecord id topic payload w).2.removeOldest.2
    id topic payload r
  have h4 := h3.trans (Finset.insert_subset_iff.2 ⟨Finset.mem_insert_self _ _, h2.trans h1⟩)
  simp only [writeWithRetry]
  split
  · simpa [ids] using ⟨h1, h1'⟩
  · split
    · split
      · simpa [ids] using ⟨h4, h3'.trans (h2'.trans h1')⟩
      · exact ⟨h4, h3'.trans (h2'.trans h1')⟩
    · exact ⟨h2.trans h1, h2'.trans h1'⟩

end Medium

/-! ## Step lemmas -/

/-- What is known about the store before a step: both indexes agree, and an
unmounted flash partition holds no records. -/
structure Known (st : Store) : Prop where
  flash : st.flash.Agrees
  tf : st.tf.Agrees
  settled : st.flash.mounted = true ∨ st.flash.ids = ∅

variable {st : Store} {id : SeqId} {topic payload : CStr}

theorem Known.mounted (h : Known st) (hc : st.flash.count ≠ 0) : st.flash.mounted = true := by
  rcases h.settled with hm | he
  · exact hm
  · have := (Medium.agrees_iff.1 h.flash).none_iff_count.1
      ((Medium.agrees_iff.1 h.flash).none_iff.2 he)
    exact absurd this hc

theorem putFlash_eq (env : PutEnv) : putFlash st id topic payload env =
    match flashOutcome st topic payload env with
    | .ok => (.ok, { st with
        flash := (st.flash.withFile id (Medium.recordText id topic payload)).noteStored id })
    | .openFailed => (.fail, st)
    | .cutShort n => (.fail, { st with
        flash := st.flash.withFile id ((Medium.recordText id topic payload).take n) }) := by
  unfold putFlash flashOutcome
  by_cases hr : flashHasRoom st topic payload env = true
  · cases hm : st.flash.mounted with
    | false => simp [hr, Medium.writeRecord, hm]
    | true =>
      cases hw : env.flashWrite with
      | ok => simp [hr, Medium.writeRecord_ok hm]
      | openFailed => simp [hr]
      | cutShort n => simp [hr, Medium.writeRecord_cutShort hm]
  · simp [hr]

/-- The eviction branch after a first write that left nothing. -/
theorem putEvict_agrees_iff (h : Known st) (hid : id ∉ st.flash.ids) (e : EspErr) (env : PutEnv) :
    (putEvict st e id topic payload env).2.flash.Agrees ↔
      EvictOk st.flash .openFailed id env.flashRetry := by
  unfold putEvict EvictOk
  by_cases hc : st.flash.count = 0
  · simpa [Medium.removeOldest_zero hc, hc] using h.flash
  · obtain ⟨m', hr, he⟩ :=
      Medium.removeOldest_pos (h.mounted hc) (Medium.agrees_iff.1 h.flash) subset_rfl hc
    have hid' : id ∉ m'.ids := fun hm => hid (Finset.mem_of_mem_erase (he.ids ▸ hm))
    cases hw : env.flashRetry with
    | ok =>
      simpa [hr, hc, Medium.writeRecord_ok he.mounted] using
        he.noteEvicted_agrees_iff (Medium.recordText id topic payload) h.flash hc hid
    | openFailed => simpa [hr, hc] using he.agrees h.flash hc
    | cutShort n =>
      simpa [hr, hc, Medium.writeRecord_cutShort he.mounted] using
        Medium.not_agrees_withFile _ (he.agrees h.flash hc) hid'

/-- The eviction branch after a first write that left a cut-off file. -/
theorem putEvict_cut_agrees_iff (h : Known st) (hid : id ∉ st.flash.ids) (e : EspErr)
    (env : PutEnv) (t : CStr) (n : Nat) :
    (putEvict { st with flash := st.flash.withFile id t } e id topic payload env).2.flash.Agrees ↔
      EvictOk st.flash (.cutShort n) id env.flashRetry := by
  have ht := Medium.agrees_iff.1 h.flash
  obtain ⟨m, hm⟩ : ∃ m, st.flash.withFile id t = m := ⟨_, rfl⟩
  have hT : Tracks m.count m.least st.flash.ids := by rw [← hm]; exact ht
  have hids : m.ids = insert id st.flash.ids := by rw [← hm]; exact Medium.withFile_ids _ _ _
  have hcount : m.count = st.flash.count := by rw [← hm]; rfl
  have hold : m.oldest = st.flash.oldest := by rw [← hm]; rfl
  rw [hm]
  unfold putEvict EvictOk
  by_cases hc : st.flash.count = 0
  · have : ¬ m.Agrees := by rw [Medium.agrees_iff, hids]; exact hT.not_insert hid
    simpa [Medium.removeOldest_zero (hcount.trans hc), hc] using this
  · obtain ⟨m', hr, he⟩ := Medium.removeOldest_pos (by rw [← hm]; exact h.mounted hc) hT
      (by rw [hids]; exact Finset.subset_insert _ _) (hcount ▸ hc)
    obtain ⟨l, hl, hm', -⟩ := he.least_cut hT (hcount ▸ hc) hid hids
    have hidT : id ∉ st.flash.ids.erase m.oldest := fun h => hid (Finset.mem_of_mem_erase h)
    have hm'c : m'.count = m.count - 1 := he.count
    cases hw : env.flashRetry with
    | ok =>
      have := he.noteEvicted_cut_agrees_iff (Medium.recordText id topic payload) hT (hcount ▸ hc)
        hid hids
      simpa [hr, hc, Medium.writeRecord_ok he.mounted, hcount, hold] using this
    | openFailed =>
      have : ¬ m'.Agrees := by rw [Medium.agrees_iff, hm', hm'c]; exact hl.not_insert hidT
      simpa [hr, hc] using this
    | cutShort k =>
      have : ¬ (m'.withFile id ((Medium.recordText id topic payload).take k)).Agrees := by
        rw [Medium.agrees_iff, Medium.withFile_ids, hm', Finset.insert_idem]
        exact fun h => hl.not_insert hidT (hm'c ▸ h)
      simpa [hr, hc, Medium.writeRecord_cutShort he.mounted] using this

/-- The TF branch, with its eviction at capacity. -/
theorem putTf_agrees_iff (h : st.tf.Agrees) (hm : st.tf.mounted) (hid : id ∉ st.tf.ids)
    (env : PutEnv) :
    (putTf st id topic payload env).2.tf.Agrees ↔ RetryOk st.tf env.tfWrite env.tfRetry := by
  unfold putTf
  by_cases hfull : st.tf.count ≥ uifCacheMaxRecords
  · have hc : st.tf.count ≠ 0 := by unfold uifCacheMaxRecords at hfull; omega
    obtain ⟨m', hr, he⟩ := Medium.removeOldest_pos hm (Medium.agrees_iff.1 h) subset_rfl hc
    have hid' : id ∉ m'.ids := fun hm => hid (Finset.mem_of_mem_erase (he.ids ▸ hm))
    have hc' : m'.count ≠ 0 := by rw [he.count]; unfold uifCacheMaxRecords at hfull; omega
    simp only [hfull, if_true, hr]
    rw [Medium.writeWithRetry_agrees_iff he.mounted (he.agrees h hc) hid']
    unfold RetryOk
    cases env.tfWrite <;> simp [hc, hc']
  · simp only [hfull, if_false]
    exact Medium.writeWithRetry_agrees_iff hm h hid

@[simp] theorem putTf_flash (env : PutEnv) : (putTf st id topic payload env).2.flash = st.flash :=
  rfl

@[simp] theorem putEvict_tf (e : EspErr) (env : PutEnv) :
    (putEvict st e id topic payload env).2.tf = st.tf := by
  simp only [putEvict]; split
  · split <;> rfl
  · rfl

theorem offlineStorePut_media (hr : st.flashReady = true) (env : PutEnv) :
    (offlineStorePut st id topic payload env).2.flash =
        (putRecord st id topic payload env).2.flash ∧
      (offlineStorePut st id topic payload env).2.tf =
        (putRecord st id topic payload env).2.tf := by
  simp only [offlineStorePut, hr, Bool.true_eq_false, if_false]
  split <;> exact ⟨rfl, rfl⟩

/-- **When a `put` keeps both indexes.** -/
theorem put_agrees_iff (h : Known st) (hf : id ∉ st.flash.ids) (ht : id ∉ st.tf.ids)
    (env : PutEnv) :
    (offlineStorePut st id topic payload env).2.flash.Agrees ∧
        (offlineStorePut st id topic payload env).2.tf.Agrees ↔
      PutOk st id topic payload env := by
  unfold PutOk
  cases hr : st.flashReady with
  | false => simpa [offlineStorePut, hr] using ⟨h.flash, h.tf⟩
  | true =>
    rw [(offlineStorePut_media hr env).1, (offlineStorePut_media hr env).2]
    simp only [putRecord, putFlash_eq, true_implies]
    cases hw : flashOutcome st topic payload env with
    | ok =>
      simpa using ⟨Medium.agrees_noteStored _ h.flash hf, h.tf⟩
    | openFailed =>
      cases hm : st.tf.mounted with
      | true => simpa [hm, h.flash] using putTf_agrees_iff h.tf hm ht env
      | false => simpa [hm, h.tf] using putEvict_agrees_iff h hf .fail env
    | cutShort n =>
      cases hm : st.tf.mounted with
      | true => simpa [hm] using fun hag => absurd hag (Medium.not_agrees_withFile _ h.flash hf)
      | false => simpa [hm, h.tf] using putEvict_cut_agrees_iff h hf .fail env _ n

theorem remove_known (h : Known st) (id : SeqId) : Known (offlineStoreRemove st id).2 where
  flash := Medium.removeRecord_agrees h.flash id
  tf := Medium.removeRecord_agrees h.tf id
  settled := by
    obtain ⟨h1, h2⟩ := Medium.removeRecord_grows st.flash id
    rcases h.settled with hm | he
    · exact Or.inl (h2.trans hm)
    · exact Or.inr (Finset.subset_empty.1 (he ▸ h1))

theorem reload_known (h : Known st) : Known (reload st) where
  flash := by
    rcases h.settled with hm | he
    · exact Medium.agrees_loadStoreState hm
    · exact Medium.loadStoreState_agrees_of_empty he
  tf := by
    unfold reload
    cases hm : st.tf.mounted with
    | false => simpa [hm] using h.tf
    | true => simpa [hm] using Medium.agrees_loadStoreState hm
  settled := h.settled

theorem peek_state (st : Store) :
    (offlineStorePeekOldest st).2 = st ∨ (offlineStorePeekOldest st).2 = reload st := by
  unfold offlineStorePeekOldest
  split
  · exact Or.inl rfl
  · split
    · exact Or.inr rfl
    · exact Or.inl rfl

theorem peek_known (h : Known st) : Known (offlineStorePeekOldest st).2 := by
  rcases peek_state st with e | e
  · rwa [e]
  · rw [e]; exact reload_known h

/-! ## The record `peek` goes for -/

theorem peekTarget_congr {st' : Store} (hf : st'.flash.least = st.flash.least)
    (ht : st'.tf.least = st.tf.least) (hm : st'.tf.mounted = st.tf.mounted) :
    peekTarget st' = peekTarget st := by
  unfold Medium.least at hf ht
  unfold peekTarget
  cases h1 : st.flash.oldestValid <;> cases h2 : st'.flash.oldestValid <;>
    cases h3 : st.tf.oldestValid <;> cases h4 : st'.tf.oldestValid <;>
    simp_all

theorem reload_target (h : Known st) : peekTarget (reload st) = peekTarget st := by
  have h' := reload_known h
  refine peekTarget_congr ?_ ?_ ?_
  · have hids : (reload st).flash.ids = st.flash.ids := rfl
    exact ((Medium.agrees_iff.1 h'.flash).unique (hids ▸ Medium.agrees_iff.1 h.flash)).2
  · have hids : (reload st).tf.ids = st.tf.ids := by unfold reload; split <;> rfl
    exact ((Medium.agrees_iff.1 h'.tf).unique (hids ▸ Medium.agrees_iff.1 h.tf)).2
  · unfold reload; split <;> rfl

theorem peekTarget_none (h : peekTarget st = none) :
    st.flash.oldestValid = false ∧ (st.tf.mounted = true → st.tf.oldestValid = false) := by
  simp only [peekTarget] at h
  cases hf : st.flash.oldestValid <;> cases ht : st.tf.oldestValid <;>
    cases hm : st.tf.mounted <;> simp_all
  split at h <;> cases h

theorem peekTarget_some {m : OfflineMedium} (h : peekTarget st = some (m, id)) :
    (m = .flash ∧ st.flash.oldestValid = true ∧ id = st.flash.oldest ∧
        (st.tf.mounted = true → st.tf.oldestValid = true → st.flash.oldest ≤ st.tf.oldest)) ∨
      (m = .tf ∧ st.tf.mounted = true ∧ st.tf.oldestValid = true ∧ id = st.tf.oldest ∧
        (st.flash.oldestValid = true → st.tf.oldest < st.flash.oldest)) := by
  simp only [peekTarget] at h
  split at h
  · rename_i hc
    obtain ⟨rfl, rfl⟩ := Prod.mk.inj (Option.some.inj h)
    have hv : st.flash.oldestValid = true := by simp_all
    refine Or.inl ⟨rfl, hv, rfl, fun hm ht => ?_⟩
    simpa [hv, hm, ht] using hc
  · rename_i hc
    split at h
    · rename_i ht
      obtain ⟨rfl, rfl⟩ := Prod.mk.inj (Option.some.inj h)
      refine Or.inr ⟨rfl, ?_, ?_, rfl, ?_⟩ <;> simp_all
    · cases h

theorem readRecord_result {m : Medium} {r : OfflineRecord} {o : OfflineMedium}
    (h : m.readRecord id o = .ok r) : r.sequenceId = id ∧ r.medium = o := by
  unfold Medium.readRecord at h
  split at h
  · split at h
    · cases h
    · split at h
      · cases h
      · split at h
        · cases h
        · cases h; exact ⟨rfl, rfl⟩
  · cases h

theorem readTarget_result {r : OfflineRecord} (h : readTarget st = .ok r) :
    peekTarget st = some (r.medium, r.sequenceId) := by
  unfold readTarget at h
  split at h
  · cases h
  · rename_i m id ht
    obtain ⟨h1, h2⟩ := readRecord_result h
    rw [ht, h1, h2]

/-- **Right indexes make the right choice.** -/
theorem peekLeast_of_known (h : Known st) : PeekLeast st where
  empty := by
    rintro hn id (hv | ⟨hm, hv⟩)
    · have := h.flash.valid_iff.2 (List.ne_nil_of_mem (AList.mem_keys.1 hv))
      rw [(peekTarget_none hn).1] at this
      cases this
    · have := h.tf.valid_iff.2 (List.ne_nil_of_mem (AList.mem_keys.1 hv))
      rw [(peekTarget_none hn).2 hm] at this
      cases this
  target := by
    intro m id hs
    rcases peekTarget_some hs with ⟨rfl, hv, rfl, hle⟩ | ⟨rfl, hm, hv, rfl, hlt⟩
    · obtain ⟨hmem, hmin⟩ := h.flash.oldest_least hv
      refine ⟨hmem, fun e => (by cases e), ?_⟩
      rintro id' (hv' | ⟨hm', hv'⟩)
      · exact hmin id' hv'
      · have ht := h.tf.valid_iff.2 (List.ne_nil_of_mem (AList.mem_keys.1 hv'))
        exact (hle hm' ht).trans ((h.tf.oldest_least ht).2 id' hv')
    · obtain ⟨hmem, hmin⟩ := h.tf.oldest_least hv
      refine ⟨hmem, fun _ => hm, ?_⟩
      rintro id' (hv' | ⟨-, hv'⟩)
      · have hf := h.flash.valid_iff.2 (List.ne_nil_of_mem (AList.mem_keys.1 hv'))
        exact (hlt hf).le.trans ((h.flash.oldest_least hf).2 id' hv')
      · exact hmin id' hv'
  result := by
    intro r hr
    unfold offlineStorePeekOldest at hr
    split at hr
    · rename_i q hq
      cases hr
      exact readTarget_result hq
    · split at hr
      · exact reload_target h ▸ readTarget_result hr
      · cases hr

/-! ## `init` -/

theorem agrees_of_empty {m : Medium} (he : m.ids = ∅) (hc : m.count = 0)
    (hv : m.oldestValid = false) : m.Agrees := by
  rw [Medium.agrees_iff, he, hc]
  simpa [Medium.least, hv] using Tracks.empty

theorem mountFlashCache_ok (m : Medium) {o : MountOutcome} (ho : o ≠ .failed) :
    (mountFlashCache m o).1 = .ok ∧ (mountFlashCache m o).2.mounted = true := by
  cases o <;> first | exact absurd rfl ho | exact ⟨rfl, rfl⟩

theorem mountFlashCache_ids (m : Medium) (o : MountOutcome) :
    (mountFlashCache m o).2.ids ⊆ m.ids := by
  cases o <;> simp [mountFlashCache, Medium.ids]

/-- The rebuild of an empty partition leaves it empty, and mounted when it works. -/
theorem recreate_spec {m : Medium} (he : m.ids = ∅) (env : RecreateEnv) :
    ((recreateFlashCache m env).1 = .ok ↔ env.Works) ∧
      (recreateFlashCache m env).2.ids = ∅ ∧
      (recreateFlashCache m env).2.count = m.count ∧
      (recreateFlashCache m env).2.oldestValid = m.oldestValid ∧
      ((recreateFlashCache m env).1 = .ok → (recreateFlashCache m env).2.mounted = true) := by
  obtain ⟨u, f, o, k⟩ := env
  cases u <;> cases f <;> cases o <;> cases k <;>
    simp_all [recreateFlashCache, mountFlashCache, RecreateEnv.Works, Medium.ids]

theorem pruneLoop_spec (n : Nat) {st : Store} (h : st.flash.Agrees) (hm : st.flash.mounted) :
    (pruneLoop n st).flash.Agrees ∧ (pruneLoop n st).flash.mounted = true ∧
      (pruneLoop n st).flash.ids ⊆ st.flash.ids ∧ (pruneLoop n st).tf = st.tf := by
  induction n generalizing st with
  | zero => exact ⟨h, hm, subset_rfl, rfl⟩
  | succ n ih =>
    unfold pruneLoop
    by_cases hc : st.flash.count > uifCacheMaxRecords
    · have h0 : st.flash.count ≠ 0 := by omega
      obtain ⟨m', hr, he⟩ := Medium.removeOldest_pos hm (Medium.agrees_iff.1 h) subset_rfl h0
      obtain ⟨h1, h2, h3, h4⟩ := @ih { st with flash := m', dataLoss := st.dataLoss + 1 }
        (he.agrees h h0) he.mounted
      simp only [hc, if_true, hr]
      exact ⟨h1, h2, h3.trans (he.ids ▸ Finset.erase_subset _ _), h4⟩
    · simp only [hc, if_false]
      exact ⟨h, hm, subset_rfl, trivial⟩

theorem initFinish_spec {st : Store} (h : st.flash.Agrees) (hm : st.flash.mounted) :
    (initFinish st).flash.Agrees ∧ (initFinish st).flash.mounted = true ∧
      (initFinish st).flash.ids ⊆ st.flash.ids ∧ (initFinish st).tf.ids = st.tf.ids ∧
      ((initFinish st).tf.Agrees ↔ st.tf.Agrees ∨ st.tf.mounted = true) := by
  obtain ⟨h1, h2, h3, h4⟩ := pruneLoop_spec st.flash.count h hm
  unfold initFinish
  simp only [h4]
  cases ht : st.tf.mounted with
  | false => simpa [h4] using ⟨h1, h2, h3⟩
  | true =>
    have := Medium.agrees_loadStoreState ht
    simp only [if_true, or_true, iff_true]
    exact ⟨h1, h2, h3, rfl, this⟩

theorem init_spec (st : Store) (env : InitEnv) :
    let st' := (offlineStoreInit st env).2
    (st'.flash.Agrees ∧ st'.tf.Agrees ↔ InitOk st env) ∧
      st'.flash.ids ⊆ st.flash.ids ∧ st'.tf.ids = st.tf.ids ∧
      (st'.flash = st.flash ∨ st'.flash.mounted = true ∨ st'.flash.ids = ∅) := by
  by_cases hmt : env.mount = .failed
  · simp only [offlineStoreInit, hmt, mountFlashCache]
    refine ⟨⟨fun h => ⟨Or.inr (by rw [hmt]; exact h.1), Or.inl h.2⟩, fun h => ⟨?_, ?_⟩⟩,
      subset_rfl, rfl, Or.inl rfl⟩
    · have := h.flash; rw [hmt] at this; simpa [mountFlashCache] using this
    · have := h.tf; rw [hmt] at this; simpa using this
  obtain ⟨hr, hm⟩ := mountFlashCache_ok st.flash hmt
  have hids := mountFlashCache_ids st.flash env.mount
  by_cases hmk : env.mkdir = true
  · obtain ⟨m, hm₁⟩ : ∃ m, (mountFlashCache st.flash env.mount).2 = m := ⟨_, rfl⟩
    rw [hm₁] at hm hids
    have hload : m.loadStoreState.Agrees := Medium.agrees_loadStoreState hm
    have hcount : m.loadStoreState.count = 0 ↔ m.dir.keys = [] := by
      rw [hload.count_eq]; exact List.length_eq_zero_iff
    by_cases hneed : m.loadStoreState.count = 0 ∧ noUsableSpace env.free = true
    · have he : m.loadStoreState.ids = ∅ := Medium.ids_eq_empty.2 (hcount.1 hneed.1)
      obtain ⟨hok, hqe, hqc, hqv, hqm⟩ := recreate_spec he env.recreate
      obtain ⟨q, hq⟩ : ∃ q, recreateFlashCache m.loadStoreState env.recreate = q := ⟨_, rfl⟩
      rw [hq] at hok hqe hqc hqv hqm
      simp only [offlineStoreInit, hr, hmk, hm₁, hneed, hq]
      by_cases hq1 : q.1 = .ok
      · obtain ⟨h1, h2, h3, h4, h5⟩ := @initFinish_spec
          { st with flash := q.2.loadStoreState, flashReady := true }
          (Medium.agrees_loadStoreState (hqm hq1)) (hqm hq1)
        simp only [hq1, ne_eq, not_true_eq_false, if_false, and_self, if_true, reduceCtorEq]
        refine ⟨⟨fun h => ⟨Or.inl ⟨hmt, hmk⟩, ?_⟩, fun h => ⟨h1, h5.2 (h.tf.imp_right And.left)⟩⟩,
          ?_, h4, Or.inr (Or.inl h2)⟩
        · exact (h5.1 h.2).imp_right fun ht => ⟨ht, hmt, hmk, fun _ _ => hok.1 hq1⟩
        · exact h3.trans ((show q.2.loadStoreState.ids = q.2.ids from rfl) ▸ hqe ▸
            Finset.empty_subset _)
      · simp only [hq1, ne_eq, not_true_eq_false, not_false_eq_true, if_false, and_self, if_true,
          reduceCtorEq]
        refine ⟨⟨fun h => ⟨Or.inl ⟨hmt, hmk⟩, Or.inl h.2⟩, fun h => ⟨?_, ?_⟩⟩,
          hqe ▸ Finset.empty_subset _, trivial, Or.inr (Or.inr hqe)⟩
        · refine agrees_of_empty hqe (hqc.trans hneed.1) (hqv.trans ?_)
          have := Medium.agrees_iff.1 hload
          simpa [Medium.least] using this.none_iff_count.2 hneed.1
        · rcases h.tf with ht | ⟨-, -, -, hw⟩
          · exact ht
          · exact absurd (hok.2 (hw (hm₁ ▸ hcount.1 hneed.1) hneed.2)) hq1
    · obtain ⟨h1, h2, h3, h4, h5⟩ := @initFinish_spec
        { st with flash := m.loadStoreState, flashReady := true } hload hm
      simp only [offlineStoreInit, hr, hmk, hm₁, hneed, ne_eq, not_true_eq_false, if_false,
        reduceCtorEq]
      refine ⟨⟨fun h => ⟨Or.inl ⟨hmt, hmk⟩, ?_⟩, fun h => ⟨h1, h5.2 (h.tf.imp_right And.left)⟩⟩,
        h3.trans hids, h4, Or.inr (Or.inl h2)⟩
      exact (h5.1 h.2).imp_right fun ht => ⟨ht, hmt, hmk, fun hk hs =>
        absurd ⟨hcount.2 (hm₁ ▸ hk), hs⟩ hneed⟩
  · simp only [offlineStoreInit, hr, hmk]
    refine ⟨⟨fun h => ⟨Or.inr h.1, Or.inl h.2⟩, fun h => ⟨?_, ?_⟩⟩, hids, rfl, Or.inr (Or.inl hm)⟩
    · have := h.flash; simpa [hmk] using this
    · have := h.tf; simpa [hmk] using this

/-! ## Runs keep the index -/

theorem putFlash_grows (env : PutEnv) :
    (putFlash st id topic payload env).2.flash.ids ⊆ insert id st.flash.ids ∧
      (putFlash st id topic payload env).2.flash.mounted = st.flash.mounted ∧
      (putFlash st id topic payload env).2.tf = st.tf := by
  rw [putFlash_eq]
  cases flashOutcome st topic payload env with
  | ok => exact ⟨by simp [Medium.ids_congr (Medium.noteStored_dir _ id)], by simp, rfl⟩
  | openFailed => exact ⟨Finset.subset_insert _ _, rfl, rfl⟩
  | cutShort n => exact ⟨by simp, rfl, rfl⟩

theorem putTf_grows (env : PutEnv) :
    (putTf st id topic payload env).2.tf.ids ⊆ insert id st.tf.ids := by
  have h := fun m : Medium =>
    (Medium.writeWithRetry_grows m id topic payload env.tfWrite env.tfRetry).1
  simp only [putTf]
  split
  · exact (h _).trans (Finset.insert_subset_insert _ (Medium.removeOldest_grows st.tf).1)
  · exact h st.tf

theorem putEvict_grows (e : EspErr) (env : PutEnv) :
    (putEvict st e id topic payload env).2.flash.ids ⊆ insert id st.flash.ids ∧
      (putEvict st e id topic payload env).2.flash.mounted = st.flash.mounted := by
  obtain ⟨h1, h1'⟩ := Medium.removeOldest_grows st.flash
  obtain ⟨h2, h2'⟩ := Medium.writeRecord_grows st.flash.removeOldest.2 id topic payload
    env.flashRetry
  have h3 := h2.trans (Finset.insert_subset_insert id h1)
  simp only [putEvict]
  split
  · split
    · simpa [Medium.ids_congr (Medium.noteEvicted_dir _ id)] using ⟨h3, h2'.trans h1'⟩
    · exact ⟨h3, h2'.trans h1'⟩
  · exact ⟨h1.trans (Finset.subset_insert _ _), h1'⟩

/-- A `put` adds at most its own id, on either medium. -/
theorem put_grows (env : PutEnv) :
    (offlineStorePut st id topic payload env).2.flash.ids ⊆ insert id st.flash.ids ∧
      (offlineStorePut st id topic payload env).2.flash.mounted = st.flash.mounted ∧
      (offlineStorePut st id topic payload env).2.tf.ids ⊆ insert id st.tf.ids := by
  cases hr : st.flashReady with
  | false => simp [offlineStorePut, hr]
  | true =>
    rw [(offlineStorePut_media hr env).1, (offlineStorePut_media hr env).2]
    obtain ⟨h1, h1', h1''⟩ := @putFlash_grows st id topic payload env
    simp only [putRecord]
    split
    · exact ⟨h1, h1', h1'' ▸ Finset.subset_insert _ _⟩
    · split
      · exact ⟨h1, h1', h1'' ▸ putTf_grows env⟩
      · obtain ⟨h2, h2'⟩ := @putEvict_grows (putFlash st id topic payload env).2 id topic payload
          (putFlash st id topic payload env).1 env
        refine ⟨h2.trans ?_, h2'.trans h1', ?_⟩
        · exact Finset.insert_subset (Finset.mem_insert_self _ _) h1
        · rw [putEvict_tf, h1'']; exact Finset.subset_insert _ _

theorem put_unmounted (hm : st.flash.mounted = false) (he : st.flash.ids = ∅) (env : PutEnv) :
    (offlineStorePut st id topic payload env).2.flash.ids = ∅ := by
  cases hr : st.flashReady with
  | false => simpa [offlineStorePut, hr] using he
  | true =>
    rw [(offlineStorePut_media hr env).1]
    have hw : flashOutcome st topic payload env = .openFailed := by simp [flashOutcome, hm]
    obtain ⟨h1, h1'⟩ := Medium.removeOldest_grows st.flash
    have h2 : st.flash.removeOldest.2.ids = ∅ := Finset.subset_empty.1 (h1.trans he.subset)
    have h3 : ∀ w, st.flash.removeOldest.2.writeRecord id topic payload w =
        (.fail, st.flash.removeOldest.2) := fun w => by
      simp [Medium.writeRecord, h1'.trans hm]
    simp only [putRecord, putFlash_eq, hw, reduceCtorEq, if_false]
    split
    · exact he
    · simp only [putEvict, h3, reduceCtorEq, if_false]
      split <;> exact h2

theorem step_grows (st : Store) (a : Op) :
    (step st a).flash.ids ⊆ (putIds [a]).toFinset ∪ st.flash.ids ∧
      (step st a).tf.ids ⊆ (putIds [a]).toFinset ∪ st.tf.ids := by
  cases a with
  | init env =>
    obtain ⟨-, h1, h2, -⟩ := init_spec st env
    simp only [step]
    exact ⟨h1.trans Finset.subset_union_right, h2.subset.trans Finset.subset_union_right⟩
  | put id topic payload env =>
    obtain ⟨h1, -, h2⟩ := @put_grows st id topic payload env
    exact ⟨h1, h2⟩
  | peek =>
    simp only [step]
    rcases peek_state st with e | e <;> rw [e]
    · exact ⟨Finset.subset_union_right, Finset.subset_union_right⟩
    · have hf : (reload st).flash.ids = st.flash.ids := rfl
      have ht : (reload st).tf.ids = st.tf.ids := by unfold reload; split <;> rfl
      rw [hf, ht]
      exact ⟨Finset.subset_union_right, Finset.subset_union_right⟩
  | remove id =>
    exact ⟨(Medium.removeRecord_grows _ _).1.trans Finset.subset_union_right,
      (Medium.removeRecord_grows _ _).1.trans Finset.subset_union_right⟩
  | setTfMounted b => exact ⟨Finset.subset_union_right, Finset.subset_union_right⟩

theorem putIds_cons (a : Op) (ops : List Op) : putIds (a :: ops) = putIds [a] ++ putIds ops := by
  rw [show a :: ops = [a] ++ ops from rfl, putIds, List.filterMap_append]; rfl

theorem FreshIds.step {ops : List Op} {a : Op} (h : FreshIds st (a :: ops)) :
    FreshIds (step st a) ops := by
  obtain ⟨hn, hd⟩ := h
  rw [putIds_cons, List.nodup_append] at hn
  refine ⟨hn.2.1, fun id hid => ?_⟩
  have hnew : id ∉ (putIds [a]).toFinset := fun hm =>
    hn.2.2 id (List.mem_toFinset.1 hm) id hid rfl
  obtain ⟨hf, ht⟩ := hd id (by rw [putIds_cons]; exact List.mem_append_right _ hid)
  obtain ⟨gf, gt⟩ := step_grows st a
  refine ⟨fun hm => ?_, fun hm => ?_⟩
  · rcases Finset.mem_union.1 (gf (Medium.mem_ids.2 hm)) with h | h
    · exact hnew h
    · exact hf (Medium.mem_ids.1 h)
  · rcases Finset.mem_union.1 (gt (Medium.mem_ids.2 hm)) with h | h
    · exact hnew h
    · exact ht (Medium.mem_ids.1 h)

theorem FreshIds.head {ops : List Op} {a : Op} (h : FreshIds st (a :: ops)) :
    FreshIds st [a] := by
  refine ⟨?_, fun id hid => h.2 id (by rw [putIds_cons]; exact List.mem_append_left _ hid)⟩
  have hn := h.1
  rw [putIds_cons, List.nodup_append] at hn
  exact hn.1

/-- **When one operation keeps the indexes**, after the first `init`. -/
theorem step_agrees_iff (h : Known st) {a : Op} (hfresh : FreshIds st [a]) :
    (step st a).flash.Agrees ∧ (step st a).tf.Agrees ↔ StepOk st a := by
  cases a with
  | init env => exact (init_spec st env).1
  | put id topic payload env =>
    obtain ⟨hf, ht⟩ := hfresh.2 id (by simp [putIds])
    exact put_agrees_iff h (by simpa using hf) (by simpa using ht) env
  | peek => simpa [StepOk] using ⟨(peek_known h).flash, (peek_known h).tf⟩
  | remove id => simpa [StepOk] using ⟨(remove_known h id).flash, (remove_known h id).tf⟩
  | setTfMounted b =>
    have : ({ st.tf with mounted := b } : Medium).Agrees :=
      ⟨h.tf.count_eq, h.tf.valid_iff, h.tf.oldest_least⟩
    simpa [StepOk] using ⟨h.flash, this⟩

theorem step_settled (a : Op) (h : st.flash.mounted = true ∨ st.flash.ids = ∅) :
    (step st a).flash.mounted = true ∨ (step st a).flash.ids = ∅ := by
  cases a with
  | init env =>
    obtain ⟨-, -, -, h' | h'⟩ := init_spec st env
    · simp only [step]; rwa [h']
    · exact h'
  | put id topic payload env =>
    cases hm : st.flash.mounted with
    | true => exact Or.inl ((put_grows env).2.1.trans hm)
    | false => exact Or.inr (put_unmounted hm (h.resolve_left (by simp [hm])) env)
  | peek =>
    simp only [step]
    rcases peek_state st with e | e <;> rw [e] <;> exact h
  | remove id =>
    obtain ⟨h1, h2⟩ := Medium.removeRecord_grows st.flash id
    exact h.imp h2.trans fun he => Finset.subset_empty.1 (h1.trans he.subset)
  | setTfMounted b => exact h

theorem indexed_iff (hs : st.flash.mounted = true ∨ st.flash.ids = ∅) :
    Indexed st ↔ st.flash.Agrees ∧ st.tf.Agrees :=
  ⟨fun h => ⟨h.flash, h.tf⟩, fun h => ⟨h.1, h.2, peekLeast_of_known ⟨h.1, h.2, hs⟩⟩⟩

theorem Boot.init_known {boot : Store} (hb : Boot boot) {env : InitEnv} (h : InitOk boot env) :
    Known (step boot (.init env)) := by
  obtain ⟨hA, -, -, hs⟩ := init_spec boot env
  obtain ⟨hf, ht⟩ := hA.2 h
  refine ⟨hf, ht, ?_⟩
  rcases hs with hs | hs
  · have hT := Medium.agrees_iff.1 (hs ▸ hf)
    rw [hb.flash.1] at hT
    exact Or.inr ((Medium.ids_congr (congrArg Medium.dir hs)).trans
      (hT.none_iff.1 (hT.none_iff_count.2 rfl)))
  · exact hs

theorem Known.step {a : Op} (h : Known st) (hi : Indexed (step st a)) : Known (step st a) :=
  ⟨hi.flash, hi.tf, step_settled a h.settled⟩

/-- **The index invariant over runs.** After `offline_store_init` on any media,
both cached indexes and the choice of the oldest record are right after every
operation of a run exactly when every operation of the run is `StepOk`. -/
theorem indexed_run_iff {boot : Store} (hb : Boot boot) (env : InitEnv) (ops : List Op)
    (hfresh : FreshIds boot (.init env :: ops)) :
    AllSteps step (fun st a => Indexed (step st a)) boot (.init env :: ops) ↔
      AllSteps step StepOk boot (.init env :: ops) := by
  have hboot : Indexed (step boot (.init env)) ↔ InitOk boot env :=
    ⟨fun h => (init_spec boot env).1.1 ⟨h.flash, h.tf⟩,
      fun h => (indexed_iff (hb.init_known h).settled).2 ((init_spec boot env).1.2 h)⟩
  rw [allSteps_cons, allSteps_cons, hboot]
  refine and_congr_right fun hi => ?_
  refine allSteps_iff (K := fun st ops => Known st ∧ FreshIds st ops) ?_ ?_
    ⟨hb.init_known hi, hfresh.step⟩
  · exact fun st a ops hK hP => ⟨hK.1.step hP, hK.2.step⟩
  · intro st a ops hK
    rw [indexed_iff (step_settled a hK.1.settled)]
    exact step_agrees_iff hK.1 hK.2.head

/-! ## A run that loses a record's place -/

/-- Records 5 and 9 are stored, then record 3 arrives on a full flash partition. -/
def lateRecordRun : List Op :=
  [.init plainInit, .put 5 [] [] (putWith 1048576), .put 9 [] [] (putWith 1048576),
    .put 3 [] [] (putWith 0)]

theorem emptyBoot_boot : Boot emptyBoot := ⟨rfl, rfl, ⟨rfl, rfl, rfl⟩, ⟨rfl, rfl, rfl⟩⟩

theorem lateRecordRun_fresh : FreshIds emptyBoot lateRecordRun :=
  ⟨by decide, fun _ _ => ⟨AList.notMem_empty _, AList.notMem_empty _⟩⟩

/-- No card, no failed write: after evicting 5 and storing 3 the index names 9. -/
theorem late_record_not_indexed :
    Boot emptyBoot ∧ FreshIds emptyBoot lateRecordRun ∧
      peekTarget (run step emptyBoot lateRecordRun) = some (.flash, 9) ∧
      Visible (run step emptyBoot lateRecordRun) 3 ∧
      ¬ AllSteps step (fun st a => Indexed (step st a)) emptyBoot lateRecordRun := by
  have htarget : peekTarget (run step emptyBoot lateRecordRun) = some (.flash, 9) := by
    decide +kernel
  have hstored : Visible (run step emptyBoot lateRecordRun) 3 := Or.inl (by decide +kernel)
  refine ⟨emptyBoot_boot, lateRecordRun_fresh, htarget, hstored, fun h => ?_⟩
  have hlast := (allSteps_iff_split emptyBoot lateRecordRun).1 h
    [.init plainInit, .put 5 [] [] (putWith 1048576), .put 9 [] [] (putWith 1048576)]
    (.put 3 [] [] (putWith 0)) [] rfl
  have hle := (hlast.peek.target .flash 9 htarget).2.2 3 hstored
  exact absurd hle (by decide)

theorem indexed_run_iff_lateRecordRun :
    AllSteps step (fun st a => Indexed (step st a)) emptyBoot lateRecordRun ↔
      AllSteps step StepOk emptyBoot lateRecordRun :=
  indexed_run_iff emptyBoot_boot _ _ lateRecordRun_fresh

end McpGateway.Storage
