import McpGateway.Storage.OfflineStore

/-!
# One record directory and its index

`Medium.Agrees`: the cached count and oldest id are those of the record files
of the directory. The lemmas follow the pair through `load_store_state`,
`advance_oldest`, `remove_oldest` and the index updates after a write, for a
directory that agrees and for one that also holds a cut-off file.
-/

namespace McpGateway.Storage

open McpGateway.Lib

namespace Medium

def ids (m : Medium) : Finset SeqId := m.dir.keys.toFinset

def least (m : Medium) : Option SeqId := if m.oldestValid then some m.oldest else none

/-- The cached index is the one of the directory's record files. -/
structure Agrees (m : Medium) : Prop where
  count_eq : m.count = m.dir.keys.length
  valid_iff : m.oldestValid = true ↔ m.dir.keys ≠ []
  oldest_least : m.oldestValid = true → m.oldest ∈ m.dir ∧ ∀ id ∈ m.dir, m.oldest ≤ id

@[simp] theorem mem_ids {m : Medium} {id : SeqId} : id ∈ m.ids ↔ id ∈ m.dir := by
  rw [ids, List.mem_toFinset, AList.mem_keys]

theorem ids_card (m : Medium) : m.ids.card = m.dir.keys.length :=
  List.toFinset_card_of_nodup m.dir.keys_nodup

theorem ids_eq_empty {m : Medium} : m.ids = ∅ ↔ m.dir.keys = [] := List.toFinset_eq_empty_iff _

theorem isLeast_ids {m : Medium} {a : SeqId} :
    IsLeast (m.ids : Set SeqId) a ↔ a ∈ m.dir ∧ ∀ id ∈ m.dir, a ≤ id := by
  simp [IsLeast, mem_lowerBounds]

theorem agrees_iff {m : Medium} : m.Agrees ↔ Tracks m.count m.least m.ids := by
  constructor
  · intro h
    refine ⟨by rw [h.count_eq, ids_card], fun a => ?_⟩
    rw [isLeast_ids]
    cases hv : m.oldestValid with
    | false =>
      have he : m.dir.keys = [] := by
        by_contra hne
        rw [h.valid_iff.2 hne] at hv
        cases hv
      simp only [least, hv, Bool.false_eq_true, if_false]
      refine ⟨fun e => (by cases e), fun ha => ?_⟩
      rw [AList.mem_keys, he] at ha
      exact absurd ha.1 List.not_mem_nil
    | true =>
      obtain ⟨hmem, hle⟩ := h.oldest_least hv
      simp only [least, hv, if_true, Option.some.injEq]
      constructor
      · rintro rfl; exact ⟨hmem, hle⟩
      · exact fun ha => le_antisymm (hle a ha.1) (ha.2 _ hmem)
  · intro h
    refine ⟨by rw [h.count_eq, ids_card], ?_, fun hv => ?_⟩
    · have := h.none_iff
      rw [ids_eq_empty] at this
      cases hv : m.oldestValid <;> simp_all [least]
    · rw [← isLeast_ids, ← h.least_iff]
      simp [least, hv]

/-! ## What the directory operations do to the index -/

@[simp] theorem setOldest_least (m : Medium) (o : Option SeqId) : (m.setOldest o).least = o := by
  cases o <;> simp [setOldest, least]

@[simp] theorem setOldest_count (m : Medium) (o : Option SeqId) :
    (m.setOldest o).count = m.count := rfl

@[simp] theorem setOldest_dir (m : Medium) (o : Option SeqId) :
    (m.setOldest o).dir = m.dir := rfl

@[simp] theorem setOldest_mounted (m : Medium) (o : Option SeqId) :
    (m.setOldest o).mounted = m.mounted := rfl

@[simp] theorem setOldest_ids (m : Medium) (o : Option SeqId) : (m.setOldest o).ids = m.ids := rfl

@[simp] theorem loadStoreState_dir (m : Medium) : m.loadStoreState.dir = m.dir := rfl

@[simp] theorem loadStoreState_mounted (m : Medium) : m.loadStoreState.mounted = m.mounted := rfl

theorem agrees_loadStoreState {m : Medium} (hm : m.mounted) : m.loadStoreState.Agrees := by
  rw [agrees_iff]
  have h := tracks_scan m.dir.keys_nodup
  simpa [loadStoreState, countIn, findOldestIn, hm, ids] using h

theorem loadStoreState_agrees_of_empty {m : Medium} (he : m.ids = ∅) :
    m.loadStoreState.Agrees := by
  cases hm : m.mounted with
  | true => exact agrees_loadStoreState hm
  | false =>
    rw [agrees_iff]
    have : m.loadStoreState.ids = ∅ := he
    rw [this]
    simpa [loadStoreState, countIn, findOldestIn, hm] using Tracks.empty

@[simp] theorem advanceOldest_dir (m : Medium) (r : SeqId) : (m.advanceOldest r).dir = m.dir := by
  unfold advanceOldest; split
  · rfl
  · split <;> rfl

@[simp] theorem advanceOldest_ids (m : Medium) (r : SeqId) : (m.advanceOldest r).ids = m.ids := by
  simp [ids]

@[simp] theorem advanceOldest_count (m : Medium) (r : SeqId) :
    (m.advanceOldest r).count = m.count := by
  unfold advanceOldest; split
  · rfl
  · split <;> rfl

@[simp] theorem advanceOldest_mounted (m : Medium) (r : SeqId) :
    (m.advanceOldest r).mounted = m.mounted := by
  unfold advanceOldest; split
  · rfl
  · split <;> rfl

/-- The next-id shortcut of `advance_oldest`, and the scan it replaces. -/
theorem advanceOldest_least (m : Medium) (r : SeqId) (hm : m.mounted) :
    (m.advanceOldest r).least =
      if m.count = 0 then none
      else if r + 1 ∈ m.ids then some (r + 1) else scanLeast m.dir.keys := by
  unfold advanceOldest
  by_cases h0 : m.count = 0
  · simp [h0]
  · by_cases h1 : r + 1 ∈ m.dir
    · simp [h0, h1, access, hm]
    · simp [h0, h1, access, hm, findOldestIn]

theorem succ_le_of_lt {r x : SeqId} (h : r < x) : r + 1 ≤ x := Fin.add_one_le_of_lt h

theorem lt_succ_of_lt {r x : SeqId} (h : r < x) : r < r + 1 :=
  (Fin.lt_add_one_iff (n := 2 ^ 32 - 1)).2 (lt_of_lt_of_le h (Fin.le_last x))

/-- The directory with a record file whose text is `t`. -/
def withFile (m : Medium) (id : SeqId) (t : CStr) : Medium := { m with dir := m.dir.insert id t }

@[simp] theorem withFile_ids (m : Medium) (id : SeqId) (t : CStr) :
    (m.withFile id t).ids = insert id m.ids := by
  ext x; simp [withFile, AList.mem_insert]

@[simp] theorem withFile_count (m : Medium) (id : SeqId) (t : CStr) :
    (m.withFile id t).count = m.count := rfl

@[simp] theorem withFile_least (m : Medium) (id : SeqId) (t : CStr) :
    (m.withFile id t).least = m.least := rfl

@[simp] theorem withFile_mounted (m : Medium) (id : SeqId) (t : CStr) :
    (m.withFile id t).mounted = m.mounted := rfl

theorem removeRecord_dir (m : Medium) (id : SeqId) :
    (m.removeRecord id).2.dir = if m.access id then m.dir.erase id else m.dir := by
  unfold removeRecord unlink
  by_cases ha : m.access id
  · simp only [ha, if_true]
    split
    · rfl
    · split <;> simp
  · simp [ha]

theorem ids_erase {m : Medium} (m' : Medium) (id : SeqId) (h : m'.dir = m.dir.erase id) :
    m'.ids = m.ids.erase id := by
  ext x; simp [h, AList.mem_erase]

theorem ids_congr {m m' : Medium} (h : m'.dir = m.dir) : m'.ids = m.ids := by rw [ids, h, ids]

@[simp] theorem noteStored_dir (m : Medium) (id : SeqId) : (m.noteStored id).dir = m.dir := by
  unfold noteStored; split <;> rfl

@[simp] theorem noteStored_mounted (m : Medium) (id : SeqId) :
    (m.noteStored id).mounted = m.mounted := by
  unfold noteStored; split <;> rfl

@[simp] theorem noteStored_count (m : Medium) (id : SeqId) :
    (m.noteStored id).count = m.count + 1 := by
  unfold noteStored; split <;> rfl

@[simp] theorem noteStored_least (m : Medium) (id : SeqId) :
    (m.noteStored id).least = noteInsert m.least id := by
  unfold noteStored least noteInsert
  cases hv : m.oldestValid with
  | false => simp [setOldest]
  | true =>
    by_cases hlt : id < m.oldest
    · simp [hlt, setOldest]
    · simp [hlt]

@[simp] theorem noteEvicted_dir (m : Medium) (id : SeqId) : (m.noteEvicted id).dir = m.dir := by
  unfold noteEvicted; split <;> rfl

@[simp] theorem noteEvicted_mounted (m : Medium) (id : SeqId) :
    (m.noteEvicted id).mounted = m.mounted := by
  unfold noteEvicted; split <;> rfl

@[simp] theorem noteEvicted_count (m : Medium) (id : SeqId) :
    (m.noteEvicted id).count = m.count + 1 := by
  unfold noteEvicted; split <;> rfl

@[simp] theorem noteEvicted_least (m : Medium) (id : SeqId) :
    (m.noteEvicted id).least = m.least.or (some id) := by
  unfold noteEvicted least
  cases hv : m.oldestValid <;> simp [setOldest]

theorem agrees_noteStored {m : Medium} {id : SeqId} (t : CStr) (h : m.Agrees)
    (hid : id ∉ m.ids) : ((m.withFile id t).noteStored id).Agrees := by
  rw [agrees_iff, ids_congr (noteStored_dir _ id), withFile_ids, noteStored_count,
    noteStored_least]
  exact (agrees_iff.1 h).insert hid

theorem not_agrees_withFile {m : Medium} {id : SeqId} (t : CStr) (h : m.Agrees)
    (hid : id ∉ m.ids) : ¬ (m.withFile id t).Agrees := by
  rw [agrees_iff, withFile_ids]
  exact (agrees_iff.1 h).not_insert hid

/-! ## Eviction -/

/-- What a successful `remove_oldest` leaves. -/
structure Evicted (m m' : Medium) : Prop where
  mounted : m'.mounted
  dir : m'.dir = m.dir.erase m.oldest
  count : m'.count = m.count - 1
  least : m'.least =
    if m.count - 1 = 0 then none
    else if m.oldest + 1 ∈ m.ids.erase m.oldest then some (m.oldest + 1)
    else scanLeast m'.dir.keys

theorem least_of_count {m : Medium} {S : Finset SeqId} (h : Tracks m.count m.least S)
    (hc : m.count ≠ 0) : m.oldestValid = true ∧ m.least = some m.oldest := by
  have hn : m.least ≠ none := fun e => hc (h.none_iff_count.1 e)
  cases hv : m.oldestValid with
  | false => simp [least, hv] at hn
  | true => simp [least, hv]

theorem removeOldest_zero {m : Medium} (hc : m.count = 0) : m.removeOldest = (false, m) := by
  rw [removeOldest, if_pos (Or.inl hc)]

theorem evicted_advance {m : Medium} (hm : m.mounted) :
    Evicted m ({ m with dir := m.dir.erase m.oldest, count := m.count - 1 }.advanceOldest
      m.oldest) := by
  refine ⟨by simpa using hm, by simp, by simp, ?_⟩
  have h := advanceOldest_least
    { m with dir := m.dir.erase m.oldest, count := m.count - 1 } m.oldest hm
  rw [@ids_erase m _ m.oldest rfl] at h
  simpa using h

theorem removeOldest_pos {m : Medium} {S : Finset SeqId} (hm : m.mounted)
    (h : Tracks m.count m.least S) (hS : S ⊆ m.ids) (hc : m.count ≠ 0) :
    ∃ m', m.removeOldest = (true, m') ∧ Evicted m m' := by
  obtain ⟨hv, hl⟩ := least_of_count h hc
  have hmem : m.oldest ∈ m.dir := mem_ids.1 (hS ((hl ▸ h).mem))
  refine ⟨_, ?_, evicted_advance hm⟩
  rw [removeOldest, if_neg (by simp [hc, hv]), unlink, if_pos (by simp [access, hm, hmem])]

theorem Evicted.ids {m m' : Medium} (h : Evicted m m') : m'.ids = m.ids.erase m.oldest :=
  ids_erase _ _ h.dir

/-- **Eviction keeps the index**: the shortcut of `advance_oldest` is right. -/
theorem Evicted.agrees {m m' : Medium} (he : Evicted m m') (h : m.Agrees) (hc : m.count ≠ 0) :
    m'.Agrees := by
  have ht := agrees_iff.1 h
  have ho := ht
  rw [(least_of_count ht hc).2] at ho
  have hcard : m'.count = m'.ids.card := by
    rw [he.count, he.ids, Finset.card_erase_of_mem ho.mem, ht.count_eq]
  rw [agrees_iff, he.least]
  split
  · rename_i h0
    have : m'.ids = ∅ := by rw [← Finset.card_eq_zero, ← hcard, he.count, h0]
    rw [this, he.count, h0]
    exact Tracks.empty
  · split
    · rename_i hs
      rw [hcard, he.ids]
      exact Tracks.of_isLeast
        (Tracks.isLeast_succ (fun x hx => ho.le hx) (fun x => succ_le_of_lt) hs)
    · rw [hcard, ids_card]
      exact tracks_scan m'.dir.keys_nodup

/-- The evicted directory when it also held a cut-off file of `id`. -/
theorem Evicted.least_cut {m m' : Medium} {S : Finset SeqId} {id : SeqId} (he : Evicted m m')
    (h : Tracks m.count m.least S) (hc : m.count ≠ 0) (hid : id ∉ S)
    (hids : m.ids = insert id S) :
    ∃ l, Tracks (m.count - 1) l (S.erase m.oldest) ∧ m'.ids = insert id (S.erase m.oldest) ∧
      m'.least = if m.count - 1 = 0 then none
        else if m.oldest + 1 ∈ insert id (S.erase m.oldest) then some (m.oldest + 1)
        else noteInsert l id := by
  have ho := h
  rw [(least_of_count h hc).2] at ho
  obtain ⟨l, hl⟩ := Tracks.exists_least (S.erase m.oldest)
  rw [Finset.card_erase_of_mem ho.mem, ← h.count_eq] at hl
  have hne : m.oldest ≠ id := fun e => hid (e ▸ ho.mem)
  have hids' : m.ids.erase m.oldest = insert id (S.erase m.oldest) := by
    rw [hids, Finset.erase_insert_of_ne hne.symm]
  have hm' : m'.ids = insert id (S.erase m.oldest) := by rw [he.ids, hids']
  have hscan : scanLeast m'.dir.keys = noteInsert l id := by
    have h1 := hl.insert (a := id) fun hmem => hid (Finset.mem_of_mem_erase hmem)
    have h2 := tracks_scan m'.dir.keys_nodup
    exact (h2.unique (S := m'.ids) (by rw [hm']; exact h1)).2
  exact ⟨l, hl, hm', by rw [he.least, hids', hscan]⟩

/-- The retry that overwrites its own cut-off file restores the index. -/
theorem Evicted.retry_agrees {m m' : Medium} {S : Finset SeqId} {id : SeqId} (t : CStr)
    (he : Evicted m m') (h : Tracks m.count m.least S) (hc : m.count ≠ 0) (hid : id ∉ S)
    (hids : m.ids = insert id S) : ((m'.withFile id t).noteStored id).Agrees := by
  obtain ⟨l, hl, hm', hml⟩ := he.least_cut h hc hid hids
  have hidT : id ∉ S.erase m.oldest := fun hmem => hid (Finset.mem_of_mem_erase hmem)
  rw [agrees_iff, ids_congr (noteStored_dir _ id), withFile_ids, hm', Finset.insert_idem,
    noteStored_count, noteStored_least, withFile_count, withFile_least, he.count,
      hl.insert_iff hidT, hml]
  have ho := h
  rw [(least_of_count h hc).2] at ho
  split
  · rename_i h0
    rw [hl.none_iff_count.2 h0]
  · rename_i h0
    obtain ⟨b, rfl⟩ := hl.some_of_pos (Nat.pos_of_ne_zero h0)
    split
    · rename_i hs
      rcases Finset.mem_insert.1 hs with hs | hs
      · have hb : id < b := lt_of_le_of_ne
          (hs ▸ succ_le_of_lt (lt_of_le_of_ne (ho.le (Finset.mem_of_mem_erase hl.mem))
            (Finset.ne_of_mem_erase hl.mem).symm)) (fun e => hidT (e ▸ hl.mem))
        rw [hs, noteInsert_of_le le_rfl, noteInsert_of_lt hb]
      · have hb : b = m.oldest + 1 := hl.isLeast.unique
          (Tracks.isLeast_succ (fun x hx => ho.le hx) (fun x => succ_le_of_lt) hs)
        rw [hb]
    · rw [noteInsert_idem]

/-- The eviction branch without a card: `s_flash_oldest` is only set when the
evicted directory had become empty. -/
theorem Evicted.noteEvicted_agrees_iff {m m' : Medium} {id : SeqId} (t : CStr)
    (he : Evicted m m') (h : m.Agrees) (hc : m.count ≠ 0) (hid : id ∉ m.ids) :
    ((m'.withFile id t).noteEvicted id).Agrees ↔
      m.count = 1 ∨ ∃ x ∈ m.dir, x ≠ m.oldest ∧ x < id := by
  have ht := agrees_iff.1 (he.agrees h hc)
  have hid' : id ∉ m'.ids := fun hm => hid (Finset.mem_of_mem_erase (he.ids ▸ hm))
  rw [agrees_iff, ids_congr (noteEvicted_dir _ id), withFile_ids, noteEvicted_count,
    noteEvicted_least, withFile_count, withFile_least, ht.insert_iff hid']
  cases hl : m'.least with
  | none =>
    have h0 := ht.none_iff_count.1 hl
    rw [he.count] at h0
    have : m.count = 1 := by omega
    simp [this, noteInsert]
  | some b =>
    rw [hl] at ht
    have h0 : m.count ≠ 1 := fun e => by
      have := ht.none_iff_count.2 (by rw [he.count, e])
      cases this
    have hmem : ∀ x, x ∈ m'.ids ↔ x ≠ m.oldest ∧ x ∈ m.dir := fun x => by
      rw [he.ids, Finset.mem_erase, mem_ids]
    constructor
    · intro heq
      refine Or.inr ⟨b, ((hmem b).1 ht.mem).2, ((hmem b).1 ht.mem).1, ?_⟩
      refine lt_of_le_of_ne (not_lt.1 fun hlt => ?_) fun e => hid' (e ▸ ht.mem)
      rw [noteInsert_of_lt hlt] at heq
      exact hlt.ne (Option.some.inj heq).symm
    · rintro (h1 | ⟨x, hx, hne, hlt⟩)
      · exact absurd h1 h0
      · have := (ht.le ((hmem x).2 ⟨hne, hx⟩)).trans_lt hlt
        rw [noteInsert_of_le this.le]; rfl

/-- The index after an eviction when the failed first write had left a cut-off file of `id`. -/
theorem Evicted.noteEvicted_cut_agrees_iff {m m' : Medium} {S : Finset SeqId} {id : SeqId}
    (t : CStr) (he : Evicted m m') (h : Tracks m.count m.least S) (hc : m.count ≠ 0)
    (hid : id ∉ S) (hids : m.ids = insert id S) :
    ((m'.withFile id t).noteEvicted id).Agrees ↔
      m.count = 1 ∨ m.oldest < id ∨ m.oldest + 1 ∉ S := by
  obtain ⟨l, hl, hm', hml⟩ := he.least_cut h hc hid hids
  have hidT : id ∉ S.erase m.oldest := fun hmem => hid (Finset.mem_of_mem_erase hmem)
  have ho := h
  rw [(least_of_count h hc).2] at ho
  have hne : m.oldest ≠ id := fun e => hid (e ▸ ho.mem)
  rw [agrees_iff, ids_congr (noteEvicted_dir _ id), withFile_ids, hm', Finset.insert_idem,
    noteEvicted_count, noteEvicted_least, withFile_count, withFile_least, he.count,
      hl.insert_iff hidT, hml]
  by_cases h0 : m.count - 1 = 0
  · have : m.count = 1 := by omega
    rw [if_pos h0, hl.none_iff_count.2 h0]
    simp [this, noteInsert]
  have h1 : m.count ≠ 1 := fun e => h0 (by omega)
  obtain ⟨b, rfl⟩ := hl.some_of_pos (Nat.pos_of_ne_zero h0)
  have hob : m.oldest < b := lt_of_le_of_ne (ho.le (Finset.mem_of_mem_erase hl.mem))
    (Finset.ne_of_mem_erase hl.mem).symm
  have hsucc : m.oldest < m.oldest + 1 := lt_succ_of_lt hob
  rw [if_neg h0]
  simp only [h1, false_or]
  by_cases hs : m.oldest + 1 ∈ insert id (S.erase m.oldest)
  · rw [if_pos hs]
    rcases Finset.mem_insert.1 hs with hs | hs
    · have hb : id < b := lt_of_le_of_ne (hs ▸ succ_le_of_lt hob) fun e => hidT (e ▸ hl.mem)
      rw [noteInsert_of_lt hb, hs]
      simp only [Option.some_or, true_iff]
      exact Or.inl (hs ▸ hsucc)
    · have hb : b = m.oldest + 1 := hl.isLeast.unique
        (Tracks.isLeast_succ (fun x hx => ho.le hx) (fun x => succ_le_of_lt) hs)
      have hmem : m.oldest + 1 ∈ S := Finset.mem_of_mem_erase hs
      simp only [Option.some_or, hmem, not_true_eq_false, or_false, hb]
      constructor
      · intro heq
        refine lt_of_le_of_ne (not_lt.1 fun hlt => ?_) hne
        rw [noteInsert_of_lt (hlt.trans hsucc)] at heq
        exact (hlt.trans hsucc).ne (Option.some.inj heq).symm
      · intro hlt
        rw [noteInsert_of_le (succ_le_of_lt hlt)]
  · rw [if_neg hs]
    have hnS : m.oldest + 1 ∉ S := fun hmem => hs (Finset.mem_insert_of_mem
      (Finset.mem_erase.2 ⟨hsucc.ne', hmem⟩))
    simp only [hnS, not_false_eq_true, or_true, iff_true]
    rcases lt_or_ge id b with hlt | hge
    · rw [noteInsert_of_lt hlt]; rfl
    · rw [noteInsert_of_le hge]; rfl

end Medium

/-! ## The files of a store -/

/-- The record file of `id` is gone from a directory. -/
def Removed (st st' : Store) (id : SeqId) : Prop :=
  (id ∈ st.flash.dir ∧ id ∉ st'.flash.dir) ∨ (id ∈ st.tf.dir ∧ id ∉ st'.tf.dir)

/-- The record is stored on a mounted medium. -/
def CanRemove (st : Store) (id : SeqId) : Prop :=
  st.flash.access id = true ∨ st.tf.access id = true

theorem removed_iff {st : Store} {seq id : SeqId} :
    Removed st (offlineStoreRemove st seq).2 id ↔ id = seq ∧ CanRemove st seq := by
  have hm : ∀ m : Medium, (id ∈ m.dir ∧ id ∉ (m.removeRecord seq).2.dir) ↔
      id = seq ∧ m.access seq = true := by
    intro m
    rw [Medium.removeRecord_dir]
    by_cases ha : m.access seq = true
    · have hmem : seq ∈ m.dir := by
        have := ha
        simp only [Medium.access, Bool.and_eq_true, decide_eq_true_eq] at this
        exact this.2
      simp only [ha, if_true, AList.mem_erase, not_and, and_true]
      refine ⟨fun h => ?_, ?_⟩
      · by_contra hne
        exact h.2 hne h.1
      · rintro rfl
        exact ⟨hmem, fun h => absurd rfl h⟩
    · simp [ha]
  unfold Removed CanRemove offlineStoreRemove
  rw [hm, hm, ← and_or_left]

structure SameFiles (st st' : Store) : Prop where
  flash : st'.flash.dir = st.flash.dir
  tf : st'.tf.dir = st.tf.dir
  card : st'.tf.mounted = st.tf.mounted

theorem SameFiles.refl (st : Store) : SameFiles st st := ⟨rfl, rfl, rfl⟩

theorem SameFiles.not_removed {st st' : Store} (h : SameFiles st st') (id : SeqId) :
    ¬ Removed st st' id := by
  simp only [Removed, h.flash, h.tf, and_not_self, or_self, not_false_eq_true]

theorem SameFiles.trans {st st' st'' : Store} (h : SameFiles st st') (h' : SameFiles st' st'') :
    SameFiles st st'' :=
  ⟨h'.flash.trans h.flash, h'.tf.trans h.tf, h'.card.trans h.card⟩

theorem reload_sameFiles (st : Store) : SameFiles st (reload st) := by
  unfold reload
  cases h : st.tf.mounted with
  | true => exact ⟨rfl, by simp, by simp [h]⟩
  | false => exact ⟨rfl, by simp, by simp [h]⟩

theorem offlineStorePeekOldest_sameFiles (st : Store) :
    SameFiles st (offlineStorePeekOldest st).2 := by
  unfold offlineStorePeekOldest
  split
  · exact SameFiles.refl st
  · split
    · exact reload_sameFiles st
    · exact SameFiles.refl st

end McpGateway.Storage
