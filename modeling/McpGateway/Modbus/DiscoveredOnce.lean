import Mathlib.Data.List.Nodup
import McpGateway.Modbus.Discover

/-!
# The registers of a discovered device

A sweep lists each register once, since its addresses rise. The profile phase
asks only whether the first word of a declared register is listed, and appends
all of them. `discovered_once_iff` says when no word is listed twice.
-/

namespace McpGateway.Modbus

open McpGateway.Lib McpGateway.Tcm

def DiscoveredRegister.key (r : DiscoveredRegister) : UInt8 × UInt16 :=
  (r.functionCode, r.registerAddress)

def DiscoveredDevice.keys (dev : DiscoveredDevice) : List (UInt8 × UInt16) :=
  dev.registers.map DiscoveredRegister.key

/-- Each register stands in the list once, and all of them are valid. -/
structure ListsOnce (dev : DiscoveredDevice) : Prop where
  nodup : dev.keys.Nodup
  valid : ∀ r ∈ dev.registers, r.valid = true

/-- No append wrote past the list. -/
def WithinCapacity (st : ScanState) : Prop := ∀ i ∈ st.written, i < discoverMaxRegsPerSlave

theorem listsOnce_nil {dev : DiscoveredDevice} (h : dev.registers = []) : ListsOnce dev where
  nodup := by
    rw [DiscoveredDevice.keys, h]
    exact .nil
  valid r hr := by
    rw [h] at hr
    cases hr

theorem WithinCapacity.of_written {st st' : ScanState} (h : WithinCapacity st)
    (hwritten : st'.written = st.written) : WithinCapacity st' := by
  intro i hi
  rw [hwritten] at hi
  exact h i hi

/-! ## Appending the words of a read -/

namespace DiscoverProbe

variable (probe : DiscoverProbe)

theorem valid_of_mem_append {dev : DiscoveredDevice} {js : List Nat}
    (h : ∀ r ∈ dev.registers, r.valid = true) :
    ∀ r ∈ (dev.append (js.map probe.word)).registers, r.valid = true := by
  intro r hr
  rcases List.mem_append.1 hr with hr | hr
  · exact h r hr
  · obtain ⟨j, -, rfl⟩ := List.mem_map.1 hr
    rfl

/-- The words of a read that ends within the address space do not wrap around. -/
theorem word_address {j : Nat} (h : probe.address.toNat + j < 65536) :
    (probe.address + UInt16.ofNat j).toNat = probe.address.toNat + j := by
  rw [UInt16.toNat_add, UInt16.toNat_ofNat', Nat.add_mod_mod]
  exact Nat.mod_eq_of_lt h

end DiscoverProbe

/-- What the loop appends: some words from `i` on, each within the limit and the
list, and it stops short only where one of the two ends. -/
structure Appended (probe : DiscoverProbe) (limit : UInt16) (i n : Nat) (dev : DiscoveredDevice)
    (k : Nat) : Prop where
  le : k ≤ n
  limited : ∀ j, i ≤ j → j < i + k → probe.address + UInt16.ofNat j ≤ limit
  fits : k = 0 ∨ dev.regCount + k ≤ discoverMaxRegsPerSlave
  stops : k = n ∨ discoverMaxRegsPerSlave ≤ dev.regCount + k ∨
    limit < probe.address + UInt16.ofNat (i + k)

theorem appendWords_eq (probe : DiscoverProbe) (limit : UInt16) (i n : Nat)
    (dev : DiscoveredDevice) (st : ScanState) : ∃ k, Appended probe limit i n dev k ∧
      appendWords probe limit i n dev st =
        (dev.append ((List.range' i k).map probe.word),
          { st with written := st.written ++ List.range' dev.regCount k }) := by
  induction n generalizing i dev st with
  | zero => exact ⟨0, ⟨le_refl 0, by omega, .inl rfl, .inl rfl⟩,
    by simp [appendWords, DiscoveredDevice.append]⟩
  | succ n ih =>
    unfold appendWords
    by_cases hroom : dev.regCount < discoverMaxRegsPerSlave
    · rw [if_pos hroom]
      by_cases hlimit : limit < probe.address + UInt16.ofNat i
      · rw [if_pos hlimit]
        exact ⟨0, ⟨Nat.zero_le _, by omega, .inl rfl, .inr (.inr hlimit)⟩,
          by simp [DiscoveredDevice.append]⟩
      · rw [if_neg hlimit]
        obtain ⟨k, ⟨hle, hlimited, hfits, hstops⟩, heq⟩ := ih (i + 1)
          (discoverAppendRegister (probe.word i) dev st).1
          (discoverAppendRegister (probe.word i) dev st).2
        have hcount : (discoverAppendRegister (probe.word i) dev st).1.regCount =
            dev.regCount + 1 := List.length_append
        rw [hcount] at hfits hstops heq
        refine ⟨k + 1, ⟨by omega, fun j hi hj => ?_, by omega, ?_⟩, ?_⟩
        · rcases Nat.eq_or_lt_of_le hi with rfl | hi
          · exact UInt16.not_lt.1 hlimit
          · exact hlimited j hi (by omega)
        · rw [show i + (k + 1) = i + 1 + k by omega, show dev.regCount + (k + 1) =
            dev.regCount + 1 + k by omega]
          exact hstops.imp_left (congrArg Nat.succ)
        · rw [heq]
          simp [discoverAppendRegister, DiscoveredDevice.append, List.range'_succ]
    · rw [if_neg hroom]
      exact ⟨0, ⟨Nat.zero_le _, by omega, .inl rfl, .inr (.inl (Nat.le_of_not_lt hroom))⟩,
        by simp [DiscoveredDevice.append]⟩

section Words

variable {probe : DiscoverProbe} {limit : UInt16} {i n k : Nat} {dev : DiscoveredDevice}
  {st : ScanState}

theorem Appended.within (h : Appended probe limit i n dev k) (hst : WithinCapacity st) :
    WithinCapacity { st with written := st.written ++ List.range' dev.regCount k } := by
  intro j hj
  have hfits := h.fits
  rcases List.mem_append.1 hj with hj | hj
  · exact hst j hj
  · obtain ⟨hfrom, hto⟩ := List.mem_range'_1.1 hj
    omega

theorem appendWords_within (hst : WithinCapacity st) :
    WithinCapacity (appendWords probe limit i n dev st).2 := by
  obtain ⟨k, happended, heq⟩ := appendWords_eq probe limit i n dev st
  rw [heq]
  exact happended.within hst

/-- Words are listed once more if and only if none of them was listed before. -/
theorem append_words_once (hspace : probe.address.toNat + i + k ≤ 65536) (h : ListsOnce dev) :
    ListsOnce (dev.append ((List.range' i k).map probe.word)) ↔
      ∀ j, i ≤ j → j < i + k →
        (probe.functionCode, probe.address + UInt16.ofNat j) ∉ dev.keys := by
  have hkeys : ((List.range' i k).map probe.word).map DiscoveredRegister.key =
      (List.range' i k).map fun j => (probe.functionCode, probe.address + UInt16.ofNat j) := by
    rw [List.map_map]
    rfl
  have hwords : ((List.range' i k).map fun j =>
      (probe.functionCode, probe.address + UInt16.ofNat j)).Nodup := by
    refine List.Nodup.map_on (fun a ha b hb heq => ?_) List.nodup_range'
    have haddr := congrArg UInt16.toNat (Prod.mk.inj heq).2
    obtain ⟨-, ha⟩ := List.mem_range'_1.1 ha
    obtain ⟨-, hb⟩ := List.mem_range'_1.1 hb
    rw [probe.word_address (by omega), probe.word_address (by omega)] at haddr
    omega
  constructor
  · intro honce j hi hj hmem
    have hnodup := honce.nodup
    rw [DiscoveredDevice.keys, DiscoveredDevice.append, List.map_append, hkeys] at hnodup
    exact List.disjoint_of_nodup_append hnodup hmem
      (List.mem_map.2 ⟨j, List.mem_range'_1.2 ⟨hi, hj⟩, rfl⟩)
  · intro hnew
    refine ⟨?_, probe.valid_of_mem_append h.valid⟩
    rw [DiscoveredDevice.keys, DiscoveredDevice.append, List.map_append, hkeys]
    refine h.nodup.append hwords fun key hold hword => ?_
    obtain ⟨j, hj, rfl⟩ := List.mem_map.1 hword
    obtain ⟨hi, hj⟩ := List.mem_range'_1.1 hj
    exact hnew j hi hj hold

end Words

/-! ## Reads -/

section Orders

variable {α : Type*} [DecidableEq α] {values vs : List α} {v a : α}

theorem mem_appendUnique : a ∈ appendUnique values v ↔ a ∈ values ∨ a = v := by
  unfold appendUnique
  split
  · rename_i hmem
    refine ⟨.inl, fun h => h.elim id fun heq => ?_⟩
    rw [heq]
    exact hmem
  · rw [List.mem_append, List.mem_singleton]

theorem mem_foldl_appendUnique : a ∈ vs.foldl appendUnique values ↔ a ∈ values ∨ a ∈ vs := by
  induction vs generalizing values with
  | nil => simp
  | cons v vs ih => rw [List.foldl_cons, ih, mem_appendUnique, List.mem_cons, or_assoc]

end Orders

theorem pos_of_mem_countOrder {preferred n : UInt8} (h : n ∈ buildCountOrder preferred) :
    0 < n.toNat := by
  rcases mem_foldl_appendUnique.1 h with h | h
  · split at h
    · rename_i hpreferred
      rw [List.mem_singleton.1 h]
      exact UInt8.lt_iff_toNat_lt.1 hpreferred.1
    · cases h
  · simp only [List.mem_cons, List.not_mem_nil, or_false] at h
    rcases h with rfl | rfl | rfl | rfl <;> decide

/-- A read of at least one word at that address, within the address space. -/
structure AnsweredAt (address : Nat) (probe : DiscoverProbe) : Prop where
  starts : probe.address.toNat = address
  pos : 0 < probe.registerCount.toNat
  space : address + probe.registerCount.toNat ≤ 65536

section Reads

variable {slaves : Slaves} {params : DiscoverScanParams} {slaveId : UInt8} {address : UInt16}
  {st : ScanState}

theorem firstAnswered_written (reqs : List (UInt8 × UInt8)) (st : ScanState) :
    (firstAnswered slaves params slaveId address reqs st).2.written = st.written := by
  induction reqs generalizing st with
  | nil => rfl
  | cons req reqs ih =>
    unfold firstAnswered
    split
    · rename_i heq
      exact congrArg (fun r => r.2.written) heq.symm
    · rename_i heq
      exact (ih _).trans (congrArg (fun r => r.2.written) heq.symm)

theorem firstAnswered_some {reqs : List (UInt8 × UInt8)} {probe : DiscoverProbe}
    (h : (firstAnswered slaves params slaveId address reqs st).1 = some probe) :
    probe.address = address ∧ ∃ f, (probe.registerCount, f) ∈ reqs := by
  induction reqs generalizing st with
  | nil => cases h
  | cons req reqs ih =>
    unfold firstAnswered at h
    split at h
    · cases h
      exact ⟨rfl, _, List.mem_cons_self⟩
    · obtain ⟨haddress, f, hmem⟩ := ih h
      exact ⟨haddress, f, List.mem_cons_of_mem _ hmem⟩

theorem probeAddress_written {f n : UInt8} :
    (discoverProbeAddress slaves params slaveId address f n st).2.written = st.written := by
  unfold discoverProbeAddress
  exact firstAnswered_written _ _

theorem probeAddress_some {f n : UInt8} {probe : DiscoverProbe}
    (h : (discoverProbeAddress slaves params slaveId address f n st).1 = some probe) :
    AnsweredAt address.toNat probe := by
  obtain ⟨haddress, g, hmem⟩ := firstAnswered_some h
  obtain ⟨count, hcount, hpair⟩ := List.mem_flatMap.1 hmem
  obtain ⟨hcount, hspace⟩ := List.mem_filter.1 hcount
  obtain ⟨g', -, hpair⟩ := List.mem_map.1 hpair
  obtain rfl : count = probe.registerCount := (Prod.mk.inj hpair).1
  exact ⟨congrArg UInt16.toNat haddress, pos_of_mem_countOrder hcount, of_decide_eq_true hspace⟩

theorem probeFunctions_written (fs : List UInt8) (invalid : Nat) (st : ScanState) :
    (probeFunctions slaves params slaveId address fs invalid st).2.2.written = st.written := by
  induction fs generalizing invalid st with
  | nil => rfl
  | cons f fs ih =>
    unfold probeFunctions
    split
    · rename_i heq
      exact congrArg (fun r => r.2.written) heq.symm
    · rename_i heq
      exact (ih _ _).trans (congrArg (fun r => r.2.written) heq.symm)

theorem probeAddresses_written (functions : List UInt8) (first : Bool) (addresses : List UInt16)
    (invalid : Nat) (st : ScanState) :
    (probeAddresses slaves params slaveId functions first addresses invalid st).2.written =
      st.written := by
  induction addresses generalizing first invalid st with
  | nil =>
    unfold probeAddresses
    split <;> rfl
  | cons a as ih =>
    have hwritten := @probeFunctions_written slaves params slaveId a functions invalid st
    unfold probeAddresses
    split
    · rename_i heq
      rw [heq] at hwritten
      exact hwritten
    · rename_i heq
      rw [heq] at hwritten
      split
      · exact hwritten
      · exact (ih _ _ _).trans hwritten

theorem probeDevice_written :
    (discoverProbeDevice slaves params slaveId st).2.written = st.written := by
  unfold discoverProbeDevice
  exact probeAddresses_written _ _ _ _ _

/-! ## The sweep -/

/-- The registers listed so far, all below the address the sweep has got to. -/
structure SweepInv (s : Sweep) : Prop where
  once : ListsOnce s.dev
  below : ∀ r ∈ s.dev.registers, r.registerAddress.toNat < s.address
  within : WithinCapacity s.st

variable {regEnd : UInt16} {s : Sweep}

theorem goes_address (h : s.goes regEnd = true) :
    s.address ≤ regEnd.toNat ∧ (UInt16.ofNat s.address).toNat = s.address := by
  simp only [Sweep.goes, Bool.and_eq_true, decide_eq_true_eq] at h
  refine ⟨h.1.2, UInt16.toNat_ofNat_of_lt' (Nat.lt_of_le_of_lt h.1.2 regEnd.toNat_lt)⟩

theorem preferredCount_le (h : s.goes regEnd = true) :
    s.address + (s.preferredCount regEnd).toNat ≤ regEnd.toNat + 1 := by
  obtain ⟨haddress, -⟩ := goes_address h
  have hremaining : (UInt8.ofNat (min discoverMaxBlockRegs (regEnd.toNat - s.address + 1))).toNat =
      min discoverMaxBlockRegs (regEnd.toNat - s.address + 1) :=
    UInt8.toNat_ofNat_of_lt' (Nat.lt_of_le_of_lt (Nat.min_le_left _ _) (by decide))
  unfold Sweep.preferredCount
  simp only
  split
  · omega
  · rename_i hle
    have hle' := UInt8.le_iff_toNat_le.1 (UInt8.not_lt.1 hle)
    omega

theorem sweepRead_written (s : Sweep) :
    (s.read slaves params slaveId regEnd).2.written = s.st.written := by
  unfold Sweep.read
  simp only
  split
  · split
    · rename_i heq
      exact congrArg (fun r => r.2.written) heq.symm
    · rename_i heq
      exact congrArg (fun r => r.2.written) heq.symm
  · exact probeAddress_written

theorem sweepRead_some (h : s.goes regEnd = true) {probe : DiscoverProbe}
    (hread : (s.read slaves params slaveId regEnd).1 = some probe) :
    AnsweredAt s.address probe := by
  obtain ⟨-, haddress⟩ := goes_address h
  have hspace := preferredCount_le h
  have hend := regEnd.toNat_lt
  unfold Sweep.read at hread
  simp only at hread
  split at hread
  · rename_i hblock
    split at hread
    · cases hread
      exact ⟨haddress, UInt8.lt_iff_toNat_lt.1 hblock.2, by simp only; omega⟩
    · cases hread
  · have hanswered := probeAddress_some hread
    rwa [haddress] at hanswered

theorem SweepInv.step (hinv : SweepInv s) (h : s.goes regEnd = true) :
    SweepInv (s.step slaves params slaveId regEnd) := by
  have hwritten := @sweepRead_written slaves params slaveId regEnd s
  unfold Sweep.step
  cases hread : s.read slaves params slaveId regEnd with
  | mk probe st =>
    rw [hread] at hwritten
    have hst : WithinCapacity st := hinv.within.of_written hwritten
    cases probe with
    | none =>
      exact ⟨hinv.once, fun r hr => Nat.lt_succ_of_lt (hinv.below r hr), hst⟩
    | some probe =>
      have hanswered := sweepRead_some h (congrArg Prod.fst hread)
      simp only
      obtain ⟨k, happended, heq⟩ := appendWords_eq probe regEnd 0 probe.registerCount.toNat
        (s.dev.probed probe) st
      rw [heq]
      have haddress := hanswered.starts
      have hspace := hanswered.space
      have hle := happended.le
      have hword : ∀ j < k, (probe.address + UInt16.ofNat j).toNat = s.address + j := by
        intro j hj
        rw [probe.word_address (by omega), haddress]
      have hprobed : ListsOnce (s.dev.probed probe) := ⟨hinv.once.nodup, hinv.once.valid⟩
      have honce : ListsOnce ((s.dev.probed probe).append ((List.range' 0 k).map probe.word)) := by
        refine (append_words_once (by omega) hprobed).2 fun j _ hj hmem => ?_
        -- New words lie at the address or above it.
        obtain ⟨r, hr, hkey⟩ := List.mem_map.1 hmem
        have hbelow := hinv.below r hr
        have hregister : r.registerAddress = probe.address + UInt16.ofNat j :=
          (Prod.mk.inj hkey).2
        rw [hregister, hword j (by omega)] at hbelow
        omega
      refine ⟨honce, fun r hr => ?_, happended.within hst⟩
      rcases List.mem_append.1 hr with hr | hr
      · exact Nat.lt_of_lt_of_le (hinv.below r hr) (Nat.le_add_right _ _)
      · obtain ⟨j, hj, rfl⟩ := List.mem_map.1 hr
        obtain ⟨-, hj⟩ := List.mem_range'_1.1 hj
        have haddr : (probe.word j).registerAddress.toNat = s.address + j := hword j (by omega)
        rw [haddr]
        exact Nat.add_lt_add_left (by omega) _

theorem SweepInv.loop (n : Nat) (hinv : SweepInv s) :
    SweepInv (Sweep.loop slaves params slaveId regEnd n s) := by
  induction n generalizing s with
  | zero => exact hinv
  | succ n ih =>
    unfold Sweep.loop
    split
    · rename_i h
      exact ih (hinv.step h)
    · exact hinv

theorem step_address (h : s.goes regEnd = true) :
    s.address < (s.step slaves params slaveId regEnd).address := by
  unfold Sweep.step
  cases hread : s.read slaves params slaveId regEnd with
  | mk probe st =>
    cases probe with
    | none => exact Nat.lt_succ_self _
    | some probe =>
      exact Nat.lt_add_of_pos_right (sweepRead_some h (congrArg Prod.fst hread)).pos

/-- As many turns as the window has addresses are enough. -/
theorem sweep_ends {n : Nat} (hn : regEnd.toNat < s.address + n) :
    (Sweep.loop slaves params slaveId regEnd n s).goes regEnd = false := by
  induction n generalizing s with
  | zero =>
    have hpast : ¬ s.address ≤ regEnd.toNat := by omega
    simp [Sweep.loop, Sweep.goes, hpast]
  | succ n ih =>
    unfold Sweep.loop
    split
    · rename_i h
      have hraised := @step_address slaves params slaveId regEnd s h
      exact ih (by omega)
    · rename_i h
      exact Bool.eq_false_iff.2 h

/-! ## One device -/

/-- Where the bus finds the device, and whether it is still there. -/
def DiscoveredDevice.endpoint (dev : DiscoveredDevice) :
    UInt8 × SourceProtocol × UInt8 × Bool :=
  (dev.slaveId, dev.sourceProtocol, dev.channelId, dev.active)

theorem appendWords_endpoint (probe : DiscoverProbe) (limit : UInt16) (i n : Nat)
    (dev : DiscoveredDevice) (st : ScanState) :
    (appendWords probe limit i n dev st).1.endpoint = dev.endpoint := by
  obtain ⟨k, -, heq⟩ := appendWords_eq probe limit i n dev st
  rw [heq]
  rfl

theorem sweepLoop_endpoint (n : Nat) (s : Sweep) :
    (Sweep.loop slaves params slaveId regEnd n s).dev.endpoint = s.dev.endpoint := by
  induction n generalizing s with
  | zero => rfl
  | succ n ih =>
    unfold Sweep.loop
    split
    · rw [ih]
      unfold Sweep.step
      split
      · rfl
      · exact appendWords_endpoint _ _ _ _ _ _
    · rfl

variable {regStart : UInt16} {dev : DiscoveredDevice}

theorem verifyDevice_written :
    (verifyDevice slaves params dev st).2.written = st.written := by
  unfold verifyDevice
  split
  · exact probeAddress_written
  · exact probeDevice_written

/-- A sweep leaves each register in the list once, and stays within the list. -/
theorem scanDevice_once (hst : WithinCapacity st) :
    ListsOnce (scanDevice slaves params regStart regEnd dev st).2.1 ∧
      WithinCapacity (scanDevice slaves params regStart regEnd dev st).2.2 := by
  have hwritten := @verifyDevice_written slaves params st dev
  unfold scanDevice
  cases hverify : verifyDevice slaves params dev st with
  | mk probe st' =>
    rw [hverify] at hwritten
    have hst' : WithinCapacity st' := hst.of_written hwritten
    cases probe with
    | none => exact ⟨listsOnce_nil rfl, hst'⟩
    | some probe =>
      let s : Sweep :=
        { dev := { dev.probed probe with registers := [] }
          st := st'
          address := regStart.toNat
          emptyGap := 0
          stopped := false }
      have hinv : SweepInv s := ⟨listsOnce_nil rfl, fun _ hr => absurd hr List.not_mem_nil, hst'⟩
      have hswept := @SweepInv.loop slaves params
        dev.slaveId regEnd s (regEnd.toNat + 1 - regStart.toNat) hinv
      exact ⟨hswept.once, hswept.within⟩

theorem scanDevice_endpoint
    (h : (scanDevice slaves params regStart regEnd dev st).1 = true) :
    (scanDevice slaves params regStart regEnd dev st).2.1.endpoint = dev.endpoint := by
  unfold scanDevice at h ⊢
  cases hverify : verifyDevice slaves params dev st with
  | mk probe st' =>
    rw [hverify] at h
    cases probe with
    | none => cases h
    | some probe =>
      simp only
      rw [sweepLoop_endpoint]
      rfl

theorem scanDevice_absent
    (h : (scanDevice slaves params regStart regEnd dev st).1 = false) :
    (scanDevice slaves params regStart regEnd dev st).2.1 =
      { dev with active := false, registers := [] } := by
  unfold scanDevice at h ⊢
  cases hverify : verifyDevice slaves params dev st with
  | mk probe st' =>
    rw [hverify] at h
    cases probe with
    | none => rfl
    | some probe => cases h

/-! ## Declared registers -/

/-- If the slave answers the read of a declared register that the list lacks, the
list has none of its further words for which there is room. -/
def AddsNew (slaves : Slaves) (s : DiscoveredDevice × ScanState) (reg : Json) : Prop :=
  ∀ probe, (guidedRead slaves s.1 s.2 reg).1 = some probe →
    ∀ j, 0 < j → j < probe.registerCount.toNat →
      s.1.regCount + j < discoverMaxRegsPerSlave →
        (probe.functionCode, probe.address + UInt16.ofNat j) ∉ s.1.keys

theorem guidedRead_written (dev : DiscoveredDevice) (st : ScanState) (reg : Json) :
    (guidedRead slaves dev st reg).2.written = st.written := by
  unfold guidedRead
  split
  · rfl
  · split
    · rfl
    · split
      · rfl
      · split
        · rfl
        · split
          · rename_i heq
            exact congrArg (fun r => r.2.written) heq.symm
          · rename_i heq
            exact congrArg (fun r => r.2.written) heq.symm

/-- Where a declared register is read, its first word is not listed and there is room. -/
theorem guidedRead_some {reg : Json} {probe : DiscoverProbe} (hdev : ListsOnce dev)
    (h : (guidedRead slaves dev st reg).1 = some probe) :
    dev.regCount < discoverMaxRegsPerSlave ∧
      (probe.functionCode, probe.address) ∉ dev.keys ∧
        probe.address.toNat + probe.registerCount.toNat ≤ 65536 := by
  unfold guidedRead at h
  split at h
  · cases h
  · split at h
    · cases h
    · split at h
      · cases h
      · split at h
        · cases h
        · split at h
          · rename_i hroom hmissing hspace _ _ _ _
            cases h
            refine ⟨Nat.lt_of_not_le hroom, fun hmem => hmissing ?_, Nat.le_of_not_lt hspace⟩
            obtain ⟨r, hr, hkey⟩ := List.mem_map.1 hmem
            refine List.any_eq_true.2 ⟨r, hr, ?_⟩
            rw [hdev.valid r hr, Bool.true_and]
            exact decide_eq_true ⟨.inl (Prod.mk.inj hkey).2, (Prod.mk.inj hkey).1⟩
          · cases h

theorem probeProfileRegister_within {s : DiscoveredDevice × ScanState} {reg : Json}
    (hst : WithinCapacity s.2) : WithinCapacity (probeProfileRegister slaves s reg).2 := by
  have hwritten := @guidedRead_written slaves s.1 s.2 reg
  unfold probeProfileRegister
  cases hread : guidedRead slaves s.1 s.2 reg with
  | mk probe st =>
    rw [hread] at hwritten
    have hst' : WithinCapacity st := hst.of_written hwritten
    cases probe with
    | none => exact hst'
    | some probe => exact appendWords_within hst'

theorem probeProfileRegister_endpoint (s : DiscoveredDevice × ScanState) (reg : Json) :
    (probeProfileRegister slaves s reg).1.endpoint = s.1.endpoint := by
  unfold probeProfileRegister
  split
  · rfl
  · exact appendWords_endpoint _ _ _ _ _ _

theorem probeProfileRegister_registers (s : DiscoveredDevice × ScanState) (reg : Json) :
    s.1.registers <+: (probeProfileRegister slaves s reg).1.registers := by
  unfold probeProfileRegister
  split
  · exact List.prefix_rfl
  · rename_i probe st _
    obtain ⟨k, -, heq⟩ := appendWords_eq probe 65535 0 probe.registerCount.toNat s.1 st
    rw [heq]
    exact List.prefix_append _ _

theorem guided_registers (s : DiscoveredDevice × ScanState) (regs : List Json) :
    s.1.registers <+: (run (probeProfileRegister slaves) s regs).1.registers := by
  induction regs generalizing s with
  | nil => exact List.prefix_rfl
  | cons reg regs ih => exact (probeProfileRegister_registers s reg).trans (ih _)

/-- One turn of the profile phase leaves each register in the list once exactly
when it adds new ones. -/
theorem probeProfileRegister_once {s : DiscoveredDevice × ScanState} {reg : Json}
    (h : ListsOnce s.1) :
    ListsOnce (probeProfileRegister slaves s reg).1 ↔ AddsNew slaves s reg := by
  unfold probeProfileRegister AddsNew
  cases hread : guidedRead slaves s.1 s.2 reg with
  | mk probe st =>
    cases probe with
    | none => simp [h]
    | some probe =>
      obtain ⟨hroom, hmissing, hspace⟩ := guidedRead_some h (congrArg Prod.fst hread)
      obtain ⟨k, happended, heq⟩ := appendWords_eq probe 65535 0 probe.registerCount.toNat s.1 st
      have hle := happended.le
      have hfits := happended.fits
      have hstops : k = probe.registerCount.toNat ∨
          discoverMaxRegsPerSlave ≤ s.1.regCount + k := by
        rcases happended.stops with hall | hfull | hlimit
        · exact .inl hall
        · exact .inr hfull
        · have hlt := UInt16.lt_iff_toNat_lt.1 hlimit
          have htop := (probe.address + UInt16.ofNat (0 + k)).toNat_lt
          exact absurd hlt (by simp; omega)
      simp only
      rw [heq, append_words_once (by omega) h]
      constructor
      · rintro hnew _ ⟨⟩ j - hj hroom'
        exact hnew j (Nat.zero_le j) (by omega)
      · rintro hnew j - hj
        rcases Nat.eq_zero_or_pos j with rfl | hpos
        · have hzero : probe.address + UInt16.ofNat 0 = probe.address := by simp
          rw [hzero]
          exact hmissing
        · exact hnew probe rfl j hpos (by omega) (by omega)

theorem probeProfileRegister_valid {s : DiscoveredDevice × ScanState} (reg : Json)
    (h : ∀ r ∈ s.1.registers, r.valid = true) :
    ∀ r ∈ (probeProfileRegister slaves s reg).1.registers, r.valid = true := by
  unfold probeProfileRegister
  split
  · exact h
  · rename_i probe st _
    obtain ⟨k, -, heq⟩ := appendWords_eq probe 65535 0 probe.registerCount.toNat s.1 st
    rw [heq]
    exact probe.valid_of_mem_append h

theorem guided_once {s : DiscoveredDevice × ScanState} (regs : List Json) (h : ListsOnce s.1) :
    (run (probeProfileRegister slaves) s regs).1.keys.Nodup ↔
      AllSteps (probeProfileRegister slaves) (AddsNew slaves) s regs := by
  induction regs generalizing s with
  | nil => simp [h.nodup]
  | cons reg regs ih =>
    rw [run_cons, allSteps_cons, ← probeProfileRegister_once h]
    constructor
    · intro hrun
      have hfirst : ListsOnce (probeProfileRegister slaves s reg).1 :=
        ⟨hrun.sublist ((guided_registers _ regs).sublist.map _),
          probeProfileRegister_valid reg h.valid⟩
      exact ⟨hfirst, (ih hfirst).1 hrun⟩
    · rintro ⟨hfirst, hrest⟩
      exact (ih hfirst).2 hrest

theorem guided_within {s : DiscoveredDevice × ScanState} (regs : List Json)
    (hst : WithinCapacity s.2) :
    WithinCapacity (run (probeProfileRegister slaves) s regs).2 := by
  induction regs generalizing s with
  | nil => exact hst
  | cons reg regs ih => exact ih (probeProfileRegister_within hst)

theorem guided_endpoint (s : DiscoveredDevice × ScanState) (regs : List Json) :
    (run (probeProfileRegister slaves) s regs).1.endpoint = s.1.endpoint := by
  induction regs generalizing s with
  | nil => rfl
  | cons reg regs ih => exact (ih _).trans (probeProfileRegister_endpoint s reg)

/-! ## The device at one place -/

variable {profile : Option Json}

def deviceNext (slaves : Slaves) (profile : Option Json) (params : DiscoverScanParams)
    (dev : DiscoveredDevice) (st : ScanState) : DiscoveredDevice × ScanState :=
  match scanDevice slaves params (scanWindow params dev).1 (scanWindow params dev).2 dev st with
  | (false, dev, st) => (dev, st)
  | (true, dev, st) =>
    match profileDevices profile with
    | none => (dev, st)
    | some (items, defaultProtocol) =>
      run (probeProfileRegister slaves) (dev, st) (profileRegisters items defaultProtocol dev)

/-- In the profile phase of the device, each answered read adds new words only. -/
def AddsNewWords (slaves : Slaves) (profile : Option Json) (params : DiscoverScanParams)
    (dev : DiscoveredDevice) (st : ScanState) : Prop :=
  ∀ swept st' items defaultProtocol,
    scanDevice slaves params (scanWindow params dev).1 (scanWindow params dev).2 dev st =
      (true, swept, st') →
    profileDevices profile = some (items, defaultProtocol) →
      AllSteps (probeProfileRegister slaves) (AddsNew slaves) (swept, st')
        (profileRegisters items defaultProtocol swept)

theorem deviceNext_within (hst : WithinCapacity st) :
    WithinCapacity (deviceNext slaves profile params dev st).2 := by
  have hswept := @scanDevice_once slaves params st (scanWindow params dev).2
    (scanWindow params dev).1 dev hst
  unfold deviceNext
  split
  · rename_i heq
    rw [heq] at hswept
    exact hswept.2
  · rename_i heq
    rw [heq] at hswept
    split
    · exact hswept.2
    · exact guided_within _ hswept.2

theorem deviceNext_once (hst : WithinCapacity st) :
    (deviceNext slaves profile params dev st).1.keys.Nodup ↔
      AddsNewWords slaves profile params dev st := by
  have hswept := @scanDevice_once slaves params st (scanWindow params dev).2
    (scanWindow params dev).1 dev hst
  unfold deviceNext AddsNewWords
  split
  · rename_i heq
    rw [heq] at hswept
    refine ⟨fun _ _ _ _ _ h => ?_, fun _ => hswept.1.nodup⟩
    rw [heq] at h
    cases h
  · rename_i swept st' heq
    rw [heq] at hswept
    split
    · rename_i hnone
      refine ⟨fun _ _ _ _ _ _ h => ?_, fun _ => hswept.1.nodup⟩
      rw [hnone] at h
      cases h
    · rename_i items defaultProtocol hsome
      rw [guided_once _ hswept.1]
      constructor
      · intro h swept' st'' items' defaultProtocol' hscan hprofile
        rw [heq] at hscan
        rw [hsome] at hprofile
        cases hscan
        cases hprofile
        exact h
      · exact fun h => h swept st' items defaultProtocol heq hsome

/-- The device stays the one of its slave, and drops out only with an empty list. -/
theorem deviceNext_same (dev : DiscoveredDevice) (st : ScanState) :
    (deviceNext slaves profile params dev st).1.slaveId = dev.slaveId ∧
      (deviceNext slaves profile params dev st).1.sourceProtocol = dev.sourceProtocol ∧
        (deviceNext slaves profile params dev st).1.channelId = dev.channelId ∧
          ((deviceNext slaves profile params dev st).1.active = dev.active ∨
            (deviceNext slaves profile params dev st).1.registers = []) := by
  unfold deviceNext
  split
  · rename_i heq
    have habsent := scanDevice_absent (congrArg Prod.fst heq)
    rw [heq] at habsent
    simp only at habsent
    rw [habsent]
    exact ⟨rfl, rfl, rfl, .inr rfl⟩
  · rename_i swept st' heq
    have hendpoint := scanDevice_endpoint (congrArg Prod.fst heq)
    rw [heq] at hendpoint
    simp only [DiscoveredDevice.endpoint, Prod.mk.injEq] at hendpoint
    obtain ⟨hslave, hprotocol, hchannel, hactive⟩ := hendpoint
    split
    · exact ⟨hslave, hprotocol, hchannel, .inl hactive⟩
    · rename_i items defaultProtocol _
      have hguided := @guided_endpoint slaves (swept, st')
        (profileRegisters items defaultProtocol swept)
      simp only [DiscoveredDevice.endpoint, Prod.mk.injEq] at hguided
      exact ⟨hguided.1.trans hslave, hguided.2.1.trans hprotocol, hguided.2.2.1.trans hchannel,
        .inl (hguided.2.2.2.trans hactive)⟩

/-! ## The second phase -/

/-- The devices have slave ids of their own, on the bus of the scan. -/
structure ScanInv (params : DiscoverScanParams) (s : Discovery) : Prop where
  apart : (s.devices.map DiscoveredDevice.slaveId).Nodup
  onBus : ∀ dev ∈ s.devices,
    dev.sourceProtocol = params.sourceProtocol ∧ dev.channelId = params.channelId
  within : WithinCapacity s.st

variable {d : Discovery} {i : Nat}

theorem findScanned_self (hinv : ScanInv params d) (hdev : d.devices[i]? = some dev)
    (hactive : dev.active = true) : findScanned params dev.slaveId d.devices = some i := by
  obtain ⟨hi, hget⟩ := List.getElem?_eq_some_iff.1 hdev
  obtain ⟨hprotocol, hchannel⟩ := hinv.onBus dev (List.mem_of_getElem? hdev)
  refine List.findIdx?_eq_some_iff_getElem.2 ⟨hi, ?_, fun j hj => ?_⟩
  · rw [hget]
    simp [hprotocol, hchannel, hactive]
  · have hlen : j < d.devices.length := by omega
    have hne : d.devices[j].slaveId ≠ dev.slaveId := by
      intro heq
      have hmaps : (d.devices.map DiscoveredDevice.slaveId)[j]? =
          (d.devices.map DiscoveredDevice.slaveId)[i]? := by
        simp [hi, hget, heq, hlen]
      have hsame := (List.getElem?_inj (by simp; omega) hinv.apart).1 hmaps
      omega
    simp [hne]

/-- One turn of the second phase touches the device at its place only. -/
theorem scanNext_eq (hinv : ScanInv params d) (hdev : d.devices[i]? = some dev)
    (hactive : dev.active = true) :
    scanNext slaves profile params d i =
      { devices := d.devices.set i (deviceNext slaves profile params dev d.st).1
        st := (deviceNext slaves profile params dev d.st).2 } := by
  obtain ⟨hi, -⟩ := List.getElem?_eq_some_iff.1 hdev
  unfold scanNext sweepAt deviceNext
  simp only [hdev, hactive, findScanned_self hinv hdev hactive]
  cases hscan : scanDevice slaves params (scanWindow params dev).1 (scanWindow params dev).2 dev
    d.st with
  | mk there r =>
    obtain ⟨swept, st'⟩ := r
    cases there with
    | false => simp
    | true =>
      simp only [profileGuidedRegisterProbe]
      have hset : (d.devices.set i swept)[i]? = some swept := by simp [hi]
      cases hprofile : profileDevices profile with
      | none => simp
      | some p => simp [hset]

theorem ScanInv.next (hinv : ScanInv params d) (hdev : d.devices[i]? = some dev)
    (hactive : dev.active = true) : ScanInv params (scanNext slaves profile params d i) := by
  obtain ⟨hi, hget⟩ := List.getElem?_eq_some_iff.1 hdev
  obtain ⟨hslave, hprotocol, hchannel, -⟩ :=
    @deviceNext_same slaves params profile dev d.st
  rw [scanNext_eq hinv hdev hactive]
  refine ⟨?_, fun x hx => ?_, deviceNext_within hinv.within⟩
  · have hsame : (d.devices.set i (deviceNext slaves profile params dev d.st).1).map
        DiscoveredDevice.slaveId = d.devices.map DiscoveredDevice.slaveId := by
      rw [List.map_set, hslave, ← hget, ← List.getElem_map DiscoveredDevice.slaveId]
      · exact List.set_getElem_self _
      · rwa [List.length_map]
    rw [hsame]
    exact hinv.apart
  · rcases List.mem_or_eq_of_mem_set hx with hx | rfl
    · exact hinv.onBus x hx
    · rw [hprotocol, hchannel]
      exact hinv.onBus dev (List.mem_of_getElem? hdev)

/-- The active device at a place lists each register once. -/
def OnceAt (d : Discovery) (i : Nat) : Prop :=
  ∀ dev, d.devices[i]? = some dev → dev.active = true → dev.keys.Nodup

/-- What the profile phase of the device at a place adds is new. -/
def NewAt (slaves : Slaves) (profile : Option Json) (params : DiscoverScanParams)
    (d : Discovery) (i : Nat) : Prop :=
  ∀ dev, d.devices[i]? = some dev → AddsNewWords slaves profile params dev d.st

/-- A turn at another place leaves the device alone. -/
theorem scanNext_other {j : Nat} (hinv : ScanInv params d) (hdev : d.devices[i]? = some dev)
    (hactive : dev.active = true) (hne : j ≠ i) :
    (scanNext slaves profile params d i).devices[j]? = d.devices[j]? := by
  rw [scanNext_eq hinv hdev hactive]
  exact List.getElem?_set_ne hne.symm

theorem sweepAt_length (d : Discovery) (i : Nat) :
    (sweepAt slaves params d i).2.devices.length = d.devices.length := by
  unfold sweepAt
  split
  · rfl
  · split
    · rfl
    · split
      · rfl
      · split
        · rfl
        · exact List.length_set

theorem scanNext_length (d : Discovery) (i : Nat) :
    (scanNext slaves profile params d i).devices.length = d.devices.length := by
  have hswept := @sweepAt_length slaves params d i
  unfold scanNext
  split
  · rename_i heq
    rw [heq] at hswept
    exact hswept
  · rename_i heq
    rw [heq] at hswept
    unfold profileGuidedRegisterProbe
    split
    · exact List.length_set.trans hswept
    · exact hswept

theorem scanRun_length (d : Discovery) (places : List Nat) :
    (run (scanNext slaves profile params) d places).devices.length = d.devices.length := by
  induction places generalizing d with
  | nil => rfl
  | cons i places ih => exact (ih _).trans (scanNext_length d i)

theorem scanNext_once (hinv : ScanInv params d) (hdev : d.devices[i]? = some dev)
    (hactive : dev.active = true) :
    OnceAt (scanNext slaves profile params d i) i ↔ NewAt slaves profile params d i := by
  obtain ⟨hi, -⟩ := List.getElem?_eq_some_iff.1 hdev
  have hget : (scanNext slaves profile params d i).devices[i]? =
      some (deviceNext slaves profile params dev d.st).1 := by
    rw [scanNext_eq hinv hdev hactive]
    simp [hi]
  have honce := @deviceNext_once slaves params d.st dev profile hinv.within
  constructor
  · intro h dev' hdev'
    obtain rfl : dev = dev' := Option.some.inj (hdev.symm.trans hdev')
    obtain ⟨-, -, -, hstill | hempty⟩ := @deviceNext_same slaves params profile dev d.st
    · exact honce.1 (h _ hget (hstill.trans hactive))
    · exact honce.1 (listsOnce_nil hempty).nodup
  · intro h dev' hdev' _
    obtain rfl : (deviceNext slaves profile params dev d.st).1 = dev' :=
      Option.some.inj (hget.symm.trans hdev')
    exact honce.2 (h dev hdev)

theorem scanRun_other {places : List Nat} (hinv : ScanInv params d)
    (hplaces : places.Nodup)
    (hactive : ∀ j ∈ places, ∃ dev, d.devices[j]? = some dev ∧ dev.active = true)
    (hi : i ∉ places) :
    (run (scanNext slaves profile params) d places).devices[i]? = d.devices[i]? := by
  induction places generalizing d with
  | nil => rfl
  | cons j places ih =>
    obtain ⟨hj, hplaces⟩ := List.nodup_cons.1 hplaces
    obtain ⟨hne, hi⟩ := not_or.1 (List.mem_cons.not.1 hi)
    obtain ⟨dev, hdev, hdevActive⟩ := hactive j List.mem_cons_self
    rw [run_cons, ih (hinv.next hdev hdevActive) hplaces ?_ hi,
      scanNext_other hinv hdev hdevActive hne]
    intro k hk
    rw [scanNext_other hinv hdev hdevActive fun heq => hj (heq ▸ hk)]
    exact hactive k (List.mem_cons_of_mem j hk)

/-- The second phase over places that are yet to come. -/
theorem scanRun_once {places : List Nat} (hinv : ScanInv params d) (hplaces : places.Nodup)
    (hactive : ∀ i ∈ places, ∃ dev, d.devices[i]? = some dev ∧ dev.active = true) :
    WithinCapacity (run (scanNext slaves profile params) d places).st ∧
      ((∀ i ∈ places, OnceAt (run (scanNext slaves profile params) d places) i) ↔
        AllSteps (scanNext slaves profile params) (NewAt slaves profile params) d places) := by
  induction places generalizing d with
  | nil => exact ⟨hinv.within, by simp⟩
  | cons i places ih =>
    obtain ⟨hi, hplaces⟩ := List.nodup_cons.1 hplaces
    obtain ⟨dev, hdev, hdevActive⟩ := hactive i List.mem_cons_self
    have hlater : ∀ j ∈ places, ∃ dev',
        (scanNext slaves profile params d i).devices[j]? = some dev' ∧ dev'.active = true := by
      intro j hj
      rw [scanNext_other hinv hdev hdevActive fun heq => hi (heq ▸ hj)]
      exact hactive j (List.mem_cons_of_mem i hj)
    obtain ⟨hwithin, hiff⟩ := ih (hinv.next hdev hdevActive) hplaces hlater
    have hfirst : OnceAt (run (scanNext slaves profile params)
        (scanNext slaves profile params d i) places) i ↔ NewAt slaves profile params d i := by
      rw [← scanNext_once hinv hdev hdevActive, OnceAt, OnceAt,
        scanRun_other (hinv.next hdev hdevActive) hplaces hlater hi]
    rw [run_cons, allSteps_cons, List.forall_mem_cons, hfirst, hiff]
    exact ⟨hwithin, Iff.rfl⟩

/-! ## The full scan -/

/-- The table after the slaves below `next`. -/
structure BusInv (params : DiscoverScanParams) (next : Nat) (s : Discovery) : Prop where
  scan : ScanInv params s
  below : ∀ dev ∈ s.devices, dev.slaveId.toNat < next
  active : ∀ dev ∈ s.devices, dev.active = true

theorem probeSlave_inv {capacity next : Nat} (h : BusInv params next d) (hnext : next < 256) :
    BusInv params (next + 1) (probeSlave slaves capacity params d next) := by
  have hwritten := @probeDevice_written slaves params (UInt8.ofNat next) d.st
  have hsid : (UInt8.ofNat next).toNat = next := UInt8.toNat_ofNat_of_lt' hnext
  unfold probeSlave
  cases hprobe : discoverProbeDevice slaves params (UInt8.ofNat next) d.st with
  | mk probe st =>
    rw [hprobe] at hwritten
    have hst : WithinCapacity st := h.scan.within.of_written hwritten
    have hkept : BusInv params (next + 1) { d with st := st } :=
      ⟨⟨h.scan.apart, h.scan.onBus, hst⟩, fun x hx => Nat.lt_succ_of_lt (h.below x hx), h.active⟩
    cases probe with
    | none => exact hkept
    | some probe =>
      simp only
      split
      · refine ⟨⟨?_, fun x hx => ?_, hst⟩, fun x hx => ?_, fun x hx => ?_⟩
        · rw [List.map_append]
          refine h.scan.apart.append (List.nodup_singleton _) fun sid hold hnew => ?_
          obtain ⟨x, hx, rfl⟩ := List.mem_map.1 hold
          have hsame : x.slaveId = UInt8.ofNat next := List.mem_singleton.1 hnew
          have hbelow := h.below x hx
          rw [hsame, hsid] at hbelow
          omega
        · rcases List.mem_append.1 hx with hx | hx
          · exact h.scan.onBus x hx
          · rw [List.mem_singleton.1 hx]
            exact ⟨rfl, rfl⟩
        · rcases List.mem_append.1 hx with hx | hx
          · exact Nat.lt_succ_of_lt (h.below x hx)
          · rw [List.mem_singleton.1 hx]
            have hnew : (UInt8.ofNat next).toNat < next + 1 := by omega
            exact hnew
        · rcases List.mem_append.1 hx with hx | hx
          · exact h.active x hx
          · rw [List.mem_singleton.1 hx]
            rfl
      · exact hkept

theorem probeSlaves_inv {capacity next : Nat} (n : Nat) (h : BusInv params next d)
    (hn : next + n ≤ 256) :
    BusInv params (next + n)
      (run (probeSlave slaves capacity params) d (List.range' next n)) := by
  induction n generalizing d next with
  | zero => exact h
  | succ n ih =>
    have hcount : next + (n + 1) = next + 1 + n := by omega
    rw [List.range'_succ, run_cons, hcount]
    exact ih (probeSlave_inv h (by omega)) (by omega)

theorem scanBus_inv {capacity : Nat} (h : scanBusSync slaves capacity params = .ok d) :
    ∃ next, BusInv params next d := by
  unfold scanBusSync at h
  split at h
  · cases h
  · split at h
    · cases h
    · cases h
      have hlast : lastSlave params ≤ 255 := by
        have hend := params.slaveEnd.toNat_lt
        unfold lastSlave
        split <;> omega
      have hempty : BusInv params (firstSlave params) ⟨[], ⟨0, []⟩⟩ :=
        ⟨⟨.nil, fun _ hx => absurd hx List.not_mem_nil, fun _ hx => absurd hx List.not_mem_nil⟩,
          fun _ hx => absurd hx List.not_mem_nil, fun _ hx => absurd hx List.not_mem_nil⟩
      exact ⟨_, probeSlaves_inv _ hempty (by omega)⟩

end Reads

/-- Each device lists each register once, and no append wrote past its list. -/
structure DiscoveredOnce (s : Discovery) : Prop where
  distinct : ∀ dev ∈ s.devices, dev.keys.Nodup
  within : ∀ i ∈ s.st.written, i < discoverMaxRegsPerSlave

theorem secondPhase_once {slaves : Slaves} {capacity : Nat} {profile : Option Json}
    {params : DiscoverScanParams} {start : Discovery}
    (h : scanBusSync slaves capacity params = .ok start) :
    DiscoveredOnce
        { run (scanNext slaves profile params) start (List.range start.devices.length) with
          devices := (run (scanNext slaves profile params) start
            (List.range start.devices.length)).devices.filter DiscoveredDevice.active } ↔
      AllSteps (scanNext slaves profile params) (NewAt slaves profile params) start
        (List.range start.devices.length) := by
  obtain ⟨next, hinv, -, hactive⟩ := scanBus_inv h
  have hplaces : ∀ i ∈ List.range start.devices.length,
      ∃ dev, start.devices[i]? = some dev ∧ dev.active = true := by
    intro i hi
    have hlt := List.mem_range.1 hi
    exact ⟨_, List.getElem?_eq_getElem hlt, hactive _ (List.getElem_mem hlt)⟩
  obtain ⟨hwithin, hiff⟩ := scanRun_once hinv List.nodup_range hplaces
  rw [← hiff]
  constructor
  · intro honce i _ dev hdev hdevActive
    exact honce.distinct dev (List.mem_filter.2 ⟨List.mem_of_getElem? hdev, hdevActive⟩)
  · intro honce
    refine ⟨fun dev hdev => ?_, hwithin⟩
    obtain ⟨hmem, hdevActive⟩ := List.mem_filter.1 hdev
    obtain ⟨i, hi⟩ := List.mem_iff_getElem?.1 hmem
    have hlt := (List.getElem?_eq_some_iff.1 hi).1
    rw [scanRun_length] at hlt
    exact honce i (List.mem_range.2 hlt) dev hi hdevActive

/-- In the profile phase of every device, each answered read adds new words only. -/
def ScanAddsNew (slaves : Slaves) (capacity : Nat) (profile : Option Json)
    (params : Option DiscoverScanParams) : Prop :=
  ∀ req start, fullRequest params = .ok req → scanBusSync slaves capacity req = .ok start →
    AllSteps (scanNext slaves profile req) (NewAt slaves profile req) start
      (List.range start.devices.length)

/-- **A discovered device lists each register once.** For every behaviour of the
slaves, every profile and all parameters, a full scan leaves each register in the
list of its device once, and within the list, exactly when its profile phase adds
new words only. -/
theorem discovered_once_iff (slaves : Slaves) (capacity : Nat) (profile : Option Json)
    (params : Option DiscoverScanParams) :
    (∀ s, modbusDiscoverFullScan slaves capacity profile params = .ok s → DiscoveredOnce s) ↔
      ScanAddsNew slaves capacity profile params := by
  unfold modbusDiscoverFullScan ScanAddsNew
  by_cases hcapacity : capacity = 0
  · simp [hcapacity, scanBusSync]
  · rw [if_neg hcapacity]
    cases hreq : fullRequest params with
    | error e => simp
    | ok req =>
      simp only
      unfold fullScanSync
      cases hstart : scanBusSync slaves capacity req with
      | error e =>
        constructor
        · rintro - req' start' ⟨⟩ hstart'
          cases hstart.symm.trans hstart'
        · rintro - s ⟨⟩
      | ok start =>
        constructor
        · rintro h req' start' ⟨⟩ hstart'
          cases hstart.symm.trans hstart'
          exact (secondPhase_once hstart).1 (h _ rfl)
        · rintro h s ⟨⟩
          exact (secondPhase_once hstart).2 (h req start rfl hstart)

/-! ## A float that the sweep begins in the middle of -/

def holdingSlaves : Slaves where
  read _ req :=
    if req.functionCode = 3 then .ok (List.replicate req.count.toNat 7)
    else .error .invalidResponse
  identity _ := none

/-- A scan of the second word of the first float of slave 2. -/
def secondWordParams : DiscoverScanParams :=
  { defaultScanParams with
    slaveStart := 2
    slaveEnd := 2
    regStart := 43001
    regEnd := 43001 }

/-- The sweep lists register 43001, and the profile phase lists it again with the
float that begins at 43000. -/
theorem float_listed_twice :
    ¬ ∀ s, modbusDiscoverFullScan holdingSlaves 100 (some labProfile) (some secondWordParams) =
      .ok s → DiscoveredOnce s := by
  intro h
  have hkeys : (modbusDiscoverFullScan holdingSlaves 100 (some labProfile)
      (some secondWordParams)).toOption.map (fun s => s.devices.map fun dev =>
        dev.keys.take 3) = some [[(3, 43001), (3, 43000), (3, 43001)]] := by decide +kernel
  cases hscan : modbusDiscoverFullScan holdingSlaves 100 (some labProfile)
      (some secondWordParams) with
  | error e =>
    rw [hscan] at hkeys
    cases hkeys
  | ok s =>
    rw [hscan] at hkeys
    have hlists : (s.devices.map fun dev => dev.keys.take 3) =
        [[(3, 43001), (3, 43000), (3, 43001)]] := Option.some.inj hkeys
    have hmem : [(3, 43001), (3, 43000), (3, 43001)] ∈
        s.devices.map fun dev => dev.keys.take 3 := by
      rw [hlists]
      exact List.mem_singleton_self _
    obtain ⟨dev, hdev, hfirst⟩ := List.mem_map.1 hmem
    have hnodup := ((h s hscan).distinct dev hdev).sublist (List.take_sublist 3 _)
    rw [hfirst] at hnodup
    exact absurd hnodup (by decide)

end McpGateway.Modbus
