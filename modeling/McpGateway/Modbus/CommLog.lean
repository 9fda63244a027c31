import McpGateway.Config
import McpGateway.Lib.Ring
import McpGateway.Lib.Run

/-!
# The communication log

The entries of `modbus_comm_log.c` in RAM, with the 16-bit indices of the source. The
slots, the next slot and the count are a ring; `comm_log_newest_run` says what a snapshot
returns after any sequence of additions and clears.
-/

namespace McpGateway.Modbus

open McpGateway.Lib

/-- `MODBUS_COMM_LOG_CAPACITY`. -/
def commLogCapacity : Nat := 64

/-- `MODBUS_COMM_FRAME_MAX`. -/
def commFrameMax : Nat := 48

/-- `modbus_comm_direction_t`. -/
inductive FrameDirection
  | tx | rx
  deriving DecidableEq

/-- The arguments `frame` and `frame_length`. -/
inductive FrameArg
  | null (length : Nat)
  | bytes (data : List UInt8)

def FrameArg.length : FrameArg → Nat
  | null length => length
  | bytes data => data.length

/-- The arguments of `modbus_comm_log_add`, and the two times it reads. -/
structure CommRecord where
  direction : FrameDirection
  slaveId : UInt8
  functionCode : UInt8
  registerAddress : UInt16
  registerCount : UInt16
  status : EspErr
  frame : FrameArg
  timestampMs : Int
  uptimeMs : Int

/-- `modbus_comm_log_entry_t`. -/
structure CommLogEntry where
  sequence : UInt32
  timestampMs : Int
  uptimeMs : Int
  direction : FrameDirection
  slaveId : UInt8
  functionCode : UInt8
  registerAddress : UInt16
  registerCount : UInt16
  status : EspErr
  frameLength : UInt8
  truncated : Bool
  frame : List UInt8
  deriving DecidableEq

def CommLogEntry.zero : CommLogEntry where
  sequence := 0
  timestampMs := 0
  uptimeMs := 0
  direction := .tx
  slaveId := 0
  functionCode := 0
  registerAddress := 0
  registerCount := 0
  status := .ok
  frameLength := 0
  truncated := false
  frame := List.replicate commFrameMax 0

def CommRecord.entry (r : CommRecord) (sequence : UInt32) : CommLogEntry :=
  let truncated := decide (commFrameMax < r.frame.length)
  let kept := if truncated then commFrameMax else r.frame.length
  { sequence
    timestampMs := r.timestampMs
    uptimeMs := r.uptimeMs
    direction := r.direction
    slaveId := r.slaveId
    functionCode := r.functionCode
    registerAddress := r.registerAddress
    registerCount := r.registerCount
    status := r.status
    frameLength := UInt8.ofNat kept
    truncated
    frame :=
      match r.frame with
      | .null _ => List.replicate commFrameMax 0
      | .bytes data => data.take kept ++ List.replicate (commFrameMax - kept) 0 }

/-- `s_mutex`. -/
inductive Mutex
  | null | free | taken
  deriving DecidableEq

/-- The statics of `modbus_comm_log.c`. -/
structure CommLog where
  entries : Vector CommLogEntry commLogCapacity
  next : UInt16
  count : UInt16
  sequence : UInt32
  mutex : Mutex
  next_lt : next.toNat < commLogCapacity
  count_le : count.toNat ≤ commLogCapacity
  next_eq : count.toNat < commLogCapacity → next = count

namespace CommLog

def boot : CommLog where
  entries := Vector.replicate commLogCapacity .zero
  next := 0
  count := 0
  sequence := 0
  mutex := .null
  next_lt := by decide
  count_le := by decide
  next_eq _ := rfl

/-- `modbus_comm_log_init`; `created`: `xSemaphoreCreateMutex` finds memory. -/
def init (s : CommLog) (created : Bool) : CommLog :=
  if s.mutex = .null ∧ created = true then { s with mutex := .free } else s

/-- `s_next` after an addition. -/
def nextSlot (s : CommLog) : UInt16 := UInt16.ofNat ((s.next.toNat + 1) % commLogCapacity)

/-- `s_count` after an addition. -/
def nextCount (s : CommLog) : UInt16 :=
  if s.count.toNat < commLogCapacity then s.count + 1 else s.count

theorem nextSlot_toNat (s : CommLog) : s.nextSlot.toNat = (s.next.toNat + 1) % commLogCapacity := by
  have hlt := Nat.mod_lt (s.next.toNat + 1) (show 0 < commLogCapacity by decide)
  unfold commLogCapacity at *
  rw [nextSlot, UInt16.toNat_ofNat']
  exact Nat.mod_eq_of_lt (by unfold commLogCapacity; omega)

theorem nextCount_toNat (s : CommLog) :
    s.nextCount.toNat = min (s.count.toNat + 1) commLogCapacity := by
  have hle := s.count_le
  unfold nextCount
  unfold commLogCapacity at *
  split
  · rw [UInt16.toNat_add, show (1 : UInt16).toNat = 1 from rfl]
    omega
  · omega

/-- `modbus_comm_log_add`. -/
def add (s : CommLog) (created : Bool) (r : CommRecord) : CommLog :=
  let s := s.init created
  if s.mutex ≠ .free then s
  else
    { s with
      entries := s.entries.set s.next.toNat (r.entry (s.sequence + 1)) s.next_lt
      sequence := s.sequence + 1
      next := s.nextSlot
      count := s.nextCount
      next_lt := by
        rw [nextSlot_toNat]
        exact Nat.mod_lt _ (by decide)
      count_le := by
        rw [nextCount_toNat]
        exact Nat.min_le_right _ _
      next_eq := by
        intro hlt
        rw [nextCount_toNat] at hlt
        have hroom : s.count.toNat < commLogCapacity := by omega
        apply UInt16.toNat_inj.1
        rw [nextSlot_toNat, nextCount_toNat, s.next_eq hroom, Nat.mod_eq_of_lt (by omega)]
        omega }

/-- `modbus_comm_log_clear`. -/
def clear (s : CommLog) (created : Bool) : CommLog :=
  let s := s.init created
  if s.mutex ≠ .free then s
  else
    { s with
      entries := Vector.replicate commLogCapacity .zero
      next := 0
      count := 0
      next_lt := by decide
      count_le := by decide
      next_eq := fun _ => rfl }

/-- `s_entries[i % MODBUS_COMM_LOG_CAPACITY]`. -/
def slot (s : CommLog) (i : Nat) : CommLogEntry :=
  s.entries.get ⟨i % commLogCapacity, Nat.mod_lt i (by decide)⟩

def oldest (s : CommLog) : UInt16 :=
  UInt16.ofNat ((s.next.toNat + commLogCapacity - s.count.toNat) % commLogCapacity)

def copyCount (s : CommLog) (maxEntries : Int) : UInt16 :=
  let max := UInt16.ofNat maxEntries.toNat
  if s.count < max then s.count else max

/-- `modbus_comm_log_snapshot`: what it writes to `out`. -/
def snapshot (s : CommLog) (maxEntries : Int) : List CommLogEntry :=
  if maxEntries ≤ 0 ∨ s.mutex ≠ .free then []
  else
    let skip := s.count - s.copyCount maxEntries
    let start := UInt16.ofNat ((s.oldest.toNat + skip.toNat) % commLogCapacity)
    (List.range (s.copyCount maxEntries).toNat).map fun i => s.slot (start.toNat + i)

/-- `modbus_comm_log_count`. -/
def logCount (s : CommLog) : Nat := if s.mutex ≠ .free then 0 else s.count.toNat

/-- `modbus_comm_log_get`. -/
def get (s : CommLog) (index : Int) : Option CommLogEntry :=
  if index < 0 ∨ s.mutex ≠ .free then none
  else if index < s.count.toNat then
    some (s.slot (s.oldest.toNat + (UInt16.ofNat index.toNat).toNat))
  else none

end CommLog

/-- A call that changes the log, and whether it could create the mutex. -/
inductive CommLogOp
  | add (created : Bool) (r : CommRecord)
  | clear (created : Bool)

def CommLog.step (s : CommLog) : CommLogOp → CommLog
  | .add created r => s.add created r
  | .clear created => s.clear created

/-- What has been written to the log: the entries since the last clear, and how many there
have been in all. -/
structure CommHistory where
  ready : Bool
  adds : Nat
  sinceClear : List CommLogEntry

def CommHistory.boot : CommHistory := ⟨false, 0, []⟩

/-- An addition is written once there is a mutex; it has the next number. -/
def CommHistory.step (h : CommHistory) : CommLogOp → CommHistory
  | .add created r =>
    if h.ready || created then
      ⟨true, h.adds + 1, h.sinceClear ++ [r.entry (UInt32.ofNat (h.adds + 1))]⟩
    else h
  | .clear created => ⟨h.ready || created, h.adds, []⟩

def CommLog.after (ops : List CommLogOp) : CommLog := run CommLog.step .boot ops

def CommHistory.after (ops : List CommLogOp) : CommHistory := run CommHistory.step .boot ops

def CommLogOp.isAdd : CommLogOp → Bool
  | .add _ _ => true
  | .clear _ => false

/-! ## The ring -/

namespace CommLog

variable {s : CommLog}

def ring (s : CommLog) : Ring CommLogEntry commLogCapacity where
  slots := s.entries.toList.take s.count.toNat
  head := s.next.toNat
  head_lt := s.next_lt
  head_eq := by
    have hle := s.count_le
    rw [List.length_take, Vector.length_toList, Nat.min_eq_left hle]
    exact fun hroom => congrArg UInt16.toNat (s.next_eq hroom)
  length_le := by
    rw [List.length_take, Vector.length_toList]
    exact Nat.min_le_right _ _

theorem ring_length (s : CommLog) : s.ring.slots.length = s.count.toNat := by
  show (s.entries.toList.take s.count.toNat).length = _
  rw [List.length_take, Vector.length_toList, Nat.min_eq_left s.count_le]

theorem slot_mod (s : CommLog) (i : Nat) : s.slot (i % commLogCapacity) = s.slot i := by
  unfold slot
  congr 2
  exact Nat.mod_mod _ _

theorem ring_slot {i : Nat} (h : i < s.count.toNat) : s.ring.slots[i]? = some (s.slot i) := by
  have hlt : i < commLogCapacity := Nat.lt_of_lt_of_le h s.count_le
  show (s.entries.toList.take s.count.toNat)[i]? = _
  rw [List.getElem?_take_of_lt h, List.getElem?_eq_getElem (by rwa [Vector.length_toList])]
  simp only [slot, Nat.mod_eq_of_lt hlt]
  rfl

/-- The `i`-th entry from the oldest, where the source looks for it. -/
theorem entries_slot {i : Nat} (h : i < s.count.toNat) :
    s.ring.entries[i]? = some (s.slot (s.oldest.toNat + i)) := by
  have hcap : commLogCapacity = 64 := rfl
  have hle := s.count_le
  have hnext := s.next_lt
  have hbase : s.oldest.toNat = (s.next.toNat + commLogCapacity - s.count.toNat) % commLogCapacity := by
    unfold oldest
    rw [UInt16.toNat_ofNat', hcap]
    omega
  rw [Ring.entries_getElem? s.ring (by rwa [ring_length]), ring_length]
  show s.ring.slots[(s.next.toNat + commLogCapacity - s.count.toNat + i) % commLogCapacity]? = _
  have hindex : (s.next.toNat + commLogCapacity - s.count.toNat + i) % commLogCapacity <
      s.count.toNat := by
    by_cases hroom : s.count.toNat < commLogCapacity
    · have hwrap : s.count.toNat + commLogCapacity - s.count.toNat + i = i + commLogCapacity := by
        omega
      rw [s.next_eq hroom, hwrap, Nat.add_mod_right, Nat.mod_eq_of_lt (by omega)]
      exact h
    · have hmod := Nat.mod_lt (s.next.toNat + commLogCapacity - s.count.toNat + i)
        (show 0 < commLogCapacity by decide)
      omega
  rw [ring_slot hindex, slot_mod, hbase, ← slot_mod s (_ % _ + i), Nat.mod_add_mod, slot_mod]

theorem copyCount_toNat {maxEntries : Int} (hmax : maxEntries ≤ 65535) :
    (s.copyCount maxEntries).toNat = min s.count.toNat maxEntries.toNat := by
  have hsize : (UInt16.ofNat maxEntries.toNat).toNat = maxEntries.toNat := by
    rw [UInt16.toNat_ofNat']
    omega
  unfold copyCount
  simp only
  split
  · rename_i hlt
    have hless := UInt16.lt_iff_toNat_lt.1 hlt
    omega
  · rename_i hge
    have hmore : ¬ s.count.toNat < (UInt16.ofNat maxEntries.toNat).toNat :=
      fun h => hge (UInt16.lt_iff_toNat_lt.2 h)
    omega

theorem snapshot_eq (hmutex : s.mutex = .free) {maxEntries : Int} (hpos : 1 ≤ maxEntries)
    (hmax : maxEntries ≤ 65535) :
    s.snapshot maxEntries = s.ring.entries.rtake maxEntries.toNat := by
  have hcopy := copyCount_toNat (s := s) hmax
  have hskip : (s.count - s.copyCount maxEntries).toNat =
      s.count.toNat - (s.copyCount maxEntries).toNat :=
    UInt16.toNat_sub_of_le _ _ (UInt16.le_iff_toNat_le.2 (by omega))
  have hstart : (UInt16.ofNat ((s.oldest.toNat + (s.count - s.copyCount maxEntries).toNat) %
      commLogCapacity)).toNat =
      (s.oldest.toNat + (s.count.toNat - (s.copyCount maxEntries).toNat)) % commLogCapacity := by
    rw [UInt16.toNat_ofNat', hskip]
    exact Nat.mod_eq_of_lt (Nat.lt_trans (Nat.mod_lt _ (by decide)) (by decide))
  have hchecks : ¬ (maxEntries ≤ 0 ∨ s.mutex ≠ .free) := by
    rintro (hzero | hlocked)
    · omega
    · exact hlocked hmutex
  have hfrom : s.count.toNat - maxEntries.toNat =
      s.count.toNat - (s.copyCount maxEntries).toNat := by omega
  unfold snapshot
  rw [if_neg hchecks]
  simp only [hstart]
  apply List.ext_getElem?
  intro i
  rw [List.rtake, List.getElem?_drop, Ring.entries_length, ring_length, List.getElem?_map, hfrom]
  by_cases hi : i < (s.copyCount maxEntries).toNat
  · rw [List.getElem?_range hi, entries_slot (by omega), Option.map_some, ← slot_mod,
      Nat.mod_add_mod, slot_mod, Nat.add_assoc]
  · rw [List.getElem?_eq_none (by rw [List.length_range]; omega),
      List.getElem?_eq_none (by rw [Ring.entries_length, ring_length]; omega)]
    rfl

/-- `modbus_comm_log_get` counts from the oldest entry. -/
theorem get_eq (hmutex : s.mutex = .free) {i : Nat} : s.get i = s.ring.entries[i]? := by
  have hcap : commLogCapacity = 64 := rfl
  have hle := s.count_le
  unfold get
  rw [if_neg (by rw [hmutex]; simp)]
  by_cases hi : i < s.count.toNat
  · have hindex : (UInt16.ofNat i).toNat = i := by
      rw [UInt16.toNat_ofNat']
      omega
    rw [if_pos (by omega), entries_slot hi, Int.toNat_natCast, hindex]
  · rw [if_neg (by omega), List.getElem?_eq_none (by rw [Ring.entries_length, ring_length]; omega)]

theorem get_neg {i : Int} (h : i < 0) : s.get i = none := if_pos (.inl h)

theorem ring_written (e : CommLogEntry) :
    (s.entries.toList.set s.next.toNat e).take s.nextCount.toNat =
      Ring.written (s.entries.toList.take s.count.toNat) commLogCapacity s.next.toNat e := by
  have hle := s.count_le
  have hsize : s.entries.toList.length = commLogCapacity := Vector.length_toList
  rw [nextCount_toNat, Ring.written, List.length_take, hsize, Nat.min_eq_left hle]
  split_ifs with hroom
  · have htake : (s.entries.toList.take s.count.toNat ++ [e]).length = s.count.toNat + 1 := by
      rw [List.length_append, List.length_take, List.length_singleton, hsize, Nat.min_eq_left hle]
    rw [s.next_eq hroom, Nat.min_eq_left hroom, List.set_eq_take_append_cons_drop,
      if_pos (by omega), List.append_cons, List.take_left' htake]
  · rw [Nat.min_eq_right (by omega), List.take_of_length_le (by rw [List.length_set]; omega),
      List.take_of_length_le (by omega)]

/-- **An addition is a push.** -/
theorem ring_add {created : Bool} {r : CommRecord} (h : (s.init created).mutex = .free) :
    (s.add created r).ring = (s.init created).ring.push (r.entry ((s.init created).sequence + 1)) := by
  unfold add
  simp only
  split
  · rename_i hlocked
    exact absurd h hlocked
  · ext1
    · show ((s.init created).entries.set _ _ (s.init created).next_lt).toList.take _ = _
      rw [Vector.toList_set]
      exact ring_written _
    · exact nextSlot_toNat _

theorem init_ring (created : Bool) : (s.init created).ring = s.ring := by
  unfold init
  split <;> rfl

theorem init_sequence (created : Bool) : (s.init created).sequence = s.sequence := by
  unfold init
  split <;> rfl

end CommLog

/-! ## Runs -/

/-- The log has what the history says. -/
structure Follows (h : CommHistory) (s : CommLog) : Prop where
  mutex : s.mutex = if h.ready then .free else .null
  sequence : s.sequence = UInt32.ofNat h.adds
  entries : s.ring.entries = h.sinceClear.rtake commLogCapacity
  unready : h.ready = false → h.sinceClear = []

namespace Follows

variable {h : CommHistory} {s : CommLog}

theorem boot : Follows .boot .boot := ⟨rfl, rfl, rfl, fun _ => rfl⟩

theorem init (hs : Follows h s) (created : Bool) :
    (s.init created).mutex = if h.ready || created then .free else .null := by
  have hmutex := hs.mutex
  unfold CommLog.init
  cases hready : h.ready <;> cases created <;> simp [hready] at hmutex ⊢ <;> simp [hmutex]

theorem step (hs : Follows h s) (op : CommLogOp) : Follows (h.step op) (s.step op) := by
  cases op with
  | add created r =>
    have hinit := hs.init created
    show Follows (if h.ready || created then _ else h) (s.add created r)
    by_cases hready : (h.ready || created) = true
    · rw [if_pos hready] at hinit ⊢
      have hnumber : (s.init created).sequence + 1 = UInt32.ofNat (h.adds + 1) := by
        rw [CommLog.init_sequence, hs.sequence, UInt32.ofNat_add]
        rfl
      have hadd : (s.add created r).mutex = .free ∧
          (s.add created r).sequence = (s.init created).sequence + 1 := by
        unfold CommLog.add
        simp only [hinit, ne_eq, not_true_eq_false, if_false, and_self]
      refine ⟨hadd.1, hadd.2.trans hnumber, ?_, fun hnot => by cases hnot⟩
      rw [CommLog.ring_add hinit, CommLog.init_ring, hnumber]
      exact Ring.entries_push_last hs.entries _
    · rw [if_neg hready] at hinit ⊢
      rw [Bool.not_eq_true, Bool.or_eq_false_iff] at hready
      have hsame : s.add created r = s := by
        unfold CommLog.add CommLog.init
        simp [hready.2, hs.mutex, hready.1]
      rwa [hsame]
  | clear created =>
    have hinit := hs.init created
    show Follows ⟨h.ready || created, h.adds, []⟩ (s.clear created)
    by_cases hready : (h.ready || created) = true
    · rw [if_pos hready] at hinit
      have hclear : (s.clear created).mutex = .free ∧
          (s.clear created).sequence = (s.init created).sequence ∧
          (s.clear created).ring.entries = [] := by
        unfold CommLog.clear
        simp only [hinit, ne_eq, not_true_eq_false, if_false, true_and]
        rfl
      refine ⟨?_, ?_, hclear.2.2, fun _ => rfl⟩
      · rw [hclear.1, if_pos hready]
      · rw [hclear.2.1, CommLog.init_sequence, hs.sequence]
    · rw [if_neg hready] at hinit
      rw [Bool.not_eq_true, Bool.or_eq_false_iff] at hready
      have hsame : s.clear created = s := by
        unfold CommLog.clear CommLog.init
        simp [hready.2, hs.mutex, hready.1]
      rw [hsame]
      refine ⟨?_, hs.sequence, ?_, fun _ => rfl⟩
      · rw [hs.mutex, hready.1, hready.2]
        rfl
      · rw [hs.entries, hs.unready hready.1]

theorem run (hs : Follows h s) (ops : List CommLogOp) :
    Follows (Lib.run CommHistory.step h ops) (Lib.run CommLog.step s ops) := by
  induction ops generalizing h s with
  | nil => exact hs
  | cons op ops ih => exact ih (hs.step op)

end Follows

/-- The numbers of the entries rise, up to that of the last addition. -/
structure Numbered (h : CommHistory) : Prop where
  rising : h.sinceClear.Pairwise fun x y => x.sequence < y.sequence
  upTo : ∀ e ∈ h.sinceClear, e.sequence.toNat ≤ h.adds

namespace Numbered

variable {h : CommHistory}

theorem step (hh : Numbered h) {op : CommLogOp} (hfew : (h.step op).adds < 2 ^ 32) :
    Numbered (h.step op) := by
  cases op with
  | clear created => exact ⟨.nil, by simp [CommHistory.step]⟩
  | add created r =>
    unfold CommHistory.step at hfew ⊢
    simp only at hfew ⊢
    split
    · rename_i hready
      rw [if_pos hready] at hfew
      have hnew : (UInt32.ofNat (h.adds + 1)).toNat = h.adds + 1 := by
        rw [UInt32.toNat_ofNat', Nat.mod_eq_of_lt hfew]
      constructor
      · refine List.pairwise_append.2 ⟨hh.rising, List.pairwise_singleton _ _, fun x hx y hy => ?_⟩
        obtain rfl := List.mem_singleton.1 hy
        have hle := hh.upTo x hx
        apply UInt32.lt_iff_toNat_lt.2
        show _ < (UInt32.ofNat (h.adds + 1)).toNat
        omega
      · intro x hx
        rcases List.mem_append.1 hx with hold | hlast
        · exact Nat.le_succ_of_le (hh.upTo x hold)
        · obtain rfl := List.mem_singleton.1 hlast
          exact Nat.le_of_eq hnew
    · exact hh

theorem adds_step (h : CommHistory) (op : CommLogOp) :
    (h.step op).adds ≤ h.adds + if op.isAdd then 1 else 0 := by
  cases op with
  | clear created => exact Nat.le_refl _
  | add created r =>
    unfold CommHistory.step
    simp only
    split
    · exact Nat.le_refl _
    · exact Nat.le_succ _

theorem run (hh : Numbered h) {ops : List CommLogOp}
    (hfew : h.adds + ops.countP CommLogOp.isAdd < 2 ^ 32) :
    Numbered (Lib.run CommHistory.step h ops) := by
  induction ops generalizing h with
  | nil => exact hh
  | cons op ops ih =>
    have hadds := adds_step h op
    rw [List.countP_cons] at hfew
    exact ih (hh.step (by omega)) (by omega)

end Numbered

theorem rtake_rtake {α : Type*} (l : List α) (m n : Nat) :
    (l.rtake m).rtake n = l.rtake (min n m) := by
  unfold List.rtake
  rw [List.drop_drop, List.length_drop]
  congr 1
  omega

theorem CommLog.after_entries (ops : List CommLogOp) :
    (∀ maxEntries : Int, 1 ≤ maxEntries → maxEntries ≤ 65535 →
      (after ops).snapshot maxEntries =
        (CommHistory.after ops).sinceClear.rtake (min maxEntries.toNat commLogCapacity)) ∧
      (∀ i : Nat, (after ops).get i =
        ((CommHistory.after ops).sinceClear.rtake commLogCapacity)[i]?) ∧
      (after ops).logCount = ((CommHistory.after ops).sinceClear.rtake commLogCapacity).length := by
  have hfollows : Follows (CommHistory.after ops) (after ops) := Follows.boot.run ops
  have hmutex := hfollows.mutex
  cases hready : (CommHistory.after ops).ready with
  | true =>
    rw [hready, if_pos rfl] at hmutex
    refine ⟨fun maxEntries hpos hmax => ?_, fun i => ?_, ?_⟩
    · rw [snapshot_eq hmutex hpos hmax, hfollows.entries, rtake_rtake]
    · rw [get_eq hmutex, hfollows.entries]
    · rw [← hfollows.entries, Ring.entries_length, ring_length]
      exact if_neg fun hlocked => hlocked hmutex
  | false =>
    rw [hready, if_neg Bool.false_ne_true] at hmutex
    have hlocked : (after ops).mutex ≠ .free := by
      rw [hmutex]
      decide
    rw [hfollows.unready hready]
    refine ⟨fun maxEntries hpos hmax => ?_, fun i => ?_, ?_⟩
    · rw [List.rtake_nil]
      exact if_pos (.inr hlocked)
    · rw [List.rtake_nil]
      exact if_pos (.inr hlocked)
    · rw [List.rtake_nil]
      exact if_pos hlocked

/-- **The log returns its newest entries in order.** -/
theorem comm_log_newest_run (ops : List CommLogOp) (maxEntries : Int) (hpos : 1 ≤ maxEntries)
    (hmax : maxEntries ≤ 65535) :
    (CommLog.after ops).snapshot maxEntries =
        (CommHistory.after ops).sinceClear.rtake (min maxEntries.toNat commLogCapacity) ∧
      (ops.countP CommLogOp.isAdd < 2 ^ 32 →
        ((CommLog.after ops).snapshot maxEntries).Pairwise fun x y => x.sequence < y.sequence) ∧
      (∀ i : Int, ((CommLog.after ops).get i).isSome = true ↔
        0 ≤ i ∧ i < (CommLog.after ops).logCount) ∧
      (∀ i : Nat, (CommLog.after ops).get i =
        ((CommLog.after ops).snapshot commLogCapacity)[i]?) := by
  obtain ⟨hsnapshot, hget, hcount⟩ := CommLog.after_entries ops
  have hfull : (CommLog.after ops).snapshot commLogCapacity =
      (CommHistory.after ops).sinceClear.rtake commLogCapacity :=
    hsnapshot commLogCapacity (by decide) (by decide)
  refine ⟨hsnapshot maxEntries hpos hmax, fun hfew => ?_, fun i => ?_, fun i => ?_⟩
  · have hnumbered : Numbered (CommHistory.after ops) := by
      have hboot : Numbered .boot := ⟨.nil, by simp [CommHistory.boot]⟩
      refine hboot.run ?_
      show 0 + _ < _
      omega
    rw [hsnapshot maxEntries hpos hmax]
    exact hnumbered.rising.sublist (List.drop_sublist _ _)
  · rw [hcount]
    cases i with
    | ofNat i =>
      show ((CommLog.after ops).get (i : Int)).isSome = true ↔ 0 ≤ (i : Int) ∧ (i : Int) < _
      rw [hget, isSome_getElem?]
      omega
    | negSucc i =>
      rw [CommLog.get_neg (Int.negSucc_lt_zero i)]
      have hneg := Int.negSucc_lt_zero i
      constructor
      · intro hnone
        cases hnone
      · rintro ⟨hge, -⟩
        omega
  · rw [hfull, hget]

def requestRecord : CommRecord :=
  ⟨.tx, 1, 3, 0, 2, .ok, .bytes [0x01, 0x03, 0x00, 0x00, 0x00, 0x02, 0xC4, 0x0B], 0, 1000⟩

/-- The last two of 66 additions. -/
theorem comm_log_newest_run_wrapped :
    ((CommLog.after (List.replicate 66 (.add true requestRecord))).snapshot 2).map
        CommLogEntry.sequence = [65, 66] ∧
      ((CommLog.after (List.replicate 66 (.add true requestRecord))).snapshot 2).Pairwise
        fun x y => x.sequence < y.sequence :=
  ⟨by decide +kernel,
    (comm_log_newest_run (List.replicate 66 (.add true requestRecord)) 2 (by decide)
      (by decide)).2.1 (by decide +kernel)⟩

end McpGateway.Modbus
