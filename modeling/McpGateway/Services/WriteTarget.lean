import McpGateway.Scheduler.Poll
import McpGateway.Services.ControlService

/-!
# Where a point is read and where it is written

The poller translates the address of a window with the entry's own function
code, the control service the address of the point with a write function code.
`written_where_read_iff` says for which entries the two meet.
-/

namespace McpGateway.Services

open McpGateway.Lib McpGateway.Tcm McpGateway.Amm McpGateway.Modbus McpGateway.Scheduler

def readSpace (functionCode : UInt8) : ObjectType := .ofCode functionCode.toNat

def writtenSpace (functionCode : UInt8) : ObjectType :=
  if functionCode = 5 ∨ functionCode = 15 then .coil else .holdingRegister

def extractAddress (m : AmmMappingEntry) : Nat := (pollOffset m).toNat + (pollWindow m).index

/-- The write goes to the objects the poller takes the value from. -/
def WrittenWhereRead (m : AmmMappingEntry) (w : ModbusWrite) : Prop :=
  writtenSpace w.functionCode = readSpace m.functionCode ∧ w.address.toNat = extractAddress m

/-- A function code 1 to 4 with the object type that goes with it. -/
def ObjectMatches (m : AmmMappingEntry) : Prop :=
  1 ≤ m.functionCode ∧ m.functionCode ≤ 4 ∧ m.objectType.code = m.functionCode.toNat

instance (m : AmmMappingEntry) : Decidable (ObjectMatches m) :=
  inferInstanceAs (Decidable (_ ∧ _ ∧ _))

/-- The window that is polled has the point at its value index. -/
def WindowHasPoint (m : AmmMappingEntry) : Prop :=
  (pollWindow m).start.toNat + (pollWindow m).index = m.registerAddress.toNat

instance (m : AmmMappingEntry) : Decidable (WindowHasPoint m) :=
  inferInstanceAs (Decidable (_ = _))

/-- Some write can go through the entry: its names lead to it, its range is
not empty, and its type can be encoded. -/
def CanBeWritten (a : AmmTable) (m : AmmMappingEntry) : Prop :=
  ammFindMappingByPoint m.deviceId.str m.pointId.str a = some m ∧
    (∃ q, outOfRange (.fin q) m.constraint = false) ∧
    m.dataType ≠ .bitfield16 ∧ m.dataType ≠ .ascii

/-- A holding register whose window does not run from raw offsets into logical
addresses, or a coil whose window starts at 0 or beyond the logical addresses. -/
def AddressesAgree (m : AmmMappingEntry) : Prop :=
  m.functionCode = 3 ∧ ¬ ((pollWindow m).start < 40001 ∧ 40001 ≤ m.registerAddress) ∨
    m.functionCode = 1 ∧ ((pollWindow m).start = 0 ∨ 10001 ≤ (pollWindow m).start)

/-! ## Function codes -/

theorem functionCode_cases {m : AmmMappingEntry} (h : ObjectMatches m) :
    m.functionCode = 1 ∨ m.functionCode = 2 ∨ m.functionCode = 3 ∨ m.functionCode = 4 := by
  obtain ⟨h1, h4, -⟩ := h
  have hlow := UInt8.le_iff_toNat_le.1 h1
  have hhigh := UInt8.le_iff_toNat_le.1 h4
  simp only [← UInt8.toNat_inj]
  simp at hlow hhigh ⊢
  omega

theorem isCoil_iff {m : AmmMappingEntry} (h : ObjectMatches m) :
    isCoil m = true ↔ m.functionCode = 1 := by
  rw [isCoil, decide_eq_true_iff, h.2.2, ← UInt8.toNat_inj]
  rfl

theorem writtenSpace_write (m : AmmMappingEntry) (words : List UInt16) :
    writtenSpace (writeFunctionCode m words) = if isCoil m then .coil else .holdingRegister := by
  unfold writtenSpace writeFunctionCode
  split_ifs <;> simp_all

theorem offset_write (m : AmmMappingEntry) (words : List UInt16) (address : UInt16) :
    modbusRegisterOffset (writeFunctionCode m words) address =
      if isCoil m = false ∧ 40001 ≤ address then address - 40001 else address := by
  unfold modbusRegisterOffset writeFunctionCode
  cases isCoil m <;> by_cases hl : words.length = 1 <;> simp [hl]

theorem sub_toNat {a b : UInt16} (h : b ≤ a) : (a - b).toNat = a.toNat - b.toNat :=
  UInt16.toNat_sub_of_le a b h

theorem offset_holding (address : UInt16) : (modbusRegisterOffset 3 address).toNat =
    if 40001 ≤ address.toNat then address.toNat - 40001 else address.toNat := by
  have hiff : (40001 : UInt16) ≤ address ↔ 40001 ≤ address.toNat := UInt16.le_iff_toNat_le
  by_cases h : (40001 : UInt16) ≤ address
  · rw [if_pos (hiff.1 h)]
    simp [modbusRegisterOffset, h]
  · rw [if_neg (fun h' => h (hiff.2 h'))]
    simp [modbusRegisterOffset, h]

theorem offset_coil (address : UInt16) : (modbusRegisterOffset 1 address).toNat =
    if 1 ≤ address.toNat ∧ address.toNat < 10001 then address.toNat - 1 else address.toNat := by
  have hiff : (1 ≤ address ∧ address < 10001) ↔ (1 ≤ address.toNat ∧ address.toNat < 10001) := by
    rw [UInt16.le_iff_toNat_le, UInt16.lt_iff_toNat_lt]
    rfl
  by_cases h : 1 ≤ address ∧ address < 10001
  · rw [if_pos (hiff.1 h)]
    simp [modbusRegisterOffset, h, sub_toNat h.1]
  · rw [if_neg (fun h' => h (hiff.2 h'))]
    simp [modbusRegisterOffset, h]

/-- A write through an entry whose window has the point lands where the point
is read exactly when the addresses agree. -/
theorem writeOf_written_iff {m : AmmMappingEntry} (words : List UInt16) (hobj : ObjectMatches m)
    (hwin : WindowHasPoint m) : WrittenWhereRead m (writeOf m words) ↔ AddressesAgree m := by
  have hcoil := isCoil_iff hobj
  have hadd : (pollWindow m).start.toNat + (pollWindow m).index = m.registerAddress.toNat := hwin
  have hstart := (pollWindow m).start.toNat_lt
  simp only [WrittenWhereRead, writeOf, writtenSpace_write, offset_write, extractAddress,
    pollOffset, AddressesAgree]
  rcases functionCode_cases hobj with hfc | hfc | hfc | hfc
  · -- A coil is read one lower in the logical range and never written there.
    rw [if_pos (hcoil.2 hfc), if_neg (by simp [hcoil.2 hfc]), hfc, offset_coil]
    have hzero : (pollWindow m).start = 0 ↔ (pollWindow m).start.toNat = 0 := by
      rw [← UInt16.toNat_inj]
      rfl
    have hbeyond : 10001 ≤ (pollWindow m).start ↔ 10001 ≤ (pollWindow m).start.toNat :=
      UInt16.le_iff_toNat_le
    simp only [hzero, hbeyond]
    simp only [readSpace, ObjectType.ofCode]
    simp
    split <;> omega
  · rw [if_neg (by simp [hcoil, hfc]), hfc]
    simp [readSpace, ObjectType.ofCode]
  · have hno : isCoil m = false := by
      rw [Bool.eq_false_iff, ne_eq, hcoil, hfc]
      decide
    have hreg : (40001 : UInt16) ≤ m.registerAddress ↔ 40001 ≤ m.registerAddress.toNat :=
      UInt16.le_iff_toNat_le
    have hlow : (pollWindow m).start < 40001 ↔ (pollWindow m).start.toNat < 40001 :=
      UInt16.lt_iff_toNat_lt
    have hwrite : (if isCoil m = false ∧ 40001 ≤ m.registerAddress then m.registerAddress - 40001
        else m.registerAddress).toNat = if 40001 ≤ m.registerAddress.toNat then
          m.registerAddress.toNat - 40001 else m.registerAddress.toNat := by
      simp only [hno, true_and]
      split <;> rename_i h
      · rw [if_pos (hreg.1 h), sub_toNat h]
        rfl
      · rw [if_neg (fun h' => h (hreg.2 h'))]
    rw [hwrite, hno, hfc, offset_holding, hreg, hlow]
    simp [readSpace, ObjectType.ofCode]
    split <;> split <;> omega
  · rw [if_neg (by simp [hcoil, hfc]), hfc]
    simp [readSpace, ObjectType.ofCode]

/-! ## Sent writes -/

theorem names_of_found {a : AmmTable} {deviceId pointId : CStr} {m : AmmMappingEntry}
    (h : ammFindMappingByPoint deviceId pointId a = some m) :
    m.deviceId.str = deviceId ∧ m.pointId.str = pointId := by
  have hnames : m.names = (deviceId, pointId) := by simpa using List.find?_some h
  exact Prod.mk.inj hnames

/-- **A point is written where it is read.** For every table and every writable
entry with a matching object type and a window that has the point, each write
sent through the entry lands where the poller takes the value from exactly when
the addresses agree or nothing can be written. -/
theorem written_where_read_iff {a : AmmTable} {m : AmmMappingEntry}
    (hwritable : m.constraint.writable = true) (hobj : ObjectMatches m)
    (hwin : WindowHasPoint m) :
    (∀ env deviceId pointId v source answer w,
      ammFindMappingByPoint deviceId pointId a = some m →
      (controlServiceWritePoint env a deviceId pointId v source answer).2 = some w →
        WrittenWhereRead m w) ↔
      (CanBeWritten a m → AddressesAgree m) := by
  constructor
  · rintro h ⟨hfind, ⟨q, hrange⟩, hbits, hascii⟩
    let env : ControlEnv := ⟨false, fun _ => 0⟩
    have hwords : encodeValue env (.fin q) m ≠ [] := by
      rw [ne_eq, encodeValue_eq_nil_iff]
      exact fun h => h.elim hbits hascii
    have hcheck : checkWrite env a m.deviceId.str m.pointId.str (.fin q) .mqtt =
        .ok (m, encodeValue env (.fin q) m) :=
      checkWrite_ok.2 ⟨rfl, rfl, hfind, hwritable, hrange, hwords, rfl⟩
    have hsent : (controlServiceWritePoint env a m.deviceId.str m.pointId.str (.fin q) .mqtt
        .ok).2 = some (writeOf m (encodeValue env (.fin q) m)) :=
      controlServiceWritePoint_sent.2 ⟨m, _, hcheck, rfl⟩
    exact (writeOf_written_iff _ hobj hwin).1 (h env _ _ _ _ _ _ hfind hsent)
  · intro h env deviceId pointId v source answer w hfind hsent
    obtain ⟨m', words, hcheck, rfl⟩ := controlServiceWritePoint_sent.1 hsent
    obtain ⟨hfin, -, hfind', -, hrange, hne, rfl⟩ := checkWrite_ok.1 hcheck
    obtain rfl : m = m' := Option.some.inj (hfind.symm.trans hfind')
    obtain ⟨q, rfl⟩ := CFloat.isFinite_iff.1 hfin
    rw [writeOf_written_iff _ hobj hwin]
    obtain ⟨rfl, rfl⟩ := names_of_found hfind
    rw [ne_eq, encodeValue_eq_nil_iff, not_or] at hne
    exact h ⟨hfind, ⟨q, hrange⟩, hne.1, hne.2⟩

/-- The holding register 40001 of slave 5, as the table stores it. -/
def speedRegister : AmmMappingEntry :=
  (AmmTable.empty 1000).stored { AmmMappingEntry.zero with
    slaveId := 5
    functionCode := 3
    registerAddress := 40001
    dataType := .uint16
    scaleFactor := .fin 1
    deviceId := .copy 32 "d".toList
    pointId := .copy 32 "speed".toList
    constraint := { writable := true, validRangeMin := .fin 0, validRangeMax := .fin 100 } }

theorem speed_written_where_read : speedRegister.constraint.writable = true ∧
    ObjectMatches speedRegister ∧ WindowHasPoint speedRegister ∧
    (∀ env deviceId pointId v source answer w,
      ammFindMappingByPoint deviceId pointId
        { AmmTable.empty 1000 with table := [speedRegister] } = some speedRegister →
      (controlServiceWritePoint env { AmmTable.empty 1000 with table := [speedRegister] }
        deviceId pointId v source answer).2 = some w → WrittenWhereRead speedRegister w) :=
  ⟨by decide +kernel, by decide +kernel, by decide +kernel,
    (written_where_read_iff (by decide +kernel) (by decide +kernel) (by decide +kernel)).2
      fun _ => .inl (by decide +kernel)⟩

/-! ## A coil in the logical range -/

/-- The coil with the logical address 1 of slave 5, as a caller adds it. -/
def pumpCoil : AmmMappingEntry :=
  { AmmMappingEntry.zero with
    slaveId := 5
    functionCode := 1
    registerAddress := 1
    dataType := .bool
    objectType := .coil
    scaleFactor := .fin 1
    deviceId := .copy 32 "d".toList
    pointId := .copy 32 "pump".toList
    constraint := { writable := true, validRangeMin := .fin 0, validRangeMax := .fin 1 } }

def pumpTable : AmmTable := (ammAddMapping .ok pumpCoil (.empty 1000)).2

def storedPump : AmmMappingEntry := (AmmTable.empty 1000).stored pumpCoil

/-- The coil is read at protocol address 0 and written at 1. -/
theorem pump_written_elsewhere : Reachable pumpTable ∧ storedPump ∈ pumpTable.entries ∧
    storedPump.constraint.writable = true ∧ ObjectMatches storedPump ∧
    WindowHasPoint storedPump ∧
    ¬ (∀ env deviceId pointId v source answer w,
        ammFindMappingByPoint deviceId pointId pumpTable = some storedPump →
        (controlServiceWritePoint env pumpTable deviceId pointId v source answer).2 = some w →
          WrittenWhereRead storedPump w) := by
  refine ⟨.add _ _ (.empty _), by decide +kernel, by decide +kernel, by decide +kernel,
    by decide +kernel, fun h => ?_⟩
  have hsent : (controlServiceWritePoint ⟨false, fun _ => 0⟩ pumpTable "d".toList "pump".toList
      (.fin 1) .mqtt .ok).2 = some ⟨.modbusRtu, 0, 5, 5, 1, [1]⟩ := by decide +kernel
  obtain ⟨-, haddr⟩ := h _ _ _ _ _ _ _ (by decide +kernel) hsent
  exact absurd haddr (by decide +kernel)

end McpGateway.Services
