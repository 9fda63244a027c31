import McpGateway.Lib.Crc
import McpGateway.Lib.Octets

/-!
# RTU frames

The frames that `modbus_access.c` writes into the communication log, with the check
bytes they carry on the line. `rtu_frames_pass` says that a receiver that runs the check
over a whole frame gets zero.
-/

namespace McpGateway.Modbus

open McpGateway.Lib

/-- One bit of `modbus_rtu_crc16`. -/
def rtuCrcBit (crc : UInt16) : UInt16 :=
  if crc &&& 1 ≠ 0 then crc >>> 1 ^^^ 0xA001 else crc >>> 1

def modbusRtuCrc16 (data : List UInt8) : UInt16 :=
  data.foldl (fun crc byte => rtuCrcBit^[8] (crc ^^^ byte.toUInt16)) 0xFFFF

/-- `append_rtu_crc`, on the bytes of the frame so far. -/
def appendRtuCrc (payload : List UInt8) : List UInt8 :=
  let crc := modbusRtuCrc16 payload
  payload ++ [lowByte crc, highByte crc]

def buildRtuReadRequest (slaveId functionCode : UInt8) (regAddr regCount : UInt16) : List UInt8 :=
  appendRtuCrc [slaveId, functionCode, highByte regAddr, lowByte regAddr, highByte regCount,
    lowByte regCount]

/-- The first `count` values, high byte first; `none` when they are read past their end. -/
def frameValues (values : List UInt16) (count : Nat) : Option (List UInt8) :=
  if count ≤ values.length then some (wordBytes (values.take count)) else none

def buildRtuReadResponse (slaveId functionCode : UInt8) (values : List UInt16)
    (regCount : UInt16) : Option (List UInt8) := do
  let data ← frameValues values regCount.toNat
  some (appendRtuCrc (slaveId :: functionCode :: UInt8.ofNat (regCount.toNat * 2) :: data))

/-- `build_rtu_write_request`; function 6 writes the first value only. -/
def buildRtuWriteRequest (slaveId functionCode : UInt8) (regAddr regCount : UInt16)
    (values : List UInt16) : Option (List UInt8) :=
  if functionCode = 6 then do
    let data ← frameValues values 1
    some (appendRtuCrc (slaveId :: functionCode :: highByte regAddr :: lowByte regAddr :: data))
  else do
    let data ← frameValues values regCount.toNat
    some (appendRtuCrc (slaveId :: functionCode :: highByte regAddr :: lowByte regAddr ::
      highByte regCount :: lowByte regCount :: UInt8.ofNat (regCount.toNat * 2) :: data))

example : buildRtuReadRequest 1 3 0 10 = [0x01, 0x03, 0x00, 0x00, 0x00, 0x0A, 0xC5, 0xCD] := by
  decide +kernel

/-! ## The check register -/

theorem rtuCrcBit_toBitVec (crc : UInt16) :
    (rtuCrcBit crc).toBitVec = Crc.shift 0xA001 crc.toBitVec := by
  have hlow : crc &&& 1 ≠ 0 ↔ crc.toBitVec.getLsbD 0 = true := by
    rw [Ne, ← UInt16.toBitVec_inj, UInt16.toBitVec_and]
    show ¬ crc.toBitVec &&& 1#16 = 0#16 ↔ _
    rw [BitVec.and_one_eq_setWidth_ofBool_getLsbD]
    cases crc.toBitVec.getLsbD 0 <;> decide
  unfold rtuCrcBit Crc.shift
  simp only [hlow]
  split <;> simp

theorem rtuCrcBits_toBitVec (n : Nat) (crc : UInt16) :
    (rtuCrcBit^[n] crc).toBitVec = (Crc.shift 0xA001)^[n] crc.toBitVec := by
  induction n generalizing crc with
  | zero => rfl
  | succ n ih => rw [Function.iterate_succ_apply, Function.iterate_succ_apply, ih,
      rtuCrcBit_toBitVec]

theorem modbusRtuCrc16_toBitVec (data : List UInt8) :
    (modbusRtuCrc16 data).toBitVec = Crc.feed 0xA001 0xFFFF (data.map UInt8.toBitVec) := by
  unfold modbusRtuCrc16 Crc.feed
  rw [List.foldl_map]
  refine (List.foldl_hom UInt16.toBitVec fun crc byte => ?_).symm
  rw [rtuCrcBits_toBitVec, UInt16.toBitVec_xor, UInt8.toBitVec_toUInt16]
  rfl

theorem check_bytes (crc : UInt16) :
    [lowByte crc, highByte crc].map UInt8.toBitVec = Crc.lowBytes 2 crc.toBitVec := by
  unfold lowByte highByte Crc.lowBytes Crc.lowBytes Crc.lowBytes
  simp

theorem modbusRtuCrc16_appendRtuCrc (payload : List UInt8) :
    modbusRtuCrc16 (appendRtuCrc payload) = 0 := by
  apply UInt16.toBitVec_inj.1
  unfold appendRtuCrc
  rw [modbusRtuCrc16_toBitVec, List.map_append, check_bytes, modbusRtuCrc16_toBitVec]
  exact Crc.feed_residue _ _ _ (by decide)

/-! ## The frames -/

theorem buildRtuReadResponse_payload {slaveId functionCode : UInt8} {values : List UInt16}
    {regCount : UInt16} {frame : List UInt8}
    (h : buildRtuReadResponse slaveId functionCode values regCount = some frame) :
    ∃ payload, frame = appendRtuCrc payload := by
  obtain ⟨data, -, hframe⟩ := Option.bind_eq_some_iff.1 h
  exact ⟨_, (Option.some.inj hframe).symm⟩

theorem buildRtuWriteRequest_payload {slaveId functionCode : UInt8} {regAddr regCount : UInt16}
    {values : List UInt16} {frame : List UInt8}
    (h : buildRtuWriteRequest slaveId functionCode regAddr regCount values = some frame) :
    ∃ payload, frame = appendRtuCrc payload := by
  unfold buildRtuWriteRequest at h
  split at h
  · obtain ⟨data, -, hframe⟩ := Option.bind_eq_some_iff.1 h
    exact ⟨_, (Option.some.inj hframe).symm⟩
  · obtain ⟨data, -, hframe⟩ := Option.bind_eq_some_iff.1 h
    exact ⟨_, (Option.some.inj hframe).symm⟩

/-- **The check over a whole frame is zero**, for every payload and for every frame that
is built. -/
theorem rtu_frames_pass :
    (∀ payload, modbusRtuCrc16 (appendRtuCrc payload) = 0) ∧
    (∀ slaveId functionCode regAddr regCount,
      modbusRtuCrc16 (buildRtuReadRequest slaveId functionCode regAddr regCount) = 0) ∧
    (∀ slaveId functionCode values regCount frame,
      buildRtuReadResponse slaveId functionCode values regCount = some frame →
        modbusRtuCrc16 frame = 0) ∧
    (∀ slaveId functionCode regAddr regCount values frame,
      buildRtuWriteRequest slaveId functionCode regAddr regCount values = some frame →
        modbusRtuCrc16 frame = 0) := by
  refine ⟨modbusRtuCrc16_appendRtuCrc, ?_, ?_, ?_⟩
  · intro slaveId functionCode regAddr regCount
    exact modbusRtuCrc16_appendRtuCrc _
  · intro slaveId functionCode values regCount frame h
    obtain ⟨payload, rfl⟩ := buildRtuReadResponse_payload h
    exact modbusRtuCrc16_appendRtuCrc payload
  · intro slaveId functionCode regAddr regCount values frame h
    obtain ⟨payload, rfl⟩ := buildRtuWriteRequest_payload h
    exact modbusRtuCrc16_appendRtuCrc payload

theorem rtu_frames_pass_write :
    modbusRtuCrc16 [0x01, 0x10, 0x00, 0x01, 0x00, 0x02, 0x04, 0x00, 0x0A, 0x01, 0x02, 0x92,
      0x30] = 0 :=
  rtu_frames_pass.2.2.2 0x01 0x10 1 2 [0x000A, 0x0102] _ (by decide +kernel)

end McpGateway.Modbus
