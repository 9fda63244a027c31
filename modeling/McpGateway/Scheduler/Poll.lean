import McpGateway.Amm.Table
import McpGateway.Modbus.Registers

/-!
# Polling one entry

The body of `modbus_poll_task` for the entry it selected: the read window, the
retries, and the result it queues. Which entry is due is left to the caller.
-/

namespace McpGateway.Scheduler

open McpGateway.Lib McpGateway.Tcm McpGateway.Amm McpGateway.Modbus

/-- `modbus_read_result_t`. -/
structure ModbusReadResult where
  sourceProtocol : SourceProtocol
  channelId : UInt8
  slaveId : UInt8
  functionCode : UInt8
  registerAddress : UInt16
  registerCount : Nat
  dataType : DataType
  rawValue : CFloat
  valueText : CBuf 32
  quality : QualityState
  valid : Bool
  deriving DecidableEq

/-- The registers one poll reads, and where the value stands among them. -/
structure PollWindow where
  start : UInt16
  count : Nat
  index : Nat
  deriving DecidableEq

/-- `read_start`, `read_count` and `value_index`: those of the entry, unless
they do not hold the value. -/
def pollWindow (e : AmmMappingEntry) : PollWindow :=
  let n := modbusRegisterCountForType e.dataType
  if windowHolds e n then
    ⟨e.readStartAddress, e.readRegisterCount.toNat, e.valueRegisterIndex.toNat⟩
  else ⟨e.registerAddress, n, 0⟩

/-- The protocol address `modbus_read_channel` gets. -/
def pollOffset (e : AmmMappingEntry) : UInt16 :=
  modbusRegisterOffset e.functionCode (pollWindow e).start

/-- `(uint8_t)(retry_count + 1U)`. -/
def pollAttempts (e : AmmMappingEntry) : Nat := (e.retryCount + 1).toNat

def pollRead (e : AmmMappingEntry) (answer : Nat → Option (List UInt16)) : Option (List UInt16) :=
  (List.range (pollAttempts e)).findSome? answer

/-- The number and the text that an entry makes of the registers read. -/
def decodeRead (e : AmmMappingEntry) (regs : List UInt16) : CFloat × CBuf 32 :=
  let regs := regs.drop (pollWindow e).index
  if e.dataType = .ascii then (.fin 0, .copy 32 (modbusDecodeAscii regs e.byteOrder 32))
  else (modbusConvertToNumber regs e.dataType e.byteOrder e.bitIndex, .empty)

/-- The result of a poll that read `regs`, or that no attempt answered. -/
def pollResult (e : AmmMappingEntry) (regs : Option (List UInt16)) : ModbusReadResult where
  sourceProtocol := e.sourceProtocol
  channelId := e.channelId
  slaveId := e.slaveId
  functionCode := e.functionCode
  registerAddress := e.registerAddress
  registerCount := modbusRegisterCountForType e.dataType
  dataType := e.dataType
  rawValue := match regs with
    | some regs => (decodeRead e regs).1
    | none => .fin 0
  valueText := match regs with
    | some regs => (decodeRead e regs).2
    | none => .empty
  quality := if regs.isSome then .good else .invalid
  valid := regs.isSome

def failedState (e : AmmMappingEntry) (nowMs : Int) (net : NetworkState) : TcmContext :=
  { TcmContext.zero with
    deviceId := e.deviceId
    pointId := e.pointId
    measurementName := e.measurementName
    unit := e.unit
    sourceProtocol := e.sourceProtocol
    channelId := e.channelId
    slaveId := e.slaveId
    functionCode := e.functionCode
    registerAddress := e.registerAddress
    dataType := e.dataType
    byteOrder := e.byteOrder
    scaleFactor := e.scaleFactor
    offset := e.offset
    mappingVersion := e.mappingVersion
    timestampMs := nowMs
    qualityState := .invalid
    networkState := net }

def ModbusReadResult.key (r : ModbusReadResult) : PhysicalKey :=
  ⟨r.sourceProtocol, r.channelId, r.slaveId, r.functionCode, r.registerAddress⟩

@[simp] theorem pollResult_key (e : AmmMappingEntry) (regs : Option (List UInt16)) :
    (pollResult e regs).key = e.key := rfl

@[simp] theorem pollResult_valid (e : AmmMappingEntry) (regs : Option (List UInt16)) :
    (pollResult e regs).valid = regs.isSome := rfl

end McpGateway.Scheduler
