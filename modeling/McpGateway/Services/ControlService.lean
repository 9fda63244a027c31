import McpGateway.Amm.Table
import McpGateway.Modbus.Registers

/-!
# The control service

`control_service.c`: every write to a point goes through
`control_service_write_point`, which finds the mapping by its names, checks
the value and encodes it into register words.
-/

namespace McpGateway.Services

open McpGateway.Lib McpGateway.Tcm McpGateway.Amm McpGateway.Modbus

inductive ControlSource
  | mqtt
  | restApi
  | mcp
  | automation
  | localUi
  deriving DecidableEq, Repr

/-- `control_result_t`. -/
structure ControlResult where
  status : EspErr
  reason : CBuf 128
  source : ControlSource
  deriving DecidableEq

/-- The arguments of a `modbus_write_channel` call. -/
structure ModbusWrite where
  protocol : SourceProtocol
  channelId : UInt8
  slaveId : UInt8
  functionCode : UInt8
  address : UInt16
  words : List UInt16
  deriving DecidableEq

/-- The MCP write switch, and the results of `llround` that the C standard
leaves open. -/
structure ControlEnv where
  mcpWriteEnabled : Bool
  llroundRest : CFloat → Int64

def controlSourceMayWrite (env : ControlEnv) (source : ControlSource) : Bool :=
  if source ≠ .mcp then true else env.mcpWriteEnabled

/-! ## Encoding -/

def rawOf (v : CFloat) (m : AmmMappingEntry) : CFloat :=
  (v.sub m.offset).div (if m.scaleFactor = .fin 0 then .fin 1 else m.scaleFactor)

/-- The low `w` bits of an integer. -/
def lowBits (w : Nat) (n : Int) : Nat := (n % 2 ^ w).toNat

def bcdWord (n : Nat) : UInt16 :=
  UInt16.ofNat (n / 1000 % 10 * 4096 + n / 100 % 10 * 256 + n / 10 % 10 * 16 + n % 10)

/-- `encode_value`: the words, none for an unsupported type. Values of one word
are returned before the byte order is looked at. -/
def encodeValue (env : ControlEnv) (v : CFloat) (m : AmmMappingEntry) : List UInt16 :=
  let raw := rawOf v m
  let rounded := llround env.llroundRest raw
  match m.dataType with
  | .int16 | .uint16 => [UInt16.ofNat (lowBits 16 rounded)]
  | .bool => [if raw.ne0 then 1 else 0]
  | .bcd16 => [bcdWord (lowBits 16 rounded)]
  | .float32 => reorder m.byteOrder (splitWords 2 (ieeeEncode 8 23 raw))
  | .int32 | .uint32 => reorder m.byteOrder (splitWords 2 (lowBits 32 rounded))
  | .float64 => reorder m.byteOrder (splitWords 4 (ieeeEncode 11 52 raw))
  | .int64 | .uint64 => reorder m.byteOrder (splitWords 4 (lowBits 64 rounded))
  | .bitfield16 | .ascii => []

/-! ## Writing a point -/

/-- `mapping.object_type == MODBUS_OBJECT_COIL`. -/
def isCoil (m : AmmMappingEntry) : Bool := decide (m.objectType.code = 1)

def writeFunctionCode (m : AmmMappingEntry) (words : List UInt16) : UInt8 :=
  if isCoil m then if words.length = 1 then 5 else 15
  else if words.length = 1 then 6 else 16

def writeOf (m : AmmMappingEntry) (words : List UInt16) : ModbusWrite where
  protocol := m.sourceProtocol
  channelId := m.channelId
  slaveId := m.slaveId
  functionCode := writeFunctionCode m words
  address := modbusRegisterOffset (writeFunctionCode m words) m.registerAddress
  words := words

/-- `engineering_value` outside the range of a constraint. -/
def outOfRange (v : CFloat) (c : ControlConstraint) : Bool :=
  v.lt c.validRangeMin || c.validRangeMax.lt v

def reject (source : ControlSource) (status : EspErr) (reason : String) : ControlResult where
  status := status
  reason := .copy 128 reason.toList
  source := source

/-- The checks of `control_service_write_point`: the mapping and the words to
write, or the rejection. -/
def checkWrite (env : ControlEnv) (a : AmmTable) (deviceId pointId : CStr) (v : CFloat)
    (source : ControlSource) : Except ControlResult (AmmMappingEntry × List UInt16) :=
  if v.isFinite = false then .error (reject source .invalidArg "invalid target or value")
  else if controlSourceMayWrite env source = false then
    .error (reject source .notAllowed "writes from this source are not permitted")
  else match ammFindMappingByPoint deviceId pointId a with
    | none => .error (reject source .notFound "semantic point not found")
    | some m =>
      if m.constraint.writable = false then
        .error (reject source .notAllowed "point is read-only")
      else if outOfRange v m.constraint then
        .error (reject source .invalidArg "value outside AMM safety range")
      else if encodeValue env v m = [] then
        .error (reject source .notSupported "unsupported data type")
      else .ok (m, encodeValue env v m)

/-- `control_service_write_point`: its result and the write it sends;
`answer` is what the Modbus layer returns for it. -/
def controlServiceWritePoint (env : ControlEnv) (a : AmmTable) (deviceId pointId : CStr)
    (v : CFloat) (source : ControlSource) (answer : EspErr) :
    ControlResult × Option ModbusWrite :=
  match checkWrite env a deviceId pointId v source with
  | .error r => (r, none)
  | .ok (m, words) =>
    if answer ≠ .ok then
      ({ status := answer
         reason := .copy 128 (strlcpy 96 ("Modbus write failed: ".toList ++ answer.name))
         source := source }, some (writeOf m words))
    else
      ({ status := .ok, reason := .copy 128 "write accepted".toList, source := source },
        some (writeOf m words))

/-! ## What is sent -/

theorem encodeValue_eq_nil_iff {env : ControlEnv} {v : CFloat} {m : AmmMappingEntry} :
    encodeValue env v m = [] ↔ m.dataType = .bitfield16 ∨ m.dataType = .ascii := by
  have hne : ∀ {ws : List UInt16}, 0 < ws.length → ws ≠ [] := List.ne_nil_of_length_pos
  unfold encodeValue
  cases m.dataType <;> simp [hne]

section Sent

variable {env : ControlEnv} {a : AmmTable} {deviceId pointId : CStr} {v : CFloat}
  {source : ControlSource} {answer : EspErr}

theorem checkWrite_ok {m : AmmMappingEntry} {words : List UInt16} :
    checkWrite env a deviceId pointId v source = .ok (m, words) ↔
      v.isFinite = true ∧ controlSourceMayWrite env source = true ∧
        ammFindMappingByPoint deviceId pointId a = some m ∧ m.constraint.writable = true ∧
        outOfRange v m.constraint = false ∧ encodeValue env v m ≠ [] ∧
        words = encodeValue env v m := by
  unfold checkWrite
  cases hv : v.isFinite with
  | false => simp
  | true =>
    cases hs : controlSourceMayWrite env source with
    | false => simp
    | true =>
      cases hf : ammFindMappingByPoint deviceId pointId a with
      | none => simp
      | some m' =>
        cases hw : m'.constraint.writable with
        | false =>
          simp only [Bool.true_eq_false, if_false, if_true, reduceCtorEq, hw, Option.some.injEq,
            true_and, false_iff]
          rintro ⟨rfl, h, -⟩
          rw [hw] at h
          cases h
        | true =>
          cases ho : outOfRange v m'.constraint with
          | true =>
            simp only [Bool.true_eq_false, if_false, if_true, reduceCtorEq, hw, ho,
              Option.some.injEq, true_and, false_iff]
            rintro ⟨rfl, -, h, -⟩
            rw [ho] at h
            cases h
          | false =>
            by_cases he : encodeValue env v m' = []
            · simp only [Bool.true_eq_false, Bool.false_eq_true, if_false, if_true, reduceCtorEq,
                hw, ho, he, Option.some.injEq, true_and, false_iff]
              rintro ⟨rfl, -, -, h, -⟩
              exact h he
            · simp only [Bool.true_eq_false, Bool.false_eq_true, if_false, hw, ho, he,
                Option.some.injEq, true_and, Except.ok.injEq, Prod.mk.injEq]
              constructor
              · rintro ⟨rfl, rfl⟩
                exact ⟨rfl, hw, ho, he, rfl⟩
              · rintro ⟨rfl, -, -, -, rfl⟩
                exact ⟨rfl, rfl⟩

theorem checkWrite_error {r : ControlResult}
    (h : checkWrite env a deviceId pointId v source = .error r) : r.status ≠ .ok := by
  have hreject : ∀ {status : EspErr} {reason : String}, status ≠ .ok →
      (.error (reject source status reason) :
        Except ControlResult (AmmMappingEntry × List UInt16)) = .error r → r.status ≠ .ok := by
    rintro status reason hne ⟨⟩
    exact hne
  unfold checkWrite at h
  split at h
  · exact hreject (by decide) h
  · split at h
    · exact hreject (by decide) h
    · split at h
      · exact hreject (by decide) h
      · split at h
        · exact hreject (by decide) h
        · split at h
          · exact hreject (by decide) h
          · split at h
            · exact hreject (by decide) h
            · cases h

theorem not_ok_of_not_sent
    (h : (controlServiceWritePoint env a deviceId pointId v source answer).2 = none) :
    (controlServiceWritePoint env a deviceId pointId v source answer).1.status ≠ .ok := by
  unfold controlServiceWritePoint at h ⊢
  cases hc : checkWrite env a deviceId pointId v source with
  | error r => exact checkWrite_error hc
  | ok p =>
    rw [hc] at h
    simp only at h
    split at h <;> cases h

theorem controlServiceWritePoint_sent {w : ModbusWrite} :
    (controlServiceWritePoint env a deviceId pointId v source answer).2 = some w ↔
      ∃ m words, checkWrite env a deviceId pointId v source = .ok (m, words) ∧
        w = writeOf m words := by
  unfold controlServiceWritePoint
  cases h : checkWrite env a deviceId pointId v source with
  | error r => simp
  | ok p =>
    obtain ⟨m, words⟩ := p
    simp only [Except.ok.injEq, Prod.mk.injEq]
    constructor
    · intro hw
      refine ⟨m, words, ⟨rfl, rfl⟩, ?_⟩
      split at hw <;> exact (Option.some.inj hw).symm
    · rintro ⟨m', words', ⟨rfl, rfl⟩, rfl⟩
      split <;> rfl

end Sent

end McpGateway.Services
