import McpGateway.Lib.Ieee
import McpGateway.Lib.Words
import McpGateway.Tcm.Context

/-!
# Register values and addresses

The conversions of `modbus_access.c` between register words and numbers, and
`modbus_register_offset`, which turns a configured address into a protocol
address.
-/

namespace McpGateway.Modbus

open McpGateway.Lib McpGateway.Tcm

def modbusRegisterCountForType : DataType → Nat
  | .float32 | .int32 | .uint32 => 2
  | .float64 | .int64 | .uint64 => 4
  | _ => 1

/-- The word order and the byte order of a value; the swap loop reverses the words. -/
def reorder (order : ByteOrder) (words : List UInt16) : List UInt16 :=
  let words := if order = .cdab ∨ order = .dcba then words.reverse else words
  if order = .badc ∨ order = .dcba then words.map swapBytes else words

/-- `ordered_bits` of the first `count` registers. -/
def orderedBits (regs : List UInt16) (count : Nat) (order : ByteOrder) : Nat :=
  joinWords (reorder order (regs.take count))

/-- The `w`-bit two's complement value. -/
def signed (w n : Nat) : Int := if n % 2 ^ w < 2 ^ (w - 1) then n % 2 ^ w else n % 2 ^ w - 2 ^ w

def bcdValue (bits : Nat) : Nat :=
  bits / 4096 % 16 * 1000 + bits / 256 % 16 * 100 + bits / 16 % 16 * 10 + bits % 16

/-- `modbus_convert_to_number`; `regs` holds the registers of the type. -/
def modbusConvertToNumber (regs : List UInt16) (t : DataType) (order : ByteOrder)
    (bitIndex : UInt8) : CFloat :=
  let bits := orderedBits regs (modbusRegisterCountForType t) order
  match t with
  | .bool => .fin (if (regs.headD 0) ≠ 0 then 1 else 0)
  | .int16 => .fin (signed 16 bits)
  | .uint16 => .fin (bits % 2 ^ 16 : Nat)
  | .float32 => ieeeDecode 8 23 bits
  | .int32 => .fin (signed 32 bits)
  | .uint32 => .fin (bits % 2 ^ 32 : Nat)
  | .int64 => .fin (signed 64 bits)
  | .uint64 => .fin (bits % 2 ^ 64 : Nat)
  | .float64 => ieeeDecode 11 52 bits
  | .bcd16 => .fin (bcdValue bits)
  | .bitfield16 => .fin (bits % 2 ^ 16 / 2 ^ (bitIndex.toNat % 16) % 2 : Nat)
  | .ascii => .fin 0

/-- The loop of `modbus_decode_ascii`: up to `room` more characters. -/
def decodeAsciiLoop (order : ByteOrder) : List UInt16 → Nat → CStr
  | [], _ => []
  | w :: ws, room =>
    if room = 0 then []
    else
      let w := if order = .badc ∨ order = .dcba then swapBytes w else w
      let high := w.toNat / 256
      let low := w.toNat % 256
      if high = 0 then []
      else if low = 0 ∨ room = 1 then [Char.ofNat high]
      else Char.ofNat high :: Char.ofNat low :: decodeAsciiLoop order ws (room - 2)

/-- `modbus_decode_ascii` into a buffer of `n` bytes. -/
def modbusDecodeAscii (regs : List UInt16) (order : ByteOrder) (n : Nat) : CStr :=
  decodeAsciiLoop order regs (n - 1)

def modbusRegisterOffset (functionCode : UInt8) (address : UInt16) : UInt16 :=
  if functionCode = 1 ∧ 1 ≤ address ∧ address < 10001 then address - 1
  else if functionCode = 2 ∧ 10001 ≤ address ∧ address < 20001 then address - 10001
  else if (functionCode = 3 ∨ functionCode = 6 ∨ functionCode = 16) ∧ 40001 ≤ address then
    address - 40001
  else if functionCode = 4 ∧ 30001 ≤ address then address - 30001
  else address

/-! ## Orders -/

@[simp] theorem reorder_length (order : ByteOrder) (words : List UInt16) :
    (reorder order words).length = words.length := by
  cases order <;> simp [reorder]

theorem reorder_reorder (order : ByteOrder) (words : List UInt16) :
    reorder order (reorder order words) = words := by
  have hswap : swapBytes ∘ swapBytes = id := funext swapBytes_swapBytes
  cases order <;> simp [reorder, hswap]

/-- Reading back the words a number was split into. -/
theorem orderedBits_reorder (order : ByteOrder) (k n : Nat) :
    orderedBits (reorder order (splitWords k n)) k order = n % 65536 ^ k := by
  have htake : (reorder order (splitWords k n)).take k = reorder order (splitWords k n) :=
    List.take_of_length_le (by simp)
  rw [orderedBits, htake, reorder_reorder, joinWords_splitWords]

end McpGateway.Modbus
