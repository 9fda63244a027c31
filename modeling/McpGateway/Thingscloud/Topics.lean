import McpGateway.Config

/-!
# ThingsCloud topics and sub-device addresses

`thingscloud_topics.h` and `thingscloud_topics.c`: the topics the gateway
publishes on, and the address `"{slave}"` or `"rs485_{channel}_{slave}"` of a
sub-device. `parseDeviceAddress` scans with `sscanf`; the memory behind the
terminator of its argument is an argument of its own, because the address
`"rs485_"` makes it read there.
-/

namespace McpGateway.Thingscloud

open McpGateway.Lib

inductive TcTopic
  | attributes
  | gatewayAttributes
  | gatewayConnect
  | gatewayDisconnect
  | gatewayCommandReply
  deriving DecidableEq, Repr

def TcTopic.name : TcTopic → CStr
  | .attributes => "attributes".toList
  | .gatewayAttributes => "gateway/attributes".toList
  | .gatewayConnect => "gateway/connect".toList
  | .gatewayDisconnect => "gateway/disconnect".toList
  | .gatewayCommandReply => "gateway/command/reply".toList

def deviceAddress (channelId slaveId : UInt8) : CStr :=
  if channelId = 0 then printDecimal slaveId.toNat
  else "rs485_".toList ++ printDecimal channelId.toNat ++ '_' :: printDecimal slaveId.toNat

/-- `thingscloud_format_device_address` into a buffer of `n` bytes: its result
(`none` for -1) and the buffer. -/
def formatDeviceAddress (channelId slaveId : UInt8) (n : Nat) : Option Nat × CStr :=
  let s := deviceAddress channelId slaveId
  (if s.length ≥ n then none else some s.length, strlcpy n s)

theorem printDecimal_byte (b : UInt8) :
    printDecimal b.toNat ≠ [] ∧ (printDecimal b.toNat).length ≤ 3 := by
  have h : ∀ n : Fin 256, printDecimal n ≠ [] ∧ (printDecimal n).length ≤ 3 := by decide +kernel
  exact h ⟨b.toNat, b.toNat_lt⟩

theorem deviceAddress_ne_nil (channelId slaveId : UInt8) :
    deviceAddress channelId slaveId ≠ [] := by
  unfold deviceAddress
  split
  · exact (printDecimal_byte slaveId).1
  · simp

theorem deviceAddress_length (channelId slaveId : UInt8) :
    (deviceAddress channelId slaveId).length < 40 := by
  have h1 := (printDecimal_byte channelId).2
  have h2 := (printDecimal_byte slaveId).2
  unfold deviceAddress
  split
  · omega
  · simp; omega

theorem formatDeviceAddress_eq (channelId slaveId : UInt8) :
    formatDeviceAddress channelId slaveId 40 =
      (some (deviceAddress channelId slaveId).length, deviceAddress channelId slaveId) := by
  have h := deviceAddress_length channelId slaveId
  simp only [formatDeviceAddress, strlcpy_of_lt h, ge_iff_le, Nat.not_le.2 h, if_false]

/-- `thingscloud_parse_device_address`. `beyond` is what the memory holds
behind the terminator of `addr`. -/
def parseDeviceAddress (beyond addr : CStr) : Option (UInt8 × UInt8) :=
  if addr = [] then none
  else if addr = "rs485_".toList then
    -- `strncmp` over seven bytes compares the terminator as well.
    match scanUnsigned beyond with
    | some (ch, '_' :: rest) =>
      match scanUnsigned rest with
      | some (sl, _) => some (UInt8.ofNat ch, UInt8.ofNat sl)
      | none => none
    | _ => none
  else
    match scanUnsigned addr with
    | some (sl, _) => some (0, UInt8.ofNat sl)
    | none => none

end McpGateway.Thingscloud
