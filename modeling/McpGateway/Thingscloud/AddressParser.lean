import McpGateway.Thingscloud.Command

/-!
# Which address texts are parsed

`thingscloud_parse_device_address` against `thingscloud_format_device_address`,
text by text: `parses_as_formatted_iff` says for which texts the parser accepts
exactly what the formatter produces.
-/

namespace McpGateway.Thingscloud

open McpGateway.Lib

/-- Blanks, a sign and then a digit: `%u` converts a number at the start of `s`. -/
def startsWithNumber (s : CStr) : Bool :=
  let s := s.dropWhile isSpace
  let s := if s.head? = some '-' ∨ s.head? = some '+' then s.tail else s
  s.head?.any Char.isDigit

/-- `"%u_%u"` converts both numbers. -/
def startsWithTwoNumbers (s : CStr) : Bool :=
  match scanUnsigned s with
  | some (_, '_' :: rest) => startsWithNumber rest
  | _ => false

/-- The text is the decimal number of a byte; or it does not start with a number
and is not the address of a slave on a further channel. Of `"rs485_"` the parser
reads what lies behind its terminator. -/
def ParsesAsFormatted (beyond s : CStr) : Prop :=
  if s = "rs485_".toList then startsWithTwoNumbers beyond = false
  else (∃ slaveId : UInt8, s = printDecimal slaveId.toNat) ∨
    startsWithNumber s = false ∧
      ∀ channelId slaveId : UInt8, channelId ≠ 0 → s ≠ deviceAddress channelId slaveId

theorem scanUnsigned_isSome (s : CStr) : (scanUnsigned s).isSome = startsWithNumber s := by
  unfold scanUnsigned startsWithNumber
  dsimp only
  generalize (if (s.dropWhile isSpace).head? = some '-' ∨ (s.dropWhile isSpace).head? = some '+'
    then (s.dropWhile isSpace).tail else s.dropWhile isSpace) = t
  cases t with
  | nil => rfl
  | cons c t =>
    cases hdigit : c.isDigit with
    | true => simp [hdigit]
    | false => simp [hdigit]

theorem deviceAddress_ne_rs485 (channelId slaveId : UInt8) :
    deviceAddress channelId slaveId ≠ "rs485_".toList := by
  unfold deviceAddress
  split
  · exact printDecimal_byte_ne slaveId
  · intro heq
    have hlengths := congrArg List.length heq
    rw [List.append_assoc, List.length_append, List.length_append, List.length_cons] at hlengths
    omega

theorem startsWithNumber_byte (b : UInt8) : startsWithNumber (printDecimal b.toNat) = true := by
  rw [← scanUnsigned_isSome, scanUnsigned_byte]
  rfl

theorem parse_prefix_none_iff (beyond : CStr) :
    parseDeviceAddress beyond "rs485_".toList = none ↔ startsWithTwoNumbers beyond = false := by
  unfold parseDeviceAddress startsWithTwoNumbers
  rw [if_neg (by decide), if_pos rfl]
  by_cases htwo : ∃ ch rest, scanUnsigned beyond = some (ch, '_' :: rest)
  · obtain ⟨ch, rest, hscan⟩ := htwo
    simp only [hscan]
    rw [← scanUnsigned_isSome]
    cases scanUnsigned rest with
    | none => exact iff_of_true rfl rfl
    | some p => exact iff_of_false (by simp) (by simp)
  · refine iff_of_true ?_ ?_
    · split
      · exact absurd ⟨_, _, ‹_›⟩ htwo
      · rfl
    · split
      · exact absurd ⟨_, _, ‹_›⟩ htwo
      · rfl

theorem parse_number {beyond s : CStr} (hname : s ≠ "rs485_".toList) :
    (startsWithNumber s = false → parseDeviceAddress beyond s = none) ∧
      (startsWithNumber s = true → ∃ slaveId, parseDeviceAddress beyond s = some (0, slaveId)) := by
  rw [← scanUnsigned_isSome]
  unfold parseDeviceAddress
  rw [if_neg hname]
  constructor
  · intro hnone
    rw [Option.isSome_eq_false_iff, Option.isNone_iff_eq_none] at hnone
    rw [hnone, ite_self]
  · intro hsome
    obtain ⟨⟨sl, rest⟩, hscan⟩ := Option.isSome_iff_exists.1 hsome
    have hne : s ≠ [] := by
      rintro rfl
      cases hscan
    rw [if_neg hne, hscan]
    exact ⟨_, rfl⟩

/-- **The parser against the formatter.** A text is accepted with exactly the
channels and slaves that it is formatted from if and only if it is the number of a
byte, or neither starts with a number nor is the address of a further channel. -/
theorem parses_as_formatted_iff (beyond s : CStr) :
    (∀ channelId slaveId : UInt8, parseDeviceAddress beyond s = some (channelId, slaveId) ↔
        (formatDeviceAddress channelId slaveId 40).2 = s) ↔ ParsesAsFormatted beyond s := by
  simp only [formatDeviceAddress_eq]
  unfold ParsesAsFormatted
  by_cases hname : s = "rs485_".toList
  · -- The prefix is no address, so it must not be accepted.
    subst hname
    rw [if_pos rfl, ← parse_prefix_none_iff]
    constructor
    · intro h
      rw [Option.eq_none_iff_forall_ne_some]
      rintro ⟨channelId, slaveId⟩ hparse
      exact deviceAddress_ne_rs485 channelId slaveId ((h channelId slaveId).1 hparse)
    · intro hnone channelId slaveId
      rw [hnone]
      exact iff_of_false (by simp) (deviceAddress_ne_rs485 channelId slaveId)
  · obtain ⟨hnone, hsome⟩ := @parse_number beyond s hname
    rw [if_neg hname]
    cases hnumber : startsWithNumber s with
    | true =>
      obtain ⟨v, hparse⟩ := hsome hnumber
      rw [hparse]
      constructor
      · intro h
        exact .inl ⟨v, ((h 0 v).1 rfl).symm⟩
      · rintro (⟨b, hb⟩ | ⟨hfalse, -⟩) channelId slaveId
        · have hbyte : v = b := by
            have hformat := parseDeviceAddress_format beyond 0 b
            rw [if_pos rfl, deviceAddress, if_pos rfl, ← hb, hparse] at hformat
            exact (Prod.mk.inj (Option.some.inj hformat)).2
          rw [deviceAddress_parse hparse]
          constructor
          · intro heq
            obtain ⟨rfl, rfl⟩ := Prod.mk.inj (Option.some.inj heq)
            exact ⟨rfl, by rw [hbyte, ← hb], rfl, rfl⟩
          · rintro ⟨-, -, rfl, rfl⟩
            rfl
        · cases hfalse
    | false =>
      rw [hnone hnumber]
      constructor
      · intro h
        refine .inr ⟨rfl, fun channelId slaveId _ heq => ?_⟩
        cases (h channelId slaveId).2 heq.symm
      · rintro (⟨b, rfl⟩ | ⟨-, hother⟩) channelId slaveId
        · rw [startsWithNumber_byte] at hnumber
          cases hnumber
        · refine iff_of_false (by simp) fun heq => ?_
          by_cases hzero : channelId = 0
          · rw [deviceAddress, if_pos hzero] at heq
            rw [← heq, startsWithNumber_byte] at hnumber
            cases hnumber
          · exact hother channelId slaveId hzero heq.symm

/-- The address of slave 1 on channel 1 is rejected, and a number with other
characters behind it is accepted as slave 44. -/
theorem channel_address_rejected :
    (formatDeviceAddress 1 1 40).2 = "rs485_1_1".toList ∧
      parseDeviceAddress [] "rs485_1_1".toList = none ∧
      (∀ channelId slaveId, (formatDeviceAddress channelId slaveId 40).2 ≠ " 300abc".toList) ∧
      parseDeviceAddress [] " 300abc".toList = some (0, 44) := by
  refine ⟨by decide, rfl, fun channelId slaveId heq => ?_, rfl⟩
  rw [formatDeviceAddress_eq] at heq
  have haddress : deviceAddress channelId slaveId = " 300abc".toList := heq
  have hparse := parseDeviceAddress_format [] channelId slaveId
  rw [haddress] at hparse
  split at hparse
  · rename_i hzero
    rw [deviceAddress, if_pos hzero] at haddress
    have hblank : ' ' ∈ printDecimal slaveId.toNat := by
      rw [haddress]
      decide
    cases isDigit_of_mem_printDecimal hblank
  · cases hparse

end McpGateway.Thingscloud
