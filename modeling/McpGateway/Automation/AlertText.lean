import McpGateway.Automation.Isolation
import McpGateway.Lib.JsonText

/-!
# The text of an alert

`execute_rule` prints the payload of an MQTT alert with `snprintf`: the strings
go in as they are, between quotes, into a buffer of 512 bytes.
`alert_payload_iff` says when that is a document with the rule's data.
-/

namespace McpGateway.Automation

open McpGateway.Lib McpGateway.Tcm

/-- The document has the data of the rule and of the state, and a number or
`null` for the value. -/
def CarriesAlert (strtod : CStr → CFloat) (rule : AutomationRule) (state : TcmContext)
    (payload : CStr) : Prop :=
  ∃ fields, IsJsonText strtod payload (.obj fields) ∧
    (Json.obj fields).getItemCaseSensitive "rule".toList = some (.str rule.name.str) ∧
    (Json.obj fields).getItemCaseSensitive "device_id".toList = some (.str state.deviceId.str) ∧
    (Json.obj fields).getItemCaseSensitive "point_id".toList = some (.str state.pointId.str) ∧
    (Json.obj fields).getItemCaseSensitive "message".toList = some (.str rule.alertMessage.str) ∧
    ((Json.obj fields).getItemCaseSensitive "value".toList = some .null ∨
      ∃ x, (Json.obj fields).getItemCaseSensitive "value".toList = some (.num x))

/-- The printed text with `tail` for its closing brace. -/
def alertText (rule : AutomationRule) (state : TcmContext) (tail : CStr) : CStr :=
  '\x7b' :: keyed "rule_id".toList (printDecimal rule.id.val ++ ',' ::
    stringMember "rule".toList rule.name.str (',' ::
    stringMember "device_id".toList state.deviceId.str (',' ::
    stringMember "point_id".toList state.pointId.str (',' ::
    keyed "value".toList (state.value.printG ++ ',' ::
    stringMember "message".toList rule.alertMessage.str tail)))))

theorem alertText_tail (rule : AutomationRule) (state : TcmContext) (tail : CStr) :
    alertText rule state tail = alertText rule state [] ++ tail := by
  unfold alertText stringMember keyed
  simp only [List.cons_append, List.append_assoc, List.nil_append]

theorem alertPayload_eq (rule : AutomationRule) (state : TcmContext) :
    alertPayload rule state = strlcpy 512 (alertText rule state ['\x7d']) := by
  unfold alertPayload alertText stringMember keyed
  simp

/-- The strings need no escapes, the value is finite, and the text fits its buffer. -/
structure PrintsPlain (rule : AutomationRule) (state : TcmContext) : Prop where
  name : rule.name.str.all isUnescaped = true
  deviceId : state.deviceId.str.all isUnescaped = true
  pointId : state.pointId.str.all isUnescaped = true
  message : rule.alertMessage.str.all isUnescaped = true
  value : state.value.isFinite = true
  fits : (alertText rule state ['\x7d']).length < 512

section Text

variable {strtod : CStr → CFloat} {rule : AutomationRule} {state : TcmContext}

theorem PrintsPlain.carries (h : PrintsPlain rule state) :
    CarriesAlert strtod rule state (alertPayload rule state) := by
  obtain ⟨q, hq⟩ := CFloat.isFinite_iff.1 h.value
  have hnumber : IsNumber state.value.printG := by
    rw [hq]
    exact isNumber_printG q
  rw [alertPayload_eq, strlcpy_of_lt h.fits]
  refine ⟨[("rule_id".toList, .num (strtod (printDecimal rule.id.val))),
    ("rule".toList, .str rule.name.str), ("device_id".toList, .str state.deviceId.str),
    ("point_id".toList, .str state.pointId.str),
    ("value".toList, .num (strtod state.value.printG)),
    ("message".toList, .str rule.alertMessage.str)], ?_, rfl, rfl, rfl, rfl, .inr ⟨_, rfl⟩⟩
  have hid := isNumber_of_isInteger (isInteger_printDecimal rule.id.val)
  refine ⟨_, [], .nil _, .object ?_, .nil []⟩
  refine .cons (.of_value (by decide) (.number_of hid (by decide) _)) ?_
  refine .cons (.of_string (by decide) h.name _) ?_
  refine .cons (.of_string (by decide) h.deviceId _) ?_
  refine .cons (.of_string (by decide) h.pointId _) ?_
  refine .cons (.of_value (by decide) (.number_of hnumber (by decide) _)) ?_
  exact .last (.of_string (by decide) h.message _)

theorem CarriesAlert.plain {payload tail : CStr} (h : CarriesAlert strtod rule state payload)
    (htext : payload <+: alertText rule state tail) :
    rule.name.str.all isUnescaped = true ∧ state.deviceId.str.all isUnescaped = true ∧
      state.pointId.str.all isUnescaped = true ∧ rule.alertMessage.str.all isUnescaped = true ∧
      state.value.isFinite = true ∧ tail ≠ [] := by
  obtain ⟨fields, ⟨t₁, t₂, hspace, hvalue, -⟩, hname, hdevice, hpoint, hmessage, -⟩ := h
  cases hspace.stop htext (by decide)
  cases hvalue with
  | emptyObject => cases hname
  | object hmembers =>
    have hid := isNumber_of_isInteger (isInteger_printDecimal rule.id.val)
    obtain ⟨f, fields, t, rfl, hkey, htext, hmembers⟩ :=
      hmembers.number_comma (by decide) hid (List.cons_prefix_cons.1 htext).2
    rw [getItem_skip (by rw [hkey]; decide)] at hname hdevice hpoint hmessage
    obtain ⟨hname', f, fields, t, rfl, hkey, htext, hmembers⟩ :=
      hmembers.string_comma (by decide) htext hname
    rw [getItem_skip (by rw [hkey]; decide)] at hdevice hpoint hmessage
    obtain ⟨hdevice', f, fields, t, rfl, hkey, htext, hmembers⟩ :=
      hmembers.string_comma (by decide) htext hdevice
    rw [getItem_skip (by rw [hkey]; decide)] at hpoint hmessage
    obtain ⟨hpoint', f, fields, t, rfl, hkey, htext, hmembers⟩ :=
      hmembers.string_comma (by decide) htext hpoint
    rw [getItem_skip (by rw [hkey]; decide)] at hmessage
    obtain ⟨f, fs, c, rest, -, hmember⟩ := hmembers.first
    have hfinite := hmember.finite (by decide) htext
    obtain ⟨q, hq⟩ := CFloat.isFinite_iff.1 hfinite
    have hnumber : IsNumber state.value.printG := by
      rw [hq]
      exact isNumber_printG q
    obtain ⟨f, fields, t, rfl, hkey, htext, hmembers⟩ :=
      hmembers.number_comma (by decide) hnumber htext
    rw [getItem_skip (by rw [hkey]; decide)] at hmessage
    obtain ⟨hmessage', htail⟩ := hmembers.string_end (by decide) htext hmessage
    exact ⟨hname', hdevice', hpoint', hmessage', hfinite, htail⟩

theorem carriesAlert_iff :
    CarriesAlert strtod rule state (alertPayload rule state) ↔ PrintsPlain rule state := by
  refine ⟨fun h => ?_, PrintsPlain.carries⟩
  have hprefix : alertPayload rule state <+: alertText rule state ['\x7d'] := by
    rw [alertPayload_eq]
    exact List.take_prefix _ _
  obtain ⟨hname, hdevice, hpoint, hmessage, hvalue, -⟩ := h.plain hprefix
  refine ⟨hname, hdevice, hpoint, hmessage, hvalue, ?_⟩
  by_contra hlong
  have hcut : alertPayload rule state <+: alertText rule state [] := by
    rw [alertText_tail, List.length_append, List.length_singleton] at hlong
    rw [alertPayload_eq, alertText_tail, strlcpy, List.take_append_of_le_length (by omega)]
    exact List.take_prefix _ _
  exact (h.plain hcut).2.2.2.2.2 rfl

/-- The text of a `double` always fits: its exponent has three digits at most. -/
theorem alertText_fits {q : ℚ} (hvalue : state.value = .fin q)
    (hq : q = 0 ∨ (10 : ℚ) ^ (-1000 : ℤ) ≤ |q| ∧ |q| < (10 : ℚ) ^ (1000 : ℤ)) :
    (alertText rule state ['\x7d']).length < 512 := by
  have hid := printDecimal_length_le (show 0 < 10 by decide)
    (lt_of_lt_of_le rule.id.isLt (show 2 ^ 32 ≤ 10 ^ 10 by decide))
  have hprint := printG_length hq
  have hname := rule.name.lt
  have hdevice := state.deviceId.lt
  have hpoint := state.pointId.lt
  have hmessage := rule.alertMessage.lt
  unfold alertText stringMember keyed
  rw [hvalue]
  simp only [List.length_append, List.length_cons, List.length_nil, String.length_toList]
  have hkeys : "rule_id".length = 7 ∧ "rule".length = 4 ∧ "device_id".length = 9 ∧
      "point_id".length = 8 ∧ "value".length = 5 ∧ "message".length = 7 := by decide
  omega

end Text

/-- **Alert payloads.** What `execute_rule` publishes for an alert is a document
with the rule's data if and only if its strings need no escapes, the value is
finite and the text fits the buffer. -/
theorem alert_payload_iff (strtod : CStr → CFloat) (env : ExecEnv) (rule : AutomationRule)
    (state : TcmContext) :
    (∀ topic payload, (executeRule env rule state).2 = .alert topic payload →
      CarriesAlert strtod rule state payload) ↔
    (rule.action = .mqttAlert → PrintsPlain rule state) := by
  unfold executeRule
  cases rule.action with
  | writePoint =>
    refine iff_of_true (fun topic payload h => ?_) (fun h => ?_)
    · cases h
    · cases h
  | mqttAlert =>
    constructor
    · intro h _
      exact carriesAlert_iff.1 (h _ _ rfl)
    · intro h topic payload halert
      cases halert
      exact carriesAlert_iff.2 (h rfl)

/-! ## A name in quotes -/

def quotedRule : AutomationRule :=
  { alertAbove 1 "temp" with name := .copy 48 "the \"big\" boiler".toList }

def hotState : TcmContext :=
  { TcmContext.zero with
    deviceId := .copy 32 "boiler".toList
    pointId := .copy 32 "temp".toList
    value := .fin 20 }

/-- The quotes of an accepted name end its string: the payload is no document. -/
theorem quoted_name_cuts_alert :
    ((AutomationEngine.boot none 0).automationUpsertRule quotedRule ⟨.ok, .ok, .ok⟩).1 = .ok ∧
      (executeRule quietEnv quotedRule hotState).2 =
        .alert "data/alerts".toList (alertPayload quotedRule hotState) ∧
      alertPayload quotedRule hotState =
        ("\x7b\"rule_id\":1,\"rule\":\"the \"big\" boiler\",\"device_id\":\"boiler\"," ++
          "\"point_id\":\"temp\",\"value\":20,\"message\":\"too hot\"\x7d").toList ∧
      ∀ strtod, ¬ CarriesAlert strtod quotedRule hotState (alertPayload quotedRule hotState) := by
  refine ⟨by decide +kernel, by decide +kernel, by decide +kernel, fun strtod h => ?_⟩
  exact absurd (carriesAlert_iff.1 h).name (by decide +kernel)

end McpGateway.Automation
