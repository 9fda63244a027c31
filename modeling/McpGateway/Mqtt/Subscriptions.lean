import McpGateway.Runtime.Settings

/-!
# Subscriptions of the MQTT handler

The subscription table of `mqtt_handler.c`: which topics a configuration
subscribes to, how the table is filled, and which callback a message goes to.
-/

namespace McpGateway.Mqtt

open McpGateway.Lib McpGateway.Runtime

def mqttMaxSubscriptions : Nat := 16
def mqttMaxTopicLen : Nat := 128

inductive Callback
  | attributesResponse
  | gatewayAttributesPush
  | gatewayAttributesResponse
  | attributesPush
  | commandSend
  | command
  deriving DecidableEq, Repr

/-- `mqtt_subscription_t`. -/
structure Subscription where
  topic : CStr
  qos : Nat
  callback : Callback
  active : Bool
  deriving DecidableEq

/-- The topic is the filter, or the filter ends with `#` and the topic begins like it. -/
def Subscription.takes (s : Subscription) (topic : CStr) : Bool :=
  s.active && (s.topic = topic ||
    s.topic.getLast? = some '#' && s.topic.dropLast.isPrefixOf topic)

def mqttFindSubscription (topic : CStr) (table : List Subscription) : Option Subscription :=
  table.find? fun s => s.takes topic

/-- The duplicate check of `mqtt_subscribe`: the table with the entry updated. -/
def updateSubscription (topic : CStr) (qos : Nat) (cb : Callback) :
    List Subscription → Option (List Subscription)
  | [] => none
  | s :: table =>
    if s.active ∧ s.topic = topic then some ({ s with callback := cb, qos := qos } :: table)
    else (updateSubscription topic qos cb table).map (s :: ·)

/-- What `mqtt_subscribe` makes of the table: an error, or the table and whether the
topic was new. -/
def addSubscription (topic : CStr) (qos : Nat) (cb : Callback) (table : List Subscription) :
    Except EspErr (List Subscription × Bool) :=
  if mqttMaxTopicLen ≤ topic.length then .error .invalidArg
  else
    match updateSubscription topic qos cb table with
    | some updated => .ok (updated, false)
    | none =>
      if mqttMaxSubscriptions ≤ table.length then .error .fail
      else .ok (table ++ [⟨topic, qos, cb, true⟩], true)

def attributesResponseTopic : CStr := "attributes/response".toList
def attributesPushTopic : CStr := "attributes/push".toList
def gatewayAttributesResponseTopic : CStr := "gateway/attributes/response".toList
def gatewayAttributesPushTopic : CStr := "gateway/attributes/push".toList
def gatewayCommandSendTopic : CStr := "gateway/command/send".toList

def commandTopic (runtime : RuntimeConfig) : CStr :=
  strlcpy 128 (runtime.mqtt.commandPrefix.str ++ runtime.gatewayId.str)

/-- The calls of `mqtt_subscribe` in `mqtt_register_runtime_subscriptions`. -/
def runtimeSubscriptions (runtime : RuntimeConfig) : List Subscription :=
  if runtime.mqtt.platformType = .thingscloud then
    [⟨attributesResponseTopic, 0, .attributesResponse, true⟩,
      ⟨attributesPushTopic, 0, .gatewayAttributesPush, true⟩] ++
    if runtime.mqtt.reportMode = .subdevice then
      [⟨gatewayAttributesResponseTopic, 0, .gatewayAttributesResponse, true⟩,
        ⟨gatewayAttributesPushTopic, 0, .attributesPush, true⟩,
        ⟨gatewayCommandSendTopic, 0, .commandSend, true⟩]
    else []
  else [⟨commandTopic runtime, 1, .command, true⟩]

/-! ## Filling the table -/

theorem updateSubscription_eq_none {topic : CStr} {qos : Nat} {cb : Callback}
    {table : List Subscription} (h : ∀ s ∈ table, s.topic ≠ topic) :
    updateSubscription topic qos cb table = none := by
  induction table with
  | nil => rfl
  | cons s table ih =>
    rw [updateSubscription, if_neg fun hs => h s List.mem_cons_self hs.2,
      ih fun x hx => h x (List.mem_cons_of_mem s hx)]
    rfl

theorem commandTopic_length (runtime : RuntimeConfig) : (commandTopic runtime).length < mqttMaxTopicLen :=
  strlcpy_length_lt (by decide) _

theorem commandTopic_eq (runtime : RuntimeConfig) :
    commandTopic runtime = runtime.mqtt.commandPrefix.str ++ runtime.gatewayId.str := by
  have hprefix := runtime.mqtt.commandPrefix.lt
  have hid := runtime.gatewayId.lt
  apply strlcpy_of_lt
  rw [List.length_append]
  omega

/-- The topics of a configuration fit the table and are pairwise distinct. -/
structure Registrable (subs : List Subscription) : Prop where
  length : subs.length ≤ mqttMaxSubscriptions
  topic : ∀ s ∈ subs, s.topic.length < mqttMaxTopicLen
  active : ∀ s ∈ subs, s.active = true
  nodup : (subs.map Subscription.topic).Nodup

theorem runtimeSubscriptions_registrable (runtime : RuntimeConfig) :
    Registrable (runtimeSubscriptions runtime) := by
  unfold runtimeSubscriptions
  split_ifs
  · exact ⟨by decide, by decide, by decide, by decide⟩
  · exact ⟨by decide, by decide, by decide, by decide⟩
  · refine ⟨Nat.le_of_ble_eq_true rfl, fun s hs => ?_, fun s hs => ?_, List.nodup_singleton _⟩
    · rw [List.mem_singleton.1 hs]
      exact commandTopic_length runtime
    · rw [List.mem_singleton.1 hs]

/-- A call for the next topic of a registrable list appends its entry. -/
theorem addSubscription_next {table rest : List Subscription} {s : Subscription}
    (h : Registrable (table ++ s :: rest)) :
    addSubscription s.topic s.qos s.callback table = .ok (table ++ [s], true) := by
  have hmem : s ∈ table ++ s :: rest := List.mem_append_right _ List.mem_cons_self
  have hactive := h.active s hmem
  have hlength := h.length
  rw [List.length_append, List.length_cons] at hlength
  have hnew : ∀ x ∈ table, x.topic ≠ s.topic := by
    intro x hx heq
    have hnodup := h.nodup
    rw [List.map_append, List.map_cons] at hnodup
    exact List.disjoint_of_nodup_append hnodup (List.mem_map_of_mem hx)
      (heq ▸ List.mem_cons_self)
  unfold addSubscription
  rw [if_neg (Nat.not_le.2 (h.topic s hmem)), updateSubscription_eq_none hnew]
  simp only
  rw [if_neg (by omega), ← hactive]

/-! ## Routing -/

theorem takes_iff (s : Subscription) (topic : CStr) (hactive : s.active = true) :
    s.takes topic = true ↔
      s.topic = topic ∨ s.topic.getLast? = some '#' ∧ s.topic.dropLast <+: topic := by
  unfold Subscription.takes
  rw [hactive, Bool.true_and, Bool.or_eq_true, Bool.and_eq_true, decide_eq_true_eq,
    decide_eq_true_eq, List.isPrefixOf_iff_prefix]

/-- A filter that does not end with `#` takes its own topic only. -/
theorem takes_plain (s : Subscription) (topic : CStr) (hactive : s.active = true)
    (hplain : s.topic.getLast? ≠ some '#') : s.takes topic = true ↔ s.topic = topic := by
  rw [takes_iff s topic hactive]
  exact or_iff_left fun h => hplain h.1

end McpGateway.Mqtt
