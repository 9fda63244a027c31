import McpGateway.Config
import McpGateway.Lib.JsonReading
import McpGateway.Services.WriteTarget
import McpGateway.Tcm.Json

/-!
# Commands on the custom MQTT topic

`mqtt_command_callback` of `main.c` copies a payload into a buffer, reads it as
a TCM record and hands the record's value to the control service. A member that
the payload lacks is 0 in the record. `command_explicit_iff` says for which
payloads only a value that the sender gave is written.
-/

namespace McpGateway.Services

open McpGateway.Lib McpGateway.Tcm McpGateway.Amm McpGateway.Modbus

/-- The string in the buffer: what fits of the payload, up to a NUL in it. -/
def commandText (payload : CStr) : CStr := cutAt ['\x00'] (payload.take (tcmMaxJsonLen - 1))

/-- What a command hands to the control service, and what comes of it. -/
structure CommandOutcome where
  deviceId : CStr
  pointId : CStr
  value : CFloat
  result : ControlResult
  write : Option ModbusWrite

/-- `mqtt_command_callback` on the data of one event of the MQTT client: `none`
for a payload that is rejected before it gets to the control service. -/
def mqttCommandCallback (lib : JsonLib) (env : ControlEnv) (a : AmmTable) (payload : CStr)
    (answer : EspErr) : Option CommandOutcome :=
  match tcmDeserializeJson lib (commandText payload) with
  | none => none
  | some command =>
    let r := controlServiceWritePoint env a command.deviceId.str command.pointId.str command.value
      .mqtt answer
    some
      { deviceId := command.deviceId.str
        pointId := command.pointId.str
        value := command.value
        result := r.1
        write := r.2 }

/-! ## Explicit values -/

/-- The number of the member `value`. -/
def valueMember (j : Json) : Option CFloat := Json.number? (j.getItemCaseSensitive "value".toList)

/-- The whole payload is the text of an object whose member `value` is that
number, and fits the receive buffer. -/
def GivesValue (strtod : CStr → CFloat) (payload : CStr) (v : CFloat) : Prop :=
  payload.length < tcmMaxJsonLen ∧
    ∃ fields, IsJsonText strtod payload (.obj fields) ∧ valueMember (.obj fields) = some v

/-- If the payload causes a write, it gives the value that was handed over. -/
def WritesExplicit (strtod : CStr → CFloat) (lib : JsonLib) (env : ControlEnv) (a : AmmTable)
    (payload : CStr) (answer : EspErr) : Prop :=
  ∀ c w, mqttCommandCallback lib env a payload answer = some c → c.write = some w →
    GivesValue strtod payload c.value

/-- The number the record gets: 0 where the payload has none. -/
def readValue (j : Json) : CFloat := (valueMember j).getD (.fin 0)

/-- The names lead to a writable point with the value in its range, and of a
type that can be encoded. -/
def TakesWrite (a : AmmTable) (deviceId pointId : CStr) (v : CFloat) : Prop :=
  v.isFinite = true ∧ ∃ m, ammFindMappingByPoint deviceId pointId a = some m ∧
    m.constraint.writable = true ∧ outOfRange v m.constraint = false ∧
    m.dataType ≠ .bitfield16 ∧ m.dataType ≠ .ascii

/-- The whole payload is the text of an object that fits the receive buffer and
has a number for `value`, the one a reader of C strings finds. -/
def WholeCommand (strtod : CStr → CFloat) (payload : CStr) : Prop :=
  payload.length < tcmMaxJsonLen ∧
    ∃ fields, IsJsonText strtod payload (.obj fields) ∧
      valueMember (.obj fields) = some (readValue (Json.obj fields).cStrings)

/-- A payload whose text names a point that takes the number it is read with is
a whole command. -/
def CommandSafe (strtod : CStr → CFloat) (lib : JsonLib) (a : AmmTable) (payload : CStr) : Prop :=
  ∀ root, lib.parse (commandText payload) = some root →
    TakesWrite a (readContext root).deviceId.str (readContext root).pointId.str (readValue root) →
      WholeCommand strtod payload

/-! ## Writes -/

section Commands

variable {env : ControlEnv} {a : AmmTable} {answer : EspErr} {payload : CStr} {lib : JsonLib}
  {strtod : CStr → CFloat}

theorem mqtt_write_iff {deviceId pointId : CStr} {v : CFloat} :
    (∃ w, (controlServiceWritePoint env a deviceId pointId v .mqtt answer).2 = some w) ↔
      TakesWrite a deviceId pointId v := by
  constructor
  · rintro ⟨w, hsent⟩
    obtain ⟨m, words, hcheck, -⟩ := controlServiceWritePoint_sent.1 hsent
    obtain ⟨hfin, -, hfind, hwritable, hrange, hwords, -⟩ := checkWrite_ok.1 hcheck
    rw [ne_eq, encodeValue_eq_nil_iff, not_or] at hwords
    exact ⟨hfin, m, hfind, hwritable, hrange, hwords⟩
  · rintro ⟨hfin, m, hfind, hwritable, hrange, htype⟩
    have hwords : encodeValue env v m ≠ [] := by
      rw [ne_eq, encodeValue_eq_nil_iff, not_or]
      exact htype
    exact ⟨_, controlServiceWritePoint_sent.2 ⟨m, _,
      checkWrite_ok.2 ⟨hfin, rfl, hfind, hwritable, hrange, hwords, rfl⟩, rfl⟩⟩

/-- A command writes if and only if its text parses and the point it names takes
the number read. -/
theorem command_write_iff {v : CFloat} :
    (∃ c w, mqttCommandCallback lib env a payload answer = some c ∧ c.write = some w ∧
        c.value = v) ↔
      ∃ root, lib.parse (commandText payload) = some root ∧ readValue root = v ∧
        TakesWrite a (readContext root).deviceId.str (readContext root).pointId.str v := by
  unfold mqttCommandCallback tcmDeserializeJson
  cases hparse : lib.parse (commandText payload) with
  | none => simp
  | some root =>
    have hvalue : (readContext root).value = readValue root := rfl
    simp only [Option.map_some, Option.some.injEq, hvalue]
    constructor
    · rintro ⟨c, w, rfl, hwrite, rfl⟩
      exact ⟨root, rfl, rfl, mqtt_write_iff.1 ⟨w, hwrite⟩⟩
    · rintro ⟨root, rfl, rfl, htakes⟩
      obtain ⟨w, hwrite⟩ := mqtt_write_iff.2 htakes
      exact ⟨_, w, rfl, hwrite, rfl⟩

theorem commandText_eq {j : Json} (htext : IsJsonText strtod payload j)
    (hfits : payload.length < tcmMaxJsonLen) : commandText payload = payload := by
  have htake : payload.take (tcmMaxJsonLen - 1) = payload := strlcpy_of_lt hfits
  rw [commandText, htake, cutAt, List.takeWhile_eq_self_iff]
  intro c hc
  refine decide_eq_true fun hnul => ?_
  rw [List.mem_singleton.1 hnul] at hc
  exact htext.no_nul hc

/-- **A command writes only an explicit value.** For every payload, every table
and every answer of the Modbus layer, a write is one of a number that the whole
payload gives exactly when the payload is safe. -/
theorem command_explicit_iff (hlib : lib.ReadsObjects strtod) :
    WritesExplicit strtod lib env a payload answer ↔ CommandSafe strtod lib a payload := by
  constructor
  · intro h root hparse htakes
    obtain ⟨c, w, hcall, hwrite, hvalue⟩ := command_write_iff.2 ⟨root, hparse, rfl, htakes⟩
    obtain ⟨hfits, fields, htext, hmember⟩ := h c w hcall hwrite
    rw [commandText_eq htext hfits] at hparse
    rw [hvalue, hlib _ _ _ htext hparse] at hmember
    exact ⟨hfits, fields, htext, hmember⟩
  · intro h c w hcall hwrite
    obtain ⟨root, hparse, hvalue, htakes⟩ := command_write_iff.1 ⟨c, w, hcall, hwrite, rfl⟩
    rw [← hvalue] at htakes ⊢
    obtain ⟨hfits, fields, htext, hmember⟩ := h root hparse htakes
    rw [commandText_eq htext hfits] at hparse
    rw [← hlib _ _ _ htext hparse] at hmember
    exact ⟨hfits, fields, htext, hmember⟩

end Commands

/-! ## The pump -/

/-- `strtod` on the literals of natural numbers. -/
def readDecimal (s : CStr) : CFloat := .fin (digitsValue s)

def pumpNames : List (CStr × Json) :=
  [("device_id".toList, .str "d".toList), ("point_id".toList, .str "pump".toList)]

def pumpOn : List (CStr × Json) := pumpNames ++ [("value".toList, .num (.fin 1))]

theorem pumpNames_text : IsJsonText readDecimal (Json.obj pumpNames).render (.obj pumpNames) := by
  have htext : (Json.obj pumpNames).render = '\x7b' :: stringMember "device_id".toList "d".toList
      (',' :: stringMember "point_id".toList "pump".toList ['\x7d']) := rfl
  rw [htext]
  refine ⟨_, [], .nil _, .object ?_, .nil []⟩
  refine .cons (.of_string (by decide) (by decide) _) ?_
  exact .last (.of_string (by decide) (by decide) _)

theorem pumpOn_text : IsJsonText readDecimal (Json.obj pumpOn).render (.obj pumpOn) := by
  have htext : (Json.obj pumpOn).render = '\x7b' :: stringMember "device_id".toList "d".toList
      (',' :: stringMember "point_id".toList "pump".toList
        (',' :: keyed "value".toList (printDecimal 1 ++ ['\x7d']))) := by decide +kernel
  have hone : CFloat.fin 1 = readDecimal (printDecimal 1) := by decide +kernel
  rw [htext, pumpOn, hone]
  refine ⟨_, [], .nil _, .object ?_, .nil []⟩
  refine .cons (.of_string (by decide) (by decide) _) ?_
  refine .cons (.of_string (by decide) (by decide) _) ?_
  exact .last (.of_value (by decide) (.number_of (isNumber_of_isInteger
    (isInteger_printDecimal 1)) (by decide) []))

theorem pumpNames_reads : (JsonLib.knowing [.obj pumpNames]).ReadsObjects readDecimal :=
  knowing_readsObjects pumpNames_text rfl

theorem pumpOn_reads : (JsonLib.knowing [.obj pumpOn]).ReadsObjects readDecimal :=
  knowing_readsObjects pumpOn_text rfl

/-- The command that switches the pump on writes the value it gives. -/
theorem pump_on_explicit : (JsonLib.knowing [.obj pumpOn]).ReadsObjects readDecimal ∧
    WritesExplicit readDecimal (.knowing [.obj pumpOn]) ⟨false, fun _ => 0⟩ pumpTable
      (Json.obj pumpOn).render .ok :=
  ⟨pumpOn_reads, (command_explicit_iff pumpOn_reads).2 fun _ _ _ =>
    ⟨by decide +kernel, pumpOn, pumpOn_text, rfl⟩⟩

/-- A command without a value switches the pump off. -/
theorem silent_command_switches_off :
    (JsonLib.knowing [.obj pumpNames]).ReadsObjects readDecimal ∧ Reachable pumpTable ∧
      ((mqttCommandCallback (.knowing [.obj pumpNames]) ⟨false, fun _ => 0⟩ pumpTable
        (Json.obj pumpNames).render .ok).bind CommandOutcome.write) =
          some ⟨.modbusRtu, 0, 5, 5, 1, [0]⟩ ∧
      ¬ WritesExplicit readDecimal (.knowing [.obj pumpNames]) ⟨false, fun _ => 0⟩ pumpTable
        (Json.obj pumpNames).render .ok := by
  have hsent : (mqttCommandCallback (.knowing [.obj pumpNames]) ⟨false, fun _ => 0⟩ pumpTable
      (Json.obj pumpNames).render .ok).bind CommandOutcome.write =
        some ⟨.modbusRtu, 0, 5, 5, 1, [0]⟩ := by decide +kernel
  refine ⟨pumpNames_reads, .add _ _ (.empty _), hsent, fun h => ?_⟩
  obtain ⟨c, hcall, hwrite⟩ := Option.bind_eq_some_iff.1 hsent
  obtain ⟨-, fields, htext, hvalue⟩ := h c _ hcall hwrite
  cases pumpNames_text.unique htext
  cases hvalue

end McpGateway.Services
