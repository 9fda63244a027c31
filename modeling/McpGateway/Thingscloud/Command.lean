import McpGateway.Lib.Json
import McpGateway.Services.ControlService
import McpGateway.Thingscloud.Topics

/-!
# Sub-device downlinks

`handle_subdevice_downlink` of `thingscloud_command.c`. The device string is
parsed into a channel and a slave, each property is looked up there, and the
control service then looks the entry's two names up once more.
`downlink_on_target_iff` says when every write reaches a point of the
addressed device.
-/

namespace McpGateway.Thingscloud

open McpGateway.Lib McpGateway.Tcm McpGateway.Amm McpGateway.Modbus McpGateway.Services

/-- What a downlink meets outside its arguments: `strtod` on a whole string, the
memory behind the device string, and the answers of the Modbus layer to the
writes in turn. -/
structure DownlinkEnv where
  strtod : CStr → Option CFloat
  beyond : CStr
  control : ControlEnv
  answer : Nat → EspErr

def findEntry (a : AmmTable) (channelId slaveId : UInt8) (propertyKey : CStr) :
    Option AmmMappingEntry :=
  a.entries.find? fun x =>
    decide (x.sourceProtocol = .modbusRtu) && decide (x.channelId = channelId) &&
      decide (x.slaveId = slaveId) && decide (x.pointId.str = propertyKey)

def parsePropertyValue (strtod : CStr → Option CFloat) : Option Json → Option CFloat
  | some (.bool b) => some (.fin (if b then 1 else 0))
  | some (.num x) => some x
  | some (.str s) => strtod s
  | _ => none

/-- One property of a downlink: its result and the write it caused. -/
structure DownlinkStep where
  property : CStr
  ok : Bool
  message : CStr
  write : Option ModbusWrite

def failed (property : CStr) (message : String) : DownlinkStep :=
  { property := property, ok := false, message := message.toList, write := none }

def writeProperty (env : DownlinkEnv) (a : AmmTable) (channelId slaveId : UInt8)
    (property : CStr) (value : Option Json) (answer : EspErr) : DownlinkStep :=
  match parsePropertyValue env.strtod value with
  | none => failed property "invalid value"
  | some eng =>
    match findEntry a channelId slaveId property with
    | none => failed property "no such point"
    | some e =>
      if e.constraint.writable = false then failed property "read-only"
      else if outOfRange eng e.constraint then failed property "out of range"
      else
        let r := controlServiceWritePoint env.control a e.deviceId.str e.pointId.str eng .mqtt
          answer
        { property := property
          ok := decide (r.1.status = .ok)
          message := if r.1.status = .ok then [] else r.1.reason.str
          write := r.2 }

/-- The properties of a payload: the members of `attributes`, else the single
`identifier`. -/
def downlinkProperties (root : Json) : List (CStr × Option Json) :=
  match root.getItemCaseSensitive "attributes".toList with
  | some (.obj fields) => fields.map fun f => (f.1, some f.2)
  | _ =>
    match root.getItemCaseSensitive "identifier".toList with
    | some (.str id) => [(id, root.getItemCaseSensitive "value".toList)]
    | _ => []

/-- The properties in turn; `sent` writes have gone out before. -/
def writeProperties (env : DownlinkEnv) (a : AmmTable) (channelId slaveId : UInt8) :
    Nat → List (CStr × Option Json) → List DownlinkStep
  | _, [] => []
  | sent, p :: ps =>
    let s := writeProperty env a channelId slaveId p.1 p.2 (env.answer sent)
    s :: writeProperties env a channelId slaveId (sent + s.write.isSome.toNat) ps

/-- The string `device` of a payload. -/
def downlinkDevice (root : Json) : Option CStr :=
  Json.string? (root.getItemCaseSensitive "device".toList)

/-- `handle_subdevice_downlink`: its steps, none when the payload is ignored. -/
def handleSubdeviceDownlink (env : DownlinkEnv) (a : AmmTable) (root : Json) :
    Option (List DownlinkStep) :=
  match downlinkDevice root with
  | none => none
  | some device =>
    match parseDeviceAddress env.beyond device with
    | none => none
    | some (channelId, slaveId) =>
      some (writeProperties env a channelId slaveId 0 (downlinkProperties root))

/-! ## Addresses -/

theorem scanUnsigned_byte (b : UInt8) :
    scanUnsigned (printDecimal b.toNat) = some (b.toNat, []) := by
  have h : ∀ n : Fin 256, scanUnsigned (printDecimal n) = some (n.val, []) := by decide +kernel
  exact h ⟨b.toNat, b.toNat_lt⟩

theorem printDecimal_byte_ne (b : UInt8) : printDecimal b.toNat ≠ "rs485_".toList := by
  have h : ∀ n : Fin 256, printDecimal n ≠ "rs485_".toList := by decide +kernel
  exact h ⟨b.toNat, b.toNat_lt⟩

/-- A formatted address parses back on channel 0 only. -/
theorem parseDeviceAddress_format (beyond : CStr) (channelId slaveId : UInt8) :
    parseDeviceAddress beyond (deviceAddress channelId slaveId) =
      if channelId = 0 then some (0, slaveId) else none := by
  have hne := deviceAddress_ne_nil channelId slaveId
  unfold parseDeviceAddress
  rw [if_neg hne]
  by_cases hc : channelId = 0
  · have haddr : deviceAddress channelId slaveId = printDecimal slaveId.toNat := by
      rw [deviceAddress, if_pos hc]
    rw [haddr, if_neg (printDecimal_byte_ne slaveId), scanUnsigned_byte, if_pos hc]
    simp
  · have haddr : deviceAddress channelId slaveId = "rs485_".toList ++
        (printDecimal channelId.toNat ++ '_' :: printDecimal slaveId.toNat) := by
      rw [deviceAddress, if_neg hc, List.append_assoc]
    have hlong : deviceAddress channelId slaveId ≠ "rs485_".toList := by
      rw [haddr]
      simp
    have hscan : scanUnsigned (deviceAddress channelId slaveId) = none := by
      rw [haddr]
      rfl
    rw [if_neg hlong, hscan, if_neg hc]

theorem deviceAddress_parse {beyond s : CStr} {channelId slaveId ch sl : UInt8}
    (hp : parseDeviceAddress beyond s = some (channelId, slaveId)) :
    deviceAddress ch sl = s ↔ channelId = 0 ∧ s = printDecimal slaveId.toNat ∧
      ch = channelId ∧ sl = slaveId := by
  constructor
  · rintro rfl
    rw [parseDeviceAddress_format] at hp
    split at hp
    · rename_i hc
      obtain ⟨rfl, rfl⟩ := Prod.mk.inj (Option.some.inj hp)
      exact ⟨rfl, by rw [deviceAddress, if_pos hc], hc, rfl⟩
    · cases hp
  · rintro ⟨hc, rfl, rfl, rfl⟩
    rw [deviceAddress, if_pos hc]

/-! ## Where a write goes -/

/-- The write goes to an active point of that name on the device of that address. -/
def OnTarget (a : AmmTable) (device property : CStr) (w : ModbusWrite) : Prop :=
  ∃ m ∈ a.entries, (formatDeviceAddress m.channelId m.slaveId 40).2 = device ∧
    m.pointId.str = property ∧ w.channelId = m.channelId ∧ w.slaveId = m.slaveId ∧
    w.address = modbusRegisterOffset w.functionCode m.registerAddress

/-- A property gets as far as a write: the entry found on the addressed slave
accepts the value, and so does the mapping `m` found under that entry's names. -/
def WritesTo (env : DownlinkEnv) (a : AmmTable) (channelId slaveId : UInt8) (property : CStr)
    (value : Option Json) (m : AmmMappingEntry) : Prop :=
  ∃ eng e, parsePropertyValue env.strtod value = some eng ∧
    findEntry a channelId slaveId property = some e ∧ e.constraint.writable = true ∧
    outOfRange eng e.constraint = false ∧
    ∃ words, checkWrite env.control a e.deviceId.str e.pointId.str eng .mqtt = .ok (m, words)

/-- The device string is the plain decimal number of the slave it parses to, and
the first mapping with the names of the entry found there is on that slave. -/
def DownlinkOk (env : DownlinkEnv) (a : AmmTable) (root : Json) : Prop :=
  ∀ device channelId slaveId, downlinkDevice root = some device →
    parseDeviceAddress env.beyond device = some (channelId, slaveId) →
    ∀ p ∈ downlinkProperties root, ∀ m, WritesTo env a channelId slaveId p.1 p.2 m →
      channelId = 0 ∧ device = printDecimal slaveId.toNat ∧
        m.channelId = channelId ∧ m.slaveId = slaveId

section Target

variable {env : DownlinkEnv} {a : AmmTable} {channelId slaveId : UInt8} {property : CStr}
  {value : Option Json} {answer : EspErr}

theorem writeProperty_write {w : ModbusWrite} :
    (writeProperty env a channelId slaveId property value answer).write = some w ↔
      ∃ m words eng e, parsePropertyValue env.strtod value = some eng ∧
        findEntry a channelId slaveId property = some e ∧ e.constraint.writable = true ∧
        outOfRange eng e.constraint = false ∧
        checkWrite env.control a e.deviceId.str e.pointId.str eng .mqtt = .ok (m, words) ∧
        w = writeOf m words := by
  unfold writeProperty
  cases hv : parsePropertyValue env.strtod value with
  | none => simp [failed]
  | some eng =>
    cases he : findEntry a channelId slaveId property with
    | none => simp [failed]
    | some e =>
      cases hw : e.constraint.writable with
      | false => simp [failed, hw]
      | true =>
        cases ho : outOfRange eng e.constraint with
        | true => simp [failed, hw, ho]
        | false =>
          simp only [hw, ho, Bool.true_eq_false, Bool.false_eq_true, if_false,
            controlServiceWritePoint_sent, Option.some.injEq]
          constructor
          · rintro ⟨m, words, hc, rfl⟩
            exact ⟨m, words, eng, e, rfl, rfl, hw, ho, hc, rfl⟩
          · rintro ⟨m, words, eng', e', rfl, rfl, -, -, hc, rfl⟩
            exact ⟨m, words, hc, rfl⟩

/-- The mapping a write goes through is active and has the property's name. -/
theorem WritesTo.mapping {m : AmmMappingEntry}
    (h : WritesTo env a channelId slaveId property value m) :
    m ∈ a.entries ∧ m.pointId.str = property := by
  obtain ⟨eng, e, -, he, -, -, words, hc⟩ := h
  obtain ⟨-, -, hm, -⟩ := checkWrite_ok.1 hc
  have hnames : m.names = (e.deviceId.str, e.pointId.str) := by simpa using List.find?_some hm
  have hkey : e.pointId.str = property := by
    have := List.find?_some he
    simp only [Bool.and_eq_true, decide_eq_true_eq] at this
    exact this.2
  exact ⟨List.mem_of_find?_eq_some hm, (Prod.mk.inj hnames).2.trans hkey⟩

/-- A write through `m` is on target exactly when `m` is on the addressed device. -/
theorem onTarget_iff {device : CStr} {m : AmmMappingEntry} {words : List UInt16}
    (hm : m ∈ a.entries ∧ m.pointId.str = property) :
    OnTarget a device property (writeOf m words) ↔ deviceAddress m.channelId m.slaveId = device := by
  simp only [OnTarget, formatDeviceAddress_eq]
  constructor
  · rintro ⟨m', -, haddr, -, hch, hsl, -⟩
    rw [← haddr, ← hch, ← hsl]
    rfl
  · intro haddr
    exact ⟨m, hm.1, haddr, hm.2, rfl, rfl, rfl⟩

theorem mem_writeProperties {s : DownlinkStep} {sent : Nat} {ps : List (CStr × Option Json)}
    (h : s ∈ writeProperties env a channelId slaveId sent ps) :
    ∃ p ∈ ps, ∃ answer, s = writeProperty env a channelId slaveId p.1 p.2 answer := by
  induction ps generalizing sent with
  | nil => cases h
  | cons p ps ih =>
    rcases List.mem_cons.1 h with rfl | h
    · exact ⟨p, List.mem_cons_self, _, rfl⟩
    · obtain ⟨q, hq, answer, rfl⟩ := ih h
      exact ⟨q, List.mem_cons_of_mem p hq, answer, rfl⟩

theorem step_of_property {sent : Nat} {ps : List (CStr × Option Json)} {p : CStr × Option Json}
    (h : p ∈ ps) : ∃ answer, writeProperty env a channelId slaveId p.1 p.2 answer ∈
      writeProperties env a channelId slaveId sent ps := by
  induction ps generalizing sent with
  | nil => cases h
  | cons q ps ih =>
    rcases List.mem_cons.1 h with rfl | h
    · exact ⟨_, List.mem_cons_self⟩
    · obtain ⟨answer, hmem⟩ := ih h
      exact ⟨answer, List.mem_cons_of_mem _ hmem⟩

@[simp] theorem writeProperty_property :
    (writeProperty env a channelId slaveId property value answer).property = property := by
  unfold writeProperty failed
  split
  · rfl
  · split
    · rfl
    · split_ifs <;> rfl

/-- **Downlinks reach the addressed device.** For every table and payload, each
write of a downlink goes to an active point of that name on the device of that
address exactly when `DownlinkOk` holds. -/
theorem downlink_on_target_iff (env : DownlinkEnv) (a : AmmTable) (root : Json) :
    (∀ steps device, handleSubdeviceDownlink env a root = some steps →
      downlinkDevice root = some device → ∀ s ∈ steps, ∀ w, s.write = some w →
        OnTarget a device s.property w) ↔ DownlinkOk env a root := by
  constructor
  · intro h device channelId slaveId hd hp p hmem m hm
    obtain ⟨answer, hstep⟩ := @step_of_property env a channelId slaveId 0 _ p hmem
    have hrun : handleSubdeviceDownlink env a root =
        some (writeProperties env a channelId slaveId 0 (downlinkProperties root)) := by
      simp only [handleSubdeviceDownlink, hd, hp]
    obtain ⟨eng, e, hv, he, hw, ho, words, hc⟩ := hm
    have hsent : (writeProperty env a channelId slaveId p.1 p.2 answer).write =
        some (writeOf m words) :=
      writeProperty_write.2 ⟨m, words, eng, e, hv, he, hw, ho, hc, rfl⟩
    have htarget := h _ device hrun hd _ hstep _ hsent
    rw [writeProperty_property] at htarget
    have haddr := (onTarget_iff (WritesTo.mapping ⟨eng, e, hv, he, hw, ho, words, hc⟩)).1 htarget
    exact (deviceAddress_parse hp).1 haddr
  · intro h steps device hrun hd s hs w hw
    unfold handleSubdeviceDownlink at hrun
    rw [hd] at hrun
    simp only at hrun
    split at hrun
    · cases hrun
    · rename_i channelId slaveId hp
      obtain rfl := Option.some.inj hrun
      obtain ⟨p, hmem, answer, rfl⟩ := mem_writeProperties hs
      obtain ⟨m, words, eng, e, hv, he, hwr, ho, hc, rfl⟩ := writeProperty_write.1 hw
      have hto : WritesTo env a channelId slaveId p.1 p.2 m := ⟨eng, e, hv, he, hwr, ho, words, hc⟩
      rw [writeProperty_property, onTarget_iff hto.mapping]
      exact (deviceAddress_parse hp).2 (h device channelId slaveId hd hp p hmem m hto)

end Target

/-! ## An address beyond a byte -/

/-- The setpoint `p` of slave 5 on channel 0, as a caller adds it. -/
def setpoint : AmmMappingEntry :=
  { AmmMappingEntry.zero with
    slaveId := 5
    functionCode := 3
    dataType := .uint16
    objectType := .holdingRegister
    scaleFactor := .fin 1
    deviceId := .copy 32 "d".toList
    pointId := .copy 32 "p".toList
    constraint := { writable := true, validRangeMin := .fin 0, validRangeMax := .fin 100 } }

def setpointTable : AmmTable := (ammAddMapping .ok setpoint (.empty 1000)).2

def quietEnv : DownlinkEnv where
  strtod := fun _ => none
  beyond := []
  control := { mcpWriteEnabled := false, llroundRest := fun _ => 0 }
  answer := fun _ => .ok

def strayDownlink : Json :=
  .obj [("device".toList, .str "261".toList), ("identifier".toList, .str "p".toList),
    ("value".toList, .num (.fin 7))]

/-- The downlink for device 261 writes to slave 5. -/
theorem stray_downlink_writes : Reachable setpointTable ∧
    ¬ (∀ steps device, handleSubdeviceDownlink quietEnv setpointTable strayDownlink = some steps →
        downlinkDevice strayDownlink = some device → ∀ s ∈ steps, ∀ w, s.write = some w →
          OnTarget setpointTable device s.property w) := by
  refine ⟨.add _ _ (.empty _), fun h => ?_⟩
  have hrun : (handleSubdeviceDownlink quietEnv setpointTable strayDownlink).isSome = true := by
    decide +kernel
  obtain ⟨steps, hsteps⟩ := Option.isSome_iff_exists.1 hrun
  have hwrite : (steps.map DownlinkStep.write) =
      [some ⟨.modbusRtu, 0, 5, 6, 0, [7]⟩] := by
    have : (handleSubdeviceDownlink quietEnv setpointTable strayDownlink).map
        (List.map DownlinkStep.write) = some [some ⟨.modbusRtu, 0, 5, 6, 0, [7]⟩] := by
      decide +kernel
    rw [hsteps] at this
    exact Option.some.inj this
  obtain ⟨s, rfl, hw⟩ := List.map_eq_singleton_iff.1 hwrite
  obtain ⟨m, hm, haddr, -⟩ := h _ "261".toList hsteps rfl s List.mem_cons_self _ hw
  have hother : ∀ m ∈ setpointTable.entries,
      (formatDeviceAddress m.channelId m.slaveId 40).2 ≠ "261".toList := by decide +kernel
  exact hother m hm haddr

end McpGateway.Thingscloud
