import McpGateway.Modbus.Discover
import McpGateway.Web.MappingApi

/-!
# From discovered devices to mappings

`modbus_discover_apply_mappings`: the devices that the embedded profile knows get
its mappings, the others one raw mapping for each valid register, with the
fingerprint of `semantic_inference.c`. Buffers are always allocated.
-/

namespace McpGateway.Web

open McpGateway.Lib McpGateway.Tcm McpGateway.Amm McpGateway.Modbus

/-- `discovered_register_t`, with the mark that the register editor sets. -/
structure ListedRegister extends DiscoveredRegister where
  userEdited : Bool

/-- `discovered_device_t`, as the apply reads it. -/
structure ListedDevice where
  slaveId : UInt8
  sourceProtocol : SourceProtocol
  channelId : UInt8
  deviceId : CBuf 32
  identity : ModbusDeviceIdentity
  probeFunctionCode : UInt8
  probeAddress : UInt16
  registers : List ListedRegister
  active : Bool

def ListedDevice.ofScan (dev : DiscoveredDevice) : ListedDevice where
  slaveId := dev.slaveId
  sourceProtocol := dev.sourceProtocol
  channelId := dev.channelId
  deviceId := dev.deviceId
  identity := dev.identity
  probeFunctionCode := dev.probeFunctionCode
  probeAddress := dev.probeAddress
  registers := dev.registers.map fun reg => { reg with userEdited := false }
  active := dev.active

/-- Where a device stands on the buses. -/
abbrev BusPlace := SourceProtocol × UInt8 × UInt8

def ListedDevice.place (dev : ListedDevice) : BusPlace :=
  (dev.sourceProtocol, dev.channelId, dev.slaveId)

def busPlace (e : AmmMappingEntry) : BusPlace := (e.sourceProtocol, e.channelId, e.slaveId)

def ListedDevice.points (dev : ListedDevice) : List ListedRegister :=
  dev.registers.filter fun reg => reg.valid

/-- `s_devices`: no two of its devices stand at one place. -/
structure DeviceList where
  devices : List ListedDevice
  apart : (devices.map ListedDevice.place).Nodup

/-! ## The fingerprint -/

def fnv1aBytes (hash : UInt32) (bytes : List UInt8) : UInt32 :=
  bytes.foldl (fun hash b => (hash ^^^ b.toUInt32) * 16777619) hash

/-- `fnv1a_string`; a character is one byte of the string. -/
def fnv1aString (hash : UInt32) (s : CStr) : UInt32 := fnv1aBytes hash (s.map fun c => c.toUInt8)

/-- The bytes of a `uint16_t`, the low one first. -/
def wordBytes (w : UInt16) : List UInt8 := [w.toUInt8, (w >>> 8).toUInt8]

/-- The bytes of a `source_protocol_t`. -/
def protocolBytes (p : SourceProtocol) : List UInt8 :=
  [if p = .modbusTcp then 1 else 0, 0, 0, 0]

/-- `semantic_device_identity_t`. -/
structure SemanticIdentity where
  fingerprint : CBuf 17
  profileId : CBuf 32
  confidence : UInt8
  evidence : CBuf 48

/-- The hash of `semantic_inference_identify`; a signature is a function code and an address. -/
def deviceHash (dev : ListedDevice) (signatures : List (UInt8 × UInt16)) : UInt32 :=
  let hash := fnv1aBytes 2166136261 (protocolBytes dev.sourceProtocol)
  let hash := fnv1aBytes hash [dev.channelId]
  let hash := fnv1aBytes hash [dev.slaveId]
  let hash := fnv1aString hash dev.identity.vendorName.str
  let hash := fnv1aString hash dev.identity.productCode.str
  let hash := fnv1aString hash dev.identity.revision.str
  let hash := fnv1aBytes hash [dev.probeFunctionCode]
  let hash := fnv1aBytes hash (wordBytes dev.probeAddress)
  signatures.foldl (fun hash s => fnv1aBytes (fnv1aBytes hash [s.1]) (wordBytes s.2)) hash

/-- `%08lx`. -/
def printHex8 (n : UInt32) : CStr := (printHex n.toNat).leftpad 8 '0'

def hasDeviceMetadata (identity : ModbusDeviceIdentity) : Bool :=
  decide (identity.vendorName.str ≠ []) || decide (identity.productCode.str ≠ []) ||
    decide (identity.revision.str ≠ [])

def semanticInferenceIdentify (dev : ListedDevice) (signatures : List (UInt8 × UInt16)) :
    SemanticIdentity :=
  let hash := printHex8 (deviceHash dev signatures)
  { fingerprint := .copy 17 hash
    profileId := .copy 32 ("unresolved-".toList ++ hash)
    confidence := if hasDeviceMetadata dev.identity then 40 else 20
    evidence := .copy 48 ("fp=".toList ++ hash ++ "; live FC".toList ++
      padDecimal 2 dev.probeFunctionCode.toNat ++ " response".toList) }

/-! ## Raw mappings -/

def defaultDeviceId (dev : ListedDevice) : CStr :=
  (if dev.sourceProtocol = .modbusTcp then "tcp" else "rtu").toList ++ "_ch".toList ++
    printDecimal dev.channelId.toNat ++ "_slave_".toList ++ padDecimal 2 dev.slaveId.toNat

def rawPointId (reg : ListedRegister) : CStr :=
  "raw_fc".toList ++ padDecimal 2 reg.functionCode.toNat ++ '_' ::
    printDecimal reg.registerAddress.toNat

def rawName (reg : ListedRegister) : CStr :=
  "Raw FC".toList ++ padDecimal 2 reg.functionCode.toNat ++ ' ' ::
    printDecimal reg.registerAddress.toNat

def isBit (functionCode : UInt8) : Bool := functionCode = 1 || functionCode = 2

/-- `semantic_inference_build_raw_mapping`. -/
def buildRawMapping (dev : ListedDevice) (identity : SemanticIdentity) (reg : ListedRegister) :
    DiscoveredMapping :=
  let edited := reg.userEdited
  { sourceProtocol := dev.sourceProtocol
    channelId := dev.channelId
    slaveId := dev.slaveId
    functionCode := reg.functionCode
    registerAddress := reg.registerAddress
    dataType :=
      if edited then reg.inferredType else if isBit reg.functionCode then .bool else .uint16
    byteOrderName := none
    scaleFactor := .fin 1
    offset := .fin 0
    pollIntervalMs := 0
    priority := 3
    readStartAddress :=
      if 0 < reg.readRegisterCount then reg.readStartAddress else reg.registerAddress
    readRegisterCount := if 0 < reg.readRegisterCount then reg.readRegisterCount else 1
    valueRegisterIndex := reg.valueRegisterIndex
    deviceId := if dev.deviceId.str ≠ [] then dev.deviceId else .copy 32 (defaultDeviceId dev)
    pointId := .copy 32 (rawPointId reg)
    measurementName :=
      if edited ∧ reg.inferredName.str ≠ [] then reg.inferredName else .copy 32 (rawName reg)
    unit := if edited then reg.inferredUnit else .empty
    constraint :=
      if edited then
        { writable := reg.writable
          validRangeMin := reg.rangeMin
          validRangeMax := reg.rangeMax }
      else
        { writable := false
          validRangeMin := .fin 0
          validRangeMax := .fin (if isBit reg.functionCode then 1 else 65535) }
    semanticSource := if edited then .user else .discovery
    semanticStatus := if edited then .verified else .unresolved
    semanticConfidence := if edited then 100 else identity.confidence
    semanticProfileId := identity.profileId
    semanticProfileVersion := 0
    semanticEvidence :=
      if edited then .copy 48 "user edit via discovery editor".toList else identity.evidence }

def ListedDevice.signatures (dev : ListedDevice) : List (UInt8 × UInt16) :=
  ((dev.registers.take discoverMaxRegsPerSlave).filter fun reg => reg.valid).map fun reg =>
    (reg.functionCode, reg.registerAddress)

def ListedDevice.rawMappings (dev : ListedDevice) : List DiscoveredMapping :=
  dev.points.map (buildRawMapping dev (semanticInferenceIdentify dev dev.signatures))

/-- The unknown devices for which there is room, of `room` entries with `used` taken. -/
def admitted (room : Nat) : Nat → List ListedDevice → List ListedDevice
  | _, [] => []
  | used, dev :: devs =>
    if used + dev.points.length > room then admitted room used devs
    else dev :: admitted room (used + dev.points.length) devs

/-- The room for raw mappings: the free slots, and the entries of the unknown devices. -/
def rawCapacity (a : AmmTable) (unknown : List ListedDevice) : Nat :=
  let current := a.entries.take a.capacity
  let replaceable :=
    current.countP fun e => unknown.any fun dev => decide (busPlace e = dev.place)
  a.capacity - current.length + replaceable

/-! ## The profile -/

/-- A declared register that the device has, as `discovered_has_register` finds it. -/
def registerFound (dev : ListedDevice) (reg : Json) : Bool :=
  match profileUint reg "address" 16 with
  | none => false
  | some address =>
    let functionCode := UInt8.ofNat ((profileUint reg "function_code" 8).getD 3)
    let declared := UInt16.ofNat address
    dev.registers.any fun found => found.valid &&
      decide ((found.registerAddress = declared ∨
        found.registerAddress = modbusRegisterOffset functionCode declared) ∧
          found.functionCode = functionCode)

/-- `profile_matches_discovered_device`: two declared registers of the slave are there. -/
def profileMatches (profileDevice : Json) (defaultProtocol : Option CStr) (dev : ListedDevice) :
    Bool :=
  match profileDevice.getObjectItem "registers".toList with
  | some (.arr items) =>
    decide (profileUint profileDevice "slave_id" 8 = some dev.slaveId.toNat) &&
      profileProtocolAllows profileDevice defaultProtocol dev.sourceProtocol &&
      decide (2 ≤ items.countP (registerFound dev))
  | _ => false

/-- `profile_copy_string`, over what the buffer holds. -/
def profileCopyString (j : Json) (key : String) {n : Nat} [NeZero n] (old : CBuf n) : CBuf n :=
  ((Json.string? (j.getObjectItem key.toList)).map (.copy n)).getD old

def profileNumber (j : Json) (key : String) (fallback : CFloat) : CFloat :=
  ((Json.number? (j.getObjectItem key.toList)).map toFloat).getD fallback

/-- The mapping of a declared register; `none` if it has no address. -/
def profileMapping (root profileDevice : Json) (dev : ListedDevice) (reg : Json) :
    Option DiscoveredMapping :=
  (profileUint reg "address" 16).map fun address =>
    let address := UInt16.ofNat address
    let dataType := profileDataType (Json.string? (reg.getObjectItem "data_type".toList))
    let named : CBuf 32 :=
      if dev.sourceProtocol = .modbusRtu then profileCopyString profileDevice "device_id" .empty
      else .empty
    let deviceId := if named.str = [] then .copy 32 (defaultDeviceId dev) else named
    let declared : CBuf 32 := profileCopyString reg "point_id" .empty
    let pointId := if declared.str = [] then
        .copy 32 ("register_".toList ++ printDecimal address.toNat)
      else declared
    let name : CBuf 32 := profileCopyString reg "name" .empty
    { sourceProtocol := dev.sourceProtocol
      channelId := dev.channelId
      slaveId := dev.slaveId
      functionCode := UInt8.ofNat ((profileUint reg "function_code" 8).getD 3)
      registerAddress := address
      dataType := dataType
      byteOrderName := Json.string? (reg.getObjectItem "byte_order".toList)
      scaleFactor := profileNumber reg "scale" (.fin 1)
      offset := profileNumber reg "offset" (.fin 0)
      pollIntervalMs := UInt32.ofNat ((profileUint profileDevice "poll_interval_ms" 32).getD 0)
      priority := UInt8.ofNat ((profileUint profileDevice "priority" 8).getD 5)
      readStartAddress := address
      readRegisterCount := profileTypeWidth dataType
      valueRegisterIndex := 0
      deviceId := deviceId
      pointId := pointId
      measurementName := if name.str = [] then pointId else name
      unit := profileCopyString reg "unit" .empty
      constraint :=
        { writable := Json.isTrue (reg.getObjectItem "writable".toList)
          validRangeMin := profileNumber reg "minimum" (.fin (-32768))
          validRangeMax := profileNumber reg "maximum" (.fin 65535) }
      semanticSource := .profile
      semanticStatus := .verified
      semanticConfidence := 100
      semanticProfileId := profileCopyString root "name" .empty
      semanticProfileVersion := Fin.ofNat _ ((profileUint root "profile_version" 32).getD 1)
      semanticEvidence := .copy 48 "device fingerprint + register profile".toList }

def profileMappings (root profileDevice : Json) (dev : ListedDevice) : List DiscoveredMapping :=
  match profileDevice.getObjectItem "registers".toList with
  | some (.arr items) => items.filterMap (profileMapping root profileDevice dev)
  | _ => []

/-- The loop over the devices: the mappings so far, and which of the devices are known. A full
buffer ends it. -/
def matchDevices (capacity : Nat) (root : Json) (items : List Json) (dflt : Option CStr) :
    List ListedDevice → List DiscoveredMapping → List DiscoveredMapping × List Bool
  | [], found => (found, [])
  | dev :: devs, found =>
    match if found.length < capacity ∧ dev.active then
        items.find? fun p => profileMatches p dflt dev
      else none with
    | none =>
      let rest := matchDevices capacity root items dflt devs found
      (rest.1, false :: rest.2)
    | some profileDevice =>
      let found := (found ++ profileMappings root profileDevice dev).take capacity
      let rest := matchDevices capacity root items dflt devs found
      (rest.1, true :: rest.2)

/-- `discover_apply_result_t`, with the number of mappings that are made. -/
structure ApplyResult where
  profileDevices : Nat
  semanticMappings : Nat
  rawMappings : Nat
  unresolvedDevices : Nat
  created : Nat

/-- `apply_embedded_semantic_profile`: the known devices, the number of mappings, the store. -/
def applyEmbeddedSemanticProfile (profile : Option Json) (devs : List ListedDevice) (f : AmmFaults)
    (s : AmmStore) : List Bool × Nat × AmmStore :=
  let none' := devs.map fun _ => false
  match profile, profileDevices profile with
  | some root, some (items, dflt) =>
    let r := matchDevices s.ram.capacity root items dflt devs []
    if r.1 = [] then (none', 0, s)
    else
      let imported := s.perform (.import (r.1.map DiscoveredMapping.entry) true) f
      if imported.1 = .ok then (r.2, r.1.length, imported.2) else (none', 0, imported.2)
  | _, _ => (none', 0, s)

def unknownDevices (devs : List ListedDevice) (known : List Bool) : List ListedDevice :=
  ((devs.zip known).filter fun d => d.1.active && !d.2).map Prod.fst

def rawBatch (a : AmmTable) (unknown : List ListedDevice) : List AmmMappingEntry :=
  ((admitted (rawCapacity a unknown) 0 unknown).flatMap ListedDevice.rawMappings).map
    DiscoveredMapping.entry

/-- The second part of `modbus_discover_apply_mappings`: the number of mappings, the store. -/
def applyRaw (unknown : List ListedDevice) (f : AmmFaults) (s : AmmStore) : Nat × AmmStore :=
  let batch := rawBatch s.ram unknown
  if batch = [] then (0, s)
  else
    let r := s.perform (.import batch true) f
    (if r.1 = .ok then batch.length else 0, r.2)

/-- `modbus_discover_apply_mappings`; `f` and `g` answer the two imports. -/
def modbusDiscoverApplyMappings (profile : Option Json) (devs : List ListedDevice) (f g : AmmFaults)
    (s : AmmStore) : ApplyResult × AmmStore :=
  let p := applyEmbeddedSemanticProfile profile devs f s
  let unknown := unknownDevices devs p.1
  let r := applyRaw unknown g p.2.2
  ({ profileDevices := p.1.count true
     semanticMappings := p.2.1
     rawMappings := r.1
     unresolvedDevices := unknown.length
     created := p.2.1 + r.1 }, r.2)

/-! ## The editor -/

/-- The first active device of a slave: `modbus_discover_find_device`. -/
def modbusDiscoverFindDevice (devs : List ListedDevice) (slaveId : UInt8) : Option Nat :=
  devs.findIdx? fun dev => decide (dev.slaveId = slaveId) && dev.active

/-- The first register at an address, in the loop of `modbus_discover_find_register`. -/
def ListedDevice.findRegister (dev : ListedDevice) (regAddr : UInt16) : Option Nat :=
  dev.registers.findIdx? fun reg => decide (reg.registerAddress = regAddr)

structure DeviceEdit where
  edit : ListedDevice → ListedDevice
  stays : ∀ dev, (edit dev).place = dev.place

theorem modify_places (devs : List ListedDevice) (i : Nat) (e : DeviceEdit) :
    (devs.modify i e.edit).map ListedDevice.place = devs.map ListedDevice.place := by
  refine List.ext_getElem? fun j => ?_
  rw [List.getElem?_map, List.getElem?_map, List.getElem?_modify]
  cases devs[j]? with
  | none => rfl
  | some dev =>
    simp only [Option.map_eq_map, Option.map_some]
    split
    · exact congrArg some (e.stays dev)
    · rfl

def DeviceList.edited (l : DeviceList) (i : Nat) (e : DeviceEdit) : DeviceList where
  devices := l.devices.modify i e.edit
  apart := by
    rw [modify_places]
    exact l.apart

def editRegisters (g : List ListedRegister → List ListedRegister) : DeviceEdit where
  edit dev := { dev with registers := g dev.registers }
  stays _ := rfl

/-- The device id of `modbus_discover_update_device`; an empty one is ignored. -/
def renameDevice (deviceId : Option CStr) : DeviceEdit where
  edit dev :=
    match deviceId with
    | some (c :: cs) => { dev with deviceId := .copy 32 (c :: cs) }
    | _ => dev
  stays dev := by
    split <;> rfl

/-- What `modbus_discover_update_register` is given for the register. -/
structure RegisterEdit where
  name : Option CStr
  unit : Option CStr
  dataType : DataType
  constraint : ControlConstraint

def RegisterEdit.register (r : RegisterEdit) (reg : ListedRegister) : ListedRegister :=
  { reg with
    inferredName := (r.name.map (.copy 32)).getD reg.inferredName
    inferredUnit := (r.unit.map (.copy 16)).getD reg.inferredUnit
    inferredType := r.dataType
    writable := r.constraint.writable
    rangeMin := r.constraint.validRangeMin
    rangeMax := r.constraint.validRangeMax
    userEdited := true }

def RegisterEdit.entry (r : RegisterEdit) (e : AmmMappingEntry) : AmmMappingEntry :=
  { e with
    measurementName :=
      match r.name with
      | some (c :: cs) => .copy 32 (c :: cs)
      | _ => e.measurementName
    unit := (r.unit.map (.copy 16)).getD e.unit
    dataType := r.dataType
    constraint := r.constraint
    semanticSource := .user
    semanticStatus := .verified
    semanticConfidence := 100
    semanticEvidence := .copy 48 "user edit via discovery editor".toList }

/-- The editing calls, with the answers of flash to the write-through. -/
inductive DiscoverEdit
  | updateDevice (slaveId : UInt8) (deviceId : Option CStr)
  | updateRegister (slaveId : UInt8) (regAddr : UInt16) (r : RegisterEdit) (f : AmmFaults)
  | toggleRegister (slaveId : UInt8) (regAddr : UInt16)
  | deleteRegister (slaveId : UInt8) (regAddr : UInt16)

/-- The device list and the mappings. -/
structure Discovered where
  list : DeviceList
  amm : AmmStore

/-- The write-through: a point that is mapped is added again with the edit. -/
def writeThrough (key : PhysicalKey) (r : RegisterEdit) (f : AmmFaults) (s : AmmStore) : AmmStore :=
  match ammFindMappingForObject key s.ram with
  | none => s
  | some e => (s.perform (.add (r.entry e)) f).2

/-- The register of a slave at an address, with the places of both in the lists. -/
def modbusDiscoverFindRegister (devs : List ListedDevice) (slaveId : UInt8) (regAddr : UInt16) :
    Option (Nat × Nat × PhysicalKey) := do
  let i ← modbusDiscoverFindDevice devs slaveId
  let dev ← devs[i]?
  let j ← dev.findRegister regAddr
  let reg ← dev.registers[j]?
  some (i, j, ⟨dev.sourceProtocol, dev.channelId, slaveId, reg.functionCode, regAddr⟩)

/-- An editing call; one that finds nothing changes nothing. -/
def Discovered.edit (d : Discovered) : DiscoverEdit → Discovered
  | .updateDevice slaveId deviceId =>
    match modbusDiscoverFindDevice d.list.devices slaveId with
    | none => d
    | some i => { d with list := d.list.edited i (renameDevice deviceId) }
  | .updateRegister slaveId regAddr r f =>
    match modbusDiscoverFindRegister d.list.devices slaveId regAddr with
    | none => d
    | some (i, j, key) =>
      { list := d.list.edited i (editRegisters fun regs => regs.modify j r.register)
        amm := writeThrough key r f d.amm }
  | .toggleRegister slaveId regAddr =>
    match modbusDiscoverFindRegister d.list.devices slaveId regAddr with
    | none => d
    | some (i, j, _) =>
      { d with list := d.list.edited i (editRegisters fun regs =>
          regs.modify j fun reg => { reg with valid := !reg.valid }) }
  | .deleteRegister slaveId regAddr =>
    match modbusDiscoverFindRegister d.list.devices slaveId regAddr with
    | none => d
    | some (i, j, _) => { d with list := d.list.edited i (editRegisters (·.eraseIdx j)) }

end McpGateway.Web
