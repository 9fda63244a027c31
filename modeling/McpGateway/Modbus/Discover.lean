import McpGateway.Lib.Json
import McpGateway.Lib.Run
import McpGateway.Modbus.Registers

/-!
# Device discovery

The full scan of `modbus_discover.c`: it probes the slaves of a bus, sweeps a
register window of each one that answers, and then reads the registers that the
embedded profile declares for the slave. What the slaves do is a parameter and
may change from read to read. The progress counters of `s_result`, the user's
names of a device and the log are left out.
-/

namespace McpGateway.Modbus

open McpGateway.Lib McpGateway.Tcm

def discoverMaxRegsPerSlave : Nat := 32
def discoverMaxBlockRegs : Nat := 8
def discoverDefaultEmptyGap : UInt8 := 32

/-- `discovered_register_t`. -/
structure DiscoveredRegister where
  registerAddress : UInt16
  functionCode : UInt8
  rawValue : UInt16
  inferredType : DataType
  sampleValue : CFloat
  readStartAddress : UInt16
  readRegisterCount : UInt8
  valueRegisterIndex : UInt8
  inferredName : CBuf 32
  inferredUnit : CBuf 16
  rangeMin : CFloat
  rangeMax : CFloat
  writable : Bool
  valid : Bool
  deriving DecidableEq

/-- `modbus_device_identity_t`. -/
structure ModbusDeviceIdentity where
  vendorName : CBuf 48
  productCode : CBuf 48
  revision : CBuf 32
  deriving DecidableEq

/-- `discovered_device_t`; `registers` holds the first `reg_count` of them. -/
structure DiscoveredDevice where
  slaveId : UInt8
  sourceProtocol : SourceProtocol
  channelId : UInt8
  deviceId : CBuf 32
  identity : ModbusDeviceIdentity
  mqttTopicPrefix : CBuf 64
  probeFunctionCode : UInt8
  probeAddress : UInt16
  probeRegisterCount : UInt8
  registers : List DiscoveredRegister
  active : Bool
  deriving DecidableEq

def DiscoveredDevice.regCount (dev : DiscoveredDevice) : Nat := dev.registers.length

/-- `discover_scan_params_t`. -/
structure DiscoverScanParams where
  slaveStart : UInt8
  slaveEnd : UInt8
  regStart : UInt16
  regEnd : UInt16
  sourceProtocol : SourceProtocol
  channelId : UInt8
  functionCodes : Vector UInt8 4
  fcCount : UInt8
  maxEmptyGap : UInt8

/-- The arguments of a `modbus_read_channel` call. -/
structure ReadRequest where
  protocol : SourceProtocol
  channelId : UInt8
  slaveId : UInt8
  functionCode : UInt8
  offset : UInt16
  count : UInt8
  deriving DecidableEq

/-- What the slaves do: the answer to the `n`-th read, and the identities they report. -/
structure Slaves where
  read : Nat → ReadRequest → Except EspErr (List UInt16)
  identity : UInt8 → Option ModbusDeviceIdentity

/-- The reads so far, and the places in `registers` that appends wrote to. -/
structure ScanState where
  reads : Nat
  written : List Nat
  deriving DecidableEq

/-! ## Semantics by address -/

/-- `semantic_profile_t`. -/
structure RegisterSemantics where
  addrLo : UInt16
  addrHi : UInt16
  name : String
  unit : String
  rangeMin : ℚ
  rangeMax : ℚ

/-- `s_profiles` up to its sentinel; no reader looks at its `writable`. -/
def registerSemantics : List RegisterSemantics :=
  [⟨40001, 40099, "Temperature", "degC", -40, 500⟩,
    ⟨40101, 40199, "Pressure", "bar", 0, 100⟩,
    ⟨40201, 40299, "Flow rate", "L/min", 0, 5000⟩,
    ⟨40301, 40399, "Speed", "rpm", 0, 6000⟩,
    ⟨40401, 40499, "Electrical", "V", 0, 600⟩,
    ⟨40501, 40599, "Humidity", "%RH", 0, 100⟩,
    ⟨40601, 40699, "Level", "mm", 0, 5000⟩,
    ⟨40701, 40799, "Counter", "pcs", 0, 99999⟩,
    ⟨40801, 40899, "Setpoint", "", -999, 999⟩,
    ⟨40901, 40999, "Status", "", 0, 255⟩]

/-- `value_hint_t`. -/
structure ValueHint where
  valLo : ℚ
  valHi : ℚ
  refinedName : String
  refinedUnit : String

/-- `s_temp_hints` and `s_pressure_hints`. -/
def valueHints (name : String) : List ValueHint :=
  if name = "Temperature" then
    [⟨-40, 0, "Temperature (cold)", "degC"⟩, ⟨0, 50, "Ambient temperature", "degC"⟩,
      ⟨50, 150, "Process temperature", "degC"⟩, ⟨150, 500, "High temperature", "degC"⟩]
  else if name = "Pressure" then
    [⟨0, 1, "Vacuum pressure", "bar"⟩, ⟨1, 10, "Line pressure", "bar"⟩,
      ⟨10, 100, "High pressure", "bar"⟩]
  else []

/-- `modbus_discover_infer_semantics`: name, unit and range. -/
def modbusDiscoverInferSemantics (address : UInt16) (value : CFloat) :
    CBuf 32 × CBuf 16 × CFloat × CFloat :=
  match registerSemantics.find? fun p => p.addrLo ≤ address ∧ address ≤ p.addrHi with
  | some p =>
    let hint := (valueHints p.name).find? fun h =>
      CFloat.le (.fin h.valLo) value && CFloat.lt value (.fin h.valHi)
    (.copy 32 ((hint.map ValueHint.refinedName).getD p.name).toList,
      .copy 16 ((hint.map ValueHint.refinedUnit).getD p.unit).toList,
      .fin p.rangeMin, .fin p.rangeMax)
  | none =>
    (.copy 32 ("Register_".toList ++ printDecimal address.toNat), .empty, .fin (-32768), .fin 65535)

/-! ## Appending a register -/

/-- The register that `discover_append_register` fills in. -/
def discoveredWord (functionCode : UInt8) (address rawValue readStart : UInt16)
    (readCount valueIndex : UInt8) : DiscoveredRegister :=
  let inferredType : DataType :=
    if functionCode ≤ 2 then .bool else if signed 16 rawValue.toNat < 0 then .int16 else .uint16
  let sampleValue : CFloat :=
    if inferredType = .int16 then .fin (signed 16 rawValue.toNat) else .fin (rawValue.toNat : ℚ)
  let semantics := modbusDiscoverInferSemantics address sampleValue
  { registerAddress := address
    functionCode := functionCode
    rawValue := rawValue
    inferredType := inferredType
    sampleValue := sampleValue
    readStartAddress := readStart
    readRegisterCount := readCount
    valueRegisterIndex := valueIndex
    inferredName := semantics.1
    inferredUnit := semantics.2.1
    rangeMin := semantics.2.2.1
    rangeMax := semantics.2.2.2
    writable := false
    valid := true }

def DiscoveredDevice.append (dev : DiscoveredDevice) (regs : List DiscoveredRegister) :
    DiscoveredDevice :=
  { dev with registers := dev.registers ++ regs }

/-- `discover_append_register`: it writes at `reg_count`, wherever that is. -/
def discoverAppendRegister (reg : DiscoveredRegister) (dev : DiscoveredDevice) (st : ScanState) :
    DiscoveredDevice × ScanState :=
  (dev.append [reg], { st with written := st.written ++ [dev.regCount] })

/-- `discover_probe_t`: a read that was answered, or a sign of life of no registers. -/
structure DiscoverProbe where
  functionCode : UInt8
  address : UInt16
  registerCount : UInt8
  values : List UInt16

def DiscoveredDevice.probed (dev : DiscoveredDevice) (probe : DiscoverProbe) : DiscoveredDevice :=
  { dev with
    probeFunctionCode := probe.functionCode
    probeAddress := probe.address
    probeRegisterCount := probe.registerCount }

/-- Word `i` of a read, as a register. -/
def DiscoverProbe.word (probe : DiscoverProbe) (i : Nat) : DiscoveredRegister :=
  discoveredWord probe.functionCode (probe.address + UInt16.ofNat i) (probe.values.getD i 0)
    probe.address probe.registerCount (UInt8.ofNat i)

/-- The loops that append the words of a read from `i` on, up to the address
`limit` and as long as the list has room. -/
def appendWords (probe : DiscoverProbe) (limit : UInt16) :
    Nat → Nat → DiscoveredDevice → ScanState → DiscoveredDevice × ScanState
  | _, 0, dev, st => (dev, st)
  | i, n + 1, dev, st =>
    if dev.regCount < discoverMaxRegsPerSlave then
      if limit < probe.address + UInt16.ofNat i then (dev, st)
      else
        let r := discoverAppendRegister (probe.word i) dev st
        appendWords probe limit (i + 1) n r.1 r.2
    else (dev, st)

/-! ## Scan parameters -/

def discoverDefaultFunctions (params : DiscoverScanParams) : DiscoverScanParams :=
  let params := if params.fcCount = 0 then
      { params with functionCodes := #v[1, 2, 3, 4], fcCount := 4 } else params
  let params := if 4 < params.fcCount then { params with fcCount := 4 } else params
  let params := { params with functionCodes := params.functionCodes.mapIdx fun i f =>
    if i < params.fcCount.toNat ∧ (f < 1 ∨ 4 < f) then UInt8.ofNat (i + 1) else f }
  if params.maxEmptyGap = 0 then { params with maxEmptyGap := discoverDefaultEmptyGap } else params

/-- `append_unique_u8` and `append_unique_u16`. -/
def appendUnique {α : Type*} [DecidableEq α] (values : List α) (value : α) : List α :=
  if value ∈ values then values else values ++ [value]

def buildCountOrder (preferred : UInt8) : List UInt8 :=
  [1, 2, 4, 8].foldl appendUnique
    (if 0 < preferred ∧ preferred.toNat ≤ discoverMaxBlockRegs then [preferred] else [])

def buildFunctionOrder (params : DiscoverScanParams) (preferred : UInt8) : List UInt8 :=
  (params.functionCodes.toList.take params.fcCount.toNat).foldl appendUnique
    (if 1 ≤ preferred ∧ preferred ≤ 4 then [preferred] else [])

/-! ## Probes -/

section Reads

variable (slaves : Slaves)

def discoverReadRegisters (protocol : SourceProtocol) (channelId slaveId functionCode : UInt8)
    (address : UInt16) (count : UInt8) (st : ScanState) :
    Except EspErr (List UInt16) × ScanState :=
  (slaves.read st.reads ⟨protocol, channelId, slaveId, functionCode,
    modbusRegisterOffset functionCode address, count⟩, { st with reads := st.reads + 1 })

/-- The first of these reads, each a count and a function code, that is answered. -/
def firstAnswered (params : DiscoverScanParams) (slaveId : UInt8) (address : UInt16) :
    List (UInt8 × UInt8) → ScanState → Option DiscoverProbe × ScanState
  | [], st => (none, st)
  | (count, f) :: rest, st =>
    match discoverReadRegisters slaves params.sourceProtocol params.channelId slaveId f address
      count st with
    | (.ok values, st) => (some ⟨f, address, count, values⟩, st)
    | (.error _, st) => firstAnswered params slaveId address rest st

/-- `discover_probe_address`: counts in the outer loop, function codes in the inner one. -/
def discoverProbeAddress (params : DiscoverScanParams) (slaveId : UInt8) (address : UInt16)
    (preferredFunction preferredCount : UInt8) (st : ScanState) :
    Option DiscoverProbe × ScanState :=
  firstAnswered slaves params slaveId address
    (((buildCountOrder preferredCount).filter fun n => address.toNat + n.toNat ≤ 65536).flatMap
      fun n => (buildFunctionOrder params preferredFunction).map fun f => (n, f)) st

/-- The functions tried at one address; `invalid` counts the invalid responses. -/
def probeFunctions (params : DiscoverScanParams) (slaveId : UInt8) (address : UInt16) :
    List UInt8 → Nat → ScanState → Option DiscoverProbe × Nat × ScanState
  | [], invalid, st => (none, invalid, st)
  | f :: fs, invalid, st =>
    match discoverReadRegisters slaves params.sourceProtocol params.channelId slaveId f address
      1 st with
    | (.ok values, st) => (some ⟨f, address, 1, values⟩, invalid, st)
    | (.error e, st) =>
      probeFunctions params slaveId address fs (if e = .invalidResponse then invalid + 1
        else invalid) st

/-- The addresses tried in turn. A slave that is silent at the first one is
absent; on RTU two invalid responses are a sign of life. -/
def probeAddresses (params : DiscoverScanParams) (slaveId : UInt8) (functions : List UInt8) :
    Bool → List UInt16 → Nat → ScanState → Option DiscoverProbe × ScanState
  | _, [], invalid, st =>
    if params.sourceProtocol = .modbusRtu ∧ 2 ≤ invalid then
      (some ⟨functions.headD 0, params.regStart, 0, []⟩, st)
    else (none, st)
  | first, a :: as, invalid, st =>
    match probeFunctions slaves params slaveId a functions invalid st with
    | (some probe, _, st) => (some probe, st)
    | (none, invalid, st) =>
      if first = true ∧ invalid = 0 then (none, st)
      else probeAddresses params slaveId functions false as invalid st

def commonRegisterEntries : List UInt16 := [40001, 40002, 43000, 43202, 48193, 59001, 30001]

def discoverProbeDevice (params : DiscoverScanParams) (slaveId : UInt8) (st : ScanState) :
    Option DiscoverProbe × ScanState :=
  probeAddresses slaves params slaveId (buildFunctionOrder params 0) true
    ((params.regStart :: [1, 0] ++ commonRegisterEntries).foldl appendUnique []) 0 st

/-! ## The register sweep -/

/-- The variables of the loop of `modbus_discover_scan_device`. -/
structure Sweep where
  dev : DiscoveredDevice
  st : ScanState
  address : Nat
  emptyGap : UInt8
  stopped : Bool

def Sweep.goes (regEnd : UInt16) (s : Sweep) : Bool :=
  !s.stopped && decide (s.address ≤ regEnd.toNat) &&
    decide (s.dev.regCount < discoverMaxRegsPerSlave)

/-- `preferred_count`: the size of the last block, within the rest of the window. -/
def Sweep.preferredCount (regEnd : UInt16) (s : Sweep) : UInt8 :=
  let remaining := UInt8.ofNat (min discoverMaxBlockRegs (regEnd.toNat - s.address + 1))
  if remaining < s.dev.probeRegisterCount then remaining else s.dev.probeRegisterCount

/-- The read of one turn: the same block again once there are registers, else a
search over counts and functions. -/
def Sweep.read (params : DiscoverScanParams) (slaveId : UInt8) (regEnd : UInt16) (s : Sweep) :
    Option DiscoverProbe × ScanState :=
  let count := s.preferredCount regEnd
  let address := UInt16.ofNat s.address
  if 0 < s.dev.regCount ∧ 0 < count then
    match discoverReadRegisters slaves s.dev.sourceProtocol s.dev.channelId slaveId
      s.dev.probeFunctionCode address count s.st with
    | (.ok values, st) => (some ⟨s.dev.probeFunctionCode, address, count, values⟩, st)
    | (.error _, st) => (none, st)
  else discoverProbeAddress slaves params slaveId address s.dev.probeFunctionCode count s.st

def Sweep.step (params : DiscoverScanParams) (slaveId : UInt8) (regEnd : UInt16) (s : Sweep) :
    Sweep :=
  match s.read slaves params slaveId regEnd with
  | (none, st) =>
    let gap := if 0 < s.dev.regCount then s.emptyGap + 1 else s.emptyGap
    { s with
      st := st
      address := s.address + 1
      emptyGap := gap
      stopped := decide (0 < s.dev.regCount ∧ params.maxEmptyGap ≤ gap) }
  | (some probe, st) =>
    let r := appendWords probe regEnd 0 probe.registerCount.toNat (s.dev.probed probe) st
    { dev := r.1
      st := r.2
      address := s.address + probe.registerCount.toNat
      emptyGap := 0
      stopped := false }

/-- The loop, for at most so many turns; each turn raises the address. -/
def Sweep.loop (params : DiscoverScanParams) (slaveId : UInt8) (regEnd : UInt16) :
    Nat → Sweep → Sweep
  | 0, s => s
  | n + 1, s =>
    if s.goes regEnd then
      Sweep.loop params slaveId regEnd n (s.step slaves params slaveId regEnd)
    else s

/-- The second liveness check, at the probe that succeeded in the bus scan. -/
def verifyDevice (params : DiscoverScanParams) (dev : DiscoveredDevice) (st : ScanState) :
    Option DiscoverProbe × ScanState :=
  if 0 < dev.probeRegisterCount then
    discoverProbeAddress slaves params dev.slaveId dev.probeAddress dev.probeFunctionCode
      dev.probeRegisterCount st
  else discoverProbeDevice slaves params dev.slaveId st

/-- `modbus_discover_scan_device` on the device it finds: whether the slave is
still there, and the device. -/
def scanDevice (params : DiscoverScanParams) (regStart regEnd : UInt16) (dev : DiscoveredDevice)
    (st : ScanState) : Bool × DiscoveredDevice × ScanState :=
  match verifyDevice slaves params dev st with
  | (none, st) => (false, { dev with active := false, registers := [] }, st)
  | (some probe, st) =>
    let s := Sweep.loop slaves params dev.slaveId regEnd (regEnd.toNat + 1 - regStart.toNat)
      { dev := { dev.probed probe with registers := [] }
        st := st
        address := regStart.toNat
        emptyGap := 0
        stopped := false }
    (true, s.dev, s.st)

/-! ## The profile -/

def profileDataType (name : Option CStr) : DataType :=
  match name with
  | none => .uint16
  | some name =>
    ((([("INT16", .int16), ("FLOAT32", .float32), ("INT32", .int32), ("UINT32", .uint32),
      ("BOOL", .bool), ("INT64", .int64), ("UINT64", .uint64), ("FLOAT64", .float64),
      ("BCD16", .bcd16), ("BITFIELD16", .bitfield16), ("ASCII", .ascii)] :
        List (String × DataType)).find? fun n => n.1.toList = name).map Prod.snd).getD .uint16

def profileTypeWidth (t : DataType) : UInt8 :=
  if t = .float32 ∨ t = .int32 ∨ t = .uint32 then 2
  else if t = .float64 ∨ t = .int64 ∨ t = .uint64 then 4
  else 1

/-- `strcasecmp(item->valuestring, want) == 0` on a string item. -/
def namesProtocol (want : String) : Json → Bool
  | .str s => decide (Json.toLower s = Json.toLower want.toList)
  | _ => false

def profileProtocolAllows (profileDevice : Json) (defaultProtocol : Option CStr)
    (protocol : SourceProtocol) : Bool :=
  let want := if protocol = .modbusTcp then "TCP" else "RTU"
  let byDefault := (defaultProtocol.map fun s => namesProtocol want (.str s)).getD true
  match profileDevice.getObjectItem "protocols".toList with
  | some (.arr items) => if items = [] then byDefault else items.any (namesProtocol want)
  | _ => byDefault

/-- `(uintN_t)item->valuedouble` of a member that is a number. -/
def profileUint (j : Json) (name : String) (w : Nat) : Option Nat :=
  (Json.number? (j.getObjectItem name.toList)).map (CFloat.toUInt w)

/-- The registers that the profile declares for a device, in the order of the
two loops of `profile_guided_register_probe`. -/
def profileRegisters (profileDevices : List Json) (defaultProtocol : Option CStr)
    (dev : DiscoveredDevice) : List Json :=
  (profileDevices.filter fun p => profileUint p "slave_id" 8 = some dev.slaveId.toNat &&
      profileProtocolAllows p defaultProtocol dev.sourceProtocol).flatMap fun p =>
    match p.getObjectItem "registers".toList with
    | some (.arr items) => items
    | _ => []

def discoveredHasRegister (dev : DiscoveredDevice) (address : UInt16) (functionCode : UInt8) :
    Bool :=
  dev.registers.any fun reg => reg.valid &&
    decide ((reg.registerAddress = address ∨
      reg.registerAddress = modbusRegisterOffset functionCode address) ∧
        reg.functionCode = functionCode)

/-- Address, function code and width of a declared register; the widths lie
within the bounds that are checked. -/
def profileTarget (reg : Json) : Option (UInt16 × UInt8 × UInt8) :=
  match profileUint reg "address" 16 with
  | none => none
  | some address =>
    let functionCode := UInt8.ofNat ((profileUint reg "function_code" 8).getD 3)
    let width := profileTypeWidth (profileDataType
      (Json.string? (reg.getObjectItem "data_type".toList)))
    if functionCode < 1 ∨ 4 < functionCode then none
    else some (UInt16.ofNat address, functionCode, width)

/-- The read of a declared register that the list lacks, if it is answered. -/
def guidedRead (dev : DiscoveredDevice) (st : ScanState) (reg : Json) :
    Option DiscoverProbe × ScanState :=
  match profileTarget reg with
  | none => (none, st)
  | some (address, functionCode, width) =>
    if discoverMaxRegsPerSlave ≤ dev.regCount then (none, st)
    else if discoveredHasRegister dev address functionCode then (none, st)
    else if 65536 < address.toNat + width.toNat then (none, st)
    else
      match discoverReadRegisters slaves dev.sourceProtocol dev.channelId dev.slaveId functionCode
        address width st with
      | (.ok values, st) => (some ⟨functionCode, address, width, values⟩, st)
      | (.error _, st) => (none, st)

/-- One turn of the inner loop of `profile_guided_register_probe`. -/
def probeProfileRegister (s : DiscoveredDevice × ScanState) (reg : Json) :
    DiscoveredDevice × ScanState :=
  match guidedRead slaves s.1 s.2 reg with
  | (none, st) => (s.1, st)
  | (some probe, st) => appendWords probe 65535 0 probe.registerCount.toNat s.1 st

/-! ## The full scan -/

/-- The device table, and what has been done on the bus. -/
structure Discovery where
  devices : List DiscoveredDevice
  st : ScanState

/-- The device that the bus scan enters for a slave that answered. -/
def foundDevice (params : DiscoverScanParams) (sid : Nat) (probe : DiscoverProbe) :
    DiscoveredDevice :=
  let names := (if params.sourceProtocol = .modbusTcp then "tcp" else "rtu").toList ++
    "_ch".toList ++ printDecimal params.channelId.toNat ++ "_slave_".toList ++ padDecimal 2 sid
  { slaveId := UInt8.ofNat sid
    sourceProtocol := params.sourceProtocol
    channelId := params.channelId
    deviceId := .copy 32 names
    identity := (slaves.identity (UInt8.ofNat sid)).getD ⟨.empty, .empty, .empty⟩
    mqttTopicPrefix := .copy 64 ("factory/data/".toList ++ names)
    probeFunctionCode := probe.functionCode
    probeAddress := probe.address
    probeRegisterCount := probe.registerCount
    registers := []
    active := true }

def probeSlave (capacity : Nat) (params : DiscoverScanParams) (s : Discovery) (sid : Nat) :
    Discovery :=
  match discoverProbeDevice slaves params (UInt8.ofNat sid) s.st with
  | (none, st) => { s with st := st }
  | (some probe, st) =>
    if s.devices.length < capacity then
      { devices := s.devices ++ [foundDevice slaves params sid probe], st := st }
    else { s with st := st }

def firstSlave (params : DiscoverScanParams) : Nat :=
  if params.slaveStart < 1 then 1 else params.slaveStart.toNat

def lastSlave (params : DiscoverScanParams) : Nat :=
  if 247 < params.slaveEnd then 247 else params.slaveEnd.toNat

/-- `scan_bus_sync`; a capacity of 0 is a table that could not be allocated. -/
def scanBusSync (capacity : Nat) (params : DiscoverScanParams) : Except EspErr Discovery :=
  if capacity = 0 then .error .noMem
  else if lastSlave params < firstSlave params then .error .invalidArg
  else .ok (run (probeSlave slaves capacity params) ⟨[], ⟨0, []⟩⟩
    (List.range' (firstSlave params) (lastSlave params + 1 - firstSlave params)))

/-- The window of a device: one of the same length at its probe, if that lies outside. -/
def scanWindow (params : DiscoverScanParams) (dev : DiscoveredDevice) : UInt16 × UInt16 :=
  if 0 < dev.probeRegisterCount ∧
      (dev.probeAddress < params.regStart ∨ params.regEnd < dev.probeAddress) then
    (dev.probeAddress, UInt16.ofNat (min 65535
      (dev.probeAddress.toNat + (params.regEnd.toNat - params.regStart.toNat))))
  else (params.regStart, params.regEnd)

/-- The lookup of `modbus_discover_scan_device`. -/
def findScanned (params : DiscoverScanParams) (slaveId : UInt8) (devices : List DiscoveredDevice) :
    Option Nat :=
  devices.findIdx? fun d => decide (d.slaveId = slaveId) &&
    decide (d.sourceProtocol = params.sourceProtocol) && decide (d.channelId = params.channelId) &&
    d.active

/-- The sweep of the device at `i`, if it is active; whether its slave was there. -/
def sweepAt (params : DiscoverScanParams) (s : Discovery) (i : Nat) : Bool × Discovery :=
  match s.devices[i]? with
  | none => (false, s)
  | some dev =>
    if dev.active = false then (false, s)
    else
      match findScanned params dev.slaveId s.devices with
      | none => (false, s)
      | some k =>
        match s.devices[k]? with
        | none => (false, s)
        | some found =>
          let w := scanWindow params dev
          let r := scanDevice slaves params w.1 w.2 found s.st
          (r.1, { devices := s.devices.set k r.2.1, st := r.2.2 })

/-- The array `devices` of the profile and its default transport. -/
def profileDevices (profile : Option Json) : Option (List Json × Option CStr) :=
  match profile.bind fun root => root.getObjectItem "devices".toList with
  | some (.arr items) =>
    some (items, Json.string? (profile.bind fun root => root.getObjectItem
      "source_protocol".toList))
  | _ => none

/-- `profile_guided_register_probe` of the device at `i`. -/
def profileGuidedRegisterProbe (profile : Option Json) (s : Discovery) (i : Nat) : Discovery :=
  match profileDevices profile, s.devices[i]? with
  | some (items, defaultProtocol), some dev =>
    let r := run (probeProfileRegister slaves) (dev, s.st)
      (profileRegisters items defaultProtocol dev)
    { devices := s.devices.set i r.1, st := r.2 }
  | _, _ => s

/-- One device of the second phase of `full_scan_sync`. -/
def scanNext (profile : Option Json) (params : DiscoverScanParams) (s : Discovery) (i : Nat) :
    Discovery :=
  match sweepAt slaves params s i with
  | (false, s) => s
  | (true, s) => profileGuidedRegisterProbe slaves profile s i

/-- `full_scan_sync`; `profile` is the embedded document, if it parses. -/
def fullScanSync (capacity : Nat) (profile : Option Json) (params : DiscoverScanParams) :
    Except EspErr Discovery :=
  match scanBusSync slaves capacity params with
  | .error e => .error e
  | .ok start =>
    let s := run (scanNext slaves profile params) start (List.range start.devices.length)
    .ok { s with devices := s.devices.filter DiscoveredDevice.active }

end Reads

def defaultScanParams : DiscoverScanParams where
  slaveStart := 1
  slaveEnd := 247
  regStart := 0
  regEnd := 100
  sourceProtocol := .modbusRtu
  channelId := 0
  functionCodes := #v[1, 2, 3, 4]
  fcCount := 4
  maxEmptyGap := discoverDefaultEmptyGap

/-- The request `modbus_discover_full_scan` keeps, if it accepts one. -/
def fullRequest (params : Option DiscoverScanParams) : Except EspErr DiscoverScanParams :=
  let req := discoverDefaultFunctions (params.getD defaultScanParams)
  if req.slaveStart < 1 ∨ 247 < req.slaveEnd ∨ req.slaveEnd < req.slaveStart ∨
      req.regEnd < req.regStart then .error .invalidArg
  else .ok (if 64 < req.maxEmptyGap then { req with maxEmptyGap := 64 } else req)

/-- `modbus_discover_full_scan` while no scan is running, with the task it starts. -/
def modbusDiscoverFullScan (slaves : Slaves) (capacity : Nat) (profile : Option Json)
    (params : Option DiscoverScanParams) : Except EspErr Discovery :=
  if capacity = 0 then .error .noMem
  else
    match fullRequest params with
    | .error e => .error e
    | .ok req => fullScanSync slaves capacity profile req

/-! ## The embedded profile -/

def declaredRegister (functionCode : Nat) (type : String) (address : Nat) : Json :=
  .obj [("address".toList, .num (.fin address)),
    ("function_code".toList, .num (.fin functionCode)), ("data_type".toList, .str type.toList)]

def declaredDevice (registers : List Json) (slaveId : Nat) : Json :=
  .obj [("slave_id".toList, .num (.fin slaveId)),
    ("protocols".toList, .arr [.str "RTU".toList]), ("registers".toList, .arr registers)]

/-- `profiles/lab_rtu_146_points.json`, the members that a scan reads. Devices of
one kind stand together here. -/
def labProfile : Json :=
  let energyMeter := [43000, 43002, 43004, 43036, 43060, 43084, 43110].map
    (declaredRegister 3 "FLOAT32")
  let controller :=
    [declaredRegister 3 "INT16" 48193, declaredRegister 3 "UINT16" 48194,
      declaredRegister 3 "INT16" 48195, declaredRegister 3 "UINT16" 48196,
      declaredRegister 3 "INT16" 48197, declaredRegister 3 "INT16" 48452,
      declaredRegister 3 "INT16" 48453]
  let drive :=
    [declaredRegister 3 "UINT16" 43202, declaredRegister 3 "INT16" 43203,
      declaredRegister 3 "UINT16" 43205, declaredRegister 3 "UINT16" 43208,
      declaredRegister 3 "UINT16" 43209, declaredRegister 3 "UINT16" 48502,
      declaredRegister 3 "INT16" 48503]
  .obj [("source_protocol".toList, .str "RTU".toList), ("devices".toList, .arr
    (declaredDevice [declaredRegister 4 "INT16" 1, declaredRegister 4 "UINT16" 2] 1 ::
      [2, 3, 4, 5, 6, 7, 8, 21].map (declaredDevice energyMeter) ++
      [9, 10, 11, 12, 13].map (declaredDevice controller) ++
      [14, 15, 16, 17].map (declaredDevice drive) ++
      [declaredDevice ([40002, 40004, 40006, 40014, 40016, 40018, 40056, 40066, 40070].map
          (declaredRegister 3 "FLOAT32")) 18,
        declaredDevice ([59001, 59003, 59005, 59013, 59015, 59017, 59027, 59051, 59061].map
          (declaredRegister 3 "FLOAT32")) 19,
        declaredDevice ([43000, 43002, 43004, 43028, 43060, 43084, 43110].map
          (declaredRegister 3 "FLOAT32")) 20]))]

end McpGateway.Modbus
