import McpGateway.Lib.Json
import McpGateway.Lib.Octets
import McpGateway.Services.ControlService
import McpGateway.Tcm.StatePool

/-!
# The Modbus TCP server

`modbus_tcp_server.c`: a request PDU is answered from the mapping table and the
state pool, and a write goes through the control service. A byte that is read
beyond the end of the request makes the result `none`. `well_formed_iff` says
which requests get a well-formed response.
-/

namespace McpGateway.Modbus

open McpGateway.Lib McpGateway.Tcm McpGateway.Amm McpGateway.Services

/-! ## Data -/

/-- What a request is answered from: the mapping table, the state pool, the
control service, and what the Modbus layer returns for the `n`-th write that the
request causes. -/
structure TcpServer where
  table : AmmTable
  pool : StatePool
  control : ControlEnv
  answers : Nat → EspErr

/-- `modbus_encode_number`; `rest` is what `llround` leaves open. -/
def modbusEncodeNumber (rest : CFloat → Int64) (value : CFloat) (t : DataType)
    (order : ByteOrder) : List UInt16 :=
  let rounded := llround rest value
  match t with
  | .bool => [if value.ne0 then 1 else 0]
  | .int16 | .uint16 | .bitfield16 => [UInt16.ofNat (lowBits 16 rounded)]
  | .bcd16 => [bcdWord (lowBits 16 rounded)]
  | .float32 => reorder order (splitWords 2 (ieeeEncode 8 23 value))
  | .int32 | .uint32 => reorder order (splitWords 2 (lowBits 32 rounded))
  | .float64 => reorder order (splitWords 4 (ieeeEncode 11 52 value))
  | .int64 | .uint64 => reorder order (splitWords 4 (lowBits 64 rounded))
  | .ascii => []

/-! ## Lookups -/

/-- The registers an entry covers in `amm_find_mapping_covering`. -/
def coveredCount (e : AmmMappingEntry) : UInt8 :=
  if e.dataType = .ascii ∧ e.readRegisterCount > 0 then e.readRegisterCount
  else ammPointRegisterCount e.dataType

def covers (slaveId functionCode : UInt8) (address : UInt16) (e : AmmMappingEntry) : Bool :=
  decide (e.slaveId = slaveId) && decide (e.functionCode = functionCode) &&
    decide (e.registerAddress ≤ address) &&
    decide (address.toNat < e.registerAddress.toNat + (coveredCount e).toNat)

/-- `amm_find_mapping_covering`: the entry and the word index. -/
def ammFindMappingCovering (slaveId functionCode : UInt8) (address : UInt16) (a : AmmTable) :
    Option (AmmMappingEntry × UInt8) :=
  (a.entries.find? (covers slaveId functionCode address)).map fun e =>
    (e, (address - e.registerAddress).toUInt8)

/-- The second address `find_mapping` tries. -/
def logicalAddress (functionCode : UInt8) (offset : UInt16) : UInt16 :=
  if functionCode = 1 then offset + 1
  else if functionCode = 2 then offset + 10001
  else if functionCode = 3 then offset + 40001
  else if functionCode = 4 then offset + 30001
  else offset

def findMapping (unit functionCode : UInt8) (offset : UInt16) (a : AmmTable) :
    Option (AmmMappingEntry × UInt8) :=
  match ammFindMappingCovering unit functionCode offset a with
  | some found => some found
  | none => ammFindMappingCovering unit functionCode (logicalAddress functionCode offset) a

section Server

variable (s : TcpServer)

/-- The word of a mapping that `read_word` returns: the second half of it. -/
def pointWord (functionCode : UInt8) (m : AmmMappingEntry) (wordIndex : UInt8) : Option UInt16 :=
  match tcmStatePoolGet m.deviceId.str m.pointId.str s.pool with
  | none => none
  | some state =>
    if state.qualityState = .invalid then none
    else if functionCode ≤ 2 then some (if state.value.ne0 then 1 else 0)
    else (modbusEncodeNumber s.control.llroundRest state.rawValue m.dataType
      m.byteOrder)[wordIndex.toNat]?

/-- `read_word`, with the mapping and the word index that the word comes from. -/
def readSource (unit functionCode : UInt8) (offset : UInt16) :
    Option ((AmmMappingEntry × UInt8) × UInt16) :=
  match findMapping unit functionCode offset s.table with
  | none => none
  | some found => (pointWord s functionCode found.1 found.2).map fun word => (found, word)

def readWord (unit functionCode : UInt8) (offset : UInt16) : Option UInt16 :=
  (readSource s unit functionCode offset).map Prod.snd

/-! ## Writes -/

def engineeringOf (raw : CFloat) (m : AmmMappingEntry) : CFloat :=
  (raw.mul m.scaleFactor).add m.offset

/-- A `control_service_write_point` call after the writes `sent`; whether it
succeeds, and the writes then. -/
def servicePoint (m : AmmMappingEntry) (raw : CFloat) (sent : List ModbusWrite) :
    Bool × List ModbusWrite :=
  let (result, write) := controlServiceWritePoint s.control s.table m.deviceId.str m.pointId.str
    (engineeringOf raw m) .restApi (s.answers sent.length)
  (decide (result.status = .ok), sent ++ write.toList)

/-- `write_single`: the exception, 0 for none, and the writes sent. -/
def writeSingle (unit functionCode : UInt8) (offset raw : UInt16) (sent : List ModbusWrite) :
    UInt8 × List ModbusWrite :=
  match findMapping unit (if functionCode = 5 then 1 else 3) offset s.table with
  | none => (2, sent)
  | some (m, wordIndex) =>
    if wordIndex ≠ 0 ∨ m.constraint.writable = false then (2, sent)
    else
      let rawNumeric : CFloat :=
        if functionCode = 5 then .fin (if raw = 0xFF00 then 1 else 0) else .fin raw.toNat
      let (accepted, sent) := servicePoint s m rawNumeric sent
      (if accepted then 0 else 4, sent)

def coilRaw (packed : List UInt8) (index : Nat) : Option UInt16 :=
  packed[index / 8]?.map fun byte =>
    if byte &&& (1 <<< UInt8.ofNat (index % 8)) ≠ 0 then 0xFF00 else 0

/-- The loop of `write_multiple_coils`: `n` coils from the `index`-th on. -/
def writeCoilsLoop (unit : UInt8) (address : UInt16) (packed : List UInt8) :
    Nat → Nat → List ModbusWrite → Option (UInt8 × List ModbusWrite)
  | 0, _, sent => some (0, sent)
  | n + 1, index, sent =>
    match coilRaw packed index with
    | none => none
    | some raw =>
      let (exception, sent) := writeSingle s unit 5 (address + UInt16.ofNat index) raw sent
      if exception ≠ 0 then some (exception, sent)
      else writeCoilsLoop unit address packed n (index + 1) sent

def writeMultipleCoils (unit : UInt8) (address quantity : UInt16) (packed : List UInt8) :
    Option (UInt8 × List ModbusWrite) :=
  writeCoilsLoop s unit address packed quantity.toNat 0 []

/-- The first loop of `write_multiple_registers`: the values. -/
def registerValues (quantity : UInt16) (bytes : List UInt8) : Option (List UInt16) :=
  (List.range quantity.toNat).mapM (wordAt bytes)

def writtenCount (m : AmmMappingEntry) : Nat :=
  if m.dataType = .ascii then m.readRegisterCount.toNat
  else modbusRegisterCountForType m.dataType

/-- The second loop, over the values from the `index`-th on; `skip` of them
belong to the point written last. -/
def writeRegistersLoop (unit : UInt8) (address : UInt16) :
    List UInt16 → Nat → Nat → List ModbusWrite → UInt8 × List ModbusWrite
  | [], _, _, sent => (0, sent)
  | _ :: values, index, skip + 1, sent =>
    writeRegistersLoop unit address values (index + 1) skip sent
  | value :: values, index, 0, sent =>
    match findMapping unit 3 (address + UInt16.ofNat index) s.table with
    | none => (2, sent)
    | some (m, wordIndex) =>
      if wordIndex ≠ 0 ∨ m.constraint.writable = false then (2, sent)
      else
        let count := writtenCount m
        if count = 0 ∨ 4 < count ∨ values.length + 1 < count ∨ m.dataType = .ascii then (3, sent)
        else
          let raw := modbusConvertToNumber (value :: values) m.dataType m.byteOrder m.bitIndex
          let (accepted, sent) := servicePoint s m raw sent
          if accepted = false then (4, sent)
          else writeRegistersLoop unit address values (index + 1) (count - 1) sent

def writeMultipleRegisters (unit : UInt8) (address quantity : UInt16) (bytes : List UInt8) :
    Option (UInt8 × List ModbusWrite) :=
  (registerValues quantity bytes).map fun values =>
    writeRegistersLoop s unit address values 0 0 []

/-! ## Requests -/

def exceptionResponse (functionCode exception : UInt8) : List UInt8 :=
  [functionCode ||| 0x80, exception]

/-- `(quantity + 7U) / 8U`. -/
def bitBytes (quantity : UInt16) : Nat := (quantity.toNat + 7) / 8

/-- The words of a read request, unless one of them cannot be read. -/
def readWords (unit functionCode : UInt8) (address quantity : UInt16) : Option (List UInt16) :=
  (List.range quantity.toNat).mapM fun i =>
    readWord s unit functionCode (address + UInt16.ofNat i)

/-- The response to a read request: bits for the function codes 1 and 2. -/
def readResponse (functionCode : UInt8) (quantity : UInt16) (words : List UInt16) : List UInt8 :=
  if functionCode ≤ 2 then
    functionCode :: UInt8.ofNat (bitBytes quantity) ::
      packBits (words.map fun w => decide (w ≠ 0)) 0 (List.replicate (bitBytes quantity) 0)
  else functionCode :: UInt8.ofNat (quantity.toNat * 2) :: wordBytes words

def writeResponse (functionCode : UInt8) (echo : List UInt8) (result : UInt8 × List ModbusWrite) :
    List UInt8 × List ModbusWrite :=
  if result.1 ≠ 0 then (exceptionResponse functionCode result.1, result.2) else (echo, result.2)

/-- `process_pdu`: the response and the writes sent on the way. -/
def processPdu (unit : UInt8) (request : List UInt8) : Option (List UInt8 × List ModbusWrite) :=
  match request with
  | functionCode :: address1 :: address0 :: quantity1 :: quantity0 :: rest =>
    let address := beWord address1 address0
    let quantity := beWord quantity1 quantity0
    let echo := [functionCode, address1, address0, quantity1, quantity0]
    if 1 ≤ functionCode ∧ functionCode ≤ 4 then
      if quantity = 0 ∨ (if functionCode ≤ 2 then 2000 else 125) < quantity then
        some (exceptionResponse functionCode 3, [])
      else
        match readWords s unit functionCode address quantity with
        | none => some (exceptionResponse functionCode 2, [])
        | some words => some (readResponse functionCode quantity words, [])
    else if (functionCode = 5 ∨ functionCode = 6) ∧ rest = [] then
      some (writeResponse functionCode echo (writeSingle s unit functionCode address quantity []))
    else if functionCode = 15 ∨ functionCode = 16 then
      if rest = [] ∨ quantity = 0 ∨ (if functionCode = 15 then 1968 else 123) < quantity then
        some (exceptionResponse functionCode 3, [])
      else
        match rest with
        | [] => none
        | byteCount :: data =>
          let expected := if functionCode = 15 then bitBytes quantity else quantity.toNat * 2
          if byteCount.toNat ≠ expected ∨ data.length ≠ byteCount.toNat then
            some (exceptionResponse functionCode 3, [])
          else
            (if functionCode = 15 then writeMultipleCoils s unit address quantity data
              else writeMultipleRegisters s unit address quantity data).map
                (writeResponse functionCode echo)
    else some (exceptionResponse functionCode 1, [])
  | _ => some (exceptionResponse 0 3, [])

end Server

/-! ## The requests by function code -/

section Requests

variable (s : TcpServer) (unit : UInt8) {functionCode : UInt8}
  (address1 address0 quantity1 quantity0 : UInt8)

theorem processPdu_read (hcode : 1 ≤ functionCode ∧ functionCode ≤ 4) (rest : List UInt8) :
    processPdu s unit (functionCode :: address1 :: address0 :: quantity1 :: quantity0 :: rest) =
      if beWord quantity1 quantity0 = 0 ∨
          (if functionCode ≤ 2 then 2000 else 125) < beWord quantity1 quantity0 then
        some (exceptionResponse functionCode 3, [])
      else
        (readWords s unit functionCode (beWord address1 address0)
          (beWord quantity1 quantity0)).elim (some (exceptionResponse functionCode 2, []))
            fun words =>
              some (readResponse functionCode (beWord quantity1 quantity0) words, []) := by
  unfold processPdu
  dsimp only
  rw [if_pos hcode]
  cases readWords s unit functionCode (beWord address1 address0) (beWord quantity1 quantity0) <;>
    rfl

theorem processPdu_single (hcode : functionCode = 5 ∨ functionCode = 6) :
    processPdu s unit [functionCode, address1, address0, quantity1, quantity0] =
      some (writeResponse functionCode [functionCode, address1, address0, quantity1, quantity0]
        (writeSingle s unit functionCode (beWord address1 address0)
          (beWord quantity1 quantity0) [])) := by
  have hread : ¬ (1 ≤ functionCode ∧ functionCode ≤ 4) := by
    rcases hcode with rfl | rfl <;> decide
  unfold processPdu
  dsimp only
  rw [if_neg hread, if_pos ⟨hcode, rfl⟩]

theorem processPdu_multiple (hcode : functionCode = 15 ∨ functionCode = 16) (byteCount : UInt8)
    (data : List UInt8) :
    processPdu s unit
        (functionCode :: address1 :: address0 :: quantity1 :: quantity0 :: byteCount :: data) =
      if beWord quantity1 quantity0 = 0 ∨
          (if functionCode = 15 then 1968 else 123) < beWord quantity1 quantity0 then
        some (exceptionResponse functionCode 3, [])
      else if byteCount.toNat ≠ (if functionCode = 15 then bitBytes (beWord quantity1 quantity0)
          else (beWord quantity1 quantity0).toNat * 2) ∨ data.length ≠ byteCount.toNat then
        some (exceptionResponse functionCode 3, [])
      else
        (if functionCode = 15 then
            writeMultipleCoils s unit (beWord address1 address0) (beWord quantity1 quantity0) data
          else writeMultipleRegisters s unit (beWord address1 address0)
            (beWord quantity1 quantity0) data).map
          (writeResponse functionCode
            [functionCode, address1, address0, quantity1, quantity0]) := by
  have hread : ¬ (1 ≤ functionCode ∧ functionCode ≤ 4) := by
    rcases hcode with rfl | rfl <;> decide
  have hsingle : ¬ ((functionCode = 5 ∨ functionCode = 6) ∧ byteCount :: data = []) :=
    fun h => List.cons_ne_nil _ _ h.2
  have hsome : (byteCount :: data = [] ∨ beWord quantity1 quantity0 = 0 ∨
      (if functionCode = 15 then 1968 else 123) < beWord quantity1 quantity0) ↔
        (beWord quantity1 quantity0 = 0 ∨
          (if functionCode = 15 then 1968 else 123) < beWord quantity1 quantity0) :=
    or_iff_right (List.cons_ne_nil _ _)
  unfold processPdu
  dsimp only
  rw [if_neg hread, if_neg hsingle, if_pos hcode]
  simp only [hsome]

theorem processPdu_coils (byteCount : UInt8) (data : List UInt8) :
    processPdu s unit (15 :: address1 :: address0 :: quantity1 :: quantity0 :: byteCount :: data) =
      if beWord quantity1 quantity0 = 0 ∨ 1968 < beWord quantity1 quantity0 then
        some (exceptionResponse 15 3, [])
      else if byteCount.toNat ≠ bitBytes (beWord quantity1 quantity0) ∨
          data.length ≠ byteCount.toNat then some (exceptionResponse 15 3, [])
      else
        (writeMultipleCoils s unit (beWord address1 address0) (beWord quantity1 quantity0)
          data).map (writeResponse 15 [15, address1, address0, quantity1, quantity0]) :=
  processPdu_multiple s unit address1 address0 quantity1 quantity0 (.inl rfl) byteCount data

theorem processPdu_registers (byteCount : UInt8) (data : List UInt8) :
    processPdu s unit (16 :: address1 :: address0 :: quantity1 :: quantity0 :: byteCount :: data) =
      if beWord quantity1 quantity0 = 0 ∨ 123 < beWord quantity1 quantity0 then
        some (exceptionResponse 16 3, [])
      else if byteCount.toNat ≠ (beWord quantity1 quantity0).toNat * 2 ∨
          data.length ≠ byteCount.toNat then some (exceptionResponse 16 3, [])
      else
        (writeMultipleRegisters s unit (beWord address1 address0) (beWord quantity1 quantity0)
          data).map (writeResponse 16 [16, address1, address0, quantity1, quantity0]) :=
  processPdu_multiple s unit address1 address0 quantity1 quantity0 (.inr rfl) byteCount data

end Requests

/-! ## Exceptions -/

section Exceptions

variable {s : TcpServer} {unit functionCode : UInt8} {offset raw address quantity : UInt16}
  {sent : List ModbusWrite} {packed bytes : List UInt8}

theorem writeSingle_exception : (writeSingle s unit functionCode offset raw sent).1 ≤ 4 := by
  have htwo : (2 : UInt8) ≤ 4 := by decide
  unfold writeSingle
  split
  · exact htwo
  · split
    · exact htwo
    · have haccepted : ∀ accepted : Bool, (if accepted then 0 else 4 : UInt8) ≤ 4 := by decide
      exact haccepted _

theorem writeRegistersLoop_exception (values : List UInt16) (index skip : Nat)
    (sent : List ModbusWrite) :
    (writeRegistersLoop s unit address values index skip sent).1 ≤ 4 := by
  have htwo : (2 : UInt8) ≤ 4 := by decide
  have hthree : (3 : UInt8) ≤ 4 := by decide
  have hfour : (4 : UInt8) ≤ 4 := by decide
  induction values generalizing index skip sent with
  | nil => exact Nat.zero_le _
  | cons value values ih =>
    cases skip with
    | succ skip => exact ih (index + 1) skip sent
    | zero =>
      rw [writeRegistersLoop]
      split
      · exact htwo
      · split
        · exact htwo
        · dsimp only
          split
          · exact hthree
          · split
            · exact hfour
            · exact ih _ _ _

theorem writeCoilsLoop_some (n index : Nat) (sent : List ModbusWrite)
    (hbytes : index + n ≤ 8 * packed.length) :
    ∃ result, writeCoilsLoop s unit address packed n index sent = some result ∧ result.1 ≤ 4 := by
  induction n generalizing index sent with
  | zero => exact ⟨_, rfl, Nat.zero_le _⟩
  | succ n ih =>
    have hbyte : index / 8 < packed.length := by omega
    obtain ⟨raw, hraw⟩ : ∃ raw, coilRaw packed index = some raw := by
      unfold coilRaw
      rw [List.getElem?_eq_getElem hbyte]
      exact ⟨_, rfl⟩
    rw [writeCoilsLoop, hraw]
    dsimp only
    split
    · exact ⟨_, rfl, writeSingle_exception⟩
    · exact ih (index + 1) _ (by omega)

theorem registerValues_some (hbytes : bytes.length = 2 * quantity.toNat) :
    ∃ values, registerValues quantity bytes = some values := by
  have hword : ∀ i ∈ List.range quantity.toNat, ∃ w, wordAt bytes i = some w := by
    intro i hi
    have hlt := List.mem_range.1 hi
    have hhigh : 2 * i < bytes.length := by omega
    have hlow : 2 * i + 1 < bytes.length := by omega
    unfold wordAt
    rw [List.getElem?_eq_getElem hhigh, List.getElem?_eq_getElem hlow]
    exact ⟨_, rfl⟩
  unfold registerValues
  generalize List.range quantity.toNat = indices at hword
  induction indices with
  | nil => exact ⟨[], rfl⟩
  | cons i indices ih =>
    obtain ⟨w, hw⟩ := hword i List.mem_cons_self
    obtain ⟨ws, hws⟩ := ih fun j hj => hword j (List.mem_cons_of_mem i hj)
    refine ⟨w :: ws, mapM_eq_some_iff.2 ?_⟩
    rw [List.map_cons, List.map_cons, hw, mapM_eq_some_iff.1 hws]

theorem readWords_length {words : List UInt16}
    (h : readWords s unit functionCode address quantity = some words) :
    words.length = quantity.toNat := by
  have hlen := congrArg List.length (mapM_eq_some_iff.1 h)
  rw [List.length_map, List.length_map, List.length_range] at hlen
  exact hlen.symm

end Exceptions

/-! ## Well-formed responses -/

/-- The body that the function code prescribes for the request. -/
def PrescribedBody (request response : List UInt8) : Prop :=
  match request with
  | functionCode :: address1 :: address0 :: quantity1 :: quantity0 :: _ =>
    if functionCode = 1 ∨ functionCode = 2 then
      ∃ byteCount data, response = functionCode :: byteCount :: data ∧
        byteCount.toNat = bitBytes (beWord quantity1 quantity0) ∧ data.length = byteCount.toNat
    else if functionCode = 3 ∨ functionCode = 4 then
      ∃ byteCount data, response = functionCode :: byteCount :: data ∧
        byteCount.toNat = 2 * (beWord quantity1 quantity0).toNat ∧ data.length = byteCount.toNat
    else
      (functionCode = 5 ∨ functionCode = 6 ∨ functionCode = 15 ∨ functionCode = 16) ∧
        response = [functionCode, address1, address0, quantity1, quantity0]
  | _ => False

/-- The prescribed body, or an exception of the request's function code. -/
def WellFormedResponse (request response : List UInt8) : Prop :=
  PrescribedBody request response ∨
    ∃ exception, 1 ≤ exception ∧ exception ≤ 4 ∧
      response = exceptionResponse (request.headD 0) exception

section WellFormed

variable {s : TcpServer} {unit functionCode address1 address0 quantity1 quantity0 : UInt8}
  {rest : List UInt8}

/-- What `process_pdu` owes the client. -/
def Answers (s : TcpServer) (unit : UInt8) (request : List UInt8) : Prop :=
  ∃ response sent, processPdu s unit request = some (response, sent) ∧
    2 ≤ response.length ∧ response.length ≤ 253 ∧ WellFormedResponse request response

theorem answers_exception {request : List UInt8} {sent : List ModbusWrite} (exception : UInt8)
    (h : processPdu s unit request =
      some (exceptionResponse (request.headD 0) exception, sent))
    (hpos : 1 ≤ exception) (hle : exception ≤ 4) : Answers s unit request :=
  ⟨_, sent, h, le_refl 2, Nat.le_add_left 2 251, .inr ⟨exception, hpos, hle, rfl⟩⟩

theorem writeResponse_answers {result : UInt8 × List ModbusWrite} (hle : result.1 ≤ 4)
    (hwrite : functionCode = 5 ∨ functionCode = 6 ∨ functionCode = 15 ∨ functionCode = 16)
    (h : processPdu s unit
        (functionCode :: address1 :: address0 :: quantity1 :: quantity0 :: rest) =
      some (writeResponse functionCode [functionCode, address1, address0, quantity1, quantity0]
        result)) :
    Answers s unit (functionCode :: address1 :: address0 :: quantity1 :: quantity0 :: rest) := by
  unfold writeResponse at h
  split at h
  · rename_i hne
    have hpos : 1 ≤ result.1 := by
      rw [UInt8.le_iff_toNat_le]
      exact Nat.one_le_iff_ne_zero.2 fun hzero => hne (UInt8.toNat_inj.1 hzero)
    exact answers_exception _ h hpos hle
  · refine ⟨_, result.2, h, Nat.le_add_left 2 3, Nat.le_add_left 5 248, .inl ?_⟩
    have h12 : ¬ (functionCode = 1 ∨ functionCode = 2) := by
      rcases hwrite with rfl | rfl | rfl | rfl <;> decide
    have h34 : ¬ (functionCode = 3 ∨ functionCode = 4) := by
      rcases hwrite with rfl | rfl | rfl | rfl <;> decide
    unfold PrescribedBody
    dsimp only
    rw [if_neg h12, if_neg h34]
    exact ⟨hwrite, rfl⟩

theorem readCode_cases (h : 1 ≤ functionCode ∧ functionCode ≤ 4) :
    functionCode = 1 ∨ functionCode = 2 ∨ functionCode = 3 ∨ functionCode = 4 := by
  obtain ⟨hlow, hhigh⟩ := h
  have hone : (1 : UInt8).toNat = 1 := rfl
  have htwo : (2 : UInt8).toNat = 2 := rfl
  have hthree : (3 : UInt8).toNat = 3 := rfl
  have hfour : (4 : UInt8).toNat = 4 := rfl
  rw [UInt8.le_iff_toNat_le] at hlow hhigh
  simp only [← UInt8.toNat_inj, hone, htwo, hthree, hfour] at hlow hhigh ⊢
  omega

theorem quantity_le {quantity : UInt16} (limit : Nat) (hlimit : limit < 65536)
    (h : ¬ (quantity = 0 ∨ UInt16.ofNat limit < quantity)) :
    0 < quantity.toNat ∧ quantity.toNat ≤ limit := by
  rw [not_or, UInt16.lt_iff_toNat_lt, UInt16.toNat_ofNat', Nat.mod_eq_of_lt hlimit,
    Nat.not_lt] at h
  exact ⟨Nat.pos_of_ne_zero fun hzero => h.1 (UInt16.toNat_inj.1 hzero), h.2⟩

theorem bits_answers {words : List UInt16} (hcode : functionCode = 1 ∨ functionCode = 2)
    (hle : (beWord quantity1 quantity0).toNat ≤ 2000)
    (h : processPdu s unit
        (functionCode :: address1 :: address0 :: quantity1 :: quantity0 :: rest) =
      some (readResponse functionCode (beWord quantity1 quantity0) words, [])) :
    Answers s unit (functionCode :: address1 :: address0 :: quantity1 :: quantity0 :: rest) := by
  have htwo : functionCode ≤ 2 := by rcases hcode with rfl | rfl <;> decide
  have hbytes : bitBytes (beWord quantity1 quantity0) ≤ 250 := by
    unfold bitBytes
    omega
  have hcount : (UInt8.ofNat (bitBytes (beWord quantity1 quantity0))).toNat =
      bitBytes (beWord quantity1 quantity0) := by
    rw [UInt8.toNat_ofNat']
    omega
  have hlength : (packBits (words.map fun w => decide (w ≠ 0)) 0
      (List.replicate (bitBytes (beWord quantity1 quantity0)) 0)).length =
        bitBytes (beWord quantity1 quantity0) := by
    rw [packBits_length, List.length_replicate]
  unfold readResponse at h
  rw [if_pos htwo] at h
  refine ⟨_, [], h, Nat.le_add_left 2 _, ?_, .inl ?_⟩
  · rw [List.length_cons, List.length_cons, hlength]
    omega
  · unfold PrescribedBody
    dsimp only
    rw [if_pos hcode]
    exact ⟨_, _, rfl, hcount, hlength.trans hcount.symm⟩

theorem registers_answers {words : List UInt16} (hcode : functionCode = 3 ∨ functionCode = 4)
    (hle : (beWord quantity1 quantity0).toNat ≤ 125)
    (hwords : words.length = (beWord quantity1 quantity0).toNat)
    (h : processPdu s unit
        (functionCode :: address1 :: address0 :: quantity1 :: quantity0 :: rest) =
      some (readResponse functionCode (beWord quantity1 quantity0) words, [])) :
    Answers s unit (functionCode :: address1 :: address0 :: quantity1 :: quantity0 :: rest) := by
  have htwo : ¬ functionCode ≤ 2 := by rcases hcode with rfl | rfl <;> decide
  have hbits : ¬ (functionCode = 1 ∨ functionCode = 2) := by
    rcases hcode with rfl | rfl <;> decide
  have hcount : (UInt8.ofNat ((beWord quantity1 quantity0).toNat * 2)).toNat =
      2 * (beWord quantity1 quantity0).toNat := by
    rw [UInt8.toNat_ofNat']
    omega
  have hlength : (wordBytes words).length = 2 * (beWord quantity1 quantity0).toNat := by
    rw [wordBytes_length, hwords]
  unfold readResponse at h
  rw [if_neg htwo] at h
  refine ⟨_, [], h, Nat.le_add_left 2 _, ?_, .inl ?_⟩
  · rw [List.length_cons, List.length_cons, hlength]
    omega
  · unfold PrescribedBody
    dsimp only
    rw [if_neg hbits, if_pos hcode]
    exact ⟨_, _, rfl, hcount, hlength.trans hcount.symm⟩

theorem read_answers (hread : 1 ≤ functionCode ∧ functionCode ≤ 4) :
    Answers s unit (functionCode :: address1 :: address0 :: quantity1 :: quantity0 :: rest) := by
  have hpdu := processPdu_read s unit address1 address0 quantity1 quantity0 hread rest
  by_cases hlimit : beWord quantity1 quantity0 = 0 ∨
      (if functionCode ≤ 2 then 2000 else 125) < beWord quantity1 quantity0
  · rw [if_pos hlimit] at hpdu
    exact answers_exception 3 hpdu (by decide) (by decide)
  · rw [if_neg hlimit] at hpdu
    cases hwords : readWords s unit functionCode (beWord address1 address0)
        (beWord quantity1 quantity0) with
    | none =>
      rw [hwords] at hpdu
      exact answers_exception 2 hpdu (by decide) (by decide)
    | some words =>
      rw [hwords] at hpdu
      rcases readCode_cases hread with hcode | hcode | hcode | hcode <;> rw [hcode] at hlimit
      · exact bits_answers (.inl hcode) (quantity_le 2000 (by decide) hlimit).2 hpdu
      · exact bits_answers (.inr hcode) (quantity_le 2000 (by decide) hlimit).2 hpdu
      · exact registers_answers (.inl hcode) (quantity_le 125 (by decide) hlimit).2
          (readWords_length hwords) hpdu
      · exact registers_answers (.inr hcode) (quantity_le 125 (by decide) hlimit).2
          (readWords_length hwords) hpdu

theorem coils_answers (byteCount : UInt8) (data : List UInt8) :
    Answers s unit
      (15 :: address1 :: address0 :: quantity1 :: quantity0 :: byteCount :: data) := by
  have hpdu := processPdu_coils s unit address1 address0 quantity1 quantity0 byteCount data
  split at hpdu
  · exact answers_exception 3 hpdu (by decide) (by decide)
  · split at hpdu
    · exact answers_exception 3 hpdu (by decide) (by decide)
    · rename_i hbytes
      rw [not_or, not_not, not_not] at hbytes
      have hlength : 0 + (beWord quantity1 quantity0).toNat ≤ 8 * data.length := by
        rw [hbytes.2, hbytes.1]
        unfold bitBytes
        omega
      obtain ⟨result, hresult, hle⟩ : ∃ result, writeMultipleCoils s unit
          (beWord address1 address0) (beWord quantity1 quantity0) data = some result ∧
            result.1 ≤ 4 := writeCoilsLoop_some _ 0 [] hlength
      rw [hresult] at hpdu
      exact writeResponse_answers hle (.inr (.inr (.inl rfl))) hpdu

theorem registers_write_answers (byteCount : UInt8) (data : List UInt8) :
    Answers s unit
      (16 :: address1 :: address0 :: quantity1 :: quantity0 :: byteCount :: data) := by
  have hpdu := processPdu_registers s unit address1 address0 quantity1 quantity0 byteCount data
  split at hpdu
  · exact answers_exception 3 hpdu (by decide) (by decide)
  · split at hpdu
    · exact answers_exception 3 hpdu (by decide) (by decide)
    · rename_i hbytes
      rw [not_or, not_not, not_not] at hbytes
      have hlength : data.length = 2 * (beWord quantity1 quantity0).toNat := by
        rw [hbytes.2, hbytes.1, Nat.mul_comm]
      obtain ⟨values, hvalues⟩ := registerValues_some hlength
      have hwrite : writeMultipleRegisters s unit (beWord address1 address0)
          (beWord quantity1 quantity0) data =
            some (writeRegistersLoop s unit (beWord address1 address0) values 0 0 []) := by
        unfold writeMultipleRegisters
        rw [hvalues]
        rfl
      rw [hwrite] at hpdu
      exact writeResponse_answers (writeRegistersLoop_exception values 0 0 [])
        (.inr (.inr (.inr rfl))) hpdu

theorem long_answers (s : TcpServer)
    (unit functionCode address1 address0 quantity1 quantity0 : UInt8) (rest : List UInt8) :
    Answers s unit (functionCode :: address1 :: address0 :: quantity1 :: quantity0 :: rest) := by
  by_cases hread : 1 ≤ functionCode ∧ functionCode ≤ 4
  · exact read_answers hread
  · by_cases hsingle : (functionCode = 5 ∨ functionCode = 6) ∧ rest = []
    · obtain ⟨hcode, rfl⟩ := hsingle
      exact writeResponse_answers writeSingle_exception (hcode.imp_right .inl)
        (processPdu_single s unit address1 address0 quantity1 quantity0 hcode)
    · by_cases hmultiple : functionCode = 15 ∨ functionCode = 16
      · cases rest with
        | nil =>
          have hpdu : processPdu s unit [functionCode, address1, address0, quantity1, quantity0] =
              some (exceptionResponse functionCode 3, []) := by
            unfold processPdu
            dsimp only
            rw [if_neg hread, if_neg hsingle, if_pos hmultiple, if_pos (.inl rfl)]
          exact answers_exception 3 hpdu (by decide) (by decide)
        | cons byteCount data =>
          rcases hmultiple with rfl | rfl
          · exact coils_answers byteCount data
          · exact registers_write_answers byteCount data
      · have hpdu : processPdu s unit
            (functionCode :: address1 :: address0 :: quantity1 :: quantity0 :: rest) =
              some (exceptionResponse functionCode 1, []) := by
          unfold processPdu
          dsimp only
          rw [if_neg hread, if_neg hsingle, if_neg hmultiple]
        exact answers_exception 1 hpdu (by decide) (by decide)

theorem long_request {request : List UInt8} (h : 5 ≤ request.length) :
    ∃ functionCode address1 address0 quantity1 quantity0 rest,
      request = functionCode :: address1 :: address0 :: quantity1 :: quantity0 :: rest := by
  obtain ⟨a, request, rfl⟩ := List.exists_cons_of_length_pos (Nat.lt_of_lt_of_le (by decide) h)
  rw [List.length_cons] at h
  obtain ⟨b, request, rfl⟩ := List.exists_cons_of_length_pos (l := request) (by omega)
  rw [List.length_cons] at h
  obtain ⟨c, request, rfl⟩ := List.exists_cons_of_length_pos (l := request) (by omega)
  rw [List.length_cons] at h
  obtain ⟨d, request, rfl⟩ := List.exists_cons_of_length_pos (l := request) (by omega)
  rw [List.length_cons] at h
  obtain ⟨e, request, rfl⟩ := List.exists_cons_of_length_pos (l := request) (by omega)
  exact ⟨a, b, c, d, e, request, rfl⟩

/-- A request that is too short is answered as if its function code were 0. -/
theorem short_request (s : TcpServer) (unit : UInt8) {request : List UInt8}
    (h : request.length < 5) :
    processPdu s unit request = some (exceptionResponse 0 3, []) := by
  unfold processPdu
  split
  · rw [List.length_cons, List.length_cons, List.length_cons, List.length_cons,
      List.length_cons] at h
    omega
  · rfl

theorem not_prescribed {request response : List UInt8} (h : request.length < 5) :
    ¬ PrescribedBody request response := by
  unfold PrescribedBody
  split
  · rw [List.length_cons, List.length_cons, List.length_cons, List.length_cons,
      List.length_cons] at h
    omega
  · exact not_false

/-- **Well-formed responses.** A request gets a response of 2 to 253 bytes that is
well formed, with no byte read beyond the end of the request, exactly if it has
at least five bytes, or its function code is 0 but for bit 7. -/
theorem well_formed_iff (s : TcpServer) (unit : UInt8) (request : List UInt8) :
    (∃ response sent, processPdu s unit request = some (response, sent) ∧
      2 ≤ response.length ∧ response.length ≤ 253 ∧ WellFormedResponse request response) ↔
      5 ≤ request.length ∨ request.headD 0 ||| 0x80 = 0x80 := by
  rcases Nat.lt_or_ge request.length 5 with hshort | hlong
  · have hpdu := short_request s unit hshort
    constructor
    · rintro ⟨response, sent, hresponse, -, -, hformed⟩
      rw [hpdu] at hresponse
      obtain ⟨rfl, -⟩ := Prod.mk.inj (Option.some.inj hresponse)
      rcases hformed with hbody | ⟨exception, -, -, heq⟩
      · exact absurd hbody (not_prescribed hshort)
      · exact .inr (List.cons.inj heq).1.symm
    · rintro (hlong | hcode)
      · exact absurd hlong (Nat.not_le.2 hshort)
      · exact ⟨_, _, hpdu, le_refl 2, Nat.le_add_left 2 251,
          .inr ⟨3, by decide, by decide, congrArg (fun code => [code, 3]) hcode.symm⟩⟩
  · obtain ⟨functionCode, address1, address0, quantity1, quantity0, rest, rfl⟩ :
        ∃ functionCode address1 address0 quantity1 quantity0 rest,
          request = functionCode :: address1 :: address0 :: quantity1 :: quantity0 :: rest :=
      long_request hlong
    exact ⟨fun _ => .inl hlong,
      fun _ => long_answers s unit functionCode address1 address0 quantity1 quantity0 rest⟩

end WellFormed

def idleServer : TcpServer where
  table := .empty 64
  pool := .empty 64
  control := ⟨false, fun _ => 0⟩
  answers _ := .ok

/-- A request of function code 3 without its quantity: the answer is an exception
of function code 0. -/
theorem short_request_answer :
    ¬ ∃ response sent, processPdu idleServer 1 [3, 0, 0] = some (response, sent) ∧
      2 ≤ response.length ∧ response.length ≤ 253 ∧ WellFormedResponse [3, 0, 0] response := by
  rintro ⟨response, sent, hresponse, -, -, hbody | ⟨exception, -, -, heq⟩⟩
  · exact hbody
  · obtain ⟨rfl, -⟩ := Prod.mk.inj (Option.some.inj hresponse)
    exact absurd (List.cons.inj heq).1 (by decide)

end McpGateway.Modbus
