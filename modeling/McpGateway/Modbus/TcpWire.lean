import McpGateway.Modbus.TcpServer

/-!
# Master and server on the wire

`modbus_tcp_read` and `modbus_tcp_write` of `modbus_access.c` against
`process_pdu` and the framing of `client_task`. `master_server_agree` says that
what the master reads is what `read_word` gives, and that the server's write
functions are called with what the master writes.
-/

namespace McpGateway.Modbus

open McpGateway.Lib McpGateway.Tcm McpGateway.Amm McpGateway.Services

/-! ## Frames -/

/-- One round of `client_task`: the response frame to a request frame, or `none`
if the connection is closed; and the writes sent. -/
def serveFrame (s : TcpServer) (frame : List UInt8) : Option (List UInt8 × List ModbusWrite) :=
  match frame with
  | header0 :: header1 :: header2 :: header3 :: length1 :: length0 :: unit :: body =>
    let length := (beWord length1 length0).toNat
    if length < 2 ∨ 254 < length ∨ body.length < length - 1 then none
    else
      (processPdu s unit (body.take (length - 1))).map fun answer =>
        let size := UInt16.ofNat (answer.1.length + 1)
        (header0 :: header1 :: header2 :: header3 :: highByte size :: lowByte size :: unit ::
          answer.1, answer.2)
  | _ => none

/-- `tcp_exchange` over a connection on which `peer` answers, with transaction id
`tid` and a response buffer of `room` bytes. -/
def tcpExchange (peer : List UInt8 → Option (List UInt8)) (tid : UInt16) (unit : UInt8)
    (pdu : List UInt8) (room : Nat) : Except EspErr (List UInt8) :=
  let size := UInt16.ofNat (pdu.length + 1)
  match peer (highByte tid :: lowByte tid :: 0 :: 0 :: highByte size :: lowByte size :: unit ::
      pdu) with
  | none => .error .fail
  | some (header0 :: header1 :: _ :: _ :: length1 :: length0 :: _ :: body) =>
    let bodySize := (beWord length1 length0).toNat
    if bodySize < 2 ∨ room < bodySize - 1 ∨ header0 ≠ highByte tid ∨ header1 ≠ lowByte tid then
      .error .invalidResponse
    else if body.length < bodySize - 1 then .error .invalidResponse
    else
      let response := body.take (bodySize - 1)
      if response.headD 0 &&& 0x80 ≠ 0 then .error .invalidResponse else .ok response
  | some _ => .error .invalidResponse

/-! ## The master -/

/-- The request of `modbus_tcp_read`. -/
def tcpReadPdu (functionCode : UInt8) (address count : UInt16) : List UInt8 :=
  [functionCode, highByte address, lowByte address, highByte count, lowByte count]

/-- The bit that `modbus_tcp_read` takes out of the response data. -/
def responseBit (data : List UInt8) (i : Nat) : UInt16 :=
  (((data[i / 8]?).getD 0 >>> UInt8.ofNat (i % 8)) &&& 1).toUInt16

/-- What `modbus_tcp_read` makes of a response. -/
def parseReadResponse (functionCode : UInt8) (count : UInt16) (response : List UInt8) :
    Except EspErr (List UInt16) :=
  match response with
  | code :: byteCount :: data =>
    if code ≠ functionCode then .error .invalidResponse
    else if functionCode = 1 ∨ functionCode = 2 then
      if data.length ≠ bitBytes count ∨ byteCount.toNat ≠ bitBytes count then
        .error .invalidResponse
      else .ok ((List.range count.toNat).map (responseBit data))
    else if data.length ≠ count.toNat * 2 ∨ byteCount.toNat ≠ count.toNat * 2 then
      .error .invalidResponse
    else .ok ((List.range count.toNat).map fun i => (wordAt data i).getD 0)
  | _ => .error .invalidResponse

def modbusTcpRead (peer : List UInt8 → Option (List UInt8)) (tid : UInt16)
    (unit functionCode : UInt8) (address count : UInt16) : Except EspErr (List UInt16) :=
  (tcpExchange peer tid unit (tcpReadPdu functionCode address count) 260).bind
    (parseReadResponse functionCode count)

def coilValue (value : UInt16) : UInt16 := if value ≠ 0 then 0xFF00 else 0

def packedCoils (values : List UInt16) : List UInt8 :=
  packBits (values.map fun v => decide (v ≠ 0)) 0
    (List.replicate (bitBytes (UInt16.ofNat values.length)) 0)

/-- The request of `modbus_tcp_write`, unless it is `ESP_ERR_INVALID_ARG`. -/
def tcpWritePdu (functionCode : UInt8) (address : UInt16) (values : List UInt16) :
    Option (List UInt8) :=
  let count := UInt16.ofNat values.length
  if functionCode = 5 ∧ values.length = 1 then
    some [5, highByte address, lowByte address, highByte (coilValue (values.headD 0)),
      lowByte (coilValue (values.headD 0))]
  else if functionCode = 15 ∧ values.length ≤ 1968 then
    some (15 :: highByte address :: lowByte address :: highByte count :: lowByte count ::
      UInt8.ofNat (bitBytes count) :: packedCoils values)
  else if functionCode = 6 ∧ values.length = 1 then
    some [6, highByte address, lowByte address, highByte (values.headD 0),
      lowByte (values.headD 0)]
  else if functionCode = 16 ∧ values.length ≤ 123 then
    some (16 :: highByte address :: lowByte address :: highByte count :: lowByte count ::
      UInt8.ofNat (values.length * 2) :: wordBytes values)
  else none

/-- Whether `modbus_tcp_write` accepts a response. -/
def acceptsWriteResponse (functionCode : UInt8) (response : List UInt8) : Bool :=
  decide (response.length = 5) && decide (response.headD 0 = functionCode)

def modbusTcpWrite (peer : List UInt8 → Option (List UInt8)) (tid : UInt16)
    (unit functionCode : UInt8) (address : UInt16) (values : List UInt16) : EspErr :=
  match tcpWritePdu functionCode address values with
  | none => .invalidArg
  | some pdu =>
    match tcpExchange peer tid unit pdu 16 with
    | .error err => err
    | .ok response =>
      if acceptsWriteResponse functionCode response then .ok else .invalidResponse

/-! ## Bits on both sides -/

section Bits

variable {data : List UInt8} {i : Nat} {b : Bool}

theorem responseBit_eq (h : bitAt data i = some b) : responseBit data i = if b then 1 else 0 := by
  obtain ⟨byte, hbyte, rfl⟩ := Option.map_eq_some_iff.1 h
  unfold responseBit
  rw [hbyte, Option.getD_some, shiftRight_and_one byte (Nat.mod_lt i (by decide))]
  split <;> rfl

theorem coilRaw_eq (h : bitAt data i = some b) :
    coilRaw data i = some (if b then 0xFF00 else 0) := by
  obtain ⟨byte, hbyte, rfl⟩ := Option.map_eq_some_iff.1 h
  have hbit := and_one_shiftLeft_ne_zero byte (Nat.mod_lt i (by decide : 0 < 8))
  unfold coilRaw
  rw [hbyte, Option.map_some]
  simp only [hbit]

end Bits

/-! ## The exchange -/

section Exchange

variable {s : TcpServer} {unit functionCode : UInt8} {tid address count : UInt16}
  {pdu response : List UInt8} {sent : List ModbusWrite} {room : Nat}

def serverPeer (s : TcpServer) (frame : List UInt8) : Option (List UInt8) :=
  (serveFrame s frame).map Prod.fst

theorem tcpExchange_server (hpdu : processPdu s unit pdu = some (response, sent))
    (hpos : 1 ≤ pdu.length) (hmax : pdu.length ≤ 253) (hresponse : 1 ≤ response.length)
    (hfits : response.length ≤ 253) (hroom : response.length ≤ room) :
    tcpExchange (serverPeer s) tid unit pdu room =
      if response.headD 0 &&& 0x80 ≠ 0 then .error .invalidResponse else .ok response := by
  have hsize : ∀ n : Nat, n ≤ 253 →
      (beWord (highByte (UInt16.ofNat (n + 1))) (lowByte (UInt16.ofNat (n + 1)))).toNat =
        n + 1 := by
    intro n hn
    rw [beWord_bytes, UInt16.toNat_ofNat']
    omega
  have hserve : serverPeer s (highByte tid :: lowByte tid :: 0 :: 0 ::
      highByte (UInt16.ofNat (pdu.length + 1)) :: lowByte (UInt16.ofNat (pdu.length + 1)) ::
        unit :: pdu) =
      some (highByte tid :: lowByte tid :: 0 :: 0 ::
        highByte (UInt16.ofNat (response.length + 1)) ::
          lowByte (UInt16.ofNat (response.length + 1)) :: unit :: response) := by
    have hlength : ¬ (pdu.length + 1 < 2 ∨ 254 < pdu.length + 1 ∨
        pdu.length < pdu.length + 1 - 1) := by omega
    unfold serverPeer serveFrame
    dsimp only
    rw [hsize _ hmax, if_neg hlength, Nat.add_sub_cancel, List.take_length, hpdu]
    rfl
  have hbody : ¬ (response.length + 1 < 2 ∨ room < response.length + 1 - 1 ∨
      highByte tid ≠ highByte tid ∨ lowByte tid ≠ lowByte tid) := by
    rw [ne_self_iff_false, ne_self_iff_false, or_false, or_false]
    omega
  have hwhole : ¬ response.length < response.length + 1 - 1 := by omega
  unfold tcpExchange
  dsimp only
  rw [hserve]
  dsimp only
  rw [hsize _ hfits, if_neg hbody, if_neg hwhole, Nat.add_sub_cancel, List.take_length]

/-! ## Reads -/

theorem readWord_bit (hcode : functionCode ≤ 2) {w : UInt16}
    (h : readWord s unit functionCode address = some w) : (if w ≠ 0 then 1 else 0) = w := by
  have hbit : ∀ b : Bool, (if (if b then 1 else 0 : UInt16) ≠ 0 then 1 else 0 : UInt16) =
      if b then 1 else 0 := by decide
  obtain ⟨source, hsource, rfl⟩ := Option.map_eq_some_iff.1 h
  unfold readSource at hsource
  split at hsource
  · cases hsource
  · obtain ⟨w, hword, rfl⟩ := Option.map_eq_some_iff.1 hsource
    unfold pointWord at hword
    split at hword
    · cases hword
    · split at hword
      · cases hword
      · rw [← Option.some.inj hword]
        exact hbit _

/-- The words of a read come back from the bits they are packed in. -/
theorem parse_bits {words : List UInt16} (hcode : functionCode = 1 ∨ functionCode = 2)
    (hle : count.toNat ≤ 2000) (hwords : readWords s unit functionCode address count = some words) :
    parseReadResponse functionCode count (readResponse functionCode count words) = .ok words := by
  have htwo : functionCode ≤ 2 := by rcases hcode with rfl | rfl <;> decide
  have hlength := readWords_length hwords
  have hbytes : (UInt8.ofNat (bitBytes count)).toNat = bitBytes count := by
    rw [UInt8.toNat_ofNat']
    unfold bitBytes
    omega
  have hsizes : ¬ ((packBits (words.map fun w => decide (w ≠ 0)) 0
      (List.replicate (bitBytes count) 0)).length ≠ bitBytes count ∨
        (UInt8.ofNat (bitBytes count)).toNat ≠ bitBytes count) := by
    rw [packBits_length, List.length_replicate, hbytes]
    simp
  have hcode' : ¬ functionCode ≠ functionCode := not_not.2 rfl
  unfold readResponse parseReadResponse
  rw [if_pos htwo]
  dsimp only
  rw [if_neg hcode', if_pos hcode, if_neg hsizes]
  refine congrArg Except.ok (List.ext_getElem? fun i => ?_)
  have hread := congrArg (fun l : List (Option UInt16) => l[i]?) (mapM_eq_some_iff.1 hwords)
  rw [List.getElem?_map, List.getElem?_map] at hread
  rw [List.getElem?_map]
  by_cases hi : i < count.toNat
  · obtain ⟨word, hget⟩ : ∃ word, words[i]? = some word :=
      ⟨_, List.getElem?_eq_getElem (hlength ▸ hi)⟩
    have hbit : bitAt (packBits (words.map fun w => decide (w ≠ 0)) 0
        (List.replicate (bitBytes count) 0)) i =
          some (decide (word ≠ 0)) := by
      rw [bitAt_packBits _ (by unfold bitBytes; omega), List.getElem?_map, hget]
      rfl
    rw [List.getElem?_range hi, hget, Option.map_some, Option.map_some] at hread
    rw [List.getElem?_range hi, Option.map_some, responseBit_eq hbit, hget]
    have hword := readWord_bit htwo (Option.some.inj hread)
    simpa using hword
  · have hnone : words[i]? = none := List.getElem?_eq_none (by omega)
    rw [hnone, List.getElem?_eq_none (by rw [List.length_range]; omega)]
    rfl

theorem parse_registers {words : List UInt16} (hcode : functionCode = 3 ∨ functionCode = 4)
    (hle : count.toNat ≤ 125) (hlength : words.length = count.toNat) :
    parseReadResponse functionCode count (readResponse functionCode count words) = .ok words := by
  have htwo : ¬ functionCode ≤ 2 := by rcases hcode with rfl | rfl <;> decide
  have hbits : ¬ (functionCode = 1 ∨ functionCode = 2) := by
    rcases hcode with rfl | rfl <;> decide
  have hbytes : (UInt8.ofNat (count.toNat * 2)).toNat = count.toNat * 2 := by
    rw [UInt8.toNat_ofNat']
    omega
  have hsizes : ¬ ((wordBytes words).length ≠ count.toNat * 2 ∨
      (UInt8.ofNat (count.toNat * 2)).toNat ≠ count.toNat * 2) := by
    rw [wordBytes_length, hlength, hbytes, Nat.mul_comm]
    simp
  have hcode' : ¬ functionCode ≠ functionCode := not_not.2 rfl
  unfold readResponse parseReadResponse
  rw [if_neg htwo]
  dsimp only
  rw [if_neg hcode', if_neg hbits, if_neg hsizes]
  refine congrArg Except.ok (List.ext_getElem? fun i => ?_)
  rw [List.getElem?_map]
  by_cases hi : i < count.toNat
  · rw [List.getElem?_range hi, Option.map_some, wordAt_wordBytes,
      List.getElem?_eq_getElem (hlength ▸ hi), Option.getD_some]
  · have hnone : words[i]? = none := List.getElem?_eq_none (by omega)
    rw [hnone, List.getElem?_eq_none (by rw [List.length_range]; omega)]
    rfl

theorem processPdu_readPdu (hcode : 1 ≤ functionCode ∧ functionCode ≤ 4) (hpos : 0 < count.toNat)
    (hle : count.toNat ≤ if functionCode ≤ 2 then 2000 else 125) :
    processPdu s unit (tcpReadPdu functionCode address count) =
      (readWords s unit functionCode address count).elim
        (some (exceptionResponse functionCode 2, []))
        fun words => some (readResponse functionCode count words, []) := by
  have hquantity : ¬ (count = 0 ∨ (if functionCode ≤ 2 then 2000 else 125) < count) := by
    rw [not_or]
    refine ⟨?_, ?_⟩
    · rintro rfl
      exact Nat.lt_irrefl 0 hpos
    · rw [UInt16.lt_iff_toNat_lt, Nat.not_lt]
      split at hle <;> rename_i hbits
      · rw [if_pos hbits]
        exact hle
      · rw [if_neg hbits]
        exact hle
  unfold tcpReadPdu
  rw [processPdu_read s unit _ _ _ _ hcode [], beWord_bytes, beWord_bytes, if_neg hquantity]

theorem parse_read {words : List UInt16} (hcode : 1 ≤ functionCode ∧ functionCode ≤ 4)
    (hle : count.toNat ≤ if functionCode ≤ 2 then 2000 else 125)
    (hwords : readWords s unit functionCode address count = some words) :
    parseReadResponse functionCode count (readResponse functionCode count words) = .ok words := by
  rcases readCode_cases hcode with hc | hc | hc | hc <;> rw [hc] at hle
  · exact parse_bits (.inl hc) hle hwords
  · exact parse_bits (.inr hc) hle hwords
  · exact parse_registers (.inl hc) hle (readWords_length hwords)
  · exact parse_registers (.inr hc) hle (readWords_length hwords)

theorem readResponse_head (words : List UInt16) :
    (readResponse functionCode count words).headD 0 = functionCode := by
  unfold readResponse
  split <;> rfl

theorem readResponse_length {words : List UInt16}
    (hle : count.toNat ≤ if functionCode ≤ 2 then 2000 else 125)
    (hlength : words.length = count.toNat) :
    2 ≤ (readResponse functionCode count words).length ∧
      (readResponse functionCode count words).length ≤ 252 := by
  unfold readResponse
  split at hle <;> rename_i hbits
  · rw [if_pos hbits, List.length_cons, List.length_cons, packBits_length, List.length_replicate]
    unfold bitBytes
    omega
  · rw [if_neg hbits, List.length_cons, List.length_cons, wordBytes_length, hlength]
    omega

theorem modbusTcpRead_server (hcode : 1 ≤ functionCode ∧ functionCode ≤ 4)
    (hpos : 0 < count.toNat) (hle : count.toNat ≤ if functionCode ≤ 2 then 2000 else 125) :
    modbusTcpRead (serverPeer s) tid unit functionCode address count =
      (readWords s unit functionCode address count).elim (.error .invalidResponse) .ok := by
  have hpdu : processPdu s unit (tcpReadPdu functionCode address count) = _ :=
    processPdu_readPdu hcode hpos hle
  have hsize : (tcpReadPdu functionCode address count).length = 5 := rfl
  have hplain : functionCode &&& 0x80 = 0 ∧ (functionCode ||| 0x80) &&& 0x80 ≠ 0 := by
    rcases readCode_cases hcode with rfl | rfl | rfl | rfl <;> decide
  unfold modbusTcpRead
  cases hwords : readWords s unit functionCode address count with
  | none =>
    rw [hwords] at hpdu
    have hexception : (exceptionResponse functionCode 2).headD 0 &&& 0x80 ≠ 0 := hplain.2
    have htwo : (exceptionResponse functionCode 2).length = 2 := rfl
    rw [tcpExchange_server hpdu (by omega) (by omega) (by omega) (by omega) (by omega),
      if_pos hexception]
    rfl
  | some words =>
    rw [hwords] at hpdu
    have hlength := readResponse_length hle (readWords_length hwords)
    have hhead : ¬ (readResponse functionCode count words).headD 0 &&& 0x80 ≠ 0 := by
      rw [readResponse_head]
      exact not_not.2 hplain.1
    rw [tcpExchange_server hpdu (by omega) (by omega) (by omega) (by omega) (by omega),
      if_neg hhead]
    exact parse_read hcode hle hwords

/-! ## Writes -/

/-- The result of the write function that `process_pdu` calls, called with the
address, the quantity and the values. -/
def CalledWith (s : TcpServer) (unit functionCode : UInt8) (address : UInt16)
    (values : List UInt16) (result : UInt8 × List ModbusWrite) : Prop :=
  if functionCode = 5 then
    result = writeSingle s unit 5 address (coilValue (values.headD 0)) []
  else if functionCode = 6 then result = writeSingle s unit 6 address (values.headD 0) []
  else if functionCode = 15 then
    ∃ packed, (∀ i v, values[i]? = some v → coilRaw packed i = some (coilValue v)) ∧
      writeMultipleCoils s unit address (UInt16.ofNat values.length) packed = some result
  else
    ∃ bytes, registerValues (UInt16.ofNat values.length) bytes = some values ∧
      writeMultipleRegisters s unit address (UInt16.ofNat values.length) bytes = some result

theorem modbusTcpWrite_server {values : List UInt16} {result : UInt8 × List ModbusWrite}
    (hcode : functionCode = 5 ∨ functionCode = 6 ∨ functionCode = 15 ∨ functionCode = 16)
    (hwrite : tcpWritePdu functionCode address values = some pdu)
    (hhead : pdu.headD 0 = functionCode) (hpos : 5 ≤ pdu.length) (hmax : pdu.length ≤ 253)
    (hpdu : processPdu s unit pdu = some (writeResponse functionCode (pdu.take 5) result)) :
    modbusTcpWrite (serverPeer s) tid unit functionCode address values =
      if result.1 = 0 then .ok else .invalidResponse := by
  have hplain : functionCode &&& 0x80 = 0 ∧ (functionCode ||| 0x80) &&& 0x80 ≠ 0 := by
    rcases hcode with rfl | rfl | rfl | rfl <;> decide
  unfold modbusTcpWrite
  rw [hwrite]
  dsimp only
  unfold writeResponse at hpdu
  by_cases hok : result.1 = 0
  · rw [if_neg (not_not.2 hok)] at hpdu
    have hlength : (pdu.take 5).length = 5 := by
      rw [List.length_take]
      omega
    have htake : (pdu.take 5).headD 0 = functionCode := by
      rw [← hhead]
      cases pdu <;> rfl
    have hnoexception : ¬ (pdu.take 5).headD 0 &&& 0x80 ≠ 0 := by
      rw [htake]
      exact not_not.2 hplain.1
    have haccept : acceptsWriteResponse functionCode (pdu.take 5) = true := by
      unfold acceptsWriteResponse
      rw [hlength, htake, decide_eq_true rfl, decide_eq_true rfl]
      rfl
    rw [tcpExchange_server hpdu (by omega) hmax (by omega) (by omega) (by omega),
      if_neg hnoexception, if_pos hok]
    exact if_pos haccept
  · rw [if_pos hok] at hpdu
    have hexception : (exceptionResponse functionCode result.1).headD 0 &&& 0x80 ≠ 0 := hplain.2
    rw [tcpExchange_server hpdu (by omega) hmax (Nat.le_add_left 1 1) (Nat.le_add_left 2 251)
      (Nat.le_add_left 2 14), if_pos hexception, if_neg hok]

section Built

variable {values : List UInt16}

theorem ofNat_length (limit : Nat) (hlimit : limit < 65536) (h : values.length ≤ limit) :
    (UInt16.ofNat values.length).toNat = values.length := by
  rw [UInt16.toNat_ofNat']
  omega

theorem count_admissible (limit : Nat) (hlimit : limit < 65536) (h : values.length ≤ limit)
    (hne : values ≠ []) : ¬ (UInt16.ofNat values.length = 0 ∨
      UInt16.ofNat limit < UInt16.ofNat values.length) := by
  have hcount := ofNat_length limit hlimit h
  have hpos := List.length_pos_of_ne_nil hne
  rw [not_or, UInt16.lt_iff_toNat_lt, hcount, UInt16.toNat_ofNat', Nat.mod_eq_of_lt hlimit]
  refine ⟨fun hzero => ?_, Nat.not_lt.2 h⟩
  have hzero' : (UInt16.ofNat values.length).toNat = 0 := congrArg UInt16.toNat hzero
  omega

theorem packedCoils_length (values : List UInt16) :
    (packedCoils values).length = bitBytes (UInt16.ofNat values.length) := by
  unfold packedCoils
  rw [packBits_length, List.length_replicate]

theorem bitBytes_length (hle : values.length ≤ 1968) :
    bitBytes (UInt16.ofNat values.length) = (values.length + 7) / 8 := by
  unfold bitBytes
  rw [ofNat_length 1968 (by decide) hle]

theorem packedCoils_raw (hle : values.length ≤ 1968) {i : Nat} {v : UInt16}
    (hv : values[i]? = some v) : coilRaw (packedCoils values) i = some (coilValue v) := by
  obtain ⟨hi, -⟩ := List.getElem?_eq_some_iff.1 hv
  have hbit : bitAt (packedCoils values) i = some (decide (v ≠ 0)) := by
    unfold packedCoils
    rw [bitAt_packBits _ (by rw [bitBytes_length hle]; omega), List.getElem?_map, hv]
    rfl
  rw [coilRaw_eq hbit]
  unfold coilValue
  simp

theorem coils_called (s : TcpServer) (unit : UInt8) (address : UInt16) (hne : values ≠ [])
    (hle : values.length ≤ 1968) :
    ∃ result, CalledWith s unit 15 address values result ∧
      processPdu s unit (15 :: highByte address :: lowByte address ::
        highByte (UInt16.ofNat values.length) :: lowByte (UInt16.ofNat values.length) ::
          UInt8.ofNat (bitBytes (UInt16.ofNat values.length)) :: packedCoils values) =
        some (writeResponse 15 [15, highByte address, lowByte address,
          highByte (UInt16.ofNat values.length), lowByte (UInt16.ofNat values.length)] result) := by
  have hcount := ofNat_length 1968 (by decide) hle
  have hadmissible : ¬ (UInt16.ofNat values.length = 0 ∨ 1968 < UInt16.ofNat values.length) :=
    count_admissible 1968 (by decide) hle hne
  have hbytes := bitBytes_length hle
  have hbyteCount : (UInt8.ofNat (bitBytes (UInt16.ofNat values.length))).toNat =
      bitBytes (UInt16.ofNat values.length) := by
    rw [UInt8.toNat_ofNat']
    omega
  have hsizes : ¬ ((UInt8.ofNat (bitBytes (UInt16.ofNat values.length))).toNat ≠
      bitBytes (UInt16.ofNat values.length) ∨ (packedCoils values).length ≠
        (UInt8.ofNat (bitBytes (UInt16.ofNat values.length))).toNat) := by
    rw [packedCoils_length, hbyteCount]
    simp
  have hroom : 0 + (UInt16.ofNat values.length).toNat ≤ 8 * (packedCoils values).length := by
    rw [packedCoils_length]
    omega
  obtain ⟨result, hresult, -⟩ : ∃ result, writeMultipleCoils s unit address
      (UInt16.ofNat values.length) (packedCoils values) = some result ∧ result.1 ≤ 4 :=
    writeCoilsLoop_some _ 0 [] hroom
  refine ⟨result, ⟨_, fun i v hv => packedCoils_raw hle hv, hresult⟩, ?_⟩
  rw [processPdu_coils, beWord_bytes, beWord_bytes,
    if_neg hadmissible, if_neg hsizes, hresult]
  rfl

theorem registers_called (s : TcpServer) (unit : UInt8) (address : UInt16) (hne : values ≠ [])
    (hle : values.length ≤ 123) :
    ∃ result, CalledWith s unit 16 address values result ∧
      processPdu s unit (16 :: highByte address :: lowByte address ::
        highByte (UInt16.ofNat values.length) :: lowByte (UInt16.ofNat values.length) ::
          UInt8.ofNat (values.length * 2) :: wordBytes values) =
        some (writeResponse 16 [16, highByte address, lowByte address,
          highByte (UInt16.ofNat values.length), lowByte (UInt16.ofNat values.length)] result) := by
  have hcount := ofNat_length 123 (by decide) hle
  have hadmissible : ¬ (UInt16.ofNat values.length = 0 ∨ 123 < UInt16.ofNat values.length) :=
    count_admissible 123 (by decide) hle hne
  have hbyteCount : (UInt8.ofNat (values.length * 2)).toNat = values.length * 2 := by
    rw [UInt8.toNat_ofNat']
    omega
  have hsizes : ¬ ((UInt8.ofNat (values.length * 2)).toNat ≠
      (UInt16.ofNat values.length).toNat * 2 ∨
        (wordBytes values).length ≠ (UInt8.ofNat (values.length * 2)).toNat) := by
    rw [wordBytes_length, hbyteCount, hcount, Nat.mul_comm]
    simp
  have hvalues : registerValues (UInt16.ofNat values.length) (wordBytes values) = some values := by
    unfold registerValues
    rw [mapM_eq_some_iff, hcount]
    refine List.ext_getElem? fun i => ?_
    rw [List.getElem?_map, List.getElem?_map]
    by_cases hi : i < values.length
    · rw [List.getElem?_range hi, Option.map_some, wordAt_wordBytes, List.getElem?_eq_getElem hi]
      rfl
    · rw [List.getElem?_eq_none (by rw [List.length_range]; omega),
        List.getElem?_eq_none (Nat.not_lt.1 hi)]
      rfl
  have hresult : writeMultipleRegisters s unit address (UInt16.ofNat values.length)
      (wordBytes values) = some (writeRegistersLoop s unit address values 0 0 []) := by
    unfold writeMultipleRegisters
    rw [hvalues]
    rfl
  refine ⟨_, ⟨_, hvalues, hresult⟩, ?_⟩
  rw [processPdu_registers, beWord_bytes, beWord_bytes,
    if_neg hadmissible, if_neg hsizes, hresult]
  rfl

/-- Every write request is passed on with its values, and the master accepts the
response exactly if the write function succeeds. -/
theorem write_agrees (hne : values ≠ [])
    (hwrite : tcpWritePdu functionCode address values = some pdu) :
    ∃ result, CalledWith s unit functionCode address values result ∧
      processPdu s unit pdu = some (writeResponse functionCode (pdu.take 5) result) ∧
      modbusTcpWrite (serverPeer s) tid unit functionCode address values =
        if result.1 = 0 then .ok else .invalidResponse := by
  have hwrite' := hwrite
  unfold tcpWritePdu at hwrite'
  dsimp only at hwrite'
  split_ifs at hwrite' with h5 h15 h6 h16
  · obtain ⟨rfl, -⟩ := h5
    obtain rfl := Option.some.inj hwrite'
    have hpdu := processPdu_single s unit (highByte address) (lowByte address)
      (highByte (coilValue (values.headD 0))) (lowByte (coilValue (values.headD 0))) (.inl rfl)
    rw [beWord_bytes, beWord_bytes] at hpdu
    exact ⟨_, rfl, hpdu, modbusTcpWrite_server (.inl rfl) hwrite rfl (le_refl 5)
      (Nat.le_add_left 5 248) hpdu⟩
  · obtain ⟨rfl, hle⟩ := h15
    obtain rfl := Option.some.inj hwrite'
    obtain ⟨result, hcalled, hpdu⟩ := coils_called s unit address hne hle
    have hbytes := bitBytes_length hle
    refine ⟨result, hcalled, hpdu, modbusTcpWrite_server (.inr (.inr (.inl rfl))) hwrite rfl
      (Nat.le_add_left 5 _) ?_ hpdu⟩
    simp only [List.length_cons, packedCoils_length]
    omega
  · obtain ⟨rfl, -⟩ := h6
    obtain rfl := Option.some.inj hwrite'
    have hpdu := processPdu_single s unit (highByte address) (lowByte address)
      (highByte (values.headD 0)) (lowByte (values.headD 0)) (.inr rfl)
    rw [beWord_bytes, beWord_bytes] at hpdu
    exact ⟨_, rfl, hpdu, modbusTcpWrite_server (.inr (.inl rfl)) hwrite rfl (le_refl 5)
      (Nat.le_add_left 5 248) hpdu⟩
  · obtain ⟨rfl, hle⟩ := h16
    obtain rfl := Option.some.inj hwrite'
    obtain ⟨result, hcalled, hpdu⟩ := registers_called s unit address hne hle
    refine ⟨result, hcalled, hpdu, modbusTcpWrite_server (.inr (.inr (.inr rfl))) hwrite rfl
      (Nat.le_add_left 5 _) ?_ hpdu⟩
    simp only [List.length_cons, wordBytes_length]
    omega

end Built

end Exchange

/-- **Master and server agree.** A read request of the master is answered with the
words that `read_word` gives, and the master parses them out of the response. A
write request is passed on to the server's write function with the master's
address, quantity and values, and the response is accepted if it succeeds. -/
theorem master_server_agree (s : TcpServer) (tid : UInt16) (unit functionCode : UInt8)
    (address : UInt16) :
    (∀ count : UInt16, 1 ≤ functionCode ∧ functionCode ≤ 4 → 0 < count.toNat →
      count.toNat ≤ (if functionCode ≤ 2 then 2000 else 125) →
      (∀ response sent,
        processPdu s unit (tcpReadPdu functionCode address count) = some (response, sent) →
          response.headD 0 &&& 0x80 = 0 →
            ∃ words, readWords s unit functionCode address count = some words ∧
              parseReadResponse functionCode count response = .ok words) ∧
      modbusTcpRead (serverPeer s) tid unit functionCode address count =
        (readWords s unit functionCode address count).elim (.error .invalidResponse) .ok) ∧
    (∀ (values : List UInt16) (pdu : List UInt8), values ≠ [] →
      tcpWritePdu functionCode address values = some pdu →
      ∃ result, CalledWith s unit functionCode address values result ∧
        processPdu s unit pdu = some (writeResponse functionCode (pdu.take 5) result) ∧
        modbusTcpWrite (serverPeer s) tid unit functionCode address values =
          if result.1 = 0 then .ok else .invalidResponse) := by
  refine ⟨fun count hcode hpos hle => ⟨fun response sent hpdu hplain => ?_,
    modbusTcpRead_server hcode hpos hle⟩, fun values pdu hne hwrite => write_agrees hne hwrite⟩
  rw [processPdu_readPdu hcode hpos hle] at hpdu
  cases hwords : readWords s unit functionCode address count with
  | none =>
    rw [hwords] at hpdu
    obtain ⟨rfl, -⟩ := Prod.mk.inj (Option.some.inj hpdu)
    have hexception : (functionCode ||| 0x80) &&& 0x80 ≠ 0 := by
      rcases readCode_cases hcode with rfl | rfl | rfl | rfl <;> decide
    exact absurd hplain hexception
  | some words =>
    rw [hwords] at hpdu
    obtain ⟨rfl, -⟩ := Prod.mk.inj (Option.some.inj hpdu)
    exact ⟨words, rfl, parse_read hcode hle hwords⟩

end McpGateway.Modbus
