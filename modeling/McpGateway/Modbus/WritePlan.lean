import McpGateway.Modbus.TcpServer
import McpGateway.Services.ControlRoundTrip

/-!
# Writes of several points

`write_multiple_coils` and `write_multiple_registers` write each point before
they look at the next one. `WritePlan` is what they find when every write is
accepted: the points up to the first register that cannot be written, and the
exception there. A request is its plan, sent until a point is refused.
-/

namespace McpGateway.Modbus

open McpGateway.Lib McpGateway.Tcm McpGateway.Amm McpGateway.Services

/-- A point, the words of the request for it and the raw value they make. -/
structure PlannedWrite where
  mapping : AmmMappingEntry
  words : List UInt16
  raw : CFloat

/-- The points of a request and the exception behind them, 0 for none. -/
structure WritePlan where
  points : List PlannedWrite
  exception : UInt8

namespace WritePlan

def reject (exception : UInt8) : WritePlan := ⟨[], exception⟩

def push (p : PlannedWrite) (plan : WritePlan) : WritePlan := ⟨p :: plan.points, plan.exception⟩

end WritePlan

section Plans

variable (s : TcpServer) (unit : UInt8) (address : UInt16)

/-- `n` coils from the `index`-th on. -/
def coilsPlan (packed : List UInt8) : Nat → Nat → WritePlan
  | 0, _ => .reject 0
  | n + 1, index =>
    match findMapping unit 1 (address + UInt16.ofNat index) s.table with
    | none => .reject 2
    | some (m, wordIndex) =>
      if wordIndex ≠ 0 ∨ m.constraint.writable = false then .reject 2
      else (coilsPlan packed n (index + 1)).push
        ⟨m, (coilRaw packed index).toList,
          .fin (if coilRaw packed index = some 0xFF00 then 1 else 0)⟩

/-- The values from the `index`-th on; `skip` of them belong to the point before. -/
def registersPlan : List UInt16 → Nat → Nat → WritePlan
  | [], _, _ => .reject 0
  | _ :: values, index, skip + 1 => registersPlan values (index + 1) skip
  | value :: values, index, 0 =>
    match findMapping unit 3 (address + UInt16.ofNat index) s.table with
    | none => .reject 2
    | some (m, wordIndex) =>
      if wordIndex ≠ 0 ∨ m.constraint.writable = false then .reject 2
      else if writtenCount m = 0 ∨ 4 < writtenCount m ∨ values.length + 1 < writtenCount m ∨
          m.dataType = .ascii then .reject 3
      else (registersPlan values (index + 1) (writtenCount m - 1)).push
        ⟨m, (value :: values).take (writtenCount m),
          modbusConvertToNumber (value :: values) m.dataType m.byteOrder m.bitIndex⟩

/-- The points written one after the other, until one is refused. -/
def sendPoints : List PlannedWrite → List ModbusWrite → Bool × List ModbusWrite
  | [], sent => (true, sent)
  | p :: points, sent =>
    let (accepted, sent) := servicePoint s p.mapping p.raw sent
    if accepted then sendPoints points sent else (false, sent)

def sendPlan (plan : WritePlan) (sent : List ModbusWrite) : UInt8 × List ModbusWrite :=
  let (accepted, sent) := sendPoints s plan.points sent
  (if accepted then plan.exception else 4, sent)

def requestPlan (request : List UInt8) : WritePlan :=
  match request with
  | functionCode :: address1 :: address0 :: quantity1 :: quantity0 :: byteCount :: data =>
    let address := beWord address1 address0
    let quantity := beWord quantity1 quantity0
    if quantity = 0 ∨ (if functionCode = 15 then 1968 else 123) < quantity then .reject 3
    else if byteCount.toNat ≠ (if functionCode = 15 then bitBytes quantity else quantity.toNat * 2) ∨
        data.length ≠ byteCount.toNat then .reject 3
    else if functionCode = 15 then coilsPlan s unit address data quantity.toNat 0
    else registersPlan s unit address ((registerValues quantity data).getD []) 0 0
  | _ => .reject 3

/-- The control service or the slave refuses a point, as the `i`-th write of a request. -/
def Refuses (p : PlannedWrite) (i : Nat) : Prop :=
  (controlServiceWritePoint s.control s.table p.mapping.deviceId.str p.mapping.pointId.str
    (engineeringOf p.raw p.mapping) .restApi (s.answers i)).1.status ≠ .ok

/-- If the plan ends in an exception, there is no point before it, or one of them is
refused. -/
def NothingBefore (request : List UInt8) : Prop :=
  (requestPlan s unit request).exception ≠ 0 → (requestPlan s unit request).points ≠ [] →
    ∃ i p, (requestPlan s unit request).points[i]? = some p ∧ Refuses s p i

end Plans

/-- The exceptions 2 and 3: illegal address and illegal value. -/
def IsRejection (response : List UInt8) : Prop :=
  ∃ functionCode, response = exceptionResponse functionCode 2 ∨
    response = exceptionResponse functionCode 3

/-! ## Sending points -/

section Send

variable {s : TcpServer} {p : PlannedWrite} {points : List PlannedWrite}
  {sent : List ModbusWrite}

theorem servicePoint_accepted :
    (servicePoint s p.mapping p.raw sent).1 = true ↔ ¬ Refuses s p sent.length := by
  unfold servicePoint Refuses
  rw [not_not]
  exact decide_eq_true_iff

theorem servicePoint_length (h : (servicePoint s p.mapping p.raw sent).1 = true) :
    (servicePoint s p.mapping p.raw sent).2.length = sent.length + 1 := by
  have hok := not_not.1 (servicePoint_accepted.1 h)
  obtain ⟨w, hw⟩ := Option.ne_none_iff_exists'.1 fun hnone => not_ok_of_not_sent hnone hok
  show (sent ++ (controlServiceWritePoint _ _ _ _ _ _ _).2.toList).length = _
  rw [hw, List.length_append]
  rfl

theorem sendPoints_accepted : (sendPoints s points sent).1 = true ↔
    ∀ i p, points[i]? = some p → ¬ Refuses s p (sent.length + i) := by
  induction points generalizing sent with
  | nil => exact iff_of_true rfl fun i p hp => by cases hp
  | cons p points ih =>
    rw [sendPoints]
    dsimp only
    split
    · rename_i haccepted
      rw [ih, servicePoint_length haccepted]
      constructor
      · intro h i q hq
        cases i with
        | zero =>
          obtain rfl := Option.some.inj hq
          exact servicePoint_accepted.1 haccepted
        | succ i =>
          have hnext := h i q hq
          rwa [Nat.add_assoc, Nat.add_comm 1 i] at hnext
      · intro h i q hq
        rw [Nat.add_assoc, Nat.add_comm 1 i]
        exact h (i + 1) q hq
    · rename_i hrefused
      refine iff_of_false Bool.false_ne_true fun h => hrefused ?_
      exact servicePoint_accepted.2 (h 0 p rfl)

theorem sendPoints_length (h : (sendPoints s points sent).1 = true) :
    (sendPoints s points sent).2.length = sent.length + points.length := by
  induction points generalizing sent with
  | nil => rfl
  | cons p points ih =>
    rw [sendPoints] at h ⊢
    dsimp only at h ⊢
    split at h
    · rename_i haccepted
      rw [if_pos haccepted, ih h, servicePoint_length haccepted, List.length_cons]
      omega
    · cases h

end Send

/-! ## Requests as plans -/

section Requests

variable {s : TcpServer} {unit : UInt8} {address : UInt16}

theorem sendPlan_push (p : PlannedWrite) (plan : WritePlan) (sent : List ModbusWrite) :
    sendPlan s (plan.push p) sent =
      if (servicePoint s p.mapping p.raw sent).1 then
        sendPlan s plan (servicePoint s p.mapping p.raw sent).2
      else (4, (servicePoint s p.mapping p.raw sent).2) := by
  unfold sendPlan WritePlan.push
  rw [sendPoints]
  dsimp only
  split <;> rfl

def singleRaw (functionCode : UInt8) (raw : UInt16) : CFloat :=
  if functionCode = 5 then .fin (if raw = 0xFF00 then 1 else 0) else .fin raw.toNat

section Single

variable {functionCode : UInt8} {offset raw : UInt16} {m : AmmMappingEntry} {wordIndex : UInt8}
  {sent : List ModbusWrite}

theorem writeSingle_none
    (h : findMapping unit (if functionCode = 5 then 1 else 3) offset s.table = none) :
    writeSingle s unit functionCode offset raw sent = (2, sent) := by
  unfold writeSingle
  rw [h]

theorem writeSingle_bad
    (h : findMapping unit (if functionCode = 5 then 1 else 3) offset s.table =
      some (m, wordIndex))
    (hbad : wordIndex ≠ 0 ∨ m.constraint.writable = false) :
    writeSingle s unit functionCode offset raw sent = (2, sent) := by
  unfold writeSingle
  rw [h]
  exact if_pos hbad

theorem writeSingle_point
    (h : findMapping unit (if functionCode = 5 then 1 else 3) offset s.table =
      some (m, wordIndex))
    (hgood : ¬ (wordIndex ≠ 0 ∨ m.constraint.writable = false)) :
    writeSingle s unit functionCode offset raw sent =
      (if (servicePoint s m (singleRaw functionCode raw) sent).1 then 0 else 4,
        (servicePoint s m (singleRaw functionCode raw) sent).2) := by
  unfold writeSingle
  rw [h]
  exact if_neg hgood

end Single

theorem writeCoilsLoop_plan {packed : List UInt8} (n index : Nat) (sent : List ModbusWrite)
    (hbytes : index + n ≤ 8 * packed.length) :
    writeCoilsLoop s unit address packed n index sent =
      some (sendPlan s (coilsPlan s unit address packed n index) sent) := by
  induction n generalizing index sent with
  | zero => rfl
  | succ n ih =>
    have hbyte : index / 8 < packed.length := by omega
    obtain ⟨raw, hraw⟩ : ∃ raw, coilRaw packed index = some raw := by
      unfold coilRaw
      rw [List.getElem?_eq_getElem hbyte]
      exact ⟨_, rfl⟩
    rw [writeCoilsLoop, coilsPlan, hraw]
    have hcode : (if (5 : UInt8) = 5 then 1 else 3 : UInt8) = 1 := if_pos rfl
    cases hfind : findMapping unit 1 (address + UInt16.ofNat index) s.table with
    | none =>
      rw [← hcode] at hfind
      dsimp only
      rw [writeSingle_none hfind]
      rfl
    | some found =>
      obtain ⟨m, wordIndex⟩ := found
      rw [← hcode] at hfind
      dsimp only
      by_cases hbad : wordIndex ≠ 0 ∨ m.constraint.writable = false
      · rw [writeSingle_bad hfind hbad, if_pos hbad]
        rfl
      · have hvalue : (if some raw = some 0xFF00 then 1 else 0 : ℚ) =
            if raw = 0xFF00 then 1 else 0 := by simp only [Option.some.injEq]
        rw [writeSingle_point hfind hbad, if_neg hbad, sendPlan_push, hvalue]
        unfold singleRaw
        rw [if_pos rfl]
        cases hsend : (servicePoint s m (.fin (if raw = 0xFF00 then 1 else 0)) sent).1 with
        | true => exact ih (index + 1) _ (by omega)
        | false => rfl

theorem writeRegistersLoop_plan (values : List UInt16) (index skip : Nat)
    (sent : List ModbusWrite) :
    writeRegistersLoop s unit address values index skip sent =
      sendPlan s (registersPlan s unit address values index skip) sent := by
  induction values generalizing index skip sent with
  | nil => rfl
  | cons value values ih =>
    cases skip with
    | succ skip => exact ih (index + 1) skip sent
    | zero =>
      rw [writeRegistersLoop, registersPlan]
      cases hfind : findMapping unit 3 (address + UInt16.ofNat index) s.table with
      | none => rfl
      | some found =>
        obtain ⟨m, wordIndex⟩ := found
        dsimp only
        by_cases hbad : wordIndex ≠ 0 ∨ m.constraint.writable = false
        · rw [if_pos hbad, if_pos hbad]
          rfl
        · rw [if_neg hbad, if_neg hbad]
          by_cases hcount : writtenCount m = 0 ∨ 4 < writtenCount m ∨
              values.length + 1 < writtenCount m ∨ m.dataType = .ascii
          · rw [if_pos hcount, if_pos hcount]
            rfl
          · rw [if_neg hcount, if_neg hcount, sendPlan_push]
            dsimp only
            split
            · rename_i hrefused
              rw [if_neg (by rw [hrefused]; decide)]
            · rename_i haccepted
              rw [if_pos (Bool.eq_true_of_not_eq_false haccepted)]
              exact ih _ _ _

/-- A plan ends in no other exception than 2 or 3. -/
def WritePlan.Ends (plan : WritePlan) : Prop :=
  plan.exception = 0 ∨ plan.exception = 2 ∨ plan.exception = 3

theorem WritePlan.Ends.ite {c : Prop} [Decidable c] {plan plan' : WritePlan} (h : plan.Ends)
    (h' : plan'.Ends) : (if c then plan else plan').Ends := by
  split
  · exact h
  · exact h'

theorem WritePlan.Ends.reject : (WritePlan.reject 3).Ends := .inr (.inr rfl)

theorem coilsPlan_ends (packed : List UInt8) (n index : Nat) :
    (coilsPlan s unit address packed n index).Ends := by
  induction n generalizing index with
  | zero => exact .inl rfl
  | succ n ih =>
    rw [coilsPlan]
    split
    · exact .inr (.inl rfl)
    · split
      · exact .inr (.inl rfl)
      · exact ih (index + 1)

theorem registersPlan_ends (values : List UInt16) (index skip : Nat) :
    (registersPlan s unit address values index skip).Ends := by
  induction values generalizing index skip with
  | nil => exact .inl rfl
  | cons value values ih =>
    cases skip with
    | succ skip => exact ih (index + 1) skip
    | zero =>
      rw [registersPlan]
      split
      · exact .inr (.inl rfl)
      · split
        · exact .inr (.inl rfl)
        · split
          · exact .inr (.inr rfl)
          · exact ih _ _

theorem requestPlan_ends (request : List UInt8) : (requestPlan s unit request).Ends := by
  unfold requestPlan
  split
  · exact .ite .reject (.ite .reject
      (.ite (coilsPlan_ends _ _ _) (registersPlan_ends _ _ _)))
  · exact .reject

/-- **A request is its plan.** -/
theorem processPdu_plan {request : List UInt8}
    (hcode : request.head? = some 15 ∨ request.head? = some 16) :
    ∃ functionCode echo, echo.length = 5 ∧ processPdu s unit request =
      some (writeResponse functionCode echo (sendPlan s (requestPlan s unit request) [])) := by
  rcases Nat.lt_or_ge request.length 5 with hshort | hlong
  · refine ⟨0, [0, 0, 0, 0, 0], rfl, ?_⟩
    have hplan : requestPlan s unit request = .reject 3 := by
      unfold requestPlan
      split
      · simp only [List.length_cons] at hshort
        omega
      · rfl
    rw [short_request s unit hshort, hplan]
    rfl
  · obtain ⟨functionCode, address1, address0, quantity1, quantity0, rest, rfl⟩ :
        ∃ functionCode address1 address0 quantity1 quantity0 rest,
          request = functionCode :: address1 :: address0 :: quantity1 :: quantity0 :: rest :=
      long_request hlong
    have hcode' : functionCode = 15 ∨ functionCode = 16 :=
      hcode.imp Option.some.inj Option.some.inj
    refine ⟨functionCode, [functionCode, address1, address0, quantity1, quantity0], rfl, ?_⟩
    cases rest with
    | nil =>
      rcases hcode' with rfl | rfl <;> rfl
    | cons byteCount data =>
      rw [processPdu_multiple s unit address1 address0 quantity1 quantity0 hcode' byteCount data]
      unfold requestPlan
      dsimp only
      by_cases hlimit : beWord quantity1 quantity0 = 0 ∨
          (if functionCode = 15 then 1968 else 123) < beWord quantity1 quantity0
      · rw [if_pos hlimit, if_pos hlimit]
        rfl
      · rw [if_neg hlimit, if_neg hlimit]
        by_cases hbytes : byteCount.toNat ≠ (if functionCode = 15
            then bitBytes (beWord quantity1 quantity0)
            else (beWord quantity1 quantity0).toNat * 2) ∨ data.length ≠ byteCount.toNat
        · rw [if_pos hbytes, if_pos hbytes]
          rfl
        · rw [if_neg hbytes, if_neg hbytes]
          rw [not_or, not_not, not_not] at hbytes
          rcases hcode' with rfl | rfl
          · have hlength : 0 + (beWord quantity1 quantity0).toNat ≤ 8 * data.length := by
              rw [hbytes.2, hbytes.1, if_pos rfl]
              unfold bitBytes
              omega
            rw [if_pos rfl, if_pos rfl, writeMultipleCoils, writeCoilsLoop_plan _ _ _ hlength]
            rfl
          · have hlength : data.length = 2 * (beWord quantity1 quantity0).toNat := by
              rw [hbytes.2, hbytes.1, if_neg (by decide), Nat.mul_comm]
            obtain ⟨values, hvalues⟩ := registerValues_some hlength
            rw [if_neg (by decide), if_neg (by decide), writeMultipleRegisters, hvalues,
              Option.map_some, Option.map_some, writeRegistersLoop_plan]
            rfl

theorem writeResponse_rejection {functionCode : UInt8} {echo : List UInt8}
    {result : UInt8 × List ModbusWrite} (hecho : echo.length = 5) :
    IsRejection (writeResponse functionCode echo result).1 ↔ result.1 = 2 ∨ result.1 = 3 := by
  unfold writeResponse IsRejection exceptionResponse
  split
  · constructor
    · rintro ⟨code, heq | heq⟩
      · exact .inl (List.cons.inj (List.cons.inj heq).2).1
      · exact .inr (List.cons.inj (List.cons.inj heq).2).1
    · rintro (heq | heq)
      · exact ⟨functionCode, .inl (by rw [heq])⟩
      · exact ⟨functionCode, .inr (by rw [heq])⟩
  · rename_i hzero
    rw [not_not] at hzero
    refine iff_of_false ?_ (by rw [hzero]; decide)
    rintro ⟨code, heq | heq⟩ <;> cases (congrArg List.length heq).symm.trans hecho

theorem sendPlan_rejection {plan : WritePlan} (hends : plan.Ends) (sent : List ModbusWrite) :
    ((sendPlan s plan sent).1 = 2 ∨ (sendPlan s plan sent).1 = 3) ↔
      plan.exception ≠ 0 ∧ (sendPoints s plan.points sent).1 = true := by
  unfold sendPlan
  dsimp only
  cases (sendPoints s plan.points sent).1 with
  | false => simp
  | true =>
    rcases hends with h | h | h <;> simp [h]

/-- **Rejected writes.** A request with the function code 15 or 16 that is answered
with exception 2 or 3 has written nothing if and only if its first bad register
comes before every point, or a point before it is refused. -/
theorem rejected_write_iff (s : TcpServer) (unit : UInt8) {request : List UInt8}
    (hcode : request.head? = some 15 ∨ request.head? = some 16) :
    (∀ response sent, processPdu s unit request = some (response, sent) → IsRejection response →
      sent = []) ↔ NothingBefore s unit request := by
  obtain ⟨functionCode, echo, hecho, hpdu⟩ := @processPdu_plan s unit request hcode
  have hends := @requestPlan_ends s unit request
  have hanswer : (∀ response sent, processPdu s unit request = some (response, sent) →
      IsRejection response → sent = []) ↔
        ((sendPlan s (requestPlan s unit request) []).1 = 2 ∨
          (sendPlan s (requestPlan s unit request) []).1 = 3 →
            (sendPoints s (requestPlan s unit request).points []).2 = []) := by
    rw [hpdu, ← @writeResponse_rejection functionCode echo _ hecho]
    have hsent : (writeResponse functionCode echo
        (sendPlan s (requestPlan s unit request) [])).2 =
          (sendPoints s (requestPlan s unit request).points []).2 := by
      unfold writeResponse
      split <;> rfl
    constructor
    · intro h hreject
      rw [← hsent]
      exact h _ _ rfl hreject
    · intro h response sent heq hreject
      have hresponse := congrArg Prod.fst (Option.some.inj heq)
      have hwrites := congrArg Prod.snd (Option.some.inj heq)
      dsimp only at hresponse hwrites
      rw [← hwrites, hsent]
      exact h (hresponse ▸ hreject)
  rw [hanswer, sendPlan_rejection hends]
  unfold NothingBefore
  have hsend := @sendPoints_accepted s (requestPlan s unit request).points []
  simp only [List.length_nil, Nat.zero_add] at hsend
  constructor
  · intro h hexception hpoints
    by_contra hnone
    have haccepted := hsend.2 fun i p hp hrefuses => hnone ⟨i, p, hp, hrefuses⟩
    have hlength := sendPoints_length haccepted
    rw [h ⟨hexception, haccepted⟩, List.length_nil, Nat.zero_add] at hlength
    exact hpoints (List.eq_nil_of_length_eq_zero hlength.symm)
  · rintro h ⟨hexception, haccepted⟩
    by_cases hpoints : (requestPlan s unit request).points = []
    · rw [hpoints]
      rfl
    · obtain ⟨i, p, hp, hrefuses⟩ := h hexception hpoints
      exact absurd hrefuses (hsend.1 haccepted i p hp)

/-- One register that can be written, and nothing behind it. -/
def setpointServer : TcpServer where
  table := wideTable
  pool := .empty 64
  control := plainControl
  answers _ := .ok

theorem rejected_write_iff_behind :
    NothingBefore setpointServer 5 [16, 0, 1, 0, 1, 2, 0, 8] := by
  refine (rejected_write_iff setpointServer 5 (.inr rfl)).1 fun response sent hpdu _ => ?_
  have hanswer : processPdu setpointServer 5 [16, 0, 1, 0, 1, 2, 0, 8] =
      some (exceptionResponse 16 2, []) := by decide +kernel
  exact (congrArg Prod.snd (Option.some.inj (hanswer.symm.trans hpdu))).symm

/-- A request for a register and the one behind it writes the first and is rejected. -/
theorem half_written :
    processPdu setpointServer 5 [16, 0, 0, 0, 2, 4, 0, 7, 0, 8] =
        some (exceptionResponse 16 2, [⟨.modbusRtu, 0, 5, 6, 0, [7]⟩]) ∧
      IsRejection (exceptionResponse 16 2) :=
  ⟨by decide +kernel, 16, .inl rfl⟩

end Requests

end McpGateway.Modbus
