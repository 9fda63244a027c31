import McpGateway.Modbus.NumberCodec
import McpGateway.Modbus.WritePlan

/-!
# Register writes from the northbound side

`write_single` takes the word of a request for an unsigned number, and
`write_multiple_registers` decodes the words by the type of the mapping. Both
make an engineering value of it, which the control service turns into words for
the slave.
-/

namespace McpGateway.Modbus

open McpGateway.Lib McpGateway.Tcm McpGateway.Amm McpGateway.Services

/-- A mapping of an integer type of up to two registers, with a scale. -/
structure ValuePoint (m : AmmMappingEntry) : Prop where
  kind : m.dataType ∈ wordTypes ∨ m.dataType = .bcd16
  scale : ∃ scale, m.scaleFactor = .fin scale ∧ scale ≠ 0
  offset : ∃ offset, m.offset = .fin offset

/-- The words of a packed decimal number are digits. -/
def ValidWords (m : AmmMappingEntry) (words : List UInt16) : Prop :=
  m.dataType = .bcd16 → ∀ w ∈ words, PackedDigits w

section Conditions

variable (s : TcpServer)

/-- The control service takes the raw number `n` for a mapping as the `i`-th write of
a request: the entry with its names can be written, has the value in its range, and
the slave accepts it. -/
def Takes (m : AmmMappingEntry) (n : Int) (i : Nat) : Prop :=
  ∃ e, ammFindMappingByPoint m.deviceId.str m.pointId.str s.table = some e ∧
    e.constraint.writable = true ∧ outOfRange (engineeringOf (.fin n) m) e.constraint = false ∧
    e.dataType ≠ .bitfield16 ∧ e.dataType ≠ .ascii ∧ s.answers i = .ok

/-- The first entry with the names of a mapping is the mapping itself, and `kept` holds;
or it sends the same to the same register. -/
def Passes (m : AmmMappingEntry) (n : Int) (words : List UInt16) (kept : Prop) : Prop :=
  ∀ e, ammFindMappingByPoint m.deviceId.str m.pointId.str s.table = some e →
    if e = m then kept
    else writeOf e (encodeValue s.control (engineeringOf (.fin n) m) e) = writeOf m words

/-- The word of a single write that stands for itself. -/
def SingleKept (t : DataType) (w : UInt16) : Prop :=
  t = .int16 ∨ t = .uint16 ∨ (t = .bcd16 ∧ w.toNat ≤ 9)

/-- The number that a point of a request with several registers stands for. -/
def PlannedWrite.number (p : PlannedWrite) : Int :=
  wordValue p.mapping.dataType p.mapping.byteOrder p.words

end Conditions

/-! ## Values and words -/

section Values

variable {s : TcpServer} {m : AmmMappingEntry} {n : Int} {words : List UInt16}

theorem ValuePoint.integer (h : ValuePoint m) : isInteger m.dataType = true := by
  rcases h.kind with hword | hbcd
  · exact isInteger_of_word hword
  · rw [hbcd]
    rfl

theorem ValuePoint.engineering (h : ValuePoint m) (n : Int) :
    ∃ q, engineeringOf (.fin n) m = .fin q ∧ rawOf (.fin q) m = .fin n := by
  obtain ⟨scale, hscale, hne⟩ := h.scale
  obtain ⟨offset, hoffset⟩ := h.offset
  refine ⟨n * scale + offset, ?_, ?_⟩
  · simp only [engineeringOf, hscale, hoffset, CFloat.mul, CFloat.add]
  · rw [rawOf_fin hscale hoffset, if_neg hne, add_sub_cancel_right, mul_div_cancel_right₀ _ hne]

theorem ValuePoint.encode (h : ValuePoint m) (hn : -2 ^ 63 ≤ n ∧ n < 2 ^ 63) :
    encodeValue s.control (engineeringOf (.fin n) m) m =
      intWords m.dataType m.byteOrder n := by
  obtain ⟨q, heq, hraw⟩ := h.engineering n
  rw [encodeValue_integer h.integer, heq, hraw, llround_int _ hn]

theorem ValuePoint.number_small (h : ValuePoint m) (words : List UInt16) :
    -2 ^ 63 ≤ wordValue m.dataType m.byteOrder words ∧
      wordValue m.dataType m.byteOrder words < 2 ^ 63 := by
  rcases h.kind with hword | hbcd
  · exact wordValue_small hword words
  · rw [hbcd]
    simp only [wordValue, bcdValue]
    omega

/-- Digits whose packing differs from their number by a multiple of 10000 only. -/
theorem digits_zero {k a b c : Nat} (ha : a < 10) (hb : b < 10) (hc : c < 10)
    (h : 3096 * a + 156 * b + 6 * c = 10000 * k) : a = 0 ∧ b = 0 ∧ c = 0 := by
  have hk : k < 3 := by omega
  have hthird : k % 3 = 0 := by omega
  have hzero : k = 0 := by omega
  subst hzero
  omega

/-- Packing makes every number of more than one digit a different one. -/
theorem bcdWord_self_iff (w : UInt16) : bcdWord w.toNat = w ↔ w.toNat ≤ 9 := by
  rw [← UInt16.toNat_inj, bcdWord_toNat]
  generalize w.toNat = n
  have hdigits : n = 10000 * (n / 10000) + n / 1000 % 10 * 1000 + n / 100 % 10 * 100 +
      n / 10 % 10 * 10 + n % 10 := by omega
  constructor
  · intro hpacked
    have hdiff : 3096 * (n / 1000 % 10) + 156 * (n / 100 % 10) + 6 * (n / 10 % 10) =
        10000 * (n / 10000) := by
      generalize n / 10000 = k at *
      generalize n / 1000 % 10 = a at *
      generalize n / 100 % 10 = b at *
      generalize n / 10 % 10 = c at *
      generalize n % 10 = d at *
      omega
    obtain ⟨ha, hb, hc⟩ := digits_zero (Nat.mod_lt _ (by decide)) (Nat.mod_lt _ (by decide))
      (Nat.mod_lt _ (by decide)) hdiff
    rw [ha, hb, hc] at hpacked
    clear hdigits hdiff ha hb hc
    omega
  · intro hsmall
    have ha : n / 1000 = 0 := by omega
    have hb : n / 100 = 0 := by omega
    have hc : n / 10 = 0 := by omega
    rw [ha, hb, hc]
    omega

theorem ValuePoint.single_iff (h : ValuePoint m) (w : UInt16) :
    intWords m.dataType m.byteOrder w.toNat = [w] ↔ SingleKept m.dataType w := by
  have hw := w.toNat_lt
  have hmod : (w.toNat : Int) % 2 ^ 16 = w.toNat := Int.emod_eq_of_lt (by omega) (by omega)
  have hlow : lowBits 16 w.toNat = w.toNat := by
    unfold lowBits
    rw [hmod, Int.toNat_natCast]
  have hkind := h.kind
  unfold SingleKept
  simp only [wordTypes, List.mem_cons, List.not_mem_nil, or_false] at hkind
  rcases hkind with (ht | ht | ht | ht) | ht <;> rw [ht] <;>
    simp only [intWords, hlow, UInt16.ofNat_toNat, reduceCtorEq, false_or, false_and, or_false,
      true_and, iff_false]
  · intro hone
    have hlength := congrArg List.length hone
    rw [reorder_length, splitWords_length] at hlength
    cases hlength
  · intro hone
    have hlength := congrArg List.length hone
    rw [reorder_length, splitWords_length] at hlength
    cases hlength
  · rw [List.singleton_inj, bcdWord_self_iff]

theorem writeOf_inj {words words' : List UInt16} : writeOf m words = writeOf m words' ↔
    words = words' :=
  ⟨fun h => congrArg ModbusWrite.words h, fun h => by rw [h]⟩

/-- What is sent for a number, when its own words are the request's just if `kept`. -/
theorem ValuePoint.passes_iff (h : ValuePoint m) (hn : -2 ^ 63 ≤ n ∧ n < 2 ^ 63) {kept : Prop}
    (hkept : intWords m.dataType m.byteOrder n = words ↔ kept) {e : AmmMappingEntry}
    (hfind : ammFindMappingByPoint m.deviceId.str m.pointId.str s.table = some e) :
    writeOf e (encodeValue s.control (engineeringOf (.fin n) m) e) = writeOf m words ↔
      Passes s m n words kept := by
  have hpasses : Passes s m n words kept ↔ if e = m then kept
      else writeOf e (encodeValue s.control (engineeringOf (.fin n) m) e) = writeOf m words :=
    ⟨fun hp => hp e hfind, fun hp e' hfind' => by
      obtain rfl := Option.some.inj (hfind.symm.trans hfind')
      exact hp⟩
  rw [hpasses]
  by_cases heq : e = m
  · rw [if_pos heq, heq, writeOf_inj, h.encode hn, hkept]
  · rw [if_neg heq]

/-! ## The control service -/

variable {sent : List ModbusWrite}

theorem checkWrite_point (h : ValuePoint m) {e : AmmMappingEntry} {ws : List UInt16} :
    checkWrite s.control s.table m.deviceId.str m.pointId.str (engineeringOf (.fin n) m) .restApi =
        .ok (e, ws) ↔
      ammFindMappingByPoint m.deviceId.str m.pointId.str s.table = some e ∧
        e.constraint.writable = true ∧
        outOfRange (engineeringOf (.fin n) m) e.constraint = false ∧ e.dataType ≠ .bitfield16 ∧
        e.dataType ≠ .ascii ∧ ws = encodeValue s.control (engineeringOf (.fin n) m) e := by
  obtain ⟨q, heq, -⟩ := h.engineering n
  rw [checkWrite_ok, heq, ne_eq, encodeValue_eq_nil_iff, not_or]
  constructor
  · rintro ⟨-, -, hfind, hwritable, hrange, ⟨hbits, hascii⟩, hws⟩
    exact ⟨hfind, hwritable, hrange, hbits, hascii, hws⟩
  · rintro ⟨hfind, hwritable, hrange, hbits, hascii, hws⟩
    exact ⟨rfl, rfl, hfind, hwritable, hrange, ⟨hbits, hascii⟩, hws⟩

theorem servicePoint_takes (h : ValuePoint m) :
    (servicePoint s m (.fin n) sent).1 = true ↔ Takes s m n sent.length := by
  have hstatus : (servicePoint s m (.fin n) sent).1 = true ↔
      (controlServiceWritePoint s.control s.table m.deviceId.str m.pointId.str
        (engineeringOf (.fin n) m) .restApi (s.answers sent.length)).1.status = .ok :=
    decide_eq_true_iff
  rw [hstatus]
  unfold controlServiceWritePoint Takes
  cases hcheck : checkWrite s.control s.table m.deviceId.str m.pointId.str
      (engineeringOf (.fin n) m) .restApi with
  | error r =>
    refine iff_of_false (checkWrite_error hcheck) ?_
    rintro ⟨e, hfind, hwritable, hrange, hbits, hascii, -⟩
    rw [(checkWrite_point h).2 ⟨hfind, hwritable, hrange, hbits, hascii, rfl⟩] at hcheck
    cases hcheck
  | ok found =>
    obtain ⟨e, ws⟩ := found
    obtain ⟨hfind, hwritable, hrange, hbits, hascii, -⟩ := (checkWrite_point h).1 hcheck
    dsimp only
    split
    · rename_i hanswer
      refine iff_of_false hanswer ?_
      rintro ⟨-, -, -, -, -, -, hok⟩
      exact hanswer hok
    · rename_i hanswer
      exact iff_of_true rfl ⟨e, hfind, hwritable, hrange, hbits, hascii, not_not.1 hanswer⟩

theorem servicePoint_sent (h : ValuePoint m) {e : AmmMappingEntry}
    (haccepted : (servicePoint s m (.fin n) sent).1 = true)
    (hfind : ammFindMappingByPoint m.deviceId.str m.pointId.str s.table = some e) :
    (servicePoint s m (.fin n) sent).2 =
      sent ++ [writeOf e (encodeValue s.control (engineeringOf (.fin n) m) e)] := by
  obtain ⟨e', hfind', hwritable, hrange, hbits, hascii, -⟩ := (servicePoint_takes h).1 haccepted
  obtain rfl := Option.some.inj (hfind.symm.trans hfind')
  have hcheck := (checkWrite_point h).2 ⟨hfind, hwritable, hrange, hbits, hascii, rfl⟩
  have hsent : (controlServiceWritePoint s.control s.table m.deviceId.str m.pointId.str
      (engineeringOf (.fin n) m) .restApi (s.answers sent.length)).2 =
        some (writeOf e (encodeValue s.control (engineeringOf (.fin n) m) e)) :=
    controlServiceWritePoint_sent.2 ⟨e, _, hcheck, rfl⟩
  have hpoint : (servicePoint s m (.fin n) sent).2 =
      sent ++ (controlServiceWritePoint s.control s.table m.deviceId.str m.pointId.str
        (engineeringOf (.fin n) m) .restApi (s.answers sent.length)).2.toList := rfl
  rw [hpoint, hsent]
  rfl

end Values

/-! ## Requests of several points -/

section Plans

variable {s : TcpServer} {unit : UInt8} {address : UInt16} {m : AmmMappingEntry}

/-- A point with its words and the number they stand for. -/
structure NumberedPoint (p : PlannedWrite) : Prop where
  point : ValuePoint p.mapping
  size : p.words.length = modbusRegisterCountForType p.mapping.dataType
  raw : p.raw = .fin p.number

theorem writtenCount_value (h : ValuePoint m) :
    writtenCount m = modbusRegisterCountForType m.dataType := by
  unfold writtenCount
  rw [if_neg]
  intro hascii
  have hint := h.integer
  rw [hascii] at hint
  cases hint

/-- The registers behind those of the type do not matter. -/
theorem wordValue_take (t : DataType) (order : ByteOrder) (words : List UInt16) :
    wordValue t order (words.take (modbusRegisterCountForType t)) = wordValue t order words := by
  unfold wordValue orderedBits
  simp only [List.take_take, min_self]

theorem registersPlan_numbered {values : List UInt16} {index skip : Nat} {p : PlannedWrite}
    (hp : p ∈ (registersPlan s unit address values index skip).points)
    (hpoint : ValuePoint p.mapping) : NumberedPoint p := by
  induction values generalizing index skip with
  | nil => cases hp
  | cons value values ih =>
    cases skip with
    | succ skip => exact ih hp
    | zero =>
      rw [registersPlan] at hp
      split at hp
      · cases hp
      · rename_i m wordIndex hfind
        split at hp
        · cases hp
        · split at hp
          · cases hp
          · rename_i hsize
            rcases List.mem_cons.1 hp with rfl | hp
            · have hcount := writtenCount_value hpoint
              dsimp only at hpoint hcount
              refine ⟨hpoint, ?_, ?_⟩
              · show ((value :: values).take (writtenCount m)).length = _
                rw [List.length_take, List.length_cons, ← hcount]
                omega
              · show modbusConvertToNumber _ _ _ _ = CFloat.fin (wordValue _ _ _)
                rw [convert_words hpoint.integer, hcount, wordValue_take]
            · exact ih hp

theorem registersPlan_words (values : List UInt16) (index skip : Nat)
    (h : (registersPlan s unit address values index skip).exception = 0) :
    (registersPlan s unit address values index skip).points.flatMap PlannedWrite.words =
      values.drop skip := by
  induction values generalizing index skip with
  | nil => cases skip <;> rfl
  | cons value values ih =>
    cases skip with
    | succ skip => exact ih _ _ h
    | zero =>
      rw [registersPlan] at h ⊢
      split at h
      · cases h
      · rename_i m wordIndex hfind
        split at h
        · cases h
        · rename_i hgood
          rw [if_neg hgood]
          split at h
          · cases h
          · rename_i hsize
            rw [if_neg hsize]
            have hpos : 0 < writtenCount m := by omega
            obtain ⟨k, hk⟩ := Nat.exists_eq_succ_of_ne_zero hpos.ne'
            show List.flatMap PlannedWrite.words (_ :: _) = value :: values
            rw [List.flatMap_cons, ih _ _ h, hk, Nat.succ_sub_one, List.take_succ_cons,
              List.cons_append, List.take_append_drop]

theorem registersPlan_single {offset : UInt16} (hpoint : ValuePoint m)
    (hfind : findMapping unit 3 offset s.table = some (m, 0))
    (hwritable : m.constraint.writable = true) (w : UInt16)
    (hone : modbusRegisterCountForType m.dataType = 1) :
    registersPlan s unit offset [w] 0 0 =
      ⟨[⟨m, [w], .fin (wordValue m.dataType m.byteOrder [w])⟩], 0⟩ := by
  have hcount : writtenCount m = 1 := (writtenCount_value hpoint).trans hone
  have hascii : m.dataType ≠ .ascii := by
    intro hascii
    have hint := hpoint.integer
    rw [hascii] at hint
    cases hint
  have haddress : offset + UInt16.ofNat 0 = offset := UInt16.add_zero offset
  rw [registersPlan, haddress, hfind]
  dsimp only
  rw [if_neg (by simp [hwritable]), hcount, convert_words hpoint.integer,
    if_neg (by simp [hascii])]
  rfl

def actualWrite (s : TcpServer) (p : PlannedWrite) : ModbusWrite :=
  match ammFindMappingByPoint p.mapping.deviceId.str p.mapping.pointId.str s.table with
  | some e => writeOf e (encodeValue s.control (engineeringOf (.fin p.number) p.mapping) e)
  | none => writeOf p.mapping p.words

theorem actualWrite_eq {p : PlannedWrite} {e : AmmMappingEntry}
    (hfind : ammFindMappingByPoint p.mapping.deviceId.str p.mapping.pointId.str s.table =
      some e) : actualWrite s p =
        writeOf e (encodeValue s.control (engineeringOf (.fin p.number) p.mapping) e) := by
  unfold actualWrite
  rw [hfind]

theorem sendPoints_sent {points : List PlannedWrite} {sent : List ModbusWrite}
    (hpoints : ∀ p ∈ points, NumberedPoint p)
    (haccepted : (sendPoints s points sent).1 = true) :
    (sendPoints s points sent).2 = sent ++ points.map (actualWrite s) := by
  induction points generalizing sent with
  | nil => exact (List.append_nil sent).symm
  | cons p points ih =>
    have hp := hpoints p List.mem_cons_self
    rw [sendPoints] at haccepted ⊢
    dsimp only at haccepted ⊢
    split at haccepted
    · rename_i hfirst
      rw [hp.raw] at hfirst
      obtain ⟨e, hfind, -⟩ := (servicePoint_takes hp.point).1 hfirst
      have hsent := servicePoint_sent hp.point hfirst hfind
      rw [hp.raw] at haccepted
      rw [hp.raw, if_pos hfirst, ih (fun q hq => hpoints q (List.mem_cons_of_mem p hq)) haccepted,
        hsent, ← actualWrite_eq hfind, List.append_assoc]
      rfl
    · cases haccepted

theorem sendPoints_takes {points : List PlannedWrite} (hpoints : ∀ p ∈ points, NumberedPoint p) :
    (sendPoints s points []).1 = true ↔
      ∀ i p, points[i]? = some p → Takes s p.mapping p.number i := by
  rw [sendPoints_accepted]
  refine forall_congr' fun i => forall_congr' fun p => forall_congr' fun hp => ?_
  have hnumbered := hpoints p (List.mem_of_getElem? hp)
  have hlength : (List.replicate i (writeOf p.mapping [])).length = i := List.length_replicate
  rw [List.length_nil, Nat.zero_add, ← hlength, ← servicePoint_takes hnumbered.point,
    ← servicePoint_accepted, hnumbered.raw]

theorem actualWrites_iff {points : List PlannedWrite} (hpoints : ∀ p ∈ points, NumberedPoint p)
    (hvalid : ∀ p ∈ points, ValidWords p.mapping p.words)
    (htakes : ∀ i p, points[i]? = some p → Takes s p.mapping p.number i) :
    points.map (actualWrite s) = points.map (fun p => writeOf p.mapping p.words) ↔
      ∀ p ∈ points, Passes s p.mapping p.number p.words
        (WordsKept p.mapping.dataType p.mapping.byteOrder p.words) := by
  rw [List.map_inj_left]
  refine forall_congr' fun p => forall_congr' fun hp => ?_
  have hnumbered := hpoints p hp
  obtain ⟨i, hi⟩ := List.mem_iff_getElem?.1 hp
  obtain ⟨e, hfind, -⟩ := htakes i p hi
  rw [actualWrite_eq hfind]
  exact hnumbered.point.passes_iff (hnumbered.point.number_small p.words)
    (intWords_wordValue_iff hnumbered.point.kind (hvalid p hp) hnumbered.size) hfind

/-! ## Transparent writes -/

theorem writeSingle_register {offset : UInt16}
    (hfind : findMapping unit 3 offset s.table = some (m, 0))
    (hwritable : m.constraint.writable = true) (w : UInt16) :
    writeSingle s unit 6 offset w [] =
      (if (servicePoint s m (.fin ((w.toNat : Int) : ℚ)) []).1 then 0 else 4,
        (servicePoint s m (.fin ((w.toNat : Int) : ℚ)) []).2) := by
  have hcode : (if (6 : UInt8) = 5 then 1 else 3 : UInt8) = 3 := if_neg (by decide)
  have hraw : singleRaw 6 w = .fin ((w.toNat : Int) : ℚ) := by
    unfold singleRaw
    rw [if_neg (by decide), Int.cast_natCast]
  rw [← hcode] at hfind
  rw [writeSingle_point hfind (by simp [hwritable]), hraw]

theorem writeSingle_takes (hpoint : ValuePoint m) {offset : UInt16}
    (hfind : findMapping unit 3 offset s.table = some (m, 0))
    (hwritable : m.constraint.writable = true) (w : UInt16) :
    (writeSingle s unit 6 offset w []).1 = 0 ↔ Takes s m w.toNat 0 := by
  have htakes := @servicePoint_takes s m w.toNat [] hpoint
  rw [List.length_nil] at htakes
  rw [writeSingle_register hfind hwritable, ← htakes]
  cases (servicePoint s m (.fin ((w.toNat : Int) : ℚ)) []).1 with
  | false => simp
  | true => simp

theorem single_write_iff {offset w : UInt16} (hpoint : ValuePoint m)
    (hfind : findMapping unit 3 offset s.table = some (m, 0))
    (hwritable : m.constraint.writable = true) :
    ((writeSingle s unit 6 offset w []).1 = 0 →
        (writeSingle s unit 6 offset w []).2 = [writeOf m [w]]) ↔
      (Takes s m w.toNat 0 → Passes s m w.toNat [w] (SingleKept m.dataType w)) := by
  have hw := w.toNat_lt
  rw [writeSingle_takes hpoint hfind hwritable, writeSingle_register hfind hwritable]
  refine imp_congr_right fun htakes => ?_
  have haccepted := (@servicePoint_takes s m w.toNat [] hpoint).2 htakes
  obtain ⟨e, hfind', -⟩ := htakes
  have hpasses := hpoint.passes_iff (s := s) (n := w.toNat) (by omega) (hpoint.single_iff w) hfind'
  rw [servicePoint_sent hpoint haccepted hfind', List.nil_append, List.singleton_inj, hpasses]

theorem writeMultipleRegisters_eq {quantity : UInt16} {bytes : List UInt8} {values : List UInt16}
    (hvalues : registerValues quantity bytes = some values) :
    writeMultipleRegisters s unit address quantity bytes =
      some (sendPlan s (registersPlan s unit address values 0 0) []) := by
  unfold writeMultipleRegisters
  rw [hvalues, Option.map_some, writeRegistersLoop_plan]

theorem sendPlan_success {plan : WritePlan} :
    (sendPlan s plan []).1 = 0 ↔ (sendPoints s plan.points []).1 = true ∧ plan.exception = 0 := by
  unfold sendPlan
  dsimp only
  cases (sendPoints s plan.points []).1 with
  | false => simp
  | true => simp

/-- A successful request of several registers sends its words, point by point. -/
theorem multiple_write_iff {quantity : UInt16} {bytes : List UInt8} {values : List UInt16}
    (hvalues : registerValues quantity bytes = some values)
    (hpoints : ∀ p ∈ (registersPlan s unit address values 0 0).points,
      ValuePoint p.mapping ∧ ValidWords p.mapping p.words) :
    (∀ sent, writeMultipleRegisters s unit address quantity bytes = some (0, sent) →
        sent = (registersPlan s unit address values 0 0).points.map
            (fun p => writeOf p.mapping p.words) ∧
          (registersPlan s unit address values 0 0).points.flatMap PlannedWrite.words = values) ↔
      ((registersPlan s unit address values 0 0).exception = 0 →
        (∀ i p, (registersPlan s unit address values 0 0).points[i]? = some p →
          Takes s p.mapping p.number i) →
        ∀ p ∈ (registersPlan s unit address values 0 0).points,
          Passes s p.mapping p.number p.words
            (WordsKept p.mapping.dataType p.mapping.byteOrder p.words)) := by
  have hnumbered : ∀ p ∈ (registersPlan s unit address values 0 0).points, NumberedPoint p :=
    fun p hp => registersPlan_numbered hp (hpoints p hp).1
  have hvalid : ∀ p ∈ (registersPlan s unit address values 0 0).points,
      ValidWords p.mapping p.words := fun p hp => (hpoints p hp).2
  have hwords := @registersPlan_words s unit address values 0 0
  rw [writeMultipleRegisters_eq hvalues]
  generalize registersPlan s unit address values 0 0 = plan at *
  have hsuccess := @sendPlan_success s plan
  rw [sendPoints_takes hnumbered] at hsuccess
  constructor
  · intro h hexception htakes
    have hzero := hsuccess.2 ⟨htakes, hexception⟩
    obtain ⟨hsent, -⟩ := h (sendPlan s plan []).2 (congrArg some (Prod.ext hzero rfl))
    have hactual : (sendPlan s plan []).2 = plan.points.map (actualWrite s) :=
      sendPoints_sent hnumbered ((sendPoints_takes hnumbered).2 htakes)
    rw [hactual] at hsent
    exact (actualWrites_iff hnumbered hvalid htakes).1 hsent
  · intro h sent heq
    obtain ⟨hzero, rfl⟩ : (sendPlan s plan []).1 = 0 ∧ (sendPlan s plan []).2 = sent :=
      ⟨congrArg Prod.fst (Option.some.inj heq), congrArg Prod.snd (Option.some.inj heq)⟩
    obtain ⟨htakes, hexception⟩ := hsuccess.1 hzero
    have hactual : (sendPlan s plan []).2 = plan.points.map (actualWrite s) :=
      sendPoints_sent hnumbered ((sendPoints_takes hnumbered).2 htakes)
    rw [hactual]
    exact ⟨(actualWrites_iff hnumbered hvalid htakes).2 (h hexception htakes), hwords hexception⟩

/-- Both numbers of a word are in the range, or neither, if nothing else stands in the
way of the write. -/
def RangeAlike (s : TcpServer) (m : AmmMappingEntry) (w : UInt16) : Prop :=
  ∀ e, ammFindMappingByPoint m.deviceId.str m.pointId.str s.table = some e →
    e.constraint.writable = true → e.dataType ≠ .bitfield16 → e.dataType ≠ .ascii →
    s.answers 0 = .ok →
      outOfRange (engineeringOf (.fin (w.toNat : Int)) m) e.constraint =
        outOfRange (engineeringOf (.fin (wordValue m.dataType m.byteOrder [w])) m) e.constraint

theorem takes_alike_iff {n k : Int} : (Takes s m n 0 ↔ Takes s m k 0) ↔
    ∀ e, ammFindMappingByPoint m.deviceId.str m.pointId.str s.table = some e →
      e.constraint.writable = true → e.dataType ≠ .bitfield16 → e.dataType ≠ .ascii →
      s.answers 0 = .ok →
        outOfRange (engineeringOf (.fin n) m) e.constraint =
          outOfRange (engineeringOf (.fin k) m) e.constraint := by
  unfold Takes
  cases hfind : ammFindMappingByPoint m.deviceId.str m.pointId.str s.table with
  | none => simp
  | some e =>
    simp only [Option.some.injEq, exists_eq_left', forall_eq']
    constructor
    · intro h hwritable hbits hascii hok
      have hboth : outOfRange (engineeringOf (.fin n) m) e.constraint = false ↔
          outOfRange (engineeringOf (.fin k) m) e.constraint = false := by
        simpa only [hwritable, hbits, hascii, hok, ne_eq, not_false_eq_true, true_and,
          and_true] using h
      exact Bool.eq_iff_iff.2 (by simpa using not_congr hboth)
    · intro h
      constructor
      · rintro ⟨hwritable, hrange, hbits, hascii, hok⟩
        exact ⟨hwritable, (h hwritable hbits hascii hok) ▸ hrange, hbits, hascii, hok⟩
      · rintro ⟨hwritable, hrange, hbits, hascii, hok⟩
        exact ⟨hwritable, (h hwritable hbits hascii hok).symm ▸ hrange, hbits, hascii, hok⟩

theorem registerValues_one (w : UInt16) : registerValues 1 (wordBytes [w]) = some [w] := by
  refine mapM_eq_some_iff.2 ?_
  show [wordAt (wordBytes [w]) 0] = [some w]
  rw [wordAt_wordBytes]
  rfl

theorem accepted_alike_iff {offset : UInt16} (hpoint : ValuePoint m)
    (hfind : findMapping unit 3 offset s.table = some (m, 0))
    (hwritable : m.constraint.writable = true)
    (hone : modbusRegisterCountForType m.dataType = 1) (w : UInt16) :
    ((writeSingle s unit 6 offset w []).1 = 0 ↔
        ∃ sent, writeMultipleRegisters s unit offset 1 (wordBytes [w]) = some (0, sent)) ↔
      RangeAlike s m w := by
  have hmultiple : (∃ sent, writeMultipleRegisters s unit offset 1 (wordBytes [w]) =
      some (0, sent)) ↔ Takes s m (wordValue m.dataType m.byteOrder [w]) 0 := by
    rw [writeMultipleRegisters_eq (registerValues_one w),
      registersPlan_single hpoint hfind hwritable w hone]
    have hnumbered : ∀ p ∈ [(⟨m, [w], .fin (wordValue m.dataType m.byteOrder [w])⟩ :
        PlannedWrite)], NumberedPoint p := by
      intro p hp
      rw [List.mem_singleton.1 hp]
      exact ⟨hpoint, hone.symm, rfl⟩
    constructor
    · rintro ⟨sent, heq⟩
      have hzero := congrArg Prod.fst (Option.some.inj heq)
      obtain ⟨haccepted, -⟩ := sendPlan_success.1 hzero
      exact (sendPoints_takes hnumbered).1 haccepted 0 _ rfl
    · intro htakes
      have hzero : (sendPlan s ⟨[⟨m, [w], .fin (wordValue m.dataType m.byteOrder [w])⟩], 0⟩
          []).1 = 0 := by
        refine sendPlan_success.2 ⟨(sendPoints_takes hnumbered).2 fun i p hp => ?_, rfl⟩
        cases i with
        | zero =>
          obtain rfl := Option.some.inj hp
          exact htakes
        | succ i => cases hp
      exact ⟨_, congrArg some (Prod.ext hzero rfl)⟩
  rw [writeSingle_takes hpoint hfind hwritable, hmultiple]
  exact takes_alike_iff

end Plans

/-- **Transparent writes.** For the holding registers of integer types of up to two
registers: when a single write that succeeds sends its word; when a request for
several registers that succeeds sends its words, point by point; and when both are
accepted alike. -/
theorem transparent_writes_iff (s : TcpServer) (unit : UInt8) :
    (∀ offset m w, findMapping unit 3 offset s.table = some (m, 0) →
      m.constraint.writable = true → ValuePoint m →
      (((writeSingle s unit 6 offset w []).1 = 0 →
          (writeSingle s unit 6 offset w []).2 = [writeOf m [w]]) ↔
        (Takes s m w.toNat 0 → Passes s m w.toNat [w] (SingleKept m.dataType w)))) ∧
    (∀ address quantity bytes values, registerValues quantity bytes = some values →
      (∀ p ∈ (registersPlan s unit address values 0 0).points,
        ValuePoint p.mapping ∧ ValidWords p.mapping p.words) →
      ((∀ sent, writeMultipleRegisters s unit address quantity bytes = some (0, sent) →
          sent = (registersPlan s unit address values 0 0).points.map
              (fun p => writeOf p.mapping p.words) ∧
            (registersPlan s unit address values 0 0).points.flatMap PlannedWrite.words =
              values) ↔
        ((registersPlan s unit address values 0 0).exception = 0 →
          (∀ i p, (registersPlan s unit address values 0 0).points[i]? = some p →
            Takes s p.mapping p.number i) →
          ∀ p ∈ (registersPlan s unit address values 0 0).points,
            Passes s p.mapping p.number p.words
              (WordsKept p.mapping.dataType p.mapping.byteOrder p.words)))) ∧
    (∀ offset m w, findMapping unit 3 offset s.table = some (m, 0) →
      m.constraint.writable = true → ValuePoint m → modbusRegisterCountForType m.dataType = 1 →
      (((writeSingle s unit 6 offset w []).1 = 0 ↔
          ∃ sent, writeMultipleRegisters s unit offset 1 (wordBytes [w]) = some (0, sent)) ↔
        RangeAlike s m w)) :=
  ⟨fun _ _ _ hfind hwritable hpoint => single_write_iff hpoint hfind hwritable,
    fun _ _ _ _ hvalues hpoints => multiple_write_iff hvalues hpoints,
    fun _ _ w hfind hwritable hpoint hone => accepted_alike_iff hpoint hfind hwritable hone w⟩

/-! ## Writes that are changed on the way -/

def valueSetpoint (t : DataType) (order : ByteOrder) : AmmMappingEntry :=
  { wideSetpoint with
    dataType := t
    byteOrder := order
    constraint := { writable := true, validRangeMin := .fin (-100), validRangeMax := .fin 30000 } }

def valueServer (t : DataType) (order : ByteOrder) : TcpServer :=
  { setpointServer with table := (ammAddMapping .ok (valueSetpoint t order) (.empty 1000)).2 }

/-- The packed number 10 is sent as the packed number 16 by a single write; a word is
sent with its bytes exchanged by a request for one register; and -1 is accepted by
the latter only. -/
theorem writes_changed :
    writeSingle (valueServer .bcd16 .abcd) 5 6 0 0x10 [] =
        (0, [⟨.modbusRtu, 0, 5, 6, 0, [0x16]⟩]) ∧
      writeMultipleRegisters (valueServer .uint16 .badc) 5 0 1 [0x12, 0x34] =
        some (0, [⟨.modbusRtu, 0, 5, 6, 0, [0x3412]⟩]) ∧
      writeSingle (valueServer .int16 .abcd) 5 6 0 0xFFFF [] = (4, []) ∧
      writeMultipleRegisters (valueServer .int16 .abcd) 5 0 1 [0xFF, 0xFF] =
        some (0, [⟨.modbusRtu, 0, 5, 6, 0, [0xFFFF]⟩]) := by
  decide +kernel

end McpGateway.Modbus
