import McpGateway.Modbus.TcpServer

/-!
# Register addresses of the server

`find_mapping` looks an offset up twice: among the configured addresses as it
is, and translated to a logical address. An entry may be configured either way,
and the poller uses `modbus_register_offset`. `addressing_faithful_iff` says for
which tables the server serves every register at the address the poller reads it
from.
-/

namespace McpGateway.Modbus

open McpGateway.Lib McpGateway.Tcm McpGateway.Amm McpGateway.Services

def protocolStart (e : AmmMappingEntry) : UInt16 :=
  modbusRegisterOffset e.functionCode e.registerAddress

/-- The protocol registers of two entries, if they can be told apart at all. -/
def apart (e e' : AmmMappingEntry) : Bool :=
  !e.active || !e'.active || decide (e.slaveId ≠ e'.slaveId) ||
    decide (e.functionCode ≠ e'.functionCode) ||
    decide ((protocolStart e).toNat + (coveredCount e).toNat ≤ (protocolStart e').toNat) ||
    decide ((protocolStart e').toNat + (coveredCount e').toNat ≤ (protocolStart e).toNat)

/-- No two entries cover the same protocol register. -/
def NoSharedRegister (table : List AmmMappingEntry) : Prop :=
  table.Pairwise fun e e' => apart e e' = true

/-- What is read at offset `o` is word `o - start` of an active mapping of that
unit and function code whose registers contain `o`. -/
def Faithful (s : TcpServer) (unit functionCode : UInt8) (o : UInt16) : Prop :=
  ∀ e k w, readSource s unit functionCode o = some ((e, k), w) →
    e ∈ s.table.table ∧ e.active = true ∧ e.slaveId = unit ∧ e.functionCode = functionCode ∧
      (protocolStart e).toNat ≤ o.toNat ∧
      o.toNat < (protocolStart e).toNat + (coveredCount e).toNat ∧
      k.toNat = o.toNat - (protocolStart e).toNat

/-- Every offset is served faithfully, and no word at two offsets. -/
structure AddressingFaithful (s : TcpServer) (unit functionCode : UInt8) : Prop where
  served : ∀ o, Faithful s unit functionCode o
  distinct : ∀ o o' found w w', readSource s unit functionCode o = some (found, w) →
    readSource s unit functionCode o' = some (found, w') → o = o'

/-- The entry with data that an offset is found by is configured with its
protocol address; the one that only its logical address is found by is not. -/
def AddressedAsConfigured (s : TcpServer) (unit functionCode : UInt8) (o : UInt16) : Prop :=
  (∀ e k w, ammFindMappingCovering unit functionCode o s.table = some (e, k) →
    pointWord s functionCode e k = some w → protocolStart e = e.registerAddress) ∧
  (∀ e k w, ammFindMappingCovering unit functionCode o s.table = none →
    ammFindMappingCovering unit functionCode (logicalAddress functionCode o) s.table =
      some (e, k) →
    pointWord s functionCode e k = some w → protocolStart e ≠ e.registerAddress)

/-! ## Lookups -/

section Lookups

variable {s : TcpServer} {unit functionCode : UInt8} {o address : UInt16} {e : AmmMappingEntry}
  {k : UInt8} {w : UInt16} {a : AmmTable}

theorem covering_some (h : ammFindMappingCovering unit functionCode address a = some (e, k)) :
    (e ∈ a.table ∧ e.active = true ∧ e.slaveId = unit ∧ e.functionCode = functionCode) ∧
      e.registerAddress.toNat ≤ address.toNat ∧
      address.toNat < e.registerAddress.toNat + (coveredCount e).toNat ∧
      k.toNat = address.toNat - e.registerAddress.toNat := by
  obtain ⟨e', hfound, heq⟩ := Option.map_eq_some_iff.1 h
  obtain ⟨rfl, rfl⟩ := Prod.mk.inj heq
  obtain ⟨hmem, hactive⟩ := List.mem_filter.1 (List.mem_of_find?_eq_some hfound)
  have hcovers := List.find?_some hfound
  unfold covers at hcovers
  simp only [Bool.and_eq_true, decide_eq_true_eq] at hcovers
  obtain ⟨⟨⟨hslave, hcode⟩, hle⟩, hlt⟩ := hcovers
  have hcount := (coveredCount e').toNat_lt
  refine ⟨⟨hmem, hactive, hslave, hcode⟩, UInt16.le_iff_toNat_le.1 hle, hlt, ?_⟩
  rw [UInt16.toNat_toUInt8, UInt16.toNat_sub_of_le _ _ hle]
  rw [UInt16.le_iff_toNat_le] at hle
  omega

theorem readSource_some : readSource s unit functionCode o = some ((e, k), w) ↔
    (ammFindMappingCovering unit functionCode o s.table = some (e, k) ∨
      ammFindMappingCovering unit functionCode o s.table = none ∧
        ammFindMappingCovering unit functionCode (logicalAddress functionCode o) s.table =
          some (e, k)) ∧ pointWord s functionCode e k = some w := by
  have hfind : findMapping unit functionCode o s.table = some (e, k) ↔
      ammFindMappingCovering unit functionCode o s.table = some (e, k) ∨
        ammFindMappingCovering unit functionCode o s.table = none ∧
          ammFindMappingCovering unit functionCode (logicalAddress functionCode o) s.table =
            some (e, k) := by
    unfold findMapping
    cases ammFindMappingCovering unit functionCode o s.table with
    | none => simp
    | some found => simp
  rw [← hfind]
  unfold readSource
  cases findMapping unit functionCode o s.table with
  | none => simp
  | some found =>
    dsimp only
    rw [Option.map_eq_some_iff]
    constructor
    · rintro ⟨w', hword, heq⟩
      obtain ⟨rfl, rfl⟩ := Prod.mk.inj heq
      exact ⟨rfl, hword⟩
    · rintro ⟨heq, hword⟩
      obtain rfl := Option.some.inj heq
      exact ⟨w, hword, rfl⟩

/-- What `logicalAddress` adds for a function code that reads. -/
def logicalBase (functionCode : UInt8) : Nat :=
  if functionCode = 1 then 1
  else if functionCode = 2 then 10001
  else if functionCode = 3 then 40001
  else 30001

theorem logicalAddress_toNat (hcode : 1 ≤ functionCode ∧ functionCode ≤ 4) (o : UInt16) :
    (logicalAddress functionCode o).toNat = (o.toNat + logicalBase functionCode) % 65536 := by
  rcases readCode_cases hcode with rfl | rfl | rfl | rfl <;> exact UInt16.toNat_add _ _

theorem logicalBase_bounds (hcode : 1 ≤ functionCode ∧ functionCode ≤ 4) :
    0 < logicalBase functionCode ∧ logicalBase functionCode < 65536 := by
  rcases readCode_cases hcode with rfl | rfl | rfl | rfl <;> decide

/-- A configured address is the protocol address, or that address and the base. -/
theorem modbusRegisterOffset_cases (hcode : 1 ≤ functionCode ∧ functionCode ≤ 4)
    (address : UInt16) (hmoved : modbusRegisterOffset functionCode address ≠ address) :
    address.toNat = (modbusRegisterOffset functionCode address).toNat +
      logicalBase functionCode := by
  have hsub : ∀ base : UInt16, base ≤ address →
      address.toNat = (address - base).toNat + base.toNat := by
    intro base hle
    rw [UInt16.toNat_sub_of_le _ _ hle]
    rw [UInt16.le_iff_toNat_le] at hle
    omega
  unfold modbusRegisterOffset at hmoved ⊢
  split_ifs at hmoved ⊢ with hcoil hinput hholding hregister
  · obtain ⟨rfl, hle, -⟩ := hcoil
    exact hsub 1 hle
  · obtain ⟨rfl, hle, -⟩ := hinput
    exact hsub 10001 hle
  · obtain ⟨rfl | rfl | rfl, hle⟩ := hholding
    · exact hsub 40001 hle
    · exact absurd hcode.2 (by decide)
    · exact absurd hcode.2 (by decide)
  · obtain ⟨rfl, hle⟩ := hregister
    exact hsub 30001 hle
  · exact absurd rfl hmoved

/-! ## Faithful offsets -/

theorem faithful_raw (hfound : ammFindMappingCovering unit functionCode o s.table = some (e, k)) :
    ((protocolStart e).toNat ≤ o.toNat ∧
        o.toNat < (protocolStart e).toNat + (coveredCount e).toNat ∧
        k.toNat = o.toNat - (protocolStart e).toNat) ↔ protocolStart e = e.registerAddress := by
  obtain ⟨-, hle, hlt, hindex⟩ := covering_some hfound
  constructor
  · rintro ⟨hstart, -, hword⟩
    apply UInt16.toNat_inj.1
    omega
  · intro hsame
    rw [hsame]
    exact ⟨hle, hlt, hindex⟩

theorem faithful_logical (hcode : 1 ≤ functionCode ∧ functionCode ≤ 4)
    (hfound : ammFindMappingCovering unit functionCode (logicalAddress functionCode o) s.table =
      some (e, k)) :
    ((protocolStart e).toNat ≤ o.toNat ∧
        o.toNat < (protocolStart e).toNat + (coveredCount e).toNat ∧
        k.toNat = o.toNat - (protocolStart e).toNat) ↔ protocolStart e ≠ e.registerAddress := by
  obtain ⟨⟨-, -, -, hentry⟩, hle, hlt, hindex⟩ := covering_some hfound
  have ho := o.toNat_lt
  have hbase := logicalBase_bounds hcode
  rw [logicalAddress_toNat hcode] at hle hlt hindex
  constructor
  · rintro ⟨hstart, -, hword⟩ hsame
    rw [hsame] at hstart hword
    omega
  · intro hmoved
    unfold protocolStart at hmoved ⊢
    rw [hentry] at hmoved ⊢
    have haddress := modbusRegisterOffset_cases hcode e.registerAddress hmoved
    omega

theorem faithful_iff (hcode : 1 ≤ functionCode ∧ functionCode ≤ 4) (o : UInt16) :
    Faithful s unit functionCode o ↔ AddressedAsConfigured s unit functionCode o := by
  constructor
  · intro hfaithful
    refine ⟨fun e k w hfound hword => ?_, fun e k w hnone hfound hword => ?_⟩
    · obtain ⟨-, -, -, -, hplace⟩ := hfaithful e k w (readSource_some.2 ⟨.inl hfound, hword⟩)
      exact (faithful_raw hfound).1 hplace
    · obtain ⟨-, -, -, -, hplace⟩ :=
        hfaithful e k w (readSource_some.2 ⟨.inr ⟨hnone, hfound⟩, hword⟩)
      exact (faithful_logical hcode hfound).1 hplace
  · rintro ⟨hraw, hlogical⟩ e k w hsource
    obtain ⟨hfound | ⟨hnone, hfound⟩, hword⟩ := readSource_some.1 hsource
    · obtain ⟨⟨hmem, hactive, hslave, hentry⟩, -⟩ := covering_some hfound
      exact ⟨hmem, hactive, hslave, hentry, (faithful_raw hfound).2 (hraw e k w hfound hword)⟩
    · obtain ⟨⟨hmem, hactive, hslave, hentry⟩, -⟩ := covering_some hfound
      exact ⟨hmem, hactive, hslave, hentry,
        (faithful_logical hcode hfound).2 (hlogical e k w hnone hfound hword)⟩

theorem faithful_distinct (hfaithful : ∀ o, Faithful s unit functionCode o) {o o' : UInt16}
    {found : AmmMappingEntry × UInt8} {w w' : UInt16}
    (h : readSource s unit functionCode o = some (found, w))
    (h' : readSource s unit functionCode o' = some (found, w')) : o = o' := by
  obtain ⟨-, -, -, -, hle, -, hindex⟩ := hfaithful o found.1 found.2 w h
  obtain ⟨-, -, -, -, hle', -, hindex'⟩ := hfaithful o' found.1 found.2 w' h'
  apply UInt16.toNat_inj.1
  omega

theorem processPdu_one (hcode : 1 ≤ functionCode ∧ functionCode ≤ 4) (o : UInt16) :
    processPdu s unit [functionCode, highByte o, lowByte o, 0, 1] =
      (readSource s unit functionCode o).elim (some (exceptionResponse functionCode 2, []))
        fun source => some (readResponse functionCode 1 [source.2], []) := by
  have hwords : readWords s unit functionCode o 1 =
      (readSource s unit functionCode o).map fun source => [source.2] := by
    have hzero : o + UInt16.ofNat 0 = o := UInt16.add_zero o
    show [0].mapM (fun i => readWord s unit functionCode (o + UInt16.ofNat i)) = _
    rw [List.mapM_cons, List.mapM_nil, hzero]
    unfold readWord
    cases readSource s unit functionCode o <;> rfl
  have hquantity : ¬ (beWord 0 1 = 0 ∨ (if functionCode ≤ 2 then 2000 else 125) < beWord 0 1) := by
    split <;> decide
  rw [processPdu_read s unit _ _ 0 1 hcode [], if_neg hquantity, beWord_bytes]
  show (readWords s unit functionCode o 1).elim _ _ = _
  rw [hwords]
  cases readSource s unit functionCode o <;> rfl

/-- **Faithful addressing.** A read of one register returns the word that
`readSource` finds. These words are those of the registers that the poller reads,
each at one offset only, exactly if every offset with data is found by an entry
configured the way it was looked up. -/
theorem addressing_faithful_iff (s : TcpServer) (unit functionCode : UInt8)
    (hcode : 1 ≤ functionCode ∧ functionCode ≤ 4) :
    (∀ o, processPdu s unit [functionCode, highByte o, lowByte o, 0, 1] =
      (readSource s unit functionCode o).elim (some (exceptionResponse functionCode 2, []))
        fun source => some (readResponse functionCode 1 [source.2], [])) ∧
    (AddressingFaithful s unit functionCode ↔
      ∀ o, AddressedAsConfigured s unit functionCode o) := by
  refine ⟨processPdu_one hcode, ?_⟩
  constructor
  · intro hfaithful o
    exact (faithful_iff hcode o).1 (hfaithful.served o)
  · intro hconfigured
    have hserved : ∀ o, Faithful s unit functionCode o :=
      fun o => (faithful_iff hcode o).2 (hconfigured o)
    exact ⟨hserved, fun o o' found w w' h h' => faithful_distinct hserved h h'⟩

def coilPoint (registerAddress : UInt16) (point : CStr) : AmmMappingEntry :=
  { AmmMappingEntry.zero with
    slaveId := 1
    functionCode := 1
    registerAddress := registerAddress
    dataType := .bool
    active := true
    deviceId := .copy 32 ['d']
    pointId := .copy 32 point }

def coilState (point : CStr) (value : CFloat) : TcmContext :=
  { TcmContext.zero with
    deviceId := .copy 32 ['d']
    pointId := .copy 32 point
    value := value
    qualityState := .good }

/-- The first two coils of a unit by their logical addresses; the first one is on. -/
def twoCoils : TcpServer where
  table := { AmmTable.empty 8 with table := [coilPoint 1 ['a'], coilPoint 2 ['b']] }
  pool := ⟨[coilState ['a'] (.fin 1), coilState ['b'] (.fin 0)], 8, by decide⟩
  control := ⟨false, fun _ => 0⟩
  answers := fun _ => .ok

/-- The second coil, at protocol address 1, is answered with the first one. -/
theorem second_coil_answered_by_first :
    NoSharedRegister twoCoils.table.table ∧
      processPdu twoCoils 1 [1, 0, 1, 0, 1] = some ([1, 1, 1], []) ∧
      ¬ AddressingFaithful twoCoils 1 1 := by
  have hreads : twoCoils.table.table.Pairwise (fun e e' => apart e e' = true) ∧
      processPdu twoCoils 1 [1, 0, 1, 0, 1] = some ([1, 1, 1], []) ∧
      readSource twoCoils 1 1 0 = some ((coilPoint 1 ['a'], 0), 1) ∧
        readSource twoCoils 1 1 1 = some ((coilPoint 1 ['a'], 0), 1) := by
    decide +kernel
  obtain ⟨hapart, hanswer, hfirst, hsecond⟩ := hreads
  refine ⟨hapart, hanswer, fun hfaithful => ?_⟩
  exact absurd (hfaithful.distinct 0 1 _ 1 1 hfirst hsecond) (by decide)

/-- The coils by protocol addresses, from the first one that is no logical address, and one
without data before them. -/
def threeCoils : TcpServer :=
  { twoCoils with
    table := { AmmTable.empty 8 with
      table := [coilPoint 10000 ['c'], coilPoint 10001 ['a'], coilPoint 10002 ['b']] } }

/-- A coil with data is at its protocol address, and one before it another coil is found. -/
theorem threeCoils_point {e : AmmMappingEntry} {k : UInt8} {w : UInt16}
    (he : e ∈ threeCoils.table.table) (hword : pointWord threeCoils 1 e k = some w) :
    protocolStart e = e.registerAddress ∧ coveredCount e = 1 ∧ 0 < e.registerAddress.toNat ∧
      ∀ o : UInt16, e.registerAddress.toNat = o.toNat + 1 →
        ammFindMappingCovering 1 1 o threeCoils.table ≠ none := by
  have hplace : ∀ (n : Nat) (o : UInt16), n < 65536 → n + 1 = o.toNat + 1 → o = UInt16.ofNat n :=
    fun n o hn h => UInt16.toNat_inj.1 (by rw [UInt16.toNat_ofNat_of_lt' hn]; omega)
  rcases List.mem_cons.1 he with rfl | he
  · cases hword
  · rcases List.mem_cons.1 he with rfl | he
    · refine ⟨by decide, by decide, by decide, fun o h => ?_⟩
      rw [hplace 10000 o (by decide) h]
      decide
    · rw [List.mem_singleton.1 he]
      refine ⟨by decide, by decide, by decide, fun o h => ?_⟩
      rw [hplace 10001 o (by decide) h]
      decide

theorem addressing_faithful_iff_coils :
    AddressingFaithful threeCoils 1 1 ∧
      processPdu threeCoils 1 [1, 39, 17, 0, 1] = some ([1, 1, 1], []) ∧
      processPdu threeCoils 1 [1, 39, 18, 0, 1] = some ([1, 1, 0], []) := by
  obtain ⟨hread, hfaithful⟩ := addressing_faithful_iff threeCoils 1 1 (by decide)
  refine ⟨hfaithful.2 fun o => ⟨fun e k w hfound hword => ?_, fun e k w hnone hfound hword => ?_⟩,
    (hread 10001).trans (by decide +kernel), (hread 10002).trans (by decide +kernel)⟩
  · obtain ⟨⟨he, -⟩, -⟩ := covering_some hfound
    exact (threeCoils_point he hword).1
  · -- the entry begins at the logical address, which is one more than the offset
    obtain ⟨⟨he, -⟩, hle, hlt, -⟩ := covering_some hfound
    obtain ⟨-, hcount, hpositive, hshadowed⟩ := threeCoils_point he hword
    rw [hcount] at hlt
    have hlogical : (logicalAddress 1 o).toNat = (o.toNat + 1) % 65536 := UInt16.toNat_add o 1
    have hone : (1 : UInt8).toNat = 1 := rfl
    have ho := o.toNat_lt
    exact absurd hnone (hshadowed o (by omega))

end Lookups

end McpGateway.Modbus
