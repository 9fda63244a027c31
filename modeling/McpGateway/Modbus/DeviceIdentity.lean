import McpGateway.Lib.Tagged
import McpGateway.Modbus.TcpWire

/-!
# Device identification

`modbus_read_device_identity_channel` walks the objects of a function 43 response with a
cursor. The slave chooses the number of objects and their lengths, and neither need fit
the response. `identity_response_safe` says what comes of any response.
-/

namespace McpGateway.Modbus

open McpGateway.Lib McpGateway.Tcm

/-- A `char[n]` that is zero somewhere, byte by byte. -/
structure CharArray (n : Nat) where
  bytes : List UInt8
  size : bytes.length = n
  terminated : 0 ∈ bytes
  deriving DecidableEq

namespace CharArray

variable {n : Nat}

def text (b : CharArray n) : List UInt8 := b.bytes.takeWhile (· ≠ 0)

def zero (n : Nat) (h : 0 < n) : CharArray n :=
  ⟨List.replicate n 0, List.length_replicate, List.mem_replicate.2 ⟨Nat.ne_of_gt h, rfl⟩⟩

/-- `memcpy(b, data, k)` and `b[k] = 0`; what lies behind stays. -/
def put (b : CharArray n) (data : List UInt8) (h : data.length < n) : CharArray n where
  bytes := data ++ 0 :: b.bytes.drop (data.length + 1)
  size := by
    rw [List.length_append, List.length_cons, List.length_drop, b.size]
    omega
  terminated := List.mem_append_right _ List.mem_cons_self

theorem pos (b : CharArray n) : 0 < n := b.size ▸ List.length_pos_of_mem b.terminated

end CharArray

/-- `modbus_device_identity_t`. -/
structure DeviceIdentity where
  vendorName : CharArray 48
  productCode : CharArray 48
  revision : CharArray 32
  deriving DecidableEq

/-- `memset(identity, 0, sizeof(*identity))`. -/
def DeviceIdentity.zero : DeviceIdentity where
  vendorName := .zero 48 (by decide)
  productCode := .zero 48 (by decide)
  revision := .zero 32 (by decide)

/-- The copy of an object's data into its buffer; `none` when bytes behind the response
are read. -/
def storeObject {n : Nat} (b : CharArray n) (response : List UInt8) (cursor : Nat)
    (length : UInt8) : Option (CharArray n) :=
  let copy := min length.toNat (n - 1)
  if cursor + copy ≤ response.length then
    some (b.put ((response.drop cursor).take copy) (by
      have hpos := b.pos
      rw [List.length_take]
      omega))
  else none

def DeviceIdentity.store (identity : DeviceIdentity) (response : List UInt8) (objectId : UInt8)
    (cursor : Nat) (length : UInt8) : Option DeviceIdentity :=
  if objectId = 0 then do
    let b ← storeObject identity.vendorName response cursor length
    some { identity with vendorName := b }
  else if objectId = 1 then do
    let b ← storeObject identity.productCode response cursor length
    some { identity with productCode := b }
  else if objectId = 2 then do
    let b ← storeObject identity.revision response cursor length
    some { identity with revision := b }
  else some identity

/-- One round of the loop, from an object's header on: the new cursor, or the error that
ends the walk; `none` when bytes behind the response are read. -/
def readObject (response : List UInt8) (cursor : Nat) (identity : DeviceIdentity) :
    Option (Except EspErr (Nat × DeviceIdentity)) := do
  let objectId ← response[cursor]?
  let length ← response[cursor + 1]?
  let cursor := cursor + 2
  if response.length < cursor + length.toNat then some (.error .invalidResponse)
  else do
    let identity ← identity.store response objectId cursor length
    some (.ok (cursor + length.toNat, identity))

/-- The loop, for at most `fuel` rounds; `none` when it has not ended by then. -/
def readObjects (response : List UInt8) (objectCount : UInt8) :
    Nat → UInt8 → Nat → DeviceIdentity → Option (EspErr × DeviceIdentity)
  | 0, _, _, _ => none
  | fuel + 1, i, cursor, identity =>
    if i < objectCount ∧ cursor + 2 ≤ response.length then do
      match ← readObject response cursor identity with
      | .error err => some (err, identity)
      | .ok (cursor, identity) => readObjects response objectCount fuel (i + 1) cursor identity
    else some (.ok, identity)

def readIdentity (response : List UInt8) : Option (EspErr × DeviceIdentity) :=
  if response.length < 8 then some (.invalidResponse, .zero)
  else do
    let functionCode ← response[0]?
    let meiType ← response[1]?
    if functionCode ≠ 43 ∨ meiType ≠ 14 then some (.invalidResponse, .zero)
    else do
      let objectCount ← response[7]?
      readObjects response objectCount 256 0 8 .zero

/-- `modbus_read_device_identity_channel`; `lock` is what `modbus_lock` returns. -/
def modbusReadDeviceIdentityChannel (protocol : SourceProtocol) (lock : EspErr)
    (peer : List UInt8 → Option (List UInt8)) (tid : UInt16) (slaveId : UInt8) :
    Option (EspErr × DeviceIdentity) :=
  if protocol ≠ .modbusTcp then some (.notSupported, .zero)
  else if lock ≠ .ok then some (lock, .zero)
  else
    match tcpExchange peer tid slaveId [43, 14, 1, 0] 253 with
    | .error err => some (err, .zero)
    | .ok response => readIdentity response

/-! ## The buffers -/

namespace CharArray

variable {n : Nat}

theorem text_zero (h : 0 < n) : (zero n h).text = [] := by
  obtain ⟨m, rfl⟩ := Nat.exists_eq_succ_of_ne_zero (Nat.ne_of_gt h)
  rfl

theorem text_put (b : CharArray n) {data : List UInt8} (h : data.length < n) :
    (b.put data h).text <+: data := by
  show (data ++ 0 :: b.bytes.drop (data.length + 1)).takeWhile (· ≠ 0) <+: data
  rw [List.takeWhile_append]
  split
  · rw [List.takeWhile_cons_of_neg (by simp), List.append_nil]
  · exact List.takeWhile_prefix _

theorem terminated_at {l : List UInt8} (h : 0 ∈ l) :
    l[(l.takeWhile (· ≠ 0)).length]? = some 0 := by
  induction l with
  | nil => cases h
  | cons x l ih =>
    by_cases hx : x = 0
    · rw [hx, List.takeWhile_cons_of_neg (by simp)]
      rfl
    · rw [List.takeWhile_cons_of_pos (by simp [hx]), List.length_cons, List.getElem?_cons_succ]
      exact ih ((List.mem_cons.1 h).resolve_left (Ne.symm hx))

end CharArray

/-- The text of a buffer before and after: an object of this id may have replaced it. -/
def TextFrom {n : Nat} (b b' : CharArray n) (objectId : UInt8) (R : Tagged → Prop) : Prop :=
  b'.text = b.text ∨ ∃ r, R r ∧ r.tag = objectId ∧ b'.text <+: r.data

theorem TextFrom.trans {n : Nat} {b b' b'' : CharArray n} {objectId : UInt8}
    {R R' S : Tagged → Prop} (h : TextFrom b b' objectId R) (h' : TextFrom b' b'' objectId R')
    (hR : ∀ r, R r → S r) (hR' : ∀ r, R' r → S r) : TextFrom b b'' objectId S := by
  rcases h' with hsame | ⟨r, hr, htag, htext⟩
  · rcases h with hfirst | ⟨r, hr, htag, htext⟩
    · exact .inl (hsame.trans hfirst)
    · exact .inr ⟨r, hR r hr, htag, hsame ▸ htext⟩
  · exact .inr ⟨r, hR' r hr, htag, htext⟩

/-- The identity after objects among `R` are read. -/
structure ReadFrom (R : Tagged → Prop) (identity identity' : DeviceIdentity) : Prop where
  vendorName : TextFrom identity.vendorName identity'.vendorName 0 R
  productCode : TextFrom identity.productCode identity'.productCode 1 R
  revision : TextFrom identity.revision identity'.revision 2 R

namespace ReadFrom

variable {R R' S : Tagged → Prop} {x y z : DeviceIdentity}

theorem refl (R : Tagged → Prop) (x : DeviceIdentity) : ReadFrom R x x :=
  ⟨.inl rfl, .inl rfl, .inl rfl⟩

theorem trans (h : ReadFrom R x y) (h' : ReadFrom R' y z) (hR : ∀ r, R r → S r)
    (hR' : ∀ r, R' r → S r) : ReadFrom S x z where
  vendorName := h.vendorName.trans h'.vendorName hR hR'
  productCode := h.productCode.trans h'.productCode hR hR'
  revision := h.revision.trans h'.revision hR hR'

end ReadFrom

/-! ## The walk -/

section Walk

variable {response : List UInt8} {cursor : Nat} (identity : DeviceIdentity)

theorem storeObject_spec {n : Nat} (b : CharArray n) {length : UInt8}
    (h : cursor + length.toNat ≤ response.length) :
    ∃ b', storeObject b response cursor length = some b' ∧
      b'.text <+: (response.drop cursor).take length.toNat := by
  have hcopy : cursor + min length.toNat (n - 1) ≤ response.length := by omega
  refine ⟨_, if_pos hcopy, (CharArray.text_put b _).trans ?_⟩
  exact List.take_prefix_take_left (Nat.min_le_left _ _)

theorem store_spec {length : UInt8} {r : Tagged} (h : cursor + length.toNat ≤ response.length)
    (hdata : r.data = (response.drop cursor).take length.toNat) :
    ∃ identity', identity.store response r.tag cursor length = some identity' ∧
      ReadFrom (· = r) identity identity' := by
  unfold DeviceIdentity.store
  split_ifs with hvendor hproduct hrevision
  · obtain ⟨b, hb, htext⟩ := storeObject_spec identity.vendorName h
    rw [hb]
    exact ⟨_, rfl, .inr ⟨r, rfl, hvendor, hdata ▸ htext⟩, .inl rfl, .inl rfl⟩
  · obtain ⟨b, hb, htext⟩ := storeObject_spec identity.productCode h
    rw [hb]
    exact ⟨_, rfl, .inl rfl, .inr ⟨r, rfl, hproduct, hdata ▸ htext⟩, .inl rfl⟩
  · obtain ⟨b, hb, htext⟩ := storeObject_spec identity.revision h
    rw [hb]
    exact ⟨_, rfl, .inl rfl, .inl rfl, .inr ⟨r, rfl, hrevision, hdata ▸ htext⟩⟩
  · exact ⟨identity, rfl, .refl _ _⟩

theorem readObject_spec (h : cursor + 2 ≤ response.length) :
    (∃ tag length rest, response.drop cursor = tag :: length :: rest ∧
      rest.length < length.toNat ∧
      readObject response cursor identity = some (.error .invalidResponse)) ∨
    ∃ r cursor' identity', response.drop cursor = r.bytes ++ response.drop cursor' ∧
      cursor' ≤ response.length ∧
      readObject response cursor identity = some (.ok (cursor', identity')) ∧
      ReadFrom (· = r) identity identity' := by
  have hdrop : response.drop cursor =
      response[cursor] :: response[cursor + 1] :: response.drop (cursor + 2) := by
    rw [List.drop_eq_getElem_cons (by omega), List.drop_eq_getElem_cons (by omega)]
  have hrest : (response.drop (cursor + 2)).length = response.length - (cursor + 2) :=
    List.length_drop
  have hround : readObject response cursor identity =
      if response.length < cursor + 2 + response[cursor + 1].toNat then
        some (.error .invalidResponse)
      else (identity.store response response[cursor] (cursor + 2) response[cursor + 1]).bind
        fun identity' => some (.ok (cursor + 2 + response[cursor + 1].toNat, identity')) := by
    unfold readObject
    rw [List.getElem?_eq_getElem (by omega), List.getElem?_eq_getElem (by omega)]
    rfl
  rw [hround, hdrop]
  split_ifs with hlength
  · exact .inl ⟨_, _, _, rfl, by omega, rfl⟩
  · obtain ⟨r, htag, hdata, hbytes⟩ :=
      Tagged.exists_of_length_le response[cursor]
        (show response[cursor + 1].toNat ≤ (response.drop (cursor + 2)).length by omega)
    obtain ⟨identity', hstore, hread⟩ := store_spec identity (by omega) hdata
    rw [htag] at hstore
    rw [List.drop_drop] at hbytes
    rw [hbytes, hstore]
    exact .inr ⟨r, _, identity', rfl, by omega, rfl, hread⟩

/-- The walk ends within the fuel, with an error just when an object is cut off. -/
theorem readObjects_spec {objectCount i : UInt8} {fuel : Nat} (hi : i.toNat ≤ objectCount.toNat)
    (hfuel : objectCount.toNat - i.toNat < fuel) (hcursor : cursor ≤ response.length) :
    ∃ err identity', readObjects response objectCount fuel i cursor identity =
        some (err, identity') ∧
      (Tagged.Overruns (objectCount.toNat - i.toNat) (response.drop cursor) →
        err = .invalidResponse) ∧
      ReadFrom (fun r => r.Among (objectCount.toNat - i.toNat) (response.drop cursor))
        identity identity' := by
  induction fuel generalizing i cursor identity with
  | zero => exact absurd hfuel (Nat.not_lt_zero _)
  | succ fuel ih =>
    unfold readObjects
    by_cases hround : i < objectCount ∧ cursor + 2 ≤ response.length
    · have hlt : i.toNat < objectCount.toNat := UInt8.lt_iff_toNat_lt.1 hround.1
      have hcount := objectCount.toNat_lt
      have hnext : (i + 1).toNat = i.toNat + 1 := by
        rw [UInt8.toNat_add, show (1 : UInt8).toNat = 1 from rfl, Nat.mod_eq_of_lt (by omega)]
      have hleft : objectCount.toNat - i.toNat = objectCount.toNat - (i + 1).toNat + 1 := by omega
      rw [if_pos hround, hleft]
      rcases readObject_spec identity hround.2 with
        ⟨tag, length, rest, hdrop, hlength, hread⟩ | ⟨r, cursor', identity', hdrop, hle, hread, hfrom⟩
      · rw [hread]
        exact ⟨.invalidResponse, identity, rfl, fun _ => rfl, .refl _ _⟩
      · obtain ⟨err, identity'', hrun, herr, hrest⟩ :=
          ih (i := i + 1) identity' (by omega) (by omega) hle
        rw [hread, hdrop]
        refine ⟨err, identity'', hrun, fun hover => herr hover.tail, ?_⟩
        refine hfrom.trans hrest ?_ fun x hx => hx.cons r
        rintro x rfl
        exact Tagged.among_head _ _ _
    · rw [if_neg hround]
      refine ⟨.ok, identity, rfl, fun hover => ?_, .refl _ _⟩
      by_cases hlt : i < objectCount
      · have hshort : (response.drop cursor).length < 2 := by
          have hend : ¬ cursor + 2 ≤ response.length := fun h => hround ⟨hlt, h⟩
          rw [List.length_drop]
          omega
        exact absurd hover (Tagged.not_overruns_of_length hshort)
      · have hdone : objectCount.toNat - i.toNat = 0 := by
          have hge : ¬ i.toNat < objectCount.toNat := fun h => hlt (UInt8.lt_iff_toNat_lt.2 h)
          omega
        rw [hdone] at hover
        exact absurd hover (Tagged.not_overruns_zero _)

end Walk

/-! ## Responses -/

/-- The objects of a response as the parser lays it out: byte 7 counts them, and they begin at
byte 8. -/
def IsObject (response : List UInt8) (r : Tagged) : Prop :=
  ∃ objectCount, response[7]? = some objectCount ∧ r.Among objectCount.toNat (response.drop 8)

/-- An object declares more data than the response has. -/
def RunsPastEnd (response : List UInt8) : Prop :=
  ∃ objectCount, response[7]? = some objectCount ∧
    Tagged.Overruns objectCount.toNat (response.drop 8)

/-- The buffer is empty or holds the beginning of an object's data, with a zero behind it. -/
def HoldsObject {n : Nat} (response : List UInt8) (objectId : UInt8) (b : CharArray n) : Prop :=
  b.bytes[b.text.length]? = some 0 ∧
    (b.text = [] ∨ ∃ r, IsObject response r ∧ r.tag = objectId ∧ b.text <+: r.data)

theorem HoldsObject.of_zero {n : Nat} (h : 0 < n) (response : List UInt8) (objectId : UInt8) :
    HoldsObject response objectId (CharArray.zero n h) :=
  ⟨CharArray.terminated_at (CharArray.zero n h).terminated, .inl (CharArray.text_zero h)⟩

theorem TextFrom.holds {n : Nat} (h : 0 < n) {b : CharArray n} {response : List UInt8}
    {objectId : UInt8} (htext : TextFrom (.zero n h) b objectId (IsObject response)) :
    HoldsObject response objectId b := by
  refine ⟨CharArray.terminated_at b.terminated, htext.imp_left fun hsame => ?_⟩
  rw [hsame, CharArray.text_zero]

/-- What the parser leaves of a response. -/
structure SafeResult (response : List UInt8) (err : EspErr) (identity : DeviceIdentity) :
    Prop where
  runsPastEnd : RunsPastEnd response → err = .invalidResponse
  vendorName : HoldsObject response 0 identity.vendorName
  productCode : HoldsObject response 1 identity.productCode
  revision : HoldsObject response 2 identity.revision

theorem SafeResult.rejected (response : List UInt8) :
    SafeResult response .invalidResponse .zero :=
  ⟨fun _ => rfl, .of_zero (by decide) _ _, .of_zero (by decide) _ _, .of_zero (by decide) _ _⟩

theorem readIdentity_safe (response : List UInt8) :
    ∃ err identity, readIdentity response = some (err, identity) ∧
      SafeResult response err identity := by
  unfold readIdentity
  split
  · exact ⟨_, _, rfl, .rejected response⟩
  · rename_i hlong
    have h0 : response[0]? = some response[0] := List.getElem?_eq_getElem (by omega)
    have h1 : response[1]? = some response[1] := List.getElem?_eq_getElem (by omega)
    have h7 : response[7]? = some response[7] := List.getElem?_eq_getElem (by omega)
    have hbound := response[7].toNat_lt
    obtain ⟨err, identity, hrun, herr, hread⟩ :=
      readObjects_spec (i := 0) .zero (Nat.zero_le response[7].toNat)
        (show response[7].toNat - 0 < 256 from hbound)
        (show 8 ≤ response.length by omega)
    rw [h0, h1, h7]
    by_cases hheader : response[0] ≠ 43 ∨ response[1] ≠ 14
    · exact ⟨_, _, if_pos hheader, .rejected response⟩
    · refine ⟨err, identity, (if_neg hheader).trans hrun, ?_⟩
      have hobject : ReadFrom (IsObject response) .zero identity := by
        refine (ReadFrom.refl (IsObject response) _).trans hread (fun _ h => h) fun r hr => ?_
        exact ⟨_, h7, hr⟩
      refine ⟨?_, hobject.vendorName.holds (by decide), hobject.productCode.holds (by decide),
        hobject.revision.holds (by decide)⟩
      rintro ⟨objectCount, hcount, hover⟩
      obtain rfl := Option.some.inj (h7.symm.trans hcount)
      exact herr hover

def answerFrame (tid : UInt16) (slaveId : UInt8) (response : List UInt8) : List UInt8 :=
  let size := UInt16.ofNat (response.length + 1)
  highByte tid :: lowByte tid :: 0 :: 0 :: highByte size :: lowByte size :: slaveId :: response

theorem tcpExchange_answer {response : List UInt8} (h : response.length ≤ 253) (tid : UInt16)
    (slaveId : UInt8) (pdu : List UInt8) :
    tcpExchange (fun _ => some (answerFrame tid slaveId response)) tid slaveId pdu 253 =
      if response = [] ∨ response.headD 0 &&& 0x80 ≠ 0 then .error .invalidResponse
      else .ok response := by
  have hsize : (UInt16.ofNat (response.length + 1)).toNat = response.length + 1 := by
    rw [UInt16.toNat_ofNat', Nat.mod_eq_of_lt (by omega)]
  unfold tcpExchange answerFrame
  simp only [beWord_bytes, hsize]
  by_cases hnil : response = []
  · rw [if_pos (.inl (by rw [hnil]; decide)), if_pos (.inl hnil)]
  · have hpos := List.length_pos_iff.2 hnil
    have hchecks : ¬ (response.length + 1 < 2 ∨ 253 < response.length + 1 - 1 ∨
        highByte tid ≠ highByte tid ∨ lowByte tid ≠ lowByte tid) := by
      simp only [ne_eq, not_true_eq_false, or_false]
      omega
    have hall : response.take (response.length + 1 - 1) = response := List.take_length
    rw [if_neg hchecks, if_neg (by omega), hall]
    simp only [hnil, false_or]

/-- **Device identification is safe for every response**: the walk ends and reads nothing
behind the response, an object that is cut off is an error, and every buffer is empty or
holds the beginning of an object it is meant for. -/
theorem identity_response_safe (tid : UInt16) (slaveId : UInt8) (response : List UInt8)
    (h : response.length ≤ 253) :
    ∃ err identity, modbusReadDeviceIdentityChannel .modbusTcp .ok
        (fun _ => some (answerFrame tid slaveId response)) tid slaveId = some (err, identity) ∧
      SafeResult response err identity := by
  unfold modbusReadDeviceIdentityChannel
  rw [if_neg (by decide), if_neg (by decide), tcpExchange_answer h]
  split_ifs
  · exact ⟨_, _, rfl, .rejected response⟩
  · exact readIdentity_safe response

/-- Two objects are read, and the third is cut off. -/
theorem identity_response_safe_cut :
    ∃ err identity, modbusReadDeviceIdentityChannel .modbusTcp .ok
        (fun _ => some (answerFrame 1 1
          [43, 14, 1, 1, 0, 0, 0, 3, 0, 2, 65, 66, 1, 1, 67, 2, 9, 49])) 1 1 =
          some (err, identity) ∧
      SafeResult [43, 14, 1, 1, 0, 0, 0, 3, 0, 2, 65, 66, 1, 1, 67, 2, 9, 49] err identity :=
  identity_response_safe 1 1 _ (by decide)

example : (readIdentity [43, 14, 1, 1, 0, 0, 0, 3, 0, 2, 65, 66, 1, 1, 67, 2, 9, 49]).map
    (fun r => (r.1, r.2.vendorName.text, r.2.productCode.text, r.2.revision.text)) =
    some (.invalidResponse, [65, 66], [67], []) := by
  decide

end McpGateway.Modbus
