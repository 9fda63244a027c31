import McpGateway.Modbus.TcpServer
import McpGateway.Services.ControlRoundTrip

/-!
# The two directions of the number codec

`modbus_encode_number` against `modbus_convert_to_number`. The encoder returns
a value of one word before it looks at the byte order, and the decoder swaps the
bytes of every word.
-/

namespace McpGateway.Modbus

open McpGateway.Lib McpGateway.Tcm McpGateway.Services

/-- The byte order exchanges the bytes of a word. -/
def SwapsBytes (order : ByteOrder) : Prop := order = .badc ∨ order = .dcba

/-- The values the codec is for: the integers of a type that a `double` holds, and
0 and 1 for a bit. -/
def CodecValue (t : DataType) (n : Int) : Prop :=
  (t = .bool ∧ (n = 0 ∨ n = 1)) ∨ (isInteger t = true ∧ InTypeRange t n ∧ |n| ≤ 2 ^ 53)

def wordTypes : List DataType := [.int16, .uint16, .int32, .uint32]

/-- The word is four decimal digits. -/
def PackedDigits (w : UInt16) : Prop :=
  w.toNat / 4096 < 10 ∧ w.toNat / 256 % 16 < 10 ∧ w.toNat / 16 % 16 < 10 ∧ w.toNat % 16 < 10

instance (w : UInt16) : Decidable (PackedDigits w) := inferInstanceAs (Decidable (_ ∧ _))

/-- If the bytes are exchanged, a value of one word has equal bytes, and a packed
one equal pairs of digits. -/
def ValueKept (t : DataType) (order : ByteOrder) (n : Int) : Prop :=
  SwapsBytes order →
    match t with
    | .int16 | .uint16 => n % 65536 / 256 = n % 256
    | .bcd16 => n / 100 = n % 100
    | _ => True

/-- The same for the words themselves. -/
def WordsKept (t : DataType) (order : ByteOrder) (words : List UInt16) : Prop :=
  SwapsBytes order → modbusRegisterCountForType t = 1 →
    ∀ w ∈ words, w.toNat / 256 = w.toNat % 256

def wordValue (t : DataType) (order : ByteOrder) (words : List UInt16) : Int :=
  let bits := orderedBits words (modbusRegisterCountForType t) order
  match t with
  | .int16 => signed 16 bits
  | .uint16 => (bits % 2 ^ 16 : Nat)
  | .int32 => signed 32 bits
  | .uint32 => (bits % 2 ^ 32 : Nat)
  | .int64 => signed 64 bits
  | .uint64 => (bits % 2 ^ 64 : Nat)
  | .bcd16 => bcdValue bits
  | _ => 0

section Codec

variable {t : DataType} {order : ByteOrder} {n : Int}

theorem reorder_word_iff (w : UInt16) :
    reorder order [w] = [w] ↔ (SwapsBytes order → w.toNat / 256 = w.toNat % 256) := by
  rw [reorder_word, ← swapBytes_eq_iff]
  unfold SwapsBytes
  by_cases h : order = .badc ∨ order = .dcba
  · rw [if_pos h, List.singleton_inj]
    exact ⟨fun heq _ => heq, fun heq => heq h⟩
  · rw [if_neg h]
    exact ⟨fun _ hswap => absurd hswap h, fun _ => rfl⟩

/-! ## Values -/

theorem encodeNumber_int (rest : CFloat → Int64) (ht : isInteger t = true)
    (hn : -2 ^ 63 ≤ n ∧ n < 2 ^ 63) :
    modbusEncodeNumber rest (.fin n) t order = intWords t order n := by
  unfold modbusEncodeNumber intWords
  rw [llround_int rest hn]
  cases t <;> first | rfl | cases ht

theorem digits_bytes {a b c d : Nat} (hb : b < 10) (hc : c < 10) (hd : d < 10) :
    (a * 4096 + b * 256 + c * 16 + d) / 256 = (a * 4096 + b * 256 + c * 16 + d) % 256 ↔
      a * 10 + b = c * 10 + d := by
  have hhigh : (a * 4096 + b * 256 + c * 16 + d) / 256 = a * 16 + b := by omega
  have hlow : (a * 4096 + b * 256 + c * 16 + d) % 256 = c * 16 + d := by omega
  rw [hhigh, hlow]
  omega

/-- The two bytes of a packed number are equal when its two pairs of digits are. -/
theorem bcdWord_bytes (h : InTypeRange .bcd16 n) :
    (bcdWord (lowBits 16 n)).toNat / 256 = (bcdWord (lowBits 16 n)).toNat % 256 ↔
      n / 100 = n % 100 := by
  have hcast := lowBits_cast 16 n
  obtain ⟨h0, h9⟩ : 0 ≤ n ∧ n < 10000 := h
  rw [bcdWord_toNat, digits_bytes (by omega) (by omega) (by omega)]
  generalize lowBits 16 n = k at *
  have hn : n = (k : Int) := by omega
  have hhigh : k / 1000 % 10 * 10 + k / 100 % 10 = k / 100 := by omega
  have hlow : k / 10 % 10 * 10 + k % 10 = k % 100 := by omega
  rw [hhigh, hlow, hn]
  omega

/-- The byte order leaves the words of a value alone. -/
theorem encodable_iff_kept (h : InTypeRange t n) :
    Services.Encodable t order n ↔ ValueKept t order n := by
  unfold Services.Encodable ValueKept
  rw [and_iff_right h]
  cases t with
  | int16 | uint16 =>
    have hword := word_toNat n
    simp only [modbusRegisterCountForType, intWords, reorder_word_iff, forall_const]
    generalize (UInt16.ofNat (lowBits 16 n)).toNat = k at *
    have hhigh : ((k / 256 : Nat) : Int) = n % 65536 / 256 := by omega
    have hlow : ((k % 256 : Nat) : Int) = n % 256 := by omega
    rw [← hhigh, ← hlow, Nat.cast_inj]
  | bcd16 =>
    simp only [modbusRegisterCountForType, intWords, reorder_word_iff, bcdWord_bytes h,
      forall_const]
  | int32 | uint32 | int64 | uint64 =>
    exact iff_of_true (fun hone => by cases hone) fun _ => trivial
  | float32 | bool | float64 | bitfield16 | ascii => exact h.elim

theorem convert_encode_bool (rest : CFloat → Int64) (bitIndex : UInt8) (h : n = 0 ∨ n = 1) :
    modbusConvertToNumber (modbusEncodeNumber rest (.fin n) .bool order) .bool order bitIndex =
      .fin n := by
  rcases h with rfl | rfl <;> rfl

/-- **A value comes back** exactly when the byte order leaves its words alone. -/
theorem convert_encode_iff (rest : CFloat → Int64) (bitIndex : UInt8) (h : CodecValue t n) :
    modbusConvertToNumber (modbusEncodeNumber rest (.fin n) t order) t order bitIndex = .fin n ↔
      ValueKept t order n := by
  rcases h with ⟨rfl, hbit⟩ | ⟨ht, hrange, hsize⟩
  · exact iff_of_true (convert_encode_bool rest bitIndex hbit) fun _ => trivial
  · rw [abs_le] at hsize
    rw [encodeNumber_int rest ht (by omega), convert_intWords ht, ← encodable_iff_kept hrange]
    constructor
    · intro hback
      have heq : readBack t order n = n := by exact_mod_cast CFloat.fin.inj hback
      apply encodable_of_near ht
      rw [heq, sub_self]
      decide
    · intro henc
      rw [readBack_of_encodable ht henc]

/-! ## Words -/

theorem convert_words (ht : isInteger t = true) (bitIndex : UInt8) (words : List UInt16) :
    modbusConvertToNumber words t order bitIndex = .fin (wordValue t order words) := by
  cases t with
  | float32 | bool | float64 | bitfield16 | ascii => cases ht
  | int16 | int32 | int64 => rfl
  | uint16 | uint32 | uint64 | bcd16 =>
    simp only [modbusConvertToNumber, wordValue]
    rw [Int.cast_natCast]

theorem isInteger_of_word (ht : t ∈ wordTypes) : isInteger t = true := by
  simp only [wordTypes, List.mem_cons, List.not_mem_nil, or_false] at ht
  rcases ht with rfl | rfl | rfl | rfl <;> rfl

theorem wordValue_inRange (ht : t ∈ wordTypes) (words : List UInt16) :
    InTypeRange t (wordValue t order words) := by
  simp only [wordTypes, List.mem_cons, List.not_mem_nil, or_false] at ht
  rcases ht with rfl | rfl | rfl | rfl
  · exact signed_range 16 (by decide) _
  · simp only [InTypeRange, wordValue]
    omega
  · exact signed_range 32 (by decide) _
  · simp only [InTypeRange, wordValue]
    omega

theorem wordValue_small (ht : t ∈ wordTypes) (words : List UInt16) :
    -2 ^ 63 ≤ wordValue t order words ∧ wordValue t order words < 2 ^ 63 := by
  have hrange := @wordValue_inRange t order ht words
  simp only [wordTypes, List.mem_cons, List.not_mem_nil, or_false] at ht
  rcases ht with rfl | rfl | rfl | rfl <;> simp only [InTypeRange] at hrange <;> omega

theorem lowBits_signed (w k : Nat) : lowBits w (signed w k) = k % 2 ^ w := by
  have hcast := lowBits_cast w (signed w k)
  have hmod : signed w k % 2 ^ w = (k : Int) % 2 ^ w := by
    unfold signed
    split
    · exact Int.emod_emod_of_dvd _ (dvd_refl _)
    · rw [Int.sub_emod_right]
      exact Int.emod_emod_of_dvd _ (dvd_refl _)
  have hk : ((k % 2 ^ w : Nat) : Int) = (k : Int) % 2 ^ w := by push_cast; rfl
  omega

theorem lowBits_mod (w k : Nat) : lowBits w ((k % 2 ^ w : Nat) : Int) = k % 2 ^ w := by
  have hcast := lowBits_cast w ((k % 2 ^ w : Nat) : Int)
  have hk : ((k % 2 ^ w : Nat) : Int) % 2 ^ w = (k % 2 ^ w : Nat) := by
    push_cast
    exact Int.emod_emod_of_dvd _ (dvd_refl _)
  omega

theorem PackedDigits.digits {w : UInt16} (h : PackedDigits w) :
    ∃ a b c d, a < 10 ∧ b < 10 ∧ c < 10 ∧ d < 10 ∧ w.toNat = a * 4096 + b * 256 + c * 16 + d := by
  obtain ⟨ha, hb, hc, hd⟩ := h
  exact ⟨_, _, _, _, ha, hb, hc, hd, by omega⟩

theorem packedDigits_of {w : UInt16} {a b c d : Nat} (ha : a < 10) (hb : b < 10) (hc : c < 10)
    (hd : d < 10) (hw : w.toNat = a * 4096 + b * 256 + c * 16 + d) : PackedDigits w := by
  have h1 : w.toNat / 4096 = a := by omega
  have h2 : w.toNat / 256 % 16 = b := by omega
  have h3 : w.toNat / 16 % 16 = c := by omega
  have h4 : w.toNat % 16 = d := by omega
  rw [PackedDigits, h1, h2, h3, h4]
  exact ⟨ha, hb, hc, hd⟩

/-- Packed digits are packed again from the number they stand for. -/
theorem bcdWord_bcdValue {w : UInt16} (h : PackedDigits w) : bcdWord (bcdValue w.toNat) = w := by
  obtain ⟨a, b, c, d, ha, hb, hc, hd, hw⟩ := h.digits
  have h1 : (a * 1000 + b * 100 + c * 10 + d) / 1000 % 10 = a := by omega
  have h2 : (a * 1000 + b * 100 + c * 10 + d) / 100 % 10 = b := by omega
  have h3 : (a * 1000 + b * 100 + c * 10 + d) / 10 % 10 = c := by omega
  have h4 : (a * 1000 + b * 100 + c * 10 + d) % 10 = d := by omega
  apply UInt16.toNat_inj.1
  rw [hw, bcdWord_toNat, bcdValue_digits ha hb hc hd, h1, h2, h3, h4]

theorem packedDigits_swap {w : UInt16} (h : PackedDigits w) : PackedDigits (swapBytes w) := by
  obtain ⟨a, b, c, d, ha, hb, hc, hd, hw⟩ := h.digits
  refine packedDigits_of hc hd ha hb ?_
  rw [swapBytes_toNat]
  omega

theorem encode_two {words : List UInt16} (h : words.length = 2) :
    reorder order (splitWords 2 (orderedBits words 2 order % 2 ^ 32)) = words := by
  have hlength : (reorder order words).length = 2 := by rw [reorder_length, h]
  have hlt := joinWords_lt (reorder order words)
  have hsplit := splitWords_joinWords (reorder order words)
  rw [hlength] at hsplit hlt
  have hmod : joinWords (reorder order words) % 2 ^ 32 = joinWords (reorder order words) :=
    Nat.mod_eq_of_lt hlt
  rw [orderedBits, List.take_of_length_le h.le, hmod, hsplit, reorder_reorder]

theorem encode_one_iff (w : UInt16) :
    [UInt16.ofNat (orderedBits [w] 1 order % 2 ^ 16)] = [w] ↔
      (SwapsBytes order → w.toNat / 256 = w.toNat % 256) := by
  rw [← reorder_word_iff, orderedBits_word, Nat.mod_eq_of_lt (UInt16.toNat_lt _),
    UInt16.ofNat_toNat, reorder_word]

theorem encode_digits_iff {w : UInt16} (h : PackedDigits w) :
    [bcdWord (lowBits 16 (bcdValue (orderedBits [w] 1 order)))] = [w] ↔
      (SwapsBytes order → w.toNat / 256 = w.toNat % 256) := by
  have hread : PackedDigits (if order = .badc ∨ order = .dcba then swapBytes w else w) := by
    split
    · exact packedDigits_swap h
    · exact h
  rw [← reorder_word_iff, orderedBits_word, reorder_word]
  generalize (if order = .badc ∨ order = .dcba then swapBytes w else w) = v at *
  have hsmall : bcdValue v.toNat % 2 ^ 16 = bcdValue v.toNat := by
    unfold bcdValue
    omega
  have hlow := lowBits_mod 16 (bcdValue v.toNat)
  rw [hsmall] at hlow
  rw [hlow, bcdWord_bcdValue hread]

theorem intWords_wordValue_iff {words : List UInt16} (ht : t ∈ wordTypes ∨ t = .bcd16)
    (hdigits : t = .bcd16 → ∀ w ∈ words, PackedDigits w)
    (h : words.length = modbusRegisterCountForType t) :
    intWords t order (wordValue t order words) = words ↔ WordsKept t order words := by
  simp only [wordTypes, List.mem_cons, List.not_mem_nil, or_false] at ht
  rcases ht with (rfl | rfl | rfl | rfl) | rfl
  · obtain ⟨w, rfl⟩ := List.length_eq_one_iff.1 h
    simp only [intWords, wordValue, WordsKept, modbusRegisterCountForType, lowBits_signed,
      encode_one_iff, forall_const, List.forall_mem_singleton]
  · obtain ⟨w, rfl⟩ := List.length_eq_one_iff.1 h
    simp only [intWords, wordValue, WordsKept, modbusRegisterCountForType, lowBits_mod,
      encode_one_iff, forall_const, List.forall_mem_singleton]
  · simp only [intWords, wordValue, WordsKept, modbusRegisterCountForType, lowBits_signed]
    rw [encode_two h]
    simp
  · simp only [intWords, wordValue, WordsKept, modbusRegisterCountForType, lowBits_mod]
    rw [encode_two h]
    simp
  · obtain ⟨w, rfl⟩ := List.length_eq_one_iff.1 h
    simp only [intWords, wordValue, WordsKept, modbusRegisterCountForType,
      encode_digits_iff (hdigits rfl w List.mem_cons_self), forall_const, List.forall_mem_singleton]

/-- **The words come back** exactly when the byte order leaves a single word alone. -/
theorem encode_convert_iff (rest : CFloat → Int64) (bitIndex : UInt8) {words : List UInt16}
    (ht : t ∈ wordTypes) (h : words.length = modbusRegisterCountForType t) :
    modbusEncodeNumber rest (modbusConvertToNumber words t order bitIndex) t order = words ↔
      WordsKept t order words := by
  have hint := isInteger_of_word ht
  rw [convert_words hint, encodeNumber_int rest hint (wordValue_small ht words)]
  refine intWords_wordValue_iff (.inl ht) (fun hbcd => ?_) h
  rw [hbcd] at ht
  simp [wordTypes] at ht

/-- **The codec in both directions.** For every type and byte order, the values and
the words that come back are those that the exchange of bytes leaves alone. -/
theorem codec_inverse_iff (rest : CFloat → Int64) (t : DataType) (order : ByteOrder)
    (bitIndex : UInt8) :
    (∀ n, CodecValue t n →
      (modbusConvertToNumber (modbusEncodeNumber rest (.fin n) t order) t order bitIndex =
        .fin n ↔ ValueKept t order n)) ∧
    (t ∈ wordTypes → ∀ words, words.length = modbusRegisterCountForType t →
      (modbusEncodeNumber rest (modbusConvertToNumber words t order bitIndex) t order = words ↔
        WordsKept t order words)) :=
  ⟨fun _ hn => convert_encode_iff rest bitIndex hn,
    fun ht _ hwords => encode_convert_iff rest bitIndex ht hwords⟩

/-- With the byte order BADC the number 1 is read back as 256, and a word that was
read is handed on with its bytes exchanged. -/
theorem codec_swaps_one :
    CodecValue .uint16 1 ∧
      modbusConvertToNumber (modbusEncodeNumber (fun _ => 0) (.fin 1) .uint16 .badc) .uint16 .badc
        0 = .fin 256 ∧
      modbusEncodeNumber (fun _ => 0) (modbusConvertToNumber [0x1234] .uint16 .badc 0) .uint16
        .badc = [0x3412] := by
  refine ⟨.inr ⟨rfl, by decide, by decide⟩, by decide +kernel, by decide +kernel⟩

end Codec

end McpGateway.Modbus
