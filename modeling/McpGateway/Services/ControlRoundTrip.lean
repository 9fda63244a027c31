import Mathlib.Algebra.Order.Ring.Nat
import Mathlib.Data.Fin.Basic
import Mathlib.Data.Finset.Max
import Mathlib.Data.Rat.Floor
import Mathlib.Order.Lattice
import Mathlib.Tactic.Linarith
import McpGateway.Services.ControlService

/-!
# Reading a written value back

The words a write sends for an integer type, decoded by
`modbus_convert_to_number` and scaled by `amm_enrich_context`.
`written_value_iff` says when the value comes back to within half a step of
the scale.
-/

namespace McpGateway.Services

open McpGateway.Lib McpGateway.Tcm McpGateway.Amm McpGateway.Modbus

/-- The types that carry an integer. -/
def isInteger : DataType → Bool
  | .int16 | .uint16 | .int32 | .uint32 | .int64 | .uint64 | .bcd16 => true
  | _ => false

/-- The integers a type can carry. -/
def InTypeRange (t : DataType) (n : Int) : Prop :=
  match t with
  | .int16 => -2 ^ 15 ≤ n ∧ n < 2 ^ 15
  | .uint16 => 0 ≤ n ∧ n < 2 ^ 16
  | .int32 => -2 ^ 31 ≤ n ∧ n < 2 ^ 31
  | .uint32 => 0 ≤ n ∧ n < 2 ^ 32
  | .int64 => -2 ^ 63 ≤ n ∧ n < 2 ^ 63
  | .uint64 => 0 ≤ n ∧ n < 2 ^ 64
  | .bcd16 => 0 ≤ n ∧ n < 10000
  | _ => False

instance (t : DataType) (n : Int) : Decidable (InTypeRange t n) :=
  match t with
  | .int16 | .uint16 | .int32 | .uint32 | .int64 | .uint64 | .bcd16 =>
    inferInstanceAs (Decidable (_ ∧ _))
  | .float32 | .bool | .float64 | .bitfield16 | .ascii => inferInstanceAs (Decidable False)

/-- The words `encode_value` makes of a rounded value of an integer type. -/
def intWords (t : DataType) (order : ByteOrder) (n : Int) : List UInt16 :=
  match t with
  | .int32 | .uint32 => reorder order (splitWords 2 (lowBits 32 n))
  | .int64 | .uint64 => reorder order (splitWords 4 (lowBits 64 n))
  | .bcd16 => [bcdWord (lowBits 16 n)]
  | _ => [UInt16.ofNat (lowBits 16 n)]

def readBack (t : DataType) (order : ByteOrder) (n : Int) : Int :=
  let bits := orderedBits (intWords t order n) (modbusRegisterCountForType t) order
  match t with
  | .int16 => signed 16 bits
  | .uint16 => (bits % 2 ^ 16 : Nat)
  | .int32 => signed 32 bits
  | .uint32 => (bits % 2 ^ 32 : Nat)
  | .int64 => signed 64 bits
  | .uint64 => (bits % 2 ^ 64 : Nat)
  | .bcd16 => bcdValue bits
  | _ => 0

/-- An integer of the type whose words the byte order leaves alone: values of
one word are swapped when they are read only. -/
def Encodable (t : DataType) (order : ByteOrder) (n : Int) : Prop :=
  InTypeRange t n ∧ (modbusRegisterCountForType t = 1 →
    reorder order (intWords t order n) = intWords t order n)

/-! ## Words and integers -/

theorem lowBits_cast (w : Nat) (n : Int) : (lowBits w n : Int) = n % 2 ^ w :=
  Int.toNat_of_nonneg (Int.emod_nonneg n (by positivity))

theorem lowBits_lt (w : Nat) (n : Int) : lowBits w n < 2 ^ w := by
  have h := lowBits_cast w n
  have hlt : n % 2 ^ w < 2 ^ w := Int.emod_lt_of_pos n (by positivity)
  have : (lowBits w n : Int) < (2 ^ w : Nat) := by push_cast; omega
  exact_mod_cast this

theorem bcdWord_toNat (n : Nat) : (bcdWord n).toNat =
    n / 1000 % 10 * 4096 + n / 100 % 10 * 256 + n / 10 % 10 * 16 + n % 10 := by
  rw [bcdWord, UInt16.toNat_ofNat']
  omega

theorem orderedBits_word (order : ByteOrder) (w : UInt16) :
    orderedBits [w] 1 order = (if order = .badc ∨ order = .dcba then swapBytes w else w).toNat := by
  cases order <;> simp [orderedBits, reorder, joinWords]

theorem reorder_word (order : ByteOrder) (w : UInt16) :
    reorder order [w] = [if order = .badc ∨ order = .dcba then swapBytes w else w] := by
  cases order <;> simp [reorder]

theorem bits_two (order : ByteOrder) (n : Int) :
    orderedBits (reorder order (splitWords 2 (lowBits 32 n))) 2 order = lowBits 32 n := by
  rw [orderedBits_reorder]
  exact Nat.mod_eq_of_lt (lowBits_lt 32 n)

theorem bits_four (order : ByteOrder) (n : Int) :
    orderedBits (reorder order (splitWords 4 (lowBits 64 n))) 4 order = lowBits 64 n := by
  rw [orderedBits_reorder]
  exact Nat.mod_eq_of_lt (lowBits_lt 64 n)

theorem word_toNat (n : Int) : ((UInt16.ofNat (lowBits 16 n)).toNat : Int) = n % 65536 := by
  have h := lowBits_cast 16 n
  rw [UInt16.toNat_ofNat', Nat.mod_eq_of_lt (lowBits_lt 16 n), h]
  rfl

theorem reorder_word_eq {order : ByteOrder} {w : UInt16}
    (h : orderedBits [w] 1 order = w.toNat) : reorder order [w] = [w] := by
  rw [orderedBits_word] at h
  rw [reorder_word, UInt16.toNat_inj.1 h]

theorem orderedBits_of_reorder {order : ByteOrder} {w : UInt16}
    (h : reorder order [w] = [w]) : orderedBits [w] 1 order = w.toNat := by
  rw [orderedBits, List.take_of_length_le (by simp), h]
  simp [joinWords]

theorem signed_eq (w n : Nat) : signed w n = (n % 2 ^ w : Nat) ∨
    signed w n = (n % 2 ^ w : Nat) - 2 ^ w := by
  unfold signed
  split
  · exact .inl (by push_cast; rfl)
  · exact .inr (by push_cast; rfl)

theorem signed_range (w : Nat) (hw : 0 < w) (n : Nat) :
    -2 ^ (w - 1) ≤ signed w n ∧ signed w n < 2 ^ (w - 1) := by
  have hlt : (n : Int) % 2 ^ w < 2 ^ w := Int.emod_lt_of_pos _ (by positivity)
  have hnn : 0 ≤ (n : Int) % 2 ^ w := Int.emod_nonneg _ (by positivity)
  have hpow : (2 : Int) ^ w = 2 * 2 ^ (w - 1) := by
    rw [← pow_succ', Nat.sub_add_cancel hw]
  have hcast : n % 2 ^ w < 2 ^ (w - 1) ↔ (n : Int) % 2 ^ w < 2 ^ (w - 1) := by
    rw [← Int.ofNat_lt]
    push_cast
    rfl
  unfold signed
  split <;> rename_i h <;> rw [hcast] at h <;> omega

/-- Exchanging the bytes of a word moves it by more than 1 or not at all. -/
theorem bytes_eq_of_near {u : Nat} (hu : u < 65536) (k : Int)
    (h : -1 ≤ ((u % 256 * 256 + u / 256 : Nat) : Int) - u + 65536 * k ∧
      ((u % 256 * 256 + u / 256 : Nat) : Int) - u + 65536 * k ≤ 1) :
    u % 256 * 256 + u / 256 = u := by
  have hhigh : u / 256 < 256 := by omega
  have hlow : u % 256 < 256 := by omega
  have hsum : u = u / 256 * 256 + u % 256 := by omega
  generalize u / 256 = high at *
  generalize u % 256 = low at *
  subst hsum
  have hk : k = 0 := by omega
  omega

theorem pairs_eq_of_near {k : Nat} {n : Int} (hk : (k : Int) = n % 65536)
    (h : |((k % 100 * 100 + k / 100 % 100 : Nat) : Int) - n| ≤ 1) :
    0 ≤ n ∧ n < 10000 ∧ k / 100 % 100 = k % 100 := by
  rw [abs_le] at h
  have hn : n = -1 ∨ n = 10000 ∨ 0 ≤ n ∧ n < 10000 := by omega
  rcases hn with rfl | rfl | ⟨hlow, hhigh⟩
  · obtain rfl : k = 65535 := by omega
    omega
  · obtain rfl : k = 10000 := by omega
    omega
  · have hkn : n = k := by omega
    have hdiv : k / 100 < 100 := by omega
    have hmod : k % 100 < 100 := by omega
    have hsum : k = k / 100 * 100 + k % 100 := by omega
    rw [Nat.mod_eq_of_lt hdiv] at h ⊢
    generalize k / 100 = high at *
    generalize k % 100 = low at *
    omega

theorem bcdValue_digits {a b c d : Nat} (ha : a < 10) (hb : b < 10) (hc : c < 10) (hd : d < 10) :
    bcdValue (a * 4096 + b * 256 + c * 16 + d) = a * 1000 + b * 100 + c * 10 + d := by
  have h1 : (a * 4096 + b * 256 + c * 16 + d) / 4096 % 16 = a := by omega
  have h2 : (a * 4096 + b * 256 + c * 16 + d) / 256 % 16 = b := by omega
  have h3 : (a * 4096 + b * 256 + c * 16 + d) / 16 % 16 = c := by omega
  have h4 : (a * 4096 + b * 256 + c * 16 + d) % 16 = d := by omega
  rw [bcdValue, h1, h2, h3, h4]

/-- The two bytes of a packed number read in either order. -/
theorem bcd_bits (order : ByteOrder) (k : Nat) :
    bcdValue (orderedBits [bcdWord k] 1 order) =
      if order = .badc ∨ order = .dcba then k % 100 * 100 + k / 100 % 100 else k % 10000 := by
  have ha : k / 1000 % 10 < 10 := by omega
  have hb : k / 100 % 10 < 10 := by omega
  have hc : k / 10 % 10 < 10 := by omega
  have hd : k % 10 < 10 := by omega
  rw [orderedBits_word]
  split
  · have hswap : (swapBytes (bcdWord k)).toNat =
        k / 10 % 10 * 4096 + k % 10 * 256 + k / 1000 % 10 * 16 + k / 100 % 10 := by
      rw [swapBytes_toNat, bcdWord_toNat]
      omega
    have hlow : k % 100 = k / 10 % 10 * 10 + k % 10 := by omega
    have hhigh : k / 100 % 100 = k / 1000 % 10 * 10 + k / 100 % 10 := by omega
    rw [hswap, bcdValue_digits hc hd ha hb, hlow, hhigh]
    ring
  · rw [bcdWord_toNat, bcdValue_digits ha hb hc hd]
    omega

/-! ## What comes back -/

section ReadBack

variable {t : DataType} {order : ByteOrder} {n : Int}

theorem readBack_inRange (ht : isInteger t = true) : InTypeRange t (readBack t order n) := by
  cases t with
  | int16 => exact signed_range 16 (by omega) _
  | int32 => exact signed_range 32 (by omega) _
  | int64 => exact signed_range 64 (by omega) _
  | uint16 | uint32 | uint64 => simp only [InTypeRange, readBack]; omega
  | bcd16 =>
    simp only [InTypeRange, readBack, intWords, modbusRegisterCountForType, bcd_bits]
    split <;> omega
  | float32 | bool | float64 | bitfield16 | ascii => cases ht

theorem readBack_of_encodable (ht : isInteger t = true) (h : Encodable t order n) :
    readBack t order n = n := by
  obtain ⟨hrange, hword⟩ := h
  cases t with
  | int16 | uint16 =>
    have hbits := orderedBits_of_reorder (hword rfl)
    have hnat := word_toNat n
    simp only [InTypeRange] at hrange
    simp only [readBack, intWords, modbusRegisterCountForType, hbits, signed]
    omega
  | int32 | uint32 =>
    have hcast := lowBits_cast 32 n
    simp only [InTypeRange] at hrange
    simp only [readBack, intWords, modbusRegisterCountForType, bits_two, signed]
    omega
  | int64 | uint64 =>
    have hcast := lowBits_cast 64 n
    simp only [InTypeRange] at hrange
    simp only [readBack, intWords, modbusRegisterCountForType, bits_four, signed]
    omega
  | bcd16 =>
    have hbits := orderedBits_of_reorder (hword rfl)
    have hplain := bcd_bits .abcd (lowBits 16 n)
    have hcast := lowBits_cast 16 n
    have habcd : orderedBits [bcdWord (lowBits 16 n)] 1 .abcd = (bcdWord (lowBits 16 n)).toNat :=
      orderedBits_word .abcd _
    rw [habcd, if_neg (by decide)] at hplain
    simp only [InTypeRange] at hrange
    simp only [readBack, intWords, modbusRegisterCountForType, hbits, hplain]
    omega
  | float32 | bool | float64 | bitfield16 | ascii => cases ht

/-- What comes back next to the written integer is the integer itself. -/
theorem encodable_of_near (ht : isInteger t = true) (h : |readBack t order n - n| ≤ 1) :
    Encodable t order n := by
  rw [abs_le] at h
  cases t with
  | uint16 =>
    have hnat := word_toNat n
    simp only [readBack, intWords, modbusRegisterCountForType] at h
    have hsame : orderedBits [UInt16.ofNat (lowBits 16 n)] 1 order =
        (UInt16.ofNat (lowBits 16 n)).toNat := by
      have hlt := (UInt16.ofNat (lowBits 16 n)).toNat_lt
      have hbits := orderedBits_word order (UInt16.ofNat (lowBits 16 n))
      by_cases hswap : order = .badc ∨ order = .dcba
      · rw [if_pos hswap, swapBytes_toNat] at hbits
        rw [hbits]
        exact bytes_eq_of_near hlt (-(n / 65536)) (by omega)
      · rw [hbits, if_neg hswap]
    exact ⟨by simp only [InTypeRange]; omega, fun _ => reorder_word_eq hsame⟩
  | int16 =>
    have hnat := word_toNat n
    simp only [readBack, intWords, modbusRegisterCountForType] at h
    have hsigned := signed_eq 16 (orderedBits [UInt16.ofNat (lowBits 16 n)] 1 order)
    have hrange := signed_range 16 (by omega) (orderedBits [UInt16.ofNat (lowBits 16 n)] 1 order)
    have hsame : orderedBits [UInt16.ofNat (lowBits 16 n)] 1 order =
        (UInt16.ofNat (lowBits 16 n)).toNat := by
      have hlt := (UInt16.ofNat (lowBits 16 n)).toNat_lt
      have hbits := orderedBits_word order (UInt16.ofNat (lowBits 16 n))
      by_cases hswap : order = .badc ∨ order = .dcba
      · rw [if_pos hswap, swapBytes_toNat] at hbits
        rw [hbits]
        rcases hsigned with hpos | hneg
        · exact bytes_eq_of_near hlt (-(n / 65536)) (by omega)
        · exact bytes_eq_of_near hlt (-(n / 65536) - 1) (by omega)
      · rw [hbits, if_neg hswap]
    exact ⟨by simp only [InTypeRange]; omega, fun _ => reorder_word_eq hsame⟩
  | int32 | uint32 =>
    have hcast := lowBits_cast 32 n
    simp only [readBack, intWords, modbusRegisterCountForType, bits_two, signed] at h
    exact ⟨by simp only [InTypeRange]; omega, fun hone => by cases hone⟩
  | int64 | uint64 =>
    have hcast := lowBits_cast 64 n
    simp only [readBack, intWords, modbusRegisterCountForType, bits_four, signed] at h
    exact ⟨by simp only [InTypeRange]; omega, fun hone => by cases hone⟩
  | bcd16 =>
    have hcast := lowBits_cast 16 n
    simp only [readBack, intWords, modbusRegisterCountForType, bcd_bits] at h
    by_cases hswap : order = .badc ∨ order = .dcba
    · rw [if_pos hswap, ← abs_le] at h
      obtain ⟨hlow, hhigh, hpair⟩ := pairs_eq_of_near hcast h
      refine ⟨⟨hlow, hhigh⟩, fun _ => reorder_word_eq ?_⟩
      have hthousands : lowBits 16 n / 1000 = lowBits 16 n / 100 / 10 := by omega
      have hfirst : lowBits 16 n / 100 % 100 =
          lowBits 16 n / 1000 % 10 * 10 + lowBits 16 n / 100 % 10 := by omega
      have hlast : lowBits 16 n % 100 = lowBits 16 n / 10 % 10 * 10 + lowBits 16 n % 10 := by omega
      rw [hfirst, hlast] at hpair
      have h1 : lowBits 16 n / 1000 % 10 = lowBits 16 n / 10 % 10 := by omega
      have h2 : lowBits 16 n / 100 % 10 = lowBits 16 n % 10 := by omega
      rw [orderedBits_word, if_pos hswap, swapBytes_toNat, bcdWord_toNat, h1, h2]
      omega
    · rw [if_neg hswap] at h
      refine ⟨by simp only [InTypeRange]; omega, fun _ => reorder_word_eq ?_⟩
      rw [orderedBits_word, if_neg hswap]
  | float32 | bool | float64 | bitfield16 | ascii => cases ht

theorem intWords_congr {k : Int} (h : lowBits 64 k = lowBits 64 n) :
    intWords t order k = intWords t order n := by
  have hk := lowBits_cast 64 k
  have hn := lowBits_cast 64 n
  have h16 : lowBits 16 k = lowBits 16 n := by
    have hk' := lowBits_cast 16 k
    have hn' := lowBits_cast 16 n
    omega
  have h32 : lowBits 32 k = lowBits 32 n := by
    have hk' := lowBits_cast 32 k
    have hn' := lowBits_cast 32 n
    omega
  simp only [intWords, h, h16, h32]

theorem readBack_congr {k : Int} (h : lowBits 64 k = lowBits 64 n) :
    readBack t order k = readBack t order n := by
  unfold readBack
  rw [intWords_congr h]

/-- Values of four words come back modulo 2 ^ 64. -/
theorem lowBits_readBack (ht : modbusRegisterCountForType t = 4) (hint : isInteger t = true) :
    lowBits 64 (readBack t order n) = lowBits 64 n := by
  have hn := lowBits_cast 64 n
  have hback := lowBits_cast 64 (readBack t order n)
  cases t with
  | int64 | uint64 =>
    simp only [readBack, intWords, modbusRegisterCountForType, bits_four, signed] at hback ⊢
    omega
  | int16 | uint16 | int32 | uint32 | bcd16 => cases ht
  | float32 | bool | float64 | bitfield16 | ascii => cases hint

theorem readBack_small (ht : modbusRegisterCountForType t ≠ 4) (hint : isInteger t = true) :
    -2 ^ 32 ≤ readBack t order n ∧ readBack t order n ≤ 2 ^ 32 := by
  have hrange := @readBack_inRange t order n hint
  cases t with
  | int64 | uint64 => exact absurd rfl ht
  | int16 | uint16 | int32 | uint32 | bcd16 => simp only [InTypeRange] at hrange; omega
  | float32 | bool | float64 | bitfield16 | ascii => cases hint

/-- The words of `llround x` come back to within 1/2 of `x` exactly when an
encodable integer there has the low bits of `llround x`. -/
theorem readBack_llround_iff (ht : isInteger t = true) (rest : CFloat → Int64) (x : ℚ) :
    |(readBack t order (llround rest (.fin x)) : ℚ) - x| ≤ 1 / 2 ↔
      ∃ n : Int, Encodable t order n ∧ |(n : ℚ) - x| ≤ 1 / 2 ∧
        lowBits 64 n = lowBits 64 (llround rest (.fin x)) := by
  constructor
  · intro hnear
    by_cases hfour : modbusRegisterCountForType t = 4
    · refine ⟨_, ⟨readBack_inRange ht, fun hone => ?_⟩, hnear, lowBits_readBack hfour ht⟩
      rw [hfour] at hone
      cases hone
    · -- The value read back is small, so `llround` was in range and is next to it.
      have hsmall := @readBack_small t order (llround rest (.fin x)) hfour ht
      have hround := abs_le.1 (roundHalfAway_near x)
      have hclose := abs_le.1 hnear
      have hdiff : |readBack t order (llround rest (.fin x)) - roundHalfAway x| ≤ 1 := by
        have : |((readBack t order (llround rest (.fin x)) - roundHalfAway x : Int) : ℚ)| ≤ 1 := by
          push_cast
          rw [abs_le]
          constructor <;> linarith
        exact_mod_cast this
      have hL : llround rest (.fin x) = roundHalfAway x := by
        rw [abs_le] at hdiff
        exact if_pos (by omega)
      have henc : Encodable t order (llround rest (.fin x)) :=
        encodable_of_near ht (by rw [← hL] at hdiff; exact hdiff)
      rw [readBack_of_encodable ht henc] at hnear
      exact ⟨_, henc, hnear, rfl⟩
  · rintro ⟨n, henc, hnear, hlow⟩
    have hback : readBack t order (llround rest (.fin x)) = n := by
      rw [← readBack_congr hlow, readBack_of_encodable ht henc]
    rw [hback]
    exact hnear

/-- Where `llround` is specified, that integer is the rounded value. -/
theorem exists_encodable_iff (ht : isInteger t = true) (rest : CFloat → Int64) {x : ℚ}
    (hx : -2 ^ 63 ≤ roundHalfAway x ∧ roundHalfAway x < 2 ^ 63) :
    (∃ n : Int, Encodable t order n ∧ |(n : ℚ) - x| ≤ 1 / 2 ∧
      lowBits 64 n = lowBits 64 (llround rest (.fin x))) ↔
      Encodable t order (roundHalfAway x) := by
  have hL : llround rest (.fin x) = roundHalfAway x := if_pos hx
  rw [hL]
  constructor
  · rintro ⟨n, henc, hnear, hlow⟩
    have hback : readBack t order (roundHalfAway x) = n := by
      rw [← readBack_congr hlow, readBack_of_encodable ht henc]
    have hround := abs_le.1 (roundHalfAway_near x)
    have hclose := abs_le.1 hnear
    apply encodable_of_near ht
    have : |((readBack t order (roundHalfAway x) - roundHalfAway x : Int) : ℚ)| ≤ 1 := by
      rw [hback]
      push_cast
      rw [abs_le]
      constructor <;> linarith
    exact_mod_cast this
  · exact fun henc => ⟨_, henc, roundHalfAway_near x, rfl⟩

end ReadBack

/-! ## Engineering values -/

/-- The value of the next poll: the words decoded and enriched. -/
def nextValue (m : AmmMappingEntry) (words : List UInt16) : CFloat :=
  (enrichWith m { TcmContext.zero with
    value := modbusConvertToNumber words m.dataType m.byteOrder m.bitIndex }).value

/-- A constraint with its range widened by `h` on both sides. -/
def widened (c : ControlConstraint) (h : ℚ) : ControlConstraint :=
  { c with
    validRangeMin := c.validRangeMin.sub (.fin h)
    validRangeMax := c.validRangeMax.add (.fin h) }

/-- The words come back as a value within half a step of `v`, and within half a
step of the range. -/
def ComesBack (m : AmmMappingEntry) (s : ℚ) (v : CFloat) (words : List UInt16) : Prop :=
  ∃ q y, v = .fin q ∧ nextValue m words = .fin y ∧ |y - q| ≤ |s| / 2 ∧
    outOfRange (.fin y) (widened m.constraint (|s| / 2)) = false

/-- A mapping of scale `s` and offset `o` can carry `q`: with a scale of 0 only the
offset itself; else an encodable integer is within 1/2 of the raw value, and
`llround` returns it modulo 2 ^ 64. -/
def Carries (rest : CFloat → Int64) (m : AmmMappingEntry) (s o q : ℚ) : Prop :=
  if s = 0 then q = o
  else ∃ n : Int, Encodable m.dataType m.byteOrder n ∧ |(n : ℚ) - (q - o) / s| ≤ 1 / 2 ∧
    lowBits 64 n = lowBits 64 (llround rest (.fin ((q - o) / s)))

theorem not_outOfRange_widened {c : ControlConstraint} {q y h : ℚ}
    (hq : outOfRange (.fin q) c = false) (hy : |y - q| ≤ h) :
    outOfRange (.fin y) (widened c h) = false := by
  rw [abs_le] at hy
  unfold outOfRange at hq ⊢
  rw [Bool.or_eq_false_iff] at hq ⊢
  obtain ⟨hmin, hmax⟩ := hq
  constructor
  · cases hc : c.validRangeMin with
    | fin p =>
      rw [hc] at hmin
      simp only [CFloat.lt, decide_eq_false_iff_not, not_lt] at hmin
      simp only [widened, hc, CFloat.sub, CFloat.neg, CFloat.add, CFloat.lt,
        decide_eq_false_iff_not, not_lt]
      linarith
    | inf neg =>
      rw [hc] at hmin
      cases neg with
      | true => simp [widened, hc, CFloat.sub, CFloat.neg, CFloat.add, CFloat.lt]
      | false => cases hmin
    | nan => simp [widened, hc, CFloat.sub, CFloat.neg, CFloat.add, CFloat.lt]
  · cases hc : c.validRangeMax with
    | fin p =>
      rw [hc] at hmax
      simp only [CFloat.lt, decide_eq_false_iff_not, not_lt] at hmax
      simp only [widened, hc, CFloat.add, CFloat.lt, decide_eq_false_iff_not, not_lt]
      linarith
    | inf neg =>
      rw [hc] at hmax
      cases neg with
      | true => cases hmax
      | false => simp [widened, hc, CFloat.add, CFloat.lt]
    | nan => simp [widened, hc, CFloat.add, CFloat.lt]

section Values

variable {env : ControlEnv} {m : AmmMappingEntry} {s o q : ℚ}

theorem encodeValue_integer (ht : isInteger m.dataType = true) (v : CFloat) :
    encodeValue env v m = intWords m.dataType m.byteOrder
      (llround env.llroundRest (rawOf v m)) := by
  unfold encodeValue intWords
  cases hd : m.dataType <;> first | rfl | (rw [hd] at ht; cases ht)

theorem convert_intWords {t : DataType} (ht : isInteger t = true) (order : ByteOrder)
    (bitIndex : UInt8) (n : Int) :
    modbusConvertToNumber (intWords t order n) t order bitIndex = .fin (readBack t order n) := by
  cases t with
  | float32 | bool | float64 | bitfield16 | ascii => cases ht
  | int16 | int32 | int64 => rfl
  | uint16 | uint32 | uint64 | bcd16 =>
    simp only [modbusConvertToNumber, readBack]
    rw [Int.cast_natCast]

theorem rawOf_fin (hs : m.scaleFactor = .fin s) (ho : m.offset = .fin o) :
    rawOf (.fin q) m = .fin ((q - o) / if s = 0 then 1 else s) := by
  unfold rawOf
  rw [hs, ho]
  by_cases h : s = 0
  · simp [h, CFloat.sub, CFloat.neg, CFloat.add, CFloat.div, sub_eq_add_neg]
  · simp [h, CFloat.sub, CFloat.neg, CFloat.add, CFloat.div, sub_eq_add_neg]

theorem nextValue_intWords (ht : isInteger m.dataType = true) (hs : m.scaleFactor = .fin s)
    (ho : m.offset = .fin o) (n : Int) :
    nextValue m (intWords m.dataType m.byteOrder n) =
      .fin (readBack m.dataType m.byteOrder n * s + o) := by
  simp only [nextValue, enrichWith, convert_intWords ht, hs, ho, CFloat.mul, CFloat.add]

/-- What is sent for a value in range comes back exactly when the mapping
carries the value. -/
theorem comesBack_iff (ht : isInteger m.dataType = true) (hs : m.scaleFactor = .fin s)
    (ho : m.offset = .fin o) (hrange : outOfRange (.fin q) m.constraint = false) :
    ComesBack m s (.fin q) (encodeValue env (.fin q) m) ↔ Carries env.llroundRest m s o q := by
  have hnext := nextValue_intWords ht hs ho (llround env.llroundRest (rawOf (.fin q) m))
  have hclose : ComesBack m s (.fin q) (encodeValue env (.fin q) m) ↔
      |(readBack m.dataType m.byteOrder (llround env.llroundRest (rawOf (.fin q) m)) : ℚ) * s +
        o - q| ≤ |s| / 2 := by
    rw [encodeValue_integer ht]
    constructor
    · rintro ⟨q', y, hq, hy, hnear, -⟩
      obtain rfl := CFloat.fin.inj hq
      rw [hnext] at hy
      obtain rfl := CFloat.fin.inj hy
      exact hnear
    · intro hnear
      exact ⟨q, _, rfl, hnext, hnear, not_outOfRange_widened hrange hnear⟩
  rw [hclose, rawOf_fin hs ho, Carries]
  by_cases hzero : s = 0
  · rw [if_pos hzero, hzero]
    simp only [mul_zero, zero_add, abs_zero, zero_div, abs_nonpos_iff, sub_eq_zero]
    exact eq_comm
  · rw [if_neg hzero, if_neg hzero, ← readBack_llround_iff ht]
    generalize (readBack m.dataType m.byteOrder _ : ℚ) = y
    have hfactor : y * s + o - q = s * (y - (q - o) / s) := by
      field_simp
      ring
    have hpos : 0 < |s| := abs_pos.2 hzero
    have hhalf : |s| / 2 = |s| * (1 / 2) := by ring
    rw [hfactor, abs_mul, hhalf, mul_le_mul_iff_right₀ hpos]

/-- **The value written is the value requested.** For every writable integer
mapping with finite scale and offset, a call either sends words that come back
to the value, or sends nothing and ends in an error, exactly when the mapping
carries the value or the call is turned away. -/
theorem written_value_iff {a : AmmTable} {deviceId pointId : CStr} {v : CFloat}
    {source : ControlSource} {answer : EspErr}
    (hfind : ammFindMappingByPoint deviceId pointId a = some m)
    (hwritable : m.constraint.writable = true) (ht : isInteger m.dataType = true)
    (hs : m.scaleFactor = .fin s) (ho : m.offset = .fin o) :
    ((∀ w, (controlServiceWritePoint env a deviceId pointId v source answer).2 = some w →
        ComesBack m s v w.words) ∧
      ((controlServiceWritePoint env a deviceId pointId v source answer).2 = none →
        (controlServiceWritePoint env a deviceId pointId v source answer).1.status ≠ .ok)) ↔
      ∀ q, v = .fin q → controlSourceMayWrite env source = true →
        outOfRange v m.constraint = false → Carries env.llroundRest m s o q := by
  have hne : encodeValue env v m ≠ [] := by
    rw [ne_eq, encodeValue_eq_nil_iff]
    rintro (hbits | hascii)
    · rw [hbits] at ht
      cases ht
    · rw [hascii] at ht
      cases ht
  constructor
  · rintro ⟨hback, -⟩ q rfl hsource hrange
    have hcheck : checkWrite env a deviceId pointId (.fin q) source =
        .ok (m, encodeValue env (.fin q) m) :=
      checkWrite_ok.2 ⟨rfl, hsource, hfind, hwritable, hrange, hne, rfl⟩
    have hsent : (controlServiceWritePoint env a deviceId pointId (.fin q) source answer).2 =
        some (writeOf m (encodeValue env (.fin q) m)) :=
      controlServiceWritePoint_sent.2 ⟨m, _, hcheck, rfl⟩
    exact (comesBack_iff ht hs ho hrange).1 (hback _ hsent)
  · refine fun h => ⟨fun w hsent => ?_, not_ok_of_not_sent⟩
    obtain ⟨m', words, hcheck, rfl⟩ := controlServiceWritePoint_sent.1 hsent
    obtain ⟨hfin, hsource, hfind', -, hrange, -, rfl⟩ := checkWrite_ok.1 hcheck
    obtain rfl : m = m' := Option.some.inj (hfind.symm.trans hfind')
    obtain ⟨q, rfl⟩ := CFloat.isFinite_iff.1 hfin
    exact (comesBack_iff ht hs ho hrange).2 (h q rfl hsource hrange)

end Values

/-! ## A set point beyond the type -/

/-- A holding register of 16 bits with the range 0 to 100000, as a caller adds it. -/
def wideSetpoint : AmmMappingEntry :=
  { AmmMappingEntry.zero with
    slaveId := 5
    functionCode := 3
    dataType := .uint16
    scaleFactor := .fin 1
    deviceId := .copy 32 "d".toList
    pointId := .copy 32 "p".toList
    constraint := { writable := true, validRangeMin := .fin 0, validRangeMax := .fin 100000 } }

def wideTable : AmmTable := (ammAddMapping .ok wideSetpoint (.empty 1000)).2

def storedSetpoint : AmmMappingEntry := (AmmTable.empty 1000).stored wideSetpoint

def plainControl : ControlEnv := ⟨false, fun _ => 0⟩

theorem setpoint_comes_back :
    (∀ w, (controlServiceWritePoint plainControl wideTable "d".toList "p".toList (.fin 500) .mqtt
        .ok).2 = some w → ComesBack storedSetpoint 1 (.fin 500) w.words) ∧
      ((controlServiceWritePoint plainControl wideTable "d".toList "p".toList (.fin 500) .mqtt
        .ok).2 = none → (controlServiceWritePoint plainControl wideTable "d".toList "p".toList
          (.fin 500) .mqtt .ok).1.status ≠ .ok) := by
  apply (written_value_iff (m := storedSetpoint) (s := 1) (o := 0) (by decide +kernel)
    (by decide +kernel) (by decide +kernel) (by decide +kernel) (by decide +kernel)).2
  intro q hq _ _
  obtain rfl := CFloat.fin.inj hq
  exact ⟨500, ⟨by decide +kernel, by decide +kernel⟩, by norm_num, by decide +kernel⟩

/-- The value 70000 is accepted and comes back as 4464. -/
theorem setpoint_wraps : Reachable wideTable ∧
    ammFindMappingByPoint "d".toList "p".toList wideTable = some storedSetpoint ∧
    storedSetpoint.constraint.writable = true ∧ isInteger storedSetpoint.dataType = true ∧
    ¬ ((∀ w, (controlServiceWritePoint plainControl wideTable "d".toList "p".toList (.fin 70000)
          .mqtt .ok).2 = some w → ComesBack storedSetpoint 1 (.fin 70000) w.words) ∧
        ((controlServiceWritePoint plainControl wideTable "d".toList "p".toList (.fin 70000)
          .mqtt .ok).2 = none → (controlServiceWritePoint plainControl wideTable "d".toList
            "p".toList (.fin 70000) .mqtt .ok).1.status ≠ .ok)) := by
  refine ⟨.add _ _ (.empty _), by decide +kernel, by decide +kernel, by decide +kernel,
    fun h => ?_⟩
  have hsent : (controlServiceWritePoint plainControl wideTable "d".toList "p".toList
      (.fin 70000) .mqtt .ok).2 = some ⟨.modbusRtu, 0, 5, 6, 0, [4464]⟩ := by decide +kernel
  obtain ⟨q, y, hq, hy, hnear, -⟩ := h.1 _ hsent
  obtain rfl := CFloat.fin.inj hq
  have hread : nextValue storedSetpoint [4464] = .fin 4464 := by decide +kernel
  obtain rfl := CFloat.fin.inj (hread.symm.trans hy)
  norm_num [abs_le] at hnear

end McpGateway.Services
