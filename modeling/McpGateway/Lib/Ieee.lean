import McpGateway.Lib.CFloat

/-!
# IEEE formats and `llround`

The bits of a binary format with `e` exponent and `m` fraction bits, read and
written; a value that was read is written without loss. And `llround`, whose
result outside the range of `long long` the C standard leaves open.
-/

namespace McpGateway.Lib

/-- The value of the `1 + e + m` low bits of `bits`. -/
def ieeeDecode (e m bits : Nat) : CFloat :=
  let neg := bits / 2 ^ (e + m) % 2 = 1
  let exponent := bits / 2 ^ m % 2 ^ e
  let fraction := bits % 2 ^ m
  if exponent = 2 ^ e - 1 then if fraction = 0 then .inf neg else .nan
  else
    let significand : ℚ := if exponent = 0 then fraction else fraction + 2 ^ m
    let scale : ℤ := max exponent 1 - (2 ^ (e - 1) - 1) - m
    .fin ((if neg then -1 else 1) * significand * (2 : ℚ) ^ scale)

/-- The bits of the nearest value of the format, ties to even. -/
def ieeeEncode (e m : Nat) : CFloat → Nat
  | .nan => (2 ^ e - 1) * 2 ^ m + 2 ^ (m - 1)
  | .inf neg => (if neg then 2 ^ (e + m) else 0) + (2 ^ e - 1) * 2 ^ m
  | .fin q =>
    if q = 0 then 0
    else
      let bias : ℤ := 2 ^ (e - 1) - 1
      let k := max (Int.log 2 |q|) (1 - bias)
      let n := nearbyint (|q| / (2 : ℚ) ^ (k - m))
      -- A significand that rounds up to the next power carries into the exponent.
      let magnitude := ((k + bias - 1) * 2 ^ m + n).toNat
      (if q < 0 then 2 ^ (e + m) else 0) + min magnitude ((2 ^ e - 1) * 2 ^ m)

example : ieeeEncode 8 23 (.fin (-5 / 2)) = 0xC0200000 := by decide +kernel
example : ieeeDecode 8 23 0xC0200000 = .fin (-5 / 2) := by decide +kernel

/-! ## Reading back what was written -/

theorem nearbyint_natCast (n : Nat) : nearbyint (n : ℚ) = n := by
  have hfloor : ⌊(n : ℚ)⌋ = n := Int.floor_natCast n
  simp only [nearbyint, hfloor]
  rw [if_pos]
  simp

section Fields

variable {e m : Nat}

def ieeeBits (e m : Nat) (neg : Bool) (exponent fraction : Nat) : Nat :=
  (if neg then 2 ^ (e + m) else 0) + (exponent * 2 ^ m + fraction)

def ieeeSignificand (m exponent fraction : Nat) : Nat :=
  if exponent = 0 then fraction else fraction + 2 ^ m

/-- The power of two of the leading digit; the same for the subnormal values. -/
def ieeeExponent (e exponent : Nat) : ℤ := (max exponent 1 : Nat) - (2 ^ (e - 1) - 1)

def ieeeMagnitude (e m exponent fraction : Nat) : ℚ :=
  ieeeSignificand m exponent fraction * (2 : ℚ) ^ (ieeeExponent e exponent - m)

theorem ieeeSignificand_cast (m exponent fraction : Nat) :
    (ieeeSignificand m exponent fraction : ℚ) =
      if exponent = 0 then (fraction : ℚ) else fraction + 2 ^ m := by
  unfold ieeeSignificand
  split <;> push_cast <;> rfl

theorem ieeeBits_fields {exponent fraction : Nat} (he : exponent < 2 ^ e) (hf : fraction < 2 ^ m)
    (neg : Bool) : ieeeBits e m neg exponent fraction / 2 ^ (e + m) % 2 = neg.toNat ∧
      ieeeBits e m neg exponent fraction / 2 ^ m % 2 ^ e = exponent ∧
      ieeeBits e m neg exponent fraction % 2 ^ m = fraction := by
  have hm : 0 < 2 ^ m := Nat.two_pow_pos m
  have hlow : exponent * 2 ^ m + fraction < 2 ^ (e + m) := by
    have h := Nat.mul_le_mul_right (2 ^ m) (Nat.succ_le_of_lt he)
    rw [Nat.pow_add]
    rw [Nat.succ_mul] at h
    omega
  have hhigh : ieeeBits e m neg exponent fraction =
      neg.toNat * 2 ^ (e + m) + (exponent * 2 ^ m + fraction) := by
    cases neg <;> simp [ieeeBits]
  have hmid : ieeeBits e m neg exponent fraction =
      (neg.toNat * 2 ^ e + exponent) * 2 ^ m + fraction := by
    rw [hhigh, Nat.pow_add]
    ring
  refine ⟨?_, ?_, ?_⟩
  · rw [hhigh, Nat.add_comm, Nat.add_mul_div_right _ _ (Nat.two_pow_pos _), Nat.div_eq_of_lt hlow]
    cases neg <;> rfl
  · rw [hmid, Nat.add_comm, Nat.add_mul_div_right _ _ hm, Nat.div_eq_of_lt hf, Nat.zero_add,
      Nat.add_comm, Nat.add_mul_mod_self_right, Nat.mod_eq_of_lt he]
  · rw [hmid, Nat.add_comm, Nat.add_mul_mod_self_right, Nat.mod_eq_of_lt hf]

theorem ieeeDecode_bits {exponent fraction : Nat} (he : exponent < 2 ^ e) (hf : fraction < 2 ^ m)
    (neg : Bool) : ieeeDecode e m (ieeeBits e m neg exponent fraction) =
      if exponent = 2 ^ e - 1 then if fraction = 0 then .inf neg else .nan
      else .fin ((if neg then -1 else 1) * ieeeMagnitude e m exponent fraction) := by
  obtain ⟨hneg, hexp, hfrac⟩ := ieeeBits_fields he hf neg
  simp only [ieeeDecode, hneg, hexp, hfrac, ieeeMagnitude, ieeeSignificand_cast, ieeeExponent,
    mul_assoc]
  cases neg with
  | false => simp only [Bool.toNat_false, zero_ne_one, if_false, Bool.false_eq_true, decide_false]
  | true => simp only [Bool.toNat_true, if_true, decide_true]

theorem ieeeDecode_eq (bits : Nat) : ∃ neg exponent fraction, exponent < 2 ^ e ∧ fraction < 2 ^ m ∧
    ieeeDecode e m bits = ieeeDecode e m (ieeeBits e m neg exponent fraction) := by
  refine ⟨decide (bits / 2 ^ (e + m) % 2 = 1), bits / 2 ^ m % 2 ^ e, bits % 2 ^ m,
    Nat.mod_lt _ (Nat.two_pow_pos e), Nat.mod_lt _ (Nat.two_pow_pos m), ?_⟩
  rw [ieeeDecode_bits (Nat.mod_lt _ (Nat.two_pow_pos e)) (Nat.mod_lt _ (Nat.two_pow_pos m))]
  simp only [ieeeDecode, ieeeMagnitude, ieeeSignificand_cast, ieeeExponent, decide_eq_true_eq,
    mul_assoc]


theorem log_of_bounds {q : ℚ} {z : ℤ} (hlow : (2 : ℚ) ^ z ≤ q) (hhigh : q < (2 : ℚ) ^ (z + 1)) :
    Int.log 2 q = z := by
  have hq : 0 < q := lt_of_lt_of_le (zpow_pos (by norm_num) z) hlow
  have hle := (Int.zpow_le_iff_le_log (b := 2) (by norm_num) hq).1 (by exact_mod_cast hlow)
  have hlt := (Int.lt_zpow_iff_log_lt (b := 2) (by norm_num) hq).1 (by exact_mod_cast hhigh)
  omega

theorem ieeeMagnitude_pos {exponent fraction : Nat} (hpos : exponent ≠ 0 ∨ fraction ≠ 0) :
    0 < ieeeMagnitude e m exponent fraction := by
  have hsig : 0 < ieeeSignificand m exponent fraction := by
    unfold ieeeSignificand
    split
    · omega
    · exact Nat.add_pos_right _ (Nat.two_pow_pos m)
  exact mul_pos (by exact_mod_cast hsig) (zpow_pos (by norm_num) _)

/-- A significand below `2 ^ j` keeps the magnitude below the matching power. -/
theorem ieeeMagnitude_lt {exponent fraction j : Nat}
    (hsig : ieeeSignificand m exponent fraction < 2 ^ j) :
    ieeeMagnitude e m exponent fraction < (2 : ℚ) ^ (ieeeExponent e exponent - m + j) := by
  have hlt : (ieeeSignificand m exponent fraction : ℚ) < (2 : ℚ) ^ (j : ℤ) := by
    exact_mod_cast hsig
  calc ieeeMagnitude e m exponent fraction
      < (2 : ℚ) ^ (j : ℤ) * (2 : ℚ) ^ (ieeeExponent e exponent - m) :=
        mul_lt_mul_of_pos_right hlt (zpow_pos (by norm_num) _)
    _ = (2 : ℚ) ^ (ieeeExponent e exponent - m + j) := by
      rw [← zpow_add₀ (by norm_num), add_comm]

theorem ieeeMagnitude_log {exponent fraction : Nat} (hf : fraction < 2 ^ m)
    (hpos : exponent ≠ 0 ∨ fraction ≠ 0) :
    max (Int.log 2 (ieeeMagnitude e m exponent fraction)) (1 - (2 ^ (e - 1) - 1)) =
      ieeeExponent e exponent := by
  have hmag : 0 < ieeeMagnitude e m exponent fraction := ieeeMagnitude_pos hpos
  by_cases hzero : exponent = 0
  · have hsig : ieeeSignificand m exponent fraction < 2 ^ m := by
      rw [ieeeSignificand, if_pos hzero]
      exact hf
    have hlt := ieeeMagnitude_lt (e := e) hsig
    have hlog := (Int.lt_zpow_iff_log_lt (b := 2) (by norm_num) hmag).1 (by exact_mod_cast hlt)
    have hexp : ieeeExponent e exponent = 1 - (2 ^ (e - 1) - 1) := by
      rw [ieeeExponent, hzero]
      rfl
    omega
  · have hsigeq : ieeeSignificand m exponent fraction = fraction + 2 ^ m := if_neg hzero
    have hexp : Int.log 2 (ieeeMagnitude e m exponent fraction) = ieeeExponent e exponent := by
      apply log_of_bounds
      · have hle : (2 : ℚ) ^ (m : ℤ) ≤ ieeeSignificand m exponent fraction := by
          rw [hsigeq]
          exact_mod_cast Nat.le_add_left _ _
        calc (2 : ℚ) ^ ieeeExponent e exponent
            = (2 : ℚ) ^ (m : ℤ) * (2 : ℚ) ^ (ieeeExponent e exponent - m) := by
              rw [← zpow_add₀ (by norm_num)]
              congr 1
              omega
          _ ≤ ieeeMagnitude e m exponent fraction :=
            mul_le_mul_of_nonneg_right hle (zpow_pos (by norm_num) _).le
      · have hsig : ieeeSignificand m exponent fraction < 2 ^ (m + 1) := by
          rw [hsigeq, Nat.pow_succ]
          omega
        refine lt_of_lt_of_eq (ieeeMagnitude_lt hsig) ?_
        congr 1
        push_cast
        omega
    have hone : 1 - (2 ^ (e - 1) - 1) ≤ ieeeExponent e exponent := by
      have hle : (1 : ℤ) ≤ (max exponent 1 : Nat) := by omega
      rw [ieeeExponent]
      omega
    omega

theorem ieeeEncode_magnitude {exponent fraction : Nat} (he : exponent + 1 < 2 ^ e)
    (hf : fraction < 2 ^ m) (hpos : exponent ≠ 0 ∨ fraction ≠ 0) (neg : Bool) :
    ieeeEncode e m (.fin ((if neg then -1 else 1) * ieeeMagnitude e m exponent fraction)) =
      ieeeBits e m neg exponent fraction := by
  have hmag : 0 < ieeeMagnitude e m exponent fraction := ieeeMagnitude_pos hpos
  have hround : nearbyint (ieeeMagnitude e m exponent fraction /
      (2 : ℚ) ^ (ieeeExponent e exponent - m)) = ieeeSignificand m exponent fraction := by
    rw [ieeeMagnitude, mul_div_cancel_right₀ _ (zpow_pos (by norm_num) _).ne', nearbyint_natCast]
  have habs : |(if neg then -1 else 1) * ieeeMagnitude e m exponent fraction| =
      ieeeMagnitude e m exponent fraction := by
    cases neg <;> simp [abs_of_pos hmag]
  have hne : (if neg then -1 else 1) * ieeeMagnitude e m exponent fraction ≠ 0 := by
    cases neg <;> simp [hmag.ne']
  have hsign : (if neg then -1 else 1) * ieeeMagnitude e m exponent fraction < 0 ↔ neg = true := by
    cases neg <;> simp [hmag, hmag.le]
  have hcode : ((ieeeExponent e exponent + (2 ^ (e - 1) - 1) - 1) * 2 ^ m +
      ieeeSignificand m exponent fraction).toNat = exponent * 2 ^ m + fraction := by
    have hint : (ieeeExponent e exponent + (2 ^ (e - 1) - 1) - 1) * 2 ^ m +
        ieeeSignificand m exponent fraction = ((exponent * 2 ^ m + fraction : Nat) : ℤ) := by
      rw [ieeeExponent, ieeeSignificand]
      split
      · rename_i hzero
        simp [hzero]
      · rename_i hzero
        have hmax : max exponent 1 = exponent := by omega
        rw [hmax]
        push_cast
        ring
    rw [hint, Int.toNat_natCast]
  have hbelow : exponent * 2 ^ m + fraction ≤ (2 ^ e - 1) * 2 ^ m := by
    have h := Nat.mul_le_mul_right (2 ^ m) (show exponent + 1 ≤ 2 ^ e - 1 by omega)
    rw [Nat.succ_mul] at h
    omega
  simp only [ieeeEncode, if_neg hne, habs, hsign]
  rw [ieeeMagnitude_log hf hpos, hround, hcode, Nat.min_eq_left hbelow]
  rfl

/-- **A value of the format is encoded without loss.** -/
theorem ieeeDecode_encode_decode (hm : 0 < m) (he : 0 < e) (bits : Nat) :
    ieeeDecode e m (ieeeEncode e m (ieeeDecode e m bits)) = ieeeDecode e m bits := by
  obtain ⟨neg, exponent, fraction, hexp, hfrac, hbits⟩ := ieeeDecode_eq (e := e) (m := m) bits
  have hpow : 2 ≤ 2 ^ e := by
    calc 2 = 2 ^ 1 := rfl
      _ ≤ 2 ^ e := Nat.pow_le_pow_right (by norm_num) he
  rw [hbits, ieeeDecode_bits hexp hfrac]
  by_cases hspecial : exponent = 2 ^ e - 1
  · rw [if_pos hspecial]
    split
    · have hinf : ieeeEncode e m (.inf neg) = ieeeBits e m neg (2 ^ e - 1) 0 := rfl
      rw [hinf, ieeeDecode_bits (by omega) (Nat.two_pow_pos m), if_pos rfl, if_pos rfl]
    · have hnan : ieeeEncode e m .nan = ieeeBits e m false (2 ^ e - 1) (2 ^ (m - 1)) :=
        (Nat.zero_add _).symm
      have hlt : 2 ^ (m - 1) < 2 ^ m := Nat.pow_lt_pow_right (by norm_num) (by omega)
      rw [hnan, ieeeDecode_bits (by omega) hlt, if_pos rfl, if_neg (Nat.two_pow_pos _).ne']
  · rw [if_neg hspecial]
    by_cases hzero : exponent = 0 ∧ fraction = 0
    · have hnone : ∀ neg : Bool, (if neg then -1 else 1) * ieeeMagnitude e m 0 0 = 0 := by
        intro neg
        simp [ieeeMagnitude, ieeeSignificand]
      have hcode : ieeeEncode e m (.fin 0) = ieeeBits e m false 0 0 := by
        simp [ieeeEncode, ieeeBits]
      rw [hzero.1, hzero.2, hnone, hcode,
        ieeeDecode_bits (Nat.two_pow_pos e) (Nat.two_pow_pos m),
        if_neg (show ¬ 0 = 2 ^ e - 1 by omega), hnone]
    · have hpos : exponent ≠ 0 ∨ fraction ≠ 0 := by omega
      rw [ieeeEncode_magnitude (by omega) hfrac hpos, ieeeDecode_bits hexp hfrac,
        if_neg hspecial]

end Fields

/-- `(float)x`. -/
def toFloat (x : CFloat) : CFloat := ieeeDecode 8 23 (ieeeEncode 8 23 x)

theorem toFloat_zero : toFloat (.fin 0) = .fin 0 := by
  rw [toFloat, ieeeEncode, if_pos rfl]
  simp [ieeeDecode]

/-- **A `float` converts to itself.** -/
@[simp] theorem toFloat_toFloat (x : CFloat) : toFloat (toFloat x) = toFloat x :=
  ieeeDecode_encode_decode (by norm_num) (by norm_num) _

def roundHalfAway (q : ℚ) : Int := if 0 ≤ q then ⌊q + 1 / 2⌋ else -⌊-q + 1 / 2⌋

/-- `llround`; `rest` is what it returns where its result is unspecified. -/
def llround (rest : CFloat → Int64) (x : CFloat) : Int :=
  match x with
  | .fin q =>
    let r := roundHalfAway q
    if -2 ^ 63 ≤ r ∧ r < 2 ^ 63 then r else (rest x).toInt
  | _ => (rest x).toInt

theorem roundHalfAway_near (q : ℚ) : |(roundHalfAway q : ℚ) - q| ≤ 1 / 2 := by
  unfold roundHalfAway
  split
  · have h1 := Int.floor_le (q + 1 / 2)
    have h2 := Int.lt_floor_add_one (q + 1 / 2)
    rw [abs_le]
    constructor <;> linarith
  · have h1 := Int.floor_le (-q + 1 / 2)
    have h2 := Int.lt_floor_add_one (-q + 1 / 2)
    push_cast
    rw [abs_le]
    constructor <;> linarith

@[simp] theorem roundHalfAway_int (n : Int) : roundHalfAway n = n := by
  have hnear := abs_le.1 (roundHalfAway_near n)
  have hlow : ((n - 1 : Int) : ℚ) < roundHalfAway n := by
    push_cast
    linarith
  have hhigh : (roundHalfAway n : ℚ) < ((n + 1 : Int) : ℚ) := by
    push_cast
    linarith
  have hlow' : n - 1 < roundHalfAway n := by exact_mod_cast hlow
  have hhigh' : roundHalfAway n < n + 1 := by exact_mod_cast hhigh
  omega

theorem llround_int (rest : CFloat → Int64) {n : Int} (h : -2 ^ 63 ≤ n ∧ n < 2 ^ 63) :
    llround rest (.fin n) = n := by
  simp only [llround, roundHalfAway_int, if_pos h]

end McpGateway.Lib
