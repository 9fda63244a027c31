import Mathlib.Algebra.Order.Ring.Nat
import Mathlib.Data.Fin.Basic
import Mathlib.Data.Nat.Bitwise
import Mathlib.Data.UInt
import Mathlib.Order.Lattice
import Mathlib.Tactic.Linarith
import McpGateway.Lib.Words

/-!
# Words and bits in bytes

Sixteen-bit words as two bytes each, most significant first, and bits packed
into bytes, least significant first. `wordAt_wordBytes` and `bitAt_packBits`
read back what was put in.
-/

namespace McpGateway.Lib

/-! ## Words -/

def highByte (w : UInt16) : UInt8 := (w >>> 8).toUInt8
def lowByte (w : UInt16) : UInt8 := w.toUInt8

/-- `(uint16_t)high << 8 | low`. -/
def beWord (high low : UInt8) : UInt16 := high.toUInt16 <<< 8 ||| low.toUInt16

def wordBytes (ws : List UInt16) : List UInt8 := ws.flatMap fun w => [highByte w, lowByte w]

/-- The `i`-th word of the bytes. -/
def wordAt (bytes : List UInt8) (i : Nat) : Option UInt16 :=
  match bytes[2 * i]?, bytes[2 * i + 1]? with
  | some high, some low => some (beWord high low)
  | _, _ => none

theorem beWord_toNat (high low : UInt8) :
    (beWord high low).toNat = high.toNat * 256 + low.toNat := by
  have hhigh := high.toNat_lt
  have hlow : low.toNat < 2 ^ 8 := low.toNat_lt
  have hshift : high.toNat <<< 8 % 2 ^ 16 = high.toNat <<< 8 := by
    rw [Nat.shiftLeft_eq]
    omega
  have hor := Nat.shiftLeft_add_eq_or_of_lt hlow high.toNat
  simp only [beWord, UInt16.toNat_or, UInt16.toNat_shiftLeft, UInt8.toNat_toUInt16]
  show (high.toNat <<< 8 % 2 ^ 16) ||| low.toNat = _
  rw [hshift, ← hor, Nat.shiftLeft_eq]

theorem highByte_toNat (w : UInt16) : (highByte w).toNat = w.toNat / 256 := by
  have hw := w.toNat_lt
  unfold highByte
  rw [UInt16.toNat_toUInt8, UInt16.toNat_shiftRight]
  show w.toNat >>> 8 % 2 ^ 8 = _
  rw [Nat.shiftRight_eq_div_pow]
  omega

theorem lowByte_toNat (w : UInt16) : (lowByte w).toNat = w.toNat % 256 :=
  UInt16.toNat_toUInt8 w

@[simp] theorem beWord_bytes (w : UInt16) : beWord (highByte w) (lowByte w) = w := by
  apply UInt16.toNat_inj.1
  rw [beWord_toNat, highByte_toNat, lowByte_toNat]
  omega

@[simp] theorem wordBytes_length (ws : List UInt16) : (wordBytes ws).length = 2 * ws.length := by
  induction ws with
  | nil => rfl
  | cons w ws ih =>
    show (highByte w :: lowByte w :: wordBytes ws).length = _
    rw [List.length_cons, List.length_cons, ih, List.length_cons]
    omega

theorem wordAt_wordBytes (ws : List UInt16) (i : Nat) : wordAt (wordBytes ws) i = ws[i]? := by
  induction ws generalizing i with
  | nil => rfl
  | cons w ws ih =>
    cases i with
    | zero =>
      show some (beWord (highByte w) (lowByte w)) = _
      rw [beWord_bytes]
      rfl
    | succ i => exact ih i

/-! ## Bits -/

/-- `bytes[i / 8] |= 1U << (i % 8)`. -/
def orBit (bytes : List UInt8) (i : Nat) : List UInt8 :=
  bytes.modify (i / 8) fun b => b ||| 1 <<< UInt8.ofNat (i % 8)

/-- The bits from the `i`-th on, put into the bytes one by one. -/
def packBits : List Bool → Nat → List UInt8 → List UInt8
  | [], _, bytes => bytes
  | b :: bs, i, bytes => packBits bs (i + 1) (if b then orBit bytes i else bytes)

/-- The `i`-th bit of the bytes. -/
def bitAt (bytes : List UInt8) (i : Nat) : Option Bool :=
  bytes[i / 8]?.map fun b => b.toNat.testBit (i % 8)

@[simp] theorem orBit_length (bytes : List UInt8) (i : Nat) :
    (orBit bytes i).length = bytes.length := List.length_modify ..

@[simp] theorem packBits_length (bs : List Bool) (i : Nat) (bytes : List UInt8) :
    (packBits bs i bytes).length = bytes.length := by
  induction bs generalizing i bytes with
  | nil => rfl
  | cons b bs ih =>
    rw [packBits, ih]
    split
    · exact orBit_length bytes i
    · rfl

theorem one_shiftLeft_testBit {k j : Nat} (hk : k < 8) (hj : j < 8) :
    ((1 : UInt8) <<< UInt8.ofNat k).toNat.testBit j = decide (j = k) := by
  have hall : ∀ k j : Fin 8,
      ((1 : UInt8) <<< UInt8.ofNat k.val).toNat.testBit j.val = decide (j.val = k.val) := by
    decide
  exact hall ⟨k, hk⟩ ⟨j, hj⟩

theorem shiftRight_and_one (b : UInt8) {k : Nat} (hk : k < 8) :
    (b >>> UInt8.ofNat k) &&& 1 = if b.toNat.testBit k then 1 else 0 := by
  have hshift : (b >>> UInt8.ofNat k).toNat = b.toNat >>> k := by
    rw [UInt8.toNat_shiftRight, UInt8.toNat_ofNat', Nat.mod_eq_of_lt (by omega : k < 2 ^ 8),
      Nat.mod_eq_of_lt hk]
  apply UInt8.toNat_inj.1
  rw [UInt8.toNat_and, hshift]
  show b.toNat >>> k &&& 1 = _
  rw [Nat.and_one_is_mod, Nat.shiftRight_eq_div_pow, Nat.testBit_eq_decide_div_mod_eq]
  by_cases hbit : b.toNat / 2 ^ k % 2 = 1
  · rw [decide_eq_true hbit, hbit]
    rfl
  · have hzero : b.toNat / 2 ^ k % 2 = 0 := by omega
    rw [decide_eq_false hbit, hzero]
    rfl

theorem and_one_shiftLeft_ne_zero (b : UInt8) {k : Nat} (hk : k < 8) :
    b &&& (1 <<< UInt8.ofNat k) ≠ 0 ↔ b.toNat.testBit k = true := by
  have hpow : ((1 : UInt8) <<< UInt8.ofNat k).toNat = 2 ^ k := by
    have hall : ∀ k : Fin 8, ((1 : UInt8) <<< UInt8.ofNat k.val).toNat = 2 ^ k.val := by decide
    exact hall ⟨k, hk⟩
  rw [Ne, ← UInt8.toNat_inj, UInt8.toNat_and, hpow, Nat.and_two_pow]
  cases b.toNat.testBit k <;> simp

theorem bitAt_orBit (bytes : List UInt8) (i j : Nat) (hj : j / 8 < bytes.length) :
    bitAt (orBit bytes i) j = (bitAt bytes j).map fun b => b || decide (j = i) := by
  unfold bitAt orBit
  rw [List.getElem?_modify, List.getElem?_eq_getElem hj]
  by_cases hbyte : i / 8 = j / 8
  · have hsame : j % 8 = i % 8 ↔ j = i := by omega
    simp only [if_pos hbyte, Option.map_eq_map, Option.map_some, UInt8.toNat_or, Nat.testBit_or,
      one_shiftLeft_testBit (Nat.mod_lt i (by decide)) (Nat.mod_lt j (by decide)), hsame]
  · have hne : j ≠ i := fun h => hbyte (h ▸ rfl)
    simp [if_neg hbyte, hne]

theorem bitAt_packBits_from (bs : List Bool) (i : Nat) (bytes : List UInt8) (j : Nat)
    (hj : j / 8 < bytes.length) : bitAt (packBits bs i bytes) j =
      (bitAt bytes j).map fun b => b || (decide (i ≤ j) && (bs[j - i]?).getD false) := by
  induction bs generalizing i bytes with
  | nil =>
    cases h : bitAt bytes j <;> simp [packBits, h]
  | cons b bs ih =>
    have hlen : j / 8 < (if b then orBit bytes i else bytes).length := by
      split
      · rwa [orBit_length]
      · exact hj
    have hfirst : bitAt (if b then orBit bytes i else bytes) j =
        (bitAt bytes j).map fun c => c || (b && decide (j = i)) := by
      cases b with
      | true => simp [bitAt_orBit bytes i j hj]
      | false => cases h : bitAt bytes j <;> simp [h]
    rw [packBits, ih _ _ hlen, hfirst, Option.map_map]
    congr 1
    funext c
    rcases Nat.lt_trichotomy j i with hlt | rfl | hgt
    · have h1 : ¬ i + 1 ≤ j := by omega
      have h2 : ¬ i ≤ j := by omega
      have h3 : j ≠ i := by omega
      simp [h1, h2, h3]
    · simp
    · have h1 : i + 1 ≤ j := hgt
      have h2 : i ≤ j := by omega
      have h3 : j ≠ i := by omega
      have h4 : j - i = j - (i + 1) + 1 := by omega
      simp [h1, h2, h3, h4]

theorem bitAt_packBits (bs : List Bool) {n j : Nat} (hj : j / 8 < n) :
    bitAt (packBits bs 0 (List.replicate n 0)) j = some ((bs[j]?).getD false) := by
  have hzero : bitAt (List.replicate n 0) j = some false := by
    unfold bitAt
    rw [List.getElem?_replicate, if_pos hj, Option.map_some]
    exact congrArg some (Nat.zero_testBit _)
  rw [bitAt_packBits_from bs 0 _ j (by rwa [List.length_replicate]), hzero]
  simp

end McpGateway.Lib
