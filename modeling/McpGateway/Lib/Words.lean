import Mathlib.Algebra.Order.Ring.Nat
import Mathlib.Data.Fin.Basic
import Mathlib.Data.Finset.Max
import Mathlib.Data.Nat.Bits
import Mathlib.Data.Rat.Floor
import Mathlib.Data.UInt
import Mathlib.Order.Lattice
import Mathlib.Tactic.Linarith
import Mathlib.Tactic.Ring

/-!
# Sixteen-bit words

A number as a list of 16-bit words, most significant first, and the two bytes
of a word exchanged.
-/

namespace McpGateway.Lib

/-- The `k` low words of `n`, most significant first. -/
def splitWords : Nat → Nat → List UInt16
  | 0, _ => []
  | k + 1, n => UInt16.ofNat (n / 65536 ^ k) :: splitWords k n

def joinWords (words : List UInt16) : Nat := words.foldl (fun acc w => acc * 65536 + w.toNat) 0

/-- `(uint16_t)(w << 8 | w >> 8)`. -/
def swapBytes (w : UInt16) : UInt16 := w <<< 8 ||| w >>> 8

@[simp] theorem splitWords_length (k n : Nat) : (splitWords k n).length = k := by
  induction k with
  | zero => rfl
  | succ k ih => simp [splitWords, ih]

theorem foldl_splitWords (k n acc : Nat) :
    (splitWords k n).foldl (fun acc w => acc * 65536 + w.toNat) acc =
      acc * 65536 ^ k + n % 65536 ^ k := by
  induction k generalizing acc with
  | zero => simp [splitWords, Nat.mod_one]
  | succ k ih =>
    have hword : (UInt16.ofNat (n / 65536 ^ k)).toNat = n / 65536 ^ k % 65536 := by
      simp [UInt16.toNat_ofNat']
    have hmod : n % 65536 ^ (k + 1) = n % 65536 ^ k + 65536 ^ k * (n / 65536 ^ k % 65536) :=
      Nat.mod_pow_succ
    rw [splitWords, List.foldl_cons, ih, hword, hmod, pow_succ]
    ring

theorem joinWords_splitWords (k n : Nat) : joinWords (splitWords k n) = n % 65536 ^ k := by
  rw [joinWords, foldl_splitWords, Nat.zero_mul, Nat.zero_add]

theorem foldl_words (words : List UInt16) (acc : Nat) :
    words.foldl (fun acc w => acc * 65536 + w.toNat) acc =
      acc * 65536 ^ words.length + joinWords words := by
  unfold joinWords
  induction words generalizing acc with
  | nil => simp
  | cons w words ih =>
    rw [List.foldl_cons, List.foldl_cons, ih, ih (0 * 65536 + w.toNat), List.length_cons, pow_succ]
    ring

theorem joinWords_cons (w : UInt16) (words : List UInt16) :
    joinWords (w :: words) = w.toNat * 65536 ^ words.length + joinWords words := by
  rw [joinWords, List.foldl_cons, foldl_words, Nat.zero_mul, Nat.zero_add]

theorem joinWords_lt (words : List UInt16) : joinWords words < 65536 ^ words.length := by
  induction words with
  | nil => decide
  | cons w words ih =>
    have hw : w.toNat + 1 ≤ 65536 := w.toNat_lt
    calc joinWords (w :: words) = w.toNat * 65536 ^ words.length + joinWords words :=
          joinWords_cons w words
      _ < (w.toNat + 1) * 65536 ^ words.length := by rw [Nat.add_mul, Nat.one_mul]; omega
      _ ≤ 65536 * 65536 ^ words.length := Nat.mul_le_mul_right _ hw
      _ = 65536 ^ (w :: words).length := by rw [List.length_cons, pow_succ, Nat.mul_comm]

theorem splitWords_mul_add (k a n : Nat) :
    splitWords k (a * 65536 ^ k + n) = splitWords k n := by
  induction k generalizing a with
  | zero => rfl
  | succ k ih =>
    have hsplit : a * 65536 ^ (k + 1) + n = a * 65536 * 65536 ^ k + n := by
      rw [pow_succ]
      ring
    have hword : UInt16.ofNat ((a * 65536 * 65536 ^ k + n) / 65536 ^ k) =
        UInt16.ofNat (n / 65536 ^ k) := by
      have hpos : 0 < 65536 ^ k := by positivity
      rw [Nat.add_comm, Nat.add_mul_div_right _ _ hpos]
      apply UInt16.toNat_inj.1
      rw [UInt16.toNat_ofNat', UInt16.toNat_ofNat']
      omega
    rw [splitWords, splitWords, hsplit, hword, ih]

/-- Splitting the number of some words gives them back. -/
theorem splitWords_joinWords (words : List UInt16) :
    splitWords words.length (joinWords words) = words := by
  induction words with
  | nil => rfl
  | cons w words ih =>
    have hpos : 0 < 65536 ^ words.length := by positivity
    have hdiv : (w.toNat * 65536 ^ words.length + joinWords words) / 65536 ^ words.length =
        w.toNat := by
      rw [Nat.add_comm, Nat.add_mul_div_right _ _ hpos, Nat.div_eq_of_lt (joinWords_lt words),
        Nat.zero_add]
    rw [joinWords_cons, List.length_cons, splitWords, hdiv, UInt16.ofNat_toNat,
      splitWords_mul_add, ih]

theorem swapBytes_toNat (w : UInt16) :
    (swapBytes w).toNat = w.toNat % 256 * 256 + w.toNat / 256 := by
  have hw := w.toNat_lt
  have hhigh : w.toNat <<< 8 % 2 ^ 16 = (w.toNat % 256) <<< 8 := by
    simp only [Nat.shiftLeft_eq]
    omega
  have hlow : w.toNat >>> 8 < 2 ^ 8 := by
    rw [Nat.shiftRight_eq_div_pow]
    omega
  have hor := Nat.shiftLeft_add_eq_or_of_lt hlow (w.toNat % 256)
  simp only [swapBytes, UInt16.toNat_or, UInt16.toNat_shiftLeft, UInt16.toNat_shiftRight]
  show (w.toNat <<< 8 % 2 ^ 16) ||| w.toNat >>> 8 = _
  rw [hhigh, ← hor, Nat.shiftLeft_eq, Nat.shiftRight_eq_div_pow]

@[simp] theorem swapBytes_swapBytes (w : UInt16) : swapBytes (swapBytes w) = w := by
  have hw := w.toNat_lt
  apply UInt16.toNat_inj.1
  rw [swapBytes_toNat, swapBytes_toNat]
  omega

theorem swapBytes_eq_iff (w : UInt16) : swapBytes w = w ↔ w.toNat / 256 = w.toNat % 256 := by
  have hw := w.toNat_lt
  rw [← UInt16.toNat_inj, swapBytes_toNat]
  omega

end McpGateway.Lib
