import Mathlib.Data.List.Basic
import Mathlib.Logic.Function.Iterate

/-!
# Cyclic redundancy checks

A check register of `w` bits that is fed bytes, least significant bit first.
`feed_lowBytes` is why a receiver can run the check over a frame and its check
bytes: fed with its own bytes, low byte first, the register runs out of ones.
-/

namespace McpGateway.Lib.Crc

variable {w : Nat}

/-- One bit leaves the register; a one puts the polynomial in. -/
def shift (poly crc : BitVec w) : BitVec w :=
  if crc.getLsbD 0 then crc >>> 1 ^^^ poly else crc >>> 1

def feedByte (poly crc : BitVec w) (b : BitVec 8) : BitVec w :=
  (shift poly)^[8] (crc ^^^ b.setWidth w)

def feed (poly crc : BitVec w) (bytes : List (BitVec 8)) : BitVec w :=
  bytes.foldl (feedByte poly) crc

/-- The `n` low bytes of the register, lowest first. -/
def lowBytes : Nat → BitVec w → List (BitVec 8)
  | 0, _ => []
  | n + 1, crc => crc.setWidth 8 :: lowBytes n (crc >>> 8)

theorem feed_append (poly crc : BitVec w) (xs ys : List (BitVec 8)) :
    feed poly crc (xs ++ ys) = feed poly (feed poly crc xs) ys := List.foldl_append

theorem shift_of_trailing_zeros (poly : BitVec w) {n : Nat} {crc : BitVec w}
    (h : ∀ i < n, crc.getLsbD i = false) : (shift poly)^[n] crc = crc >>> n := by
  induction n with
  | zero => rw [Function.iterate_zero, id, BitVec.ushiftRight_zero]
  | succ n ih =>
    have hlow : (crc >>> n).getLsbD 0 = false := by
      rw [BitVec.getLsbD_ushiftRight]
      exact h n n.lt_succ_self
    rw [Function.iterate_succ_apply', ih fun i hi => h i (Nat.lt_succ_of_lt hi), shift, hlow,
      BitVec.shiftRight_add]
    rfl

/-- **The low byte of the register clears its place.** -/
theorem feedByte_low (poly crc : BitVec w) : feedByte poly crc (crc.setWidth 8) = crc >>> 8 := by
  have hcleared : ∀ i < 8, (crc ^^^ (crc.setWidth 8).setWidth w).getLsbD i = false := by
    intro i hi
    by_cases hw : i < w
    · simp [hi, hw]
    · exact BitVec.getLsbD_of_ge _ _ (Nat.le_of_not_lt hw)
  have hrest : (crc ^^^ (crc.setWidth 8).setWidth w) >>> 8 = crc >>> 8 := by
    ext i hi
    simp
  rw [feedByte, shift_of_trailing_zeros poly hcleared, hrest]

/-- **Feeding the register its own bytes** moves them out. -/
theorem feed_lowBytes (poly : BitVec w) (n : Nat) (crc : BitVec w) :
    feed poly crc (lowBytes n crc) = crc >>> (8 * n) := by
  induction n generalizing crc with
  | zero => exact (BitVec.ushiftRight_zero crc).symm
  | succ n ih =>
    have hnext : feed poly crc (lowBytes (n + 1) crc) =
        feed poly (crc >>> 8) (lowBytes n (crc >>> 8)) := by
      rw [lowBytes, feed, List.foldl_cons, feedByte_low]
      rfl
    rw [hnext, ih, ← BitVec.shiftRight_add, Nat.mul_succ, Nat.add_comm]

/-- The check over data and all the bytes of its check is zero. -/
theorem feed_residue (poly crc : BitVec w) (data : List (BitVec 8)) {n : Nat} (hn : w ≤ 8 * n) :
    feed poly crc (data ++ lowBytes n (feed poly crc data)) = 0 := by
  rw [feed_append, feed_lowBytes]
  exact BitVec.ushiftRight_eq_zero hn

end McpGateway.Lib.Crc
