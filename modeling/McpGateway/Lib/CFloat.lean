import Mathlib.Algebra.Order.Floor.Ring
import Mathlib.Algebra.Order.Ring.Nat
import Mathlib.Data.Fin.Basic
import Mathlib.Data.Finset.Max
import Mathlib.Data.Int.Log
import Mathlib.Data.Rat.Floor
import Mathlib.Order.Lattice
import Mathlib.Tactic.Linarith
import McpGateway.Lib.CString

/-!
# C floating-point numbers

A `double` is an exact rational, an infinity or a NaN; arithmetic on finite
values is rational arithmetic, and there is one zero. `trunc`, `nearbyint`
and `printG` follow the C conversions of finite values.
-/

namespace McpGateway.Lib

inductive CFloat
  | fin (q : ℚ)
  | inf (neg : Bool)
  | nan
  deriving DecidableEq

/-- `(int64_t)x` on the exact value: toward zero. -/
def trunc (q : ℚ) : Int := q.num.tdiv q.den

/-- `nearbyint`: to the nearest integer, ties to even. -/
def nearbyint (q : ℚ) : Int :=
  let f := ⌊q⌋
  if q - f < 1 / 2 then f
  else if 1 / 2 < q - f then f + 1
  else if f % 2 = 0 then f else f + 1

/-- The decimal digits of `n`, at least `width` of them. -/
def padDecimal (width n : Nat) : CStr :=
  List.replicate (width - (printDecimal n).length) '0' ++ printDecimal n

/-- `digits` without trailing zeros. -/
def dropTrailingZeros (digits : CStr) : CStr :=
  (digits.reverse.dropWhile (· = '0')).reverse

/-- `%g` of a positive rational: six significant digits, fixed or scientific
notation by the size of the exponent, trailing zeros removed. -/
def printGPos (q : ℚ) : CStr :=
  let e₀ := Int.log 10 q
  let m₀ := (nearbyint (q / (10 : ℚ) ^ (e₀ - 5))).toNat
  let e := if m₀ = 10 ^ 6 then e₀ + 1 else e₀
  let digits := printDecimal (if m₀ = 10 ^ 6 then 10 ^ 5 else m₀)
  let withPoint (n : Nat) (ds : CStr) : CStr :=
    let frac := dropTrailingZeros (ds.drop n)
    if frac = [] then ds.take n else ds.take n ++ '.' :: frac
  if e < -4 ∨ 6 ≤ e then
    withPoint 1 digits ++ 'e' :: (if e < 0 then '-' else '+') :: padDecimal 2 e.natAbs
  else if e < 0 then withPoint 1 (List.replicate e.natAbs '0' ++ digits)
  else withPoint (e.toNat + 1) digits

namespace CFloat

def isFinite : CFloat → Bool
  | fin _ => true
  | _ => false

/-- `%g`. -/
def printG : CFloat → CStr
  | nan => "nan".toList
  | inf neg => if neg then "-inf".toList else "inf".toList
  | fin q =>
    if q = 0 then "0".toList
    else if q < 0 then '-' :: printGPos (-q) else printGPos q

/-- `x != 0.0`, true of a NaN and of the infinities. -/
def ne0 : CFloat → Bool
  | fin q => decide (q ≠ 0)
  | _ => true

/-- `x < y`, false as soon as one of them is a NaN. -/
def lt : CFloat → CFloat → Bool
  | fin p, fin q => decide (p < q)
  | inf true, fin _ | inf true, inf false | fin _, inf false => true
  | _, _ => false

/-- `x <= y`. -/
def le (x y : CFloat) : Bool :=
  match x, y with
  | nan, _ | _, nan => false
  | _, _ => !y.lt x

/-- `fabs`. -/
def abs : CFloat → CFloat
  | fin q => fin |q|
  | inf _ => inf false
  | nan => nan

/-- `fmax`, which ignores a NaN next to a number. -/
def fmax (x y : CFloat) : CFloat :=
  match x, y with
  | nan, y => y
  | x, nan => x
  | x, y => if x.lt y then y else x

def neg : CFloat → CFloat
  | fin q => fin (-q)
  | inf neg => inf (!neg)
  | nan => nan

def add : CFloat → CFloat → CFloat
  | fin p, fin q => fin (p + q)
  | inf m, fin _ | fin _, inf m => inf m
  | inf m, inf n => if m = n then inf m else nan
  | _, _ => nan

def sub (x y : CFloat) : CFloat := x.add y.neg

def isNeg : CFloat → Bool
  | fin q => decide (q < 0)
  | inf neg => neg
  | nan => false

def mul : CFloat → CFloat → CFloat
  | fin p, fin q => fin (p * q)
  | nan, _ | _, nan => nan
  | x, y => if x.ne0 && y.ne0 then inf (x.isNeg != y.isNeg) else nan

def div : CFloat → CFloat → CFloat
  | nan, _ | _, nan => nan
  | inf _, inf _ => nan
  | inf m, y => inf (m != y.isNeg)
  | fin _, inf _ => fin 0
  | fin p, fin q =>
    if q ≠ 0 then fin (p / q) else if p ≠ 0 then inf (decide (p < 0)) else nan

/-- The conversion of a finite value to a `w`-bit unsigned integer. -/
def toUInt (w : Nat) : CFloat → Nat
  | fin q => (trunc q % 2 ^ w).toNat
  | _ => 0

theorem trunc_natCast (n : Nat) : trunc (n : ℚ) = n := by simp [trunc]

theorem toUInt_natCast (w n : Nat) : (fin (n : ℚ)).toUInt w = n % 2 ^ w := by
  have hmod : (n : Int) % 2 ^ w = (n % 2 ^ w : Nat) := by push_cast; rfl
  rw [toUInt, trunc_natCast, hmod, Int.toNat_natCast]

theorem isFinite_iff {x : CFloat} : x.isFinite = true ↔ ∃ q, x = fin q := by
  cases x <;> simp [isFinite]

end CFloat

example : (CFloat.fin (398 / 10)).printG = "39.8".toList := by decide +kernel

end McpGateway.Lib
