import Mathlib.Algebra.Order.Ring.Nat
import Mathlib.Data.Fin.Basic
import Mathlib.Data.Finset.Max
import Mathlib.Data.List.Basic
import Mathlib.Data.Rat.Floor
import Mathlib.Order.Lattice
import Mathlib.Tactic.Linarith

/-!
# C strings

A C string is the list of its characters before the terminating NUL, one
`Char` for each byte. `strlcpy`, `printDecimal` and `fgets` follow the
standard functions of those names; a buffer of `n` bytes holds `n - 1`
characters.
-/

namespace McpGateway.Lib

abbrev CStr := List Char

/-- `%u`, `%lu`: the decimal digits of `n`. -/
def printDecimal (n : Nat) : CStr := Nat.toDigits 10 n

/-- `%d`, `%ld`. -/
def printInt (n : Int) : CStr :=
  if n < 0 then '-' :: printDecimal n.natAbs else printDecimal n.natAbs

/-- `%x`, `%lx`. -/
def printHex (n : Nat) : CStr := Nat.toDigits 16 n

/-- `%02X`. -/
def printHexByte (b : UInt8) : CStr := ((printHex b.toNat).map Char.toUpper).leftpad 2 '0'

/-- Copying or printing `s` into a buffer of `n` bytes. -/
def strlcpy (n : Nat) (s : CStr) : CStr := s.take (n - 1)

theorem strlcpy_of_lt {n : Nat} {s : CStr} (h : s.length < n) : strlcpy n s = s :=
  List.take_of_length_le (by omega)

theorem strlcpy_length_lt {n : Nat} (hn : 0 < n) (s : CStr) : (strlcpy n s).length < n := by
  simp only [strlcpy, List.length_take]; omega

/-- A `char[n]` buffer: a string shorter than `n`. -/
structure CBuf (n : Nat) where
  str : CStr
  lt : str.length < n
  deriving DecidableEq

namespace CBuf

variable {n : Nat} [NeZero n]

/-- `strlcpy` into the buffer. -/
def copy (n : Nat) [NeZero n] (s : CStr) : CBuf n :=
  ⟨strlcpy n s, strlcpy_length_lt (Nat.pos_of_neZero n) s⟩

def empty : CBuf n := ⟨[], Nat.pos_of_neZero n⟩

@[simp] theorem copy_str (b : CBuf n) : copy n b.str = b := by
  cases b with
  | mk s h => simp [copy, strlcpy_of_lt h]

theorem copy_str_of_lt {s : CStr} (h : s.length < n) : (copy n s).str = s := strlcpy_of_lt h

end CBuf

/-- At most `k` characters of a line, its newline included, and what follows. -/
def takeLine : Nat → CStr → CStr × CStr
  | 0, s => ([], s)
  | _ + 1, [] => ([], [])
  | k + 1, c :: s =>
    if c = '\n' then (['\n'], s) else ((c :: (takeLine k s).1), (takeLine k s).2)

/-- `fgets` into a buffer of `n` bytes: `none` at the end of the file. -/
def fgets (n : Nat) (s : CStr) : Option (CStr × CStr) :=
  if s = [] then none else some (takeLine (n - 1) s)

/-- `s[strcspn(s, stop)] = 0`: the string up to the first character of `stop`. -/
def cutAt (stop : List Char) (s : CStr) : CStr := s.takeWhile (fun c => c ∉ stop)

/-! ## Lines -/

theorem isDigit_of_mem_printDecimal {n : Nat} {c : Char} (h : c ∈ printDecimal n) :
    c.isDigit = true := Nat.isDigit_of_mem_toDigits (by decide) (by decide) h

theorem printDecimal_length_le {n k : Nat} (hk : 0 < k) (h : n < 10 ^ k) :
    (printDecimal n).length ≤ k := (Nat.length_toDigits_le_iff (by decide) hk).2 h

theorem printDecimal_inj {m n : Nat} : printDecimal m = printDecimal n ↔ m = n := by
  refine ⟨fun h => ?_, congrArg printDecimal⟩
  rw [← Nat.ofDigitChars_ten_toDigits (n := m), ← Nat.ofDigitChars_ten_toDigits (n := n)]
  exact congrArg (Nat.ofDigitChars 10 · 0) h

/-- A number is read back up to a character that is no digit. -/
theorem printDecimal_append_inj {m n : Nat} {c d : Char} {s t : CStr} (hc : c.isDigit = false)
    (hd : d.isDigit = false) (h : printDecimal m ++ c :: s = printDecimal n ++ d :: t) :
    m = n ∧ c = d ∧ s = t := by
  have htake {k : Nat} {e : Char} {r : CStr} (he : e.isDigit = false) :
      (printDecimal k ++ e :: r).takeWhile Char.isDigit = printDecimal k := by
    rw [List.takeWhile_append_of_pos fun x hx => isDigit_of_mem_printDecimal hx,
      List.takeWhile_cons_of_neg (by simp [he]), List.append_nil]
  have hdigits : printDecimal m = printDecimal n := by rw [← htake hc, h, htake hd]
  obtain rfl := printDecimal_inj.1 hdigits
  exact ⟨rfl, List.cons.inj (List.append_cancel_left h)⟩

theorem takeLine_append {l : CStr} (h : '\n' ∉ l) (k : Nat) (s : CStr) :
    takeLine (l.length + k) (l ++ s) = (l ++ (takeLine k s).1, (takeLine k s).2) := by
  induction l with
  | nil => rw [List.length_nil, Nat.zero_add]; rfl
  | cons c l ih =>
    rw [List.mem_cons, not_or] at h
    rw [List.length_cons, Nat.add_right_comm, List.cons_append, takeLine, if_neg (Ne.symm h.1),
      ih h.2]
    rfl

theorem fgets_line {l : CStr} (h : '\n' ∉ l) {n : Nat} (hn : l.length + 2 ≤ n) (rest : CStr) :
    fgets n (l ++ '\n' :: rest) = some (l ++ ['\n'], rest) := by
  obtain ⟨k, rfl⟩ := Nat.exists_eq_add_of_le hn
  have hsize : l.length + 2 + k - 1 = l.length + (k + 1) := by omega
  rw [fgets, if_neg (List.append_ne_nil_of_right_ne_nil _ (List.cons_ne_nil _ _)), hsize,
    takeLine_append h]
  rfl

/-- A line that fills the buffer leaves its newline behind. -/
theorem fgets_full {l : CStr} (h : '\n' ∉ l) (rest : CStr) :
    fgets (l.length + 1) (l ++ '\n' :: rest) = some (l, '\n' :: rest) := by
  have hline := takeLine_append h 0 ('\n' :: rest)
  rw [fgets, if_neg (List.append_ne_nil_of_right_ne_nil _ (List.cons_ne_nil _ _)),
    Nat.add_sub_cancel, ← Nat.add_zero l.length, hline, takeLine, List.append_nil]

theorem cutAt_append {stop : List Char} {l : CStr} (h : ∀ c ∈ l, c ∉ stop) (s : CStr) :
    cutAt stop (l ++ s) = l ++ cutAt stop s := by
  unfold cutAt
  exact List.takeWhile_append_of_pos fun c hc => decide_eq_true (h c hc)

/-! ## `%u` in `sscanf` -/

def isSpace (c : Char) : Bool := c ∈ [' ', '\t', '\n', '\x0b', '\x0c', '\r']

def digitsValue (digits : CStr) : Nat :=
  digits.foldl (fun n c => 10 * n + (c.toNat - '0'.toNat)) 0

/-- `%u` at the start of `s`: leading blanks, an optional sign, decimal digits;
the 32-bit value, saturating, negated after a minus sign, and what follows. -/
def scanUnsigned (s : CStr) : Option (Nat × CStr) :=
  let s := s.dropWhile isSpace
  let neg := s.head? = some '-'
  let s := if s.head? = some '-' ∨ s.head? = some '+' then s.tail else s
  let digits := s.takeWhile Char.isDigit
  if digits = [] then none
  else
    let v := digitsValue digits
    let u := if 2 ^ 32 ≤ v then 2 ^ 32 - 1 else if neg then (2 ^ 32 - v) % 2 ^ 32 else v
    some (u, s.dropWhile Char.isDigit)

end McpGateway.Lib
