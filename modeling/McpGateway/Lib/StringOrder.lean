import Mathlib.Data.Char
import Mathlib.Data.List.Lex
import McpGateway.Lib.CFloat
import McpGateway.Lib.CString

/-!
# The order of strings

`strcmp` orders strings by their first difference. Numbers in a name are then ordered by
their digits, and what follows a number decides when one number begins the other.
-/

namespace McpGateway.Lib

/-! ## Parts of equal length -/

theorem lex_part {X E P Q A : Prop} : X ∨ E ∧ (P ∨ Q ∧ A) ↔ (X ∨ E ∧ P) ∨ (E ∧ Q) ∧ A := by
  tauto

section Lists

variable {α : Type*} [LinearOrder α] {x y a b : List α}

theorem append_lt_append_iff (h : x.length = y.length) :
    x ++ a < y ++ b ↔ x < y ∨ x = y ∧ a < b := by
  induction x generalizing y with
  | nil =>
    obtain rfl := List.length_eq_zero_iff.1 h.symm
    simp
  | cons c x ih =>
    cases y with
    | nil => cases h
    | cons d y =>
      have htail := ih (Nat.succ.inj h)
      simp only [List.cons_append, List.cons_lt_cons_iff, htail, List.cons.injEq, lex_part]

theorem append_lt_append_left (x : List α) : x ++ a < x ++ b ↔ a < b := by
  rw [append_lt_append_iff rfl]
  simp

theorem lt_of_begins (h : x <+: y) (hne : x ≠ y) : x < y := by
  obtain ⟨r, rfl⟩ := h
  cases r with
  | nil => exact absurd (List.append_nil x).symm hne
  | cons c r =>
    have hlt := (append_lt_append_left x).2 (List.nil_lt_cons c r)
    rwa [List.append_nil] at hlt

/-- Where neither begins the other, what follows does not matter. -/
theorem append_lt_append_of_apart (h : ¬ x <+: y) (h' : ¬ y <+: x) :
    x ++ a < y ++ b ↔ x < y := by
  induction x generalizing y with
  | nil => exact absurd (List.nil_prefix) h
  | cons c x ih =>
    cases y with
    | nil => exact absurd (List.nil_prefix) h'
    | cons d y =>
      simp only [List.cons_append, List.cons_lt_cons_iff]
      by_cases hcd : c = d
      · subst hcd
        rw [List.cons_prefix_cons] at h h'
        rw [ih (fun hxy => h ⟨rfl, hxy⟩) (fun hyx => h' ⟨rfl, hyx⟩)]
      · simp [hcd]

end Lists

/-! ## Numbers -/

/-- The digits of `m` come before those of `n`; a number comes before those it begins. -/
def DigitsBefore (m n : Nat) : Prop := printDecimal m < printDecimal n

instance (m n : Nat) : Decidable (DigitsBefore m n) := inferInstanceAs (Decidable (_ < _))

theorem digit_bounds {m : Nat} {c : Char} (h : c ∈ printDecimal m) : '0' ≤ c ∧ c ≤ '9' := by
  have hdigit := isDigit_of_mem_printDecimal h
  simp only [Char.isDigit, Bool.and_eq_true, decide_eq_true_eq] at hdigit
  exact ⟨hdigit.1, hdigit.2⟩

/-- Two different numbers in front of characters that are no digits. -/
theorem printDecimal_append_lt {m n : Nat} {c d : Char} {a b : CStr} (hne : m ≠ n)
    (hc : c < '0' ∨ '9' < c) (hd : d < '0' ∨ '9' < d) :
    printDecimal m ++ c :: a < printDecimal n ++ d :: b ↔
      if printDecimal m <+: printDecimal n then c < '0'
      else if printDecimal n <+: printDecimal m then '9' < d
      else DigitsBefore m n := by
  split_ifs with hmn hnm
  · obtain ⟨r, hr⟩ := hmn
    cases r with
    | nil =>
      rw [List.append_nil] at hr
      exact absurd (printDecimal_inj.1 hr) hne
    | cons e r =>
      have he : '0' ≤ e ∧ e ≤ '9' := digit_bounds (hr ▸ List.mem_append_right _ List.mem_cons_self)
      rw [← hr, List.append_assoc, append_lt_append_left, List.cons_append, List.cons_lt_cons_iff]
      constructor
      · rintro (hlt | ⟨rfl, -⟩)
        · exact hc.resolve_right fun h => absurd (h.trans hlt) (not_lt.2 he.2)
        · exact hc.resolve_right fun h => absurd h (not_lt.2 he.2)
      · exact fun h => .inl (lt_of_lt_of_le h he.1)
  · obtain ⟨r, hr⟩ := hnm
    cases r with
    | nil =>
      rw [List.append_nil] at hr
      exact absurd (printDecimal_inj.1 hr).symm hne
    | cons e r =>
      have he : '0' ≤ e ∧ e ≤ '9' := digit_bounds (hr ▸ List.mem_append_right _ List.mem_cons_self)
      rw [← hr, List.append_assoc, append_lt_append_left, List.cons_append, List.cons_lt_cons_iff]
      constructor
      · rintro (hlt | ⟨rfl, -⟩)
        · exact hd.resolve_left fun h => absurd (hlt.trans h) (not_lt.2 he.1)
        · exact hd.resolve_left fun h => absurd h (not_lt.2 he.1)
      · exact fun h => .inl (lt_of_le_of_lt he.2 h)
  · exact append_lt_append_of_apart hmn hnm

/-- In front of a character below the digits a number comes before those it begins. -/
theorem printDecimal_append_lt_below {m n : Nat} {c : Char} {a b : CStr} (hne : m ≠ n)
    (hc : c < '0') : printDecimal m ++ c :: a < printDecimal n ++ c :: b ↔ DigitsBefore m n := by
  rw [printDecimal_append_lt hne (.inl hc) (.inl hc)]
  have hdigits : printDecimal m ≠ printDecimal n := fun h => hne (printDecimal_inj.1 h)
  split_ifs with hmn hnm
  · exact iff_of_true hc (lt_of_begins hmn hdigits)
  · have habove : ¬ '9' < c := fun h => absurd (h.trans hc) (by decide)
    exact iff_of_false habove (lt_asymm (lt_of_begins hnm hdigits.symm))
  · exact Iff.rfl

/-- `%02d`, for a number below 100. -/
def twoDigits (n : Nat) : CStr := [Nat.digitChar (n / 10), Nat.digitChar (n % 10)]

theorem digitChar_lt {i j : Nat} (hi : i < 10) (hj : j < 10) :
    Nat.digitChar i < Nat.digitChar j ↔ i < j := by
  have hall : ∀ i j : Fin 10, Nat.digitChar i < Nat.digitChar j ↔ i.val < j.val := by decide
  exact hall ⟨i, hi⟩ ⟨j, hj⟩

theorem digitChar_inj {i j : Nat} (hi : i < 10) (hj : j < 10) :
    Nat.digitChar i = Nat.digitChar j ↔ i = j := by
  have hall : ∀ i j : Fin 10, Nat.digitChar i = Nat.digitChar j ↔ i.val = j.val := by decide
  exact hall ⟨i, hi⟩ ⟨j, hj⟩

theorem twoDigits_append_lt {m n : Nat} {a b : CStr} (hm : m < 100) (hn : n < 100) :
    twoDigits m ++ a < twoDigits n ++ b ↔ m < n ∨ m = n ∧ a < b := by
  have hhigh := digitChar_lt (show m / 10 < 10 by omega) (show n / 10 < 10 by omega)
  have hhigh' := digitChar_inj (show m / 10 < 10 by omega) (show n / 10 < 10 by omega)
  have hlow := digitChar_lt (Nat.mod_lt m (by decide)) (Nat.mod_lt n (by decide))
  have hlow' := digitChar_inj (Nat.mod_lt m (by decide)) (Nat.mod_lt n (by decide))
  have hless : m < n ↔ m / 10 < n / 10 ∨ m / 10 = n / 10 ∧ m % 10 < n % 10 := by omega
  have hsame : m = n ↔ m / 10 = n / 10 ∧ m % 10 = n % 10 := by omega
  simp only [twoDigits, List.cons_append, List.nil_append, List.cons_lt_cons_iff, hhigh, hhigh',
    hlow, hlow']
  rw [lex_part, ← hless, ← hsame]

theorem digitsBefore_iff_lt {m n : Nat}
    (h : (printDecimal m).length = (printDecimal n).length) : DigitsBefore m n ↔ m < n := by
  have hdigits (k : Nat) : printDecimal k =
      if k < 10 then [Nat.digitChar k] else printDecimal (k / 10) ++ [Nat.digitChar (k % 10)] :=
    Nat.toDigits_eq_if (by decide)
  have hpos (k : Nat) : 0 < (printDecimal k).length := Nat.length_toDigits_pos
  induction m using Nat.strong_induction_on generalizing n with
  | _ m ih =>
    unfold DigitsBefore
    rw [hdigits m, hdigits n] at h ⊢
    by_cases hm : m < 10 <;> by_cases hn : n < 10
    · rw [if_pos hm, if_pos hn]
      simp only [List.cons_lt_cons_iff, digitChar_lt hm hn, List.not_lt_nil, and_false, or_false]
    · have hlength := hpos (n / 10)
      rw [if_pos hm, if_neg hn, List.length_append, List.length_singleton,
        List.length_singleton] at h
      omega
    · have hlength := hpos (m / 10)
      rw [if_neg hm, if_pos hn, List.length_append, List.length_singleton,
        List.length_singleton] at h
      omega
    · rw [if_neg hm, if_neg hn, List.length_append, List.length_append, List.length_singleton,
        List.length_singleton, Nat.add_right_cancel_iff] at h
      have hhigh : printDecimal (m / 10) < printDecimal (n / 10) ↔ m / 10 < n / 10 :=
        ih (m / 10) (by omega) h
      have hlow := digitChar_lt (Nat.mod_lt m (by decide)) (Nat.mod_lt n (by decide))
      rw [if_neg hm, if_neg hn, append_lt_append_iff h, printDecimal_inj, hhigh]
      simp only [List.cons_lt_cons_iff, hlow, List.not_lt_nil, and_false, or_false]
      omega

/-! ## Padded numbers -/

theorem padDecimal_concat {w : Nat} (hw : 0 < w) (n : Nat) :
    padDecimal (w + 1) n = padDecimal w (n / 10) ++ [Nat.digitChar (n % 10)] := by
  have hdigits : printDecimal n =
      if n < 10 then [Nat.digitChar n] else printDecimal (n / 10) ++ [Nat.digitChar (n % 10)] :=
    Nat.toDigits_eq_if (by decide)
  unfold padDecimal
  rw [hdigits]
  by_cases hn : n < 10
  · obtain ⟨w, rfl⟩ := Nat.exists_eq_add_of_le' hw
    have hzero : printDecimal 0 = ['0'] := rfl
    rw [if_pos hn, Nat.div_eq_of_lt hn, Nat.mod_eq_of_lt hn, hzero, List.length_singleton,
      List.length_singleton, Nat.add_sub_cancel, Nat.add_sub_cancel, List.replicate_succ']
  · rw [if_neg hn, List.length_append, List.length_singleton, Nat.add_sub_add_right,
      List.append_assoc]

theorem length_padDecimal {w n : Nat} (hw : 0 < w) (hn : n < 10 ^ w) :
    (padDecimal w n).length = w := by
  induction w, hw using Nat.le_induction generalizing n with
  | base =>
    have hdigit : ∀ i : Fin 10, (padDecimal (0 + 1) i.val).length = 0 + 1 := by decide
    exact hdigit ⟨n, hn⟩
  | succ w hw ih =>
    rw [padDecimal_concat hw, List.length_append, List.length_singleton,
      ih (Nat.div_lt_of_lt_mul (by rwa [← Nat.pow_succ']))]

theorem padDecimal_lt_iff {w m n : Nat} (hw : 0 < w) (hm : m < 10 ^ w) (hn : n < 10 ^ w) :
    padDecimal w m < padDecimal w n ↔ m < n := by
  induction w, hw using Nat.le_induction generalizing m n with
  | base =>
    have hdigit : ∀ i j : Fin 10,
        padDecimal (0 + 1) i.val < padDecimal (0 + 1) j.val ↔ i.val < j.val := by decide
    exact hdigit ⟨m, hm⟩ ⟨n, hn⟩
  | succ w hw ih =>
    have hm' : m / 10 < 10 ^ w := Nat.div_lt_of_lt_mul (by rwa [← Nat.pow_succ'])
    have hn' : n / 10 < 10 ^ w := Nat.div_lt_of_lt_mul (by rwa [← Nat.pow_succ'])
    have hlength : (padDecimal w (m / 10)).length = (padDecimal w (n / 10)).length := by
      rw [length_padDecimal hw hm', length_padDecimal hw hn']
    have hlow := digitChar_lt (Nat.mod_lt m (by decide)) (Nat.mod_lt n (by decide))
    rw [padDecimal_concat hw, padDecimal_concat hw, append_lt_append_iff hlength, ih hm' hn']
    have hhigh : padDecimal w (m / 10) = padDecimal w (n / 10) ↔ m / 10 = n / 10 := by
      constructor
      · intro heq
        have hle := mt (ih hm' hn').2 (by rw [heq]; exact lt_irrefl _)
        have hge := mt (ih hn' hm').2 (by rw [heq]; exact lt_irrefl _)
        omega
      · exact congrArg _
    rw [hhigh]
    simp only [List.cons_lt_cons_iff, hlow, List.not_lt_nil, and_false, or_false]
    omega

end McpGateway.Lib
