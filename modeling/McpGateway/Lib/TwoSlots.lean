import Mathlib.Algebra.Order.Ring.Nat
import Mathlib.Data.Fin.Basic
import Mathlib.Data.Finset.Max
import Mathlib.Data.Rat.Floor
import Mathlib.Logic.Function.Basic
import Mathlib.Order.Basic
import Mathlib.Order.Lattice
import Mathlib.Tactic.Linarith

/-!
# Two slots

A value kept in two slots in turn, each copy with its age. A reader takes the
newer copy, slot A when both are of one age. `newest_write` says what a reader
takes after one of the slots is written.
-/

namespace McpGateway.Lib

inductive Side
  | a
  | b
  deriving DecidableEq, Repr

def Side.other : Side → Side
  | .a => .b
  | .b => .a

section Newest

variable {γ β : Type*} [LinearOrder β] (age : γ → β)

def newest (slot : Side → Option γ) : Option γ :=
  match slot .a, slot .b with
  | none, none => none
  | some x, none => some x
  | none, some y => some y
  | some x, some y => if age x < age y then some y else some x

/-- A copy in slot `t` is taken rather than `y` in the other one. -/
def Side.Prefers (t : Side) (x y : γ) : Prop :=
  match t with
  | .a => age y ≤ age x
  | .b => age y < age x

instance (t : Side) (x y : γ) : Decidable (t.Prefers age x y) := by
  cases t
  · exact inferInstanceAs (Decidable (age y ≤ age x))
  · exact inferInstanceAs (Decidable (age y < age x))

variable {age} {slot : Side → Option γ} {x y : γ}

theorem Side.prefers_of_lt (t : Side) (h : age y < age x) : t.Prefers age x y := by
  cases t with
  | a => exact h.le
  | b => exact h

/-- Something is taken unless both slots are empty. -/
theorem newest_isSome {t : Side} (h : slot t = some x) : ∃ y, newest age slot = some y := by
  unfold newest
  cases ha : slot .a with
  | none =>
    cases hb : slot .b with
    | none => cases t <;> simp_all
    | some y => exact ⟨y, rfl⟩
  | some x =>
    cases hb : slot .b with
    | none => exact ⟨x, rfl⟩
    | some y =>
      simp only
      split
      · exact ⟨y, rfl⟩
      · exact ⟨x, rfl⟩

theorem age_le_newest {t : Side} (h : newest age slot = some x) (hy : slot t = some y) :
    age y ≤ age x := by
  unfold newest at h
  cases ha : slot .a with
  | none =>
    cases hb : slot .b with
    | none => simp [ha, hb] at h
    | some z =>
      simp only [ha, hb, Option.some.injEq] at h
      cases t with
      | a => rw [ha] at hy; cases hy
      | b => rw [hb] at hy; cases hy; rw [h]
  | some z =>
    cases hb : slot .b with
    | none =>
      simp only [ha, hb, Option.some.injEq] at h
      cases t with
      | a => rw [ha] at hy; cases hy; rw [h]
      | b => rw [hb] at hy; cases hy
    | some w =>
      simp only [ha, hb] at h
      split at h
      · rename_i hlt
        cases h
        cases t with
        | a => rw [ha] at hy; cases hy; exact hlt.le
        | b => rw [hb] at hy; cases hy; exact le_refl _
      · rename_i hlt
        cases h
        cases t with
        | a => rw [ha] at hy; cases hy; exact le_refl _
        | b => rw [hb] at hy; cases hy; exact not_lt.1 hlt

theorem newest_mem (h : newest age slot = some x) : ∃ t, slot t = some x := by
  unfold newest at h
  cases ha : slot .a with
  | none =>
    rw [ha] at h
    cases hb : slot .b with
    | none =>
      rw [hb] at h
      cases h
    | some z =>
      rw [hb] at h
      exact ⟨.b, hb.trans h⟩
  | some z =>
    rw [ha] at h
    cases hb : slot .b with
    | none =>
      rw [hb] at h
      exact ⟨.a, ha.trans h⟩
    | some w =>
      rw [hb] at h
      simp only at h
      split at h
      · exact ⟨.b, hb.trans h⟩
      · exact ⟨.a, ha.trans h⟩

/-- **One slot written.** The new copy is taken unless the other slot has one
that is preferred to it. -/
theorem newest_write (t : Side) (x : γ) (slot : Side → Option γ) :
    newest age (Function.update slot t (some x)) =
      match slot t.other with
      | none => some x
      | some y => if t.Prefers age x y then some x else some y := by
  cases t with
  | a =>
    have hb : Function.update slot .a (some x) .b = slot .b := rfl
    unfold newest
    rw [Function.update_self, hb]
    show _ = match slot .b with
      | none => some x
      | some y => if Side.a.Prefers age x y then some x else some y
    cases hy : slot .b with
    | none => rfl
    | some y =>
      by_cases h : age x < age y
      · have hnot : ¬ Side.a.Prefers age x y := not_le.2 h
        simp only [if_pos h, if_neg hnot]
      · have hprefers : Side.a.Prefers age x y := not_lt.1 h
        simp only [if_neg h, if_pos hprefers]
  | b =>
    have ha : Function.update slot .b (some x) .a = slot .a := rfl
    unfold newest
    rw [Function.update_self, ha]
    show _ = match slot .a with
      | none => some x
      | some y => if Side.b.Prefers age x y then some x else some y
    cases hy : slot .a with
    | none => rfl
    | some y =>
      by_cases h : age y < age x
      · have hprefers : Side.b.Prefers age x y := h
        simp only [if_pos h, if_pos hprefers]
      · have hnot : ¬ Side.b.Prefers age x y := h
        simp only [if_neg h, if_neg hnot]

end Newest

end McpGateway.Lib
