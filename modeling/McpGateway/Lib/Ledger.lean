import McpGateway.Lib.Run

/-!
# Numbered items that come and go

Items are numbered in the order in which they come in, `bound` is the next
number, `place` lists the items that a state holds, and `out` is the item that a
step puts out. What one step does to these lists, up to a relation such as
`List.Perm` or `List.Sublist`, a whole run does.
-/

namespace McpGateway.Lib

section Ledger

variable {σ α : Type*} {step : σ → α → σ} {place : σ → List Nat} {bound : σ → Nat}
  {out : σ → α → Option Nat} {R : List Nat → List Nat → Prop}

def numbered (bound : σ → Nat) (s s' : σ) : List Nat := List.range' (bound s) (bound s' - bound s)

theorem numbered_trans {s s' s'' : σ} (h : bound s ≤ bound s') (h' : bound s' ≤ bound s'') :
    numbered bound s s' ++ numbered bound s' s'' = numbered bound s s'' := by
  have hfirst : bound s' = bound s + (bound s' - bound s) := by omega
  have hsum : bound s'' - bound s = (bound s' - bound s) + (bound s'' - bound s') := by omega
  unfold numbered
  rw [hsum, ← List.range'_append_1, ← hfirst]

theorem numbered_self (s : σ) : numbered bound s s = [] := by
  unfold numbered
  rw [Nat.sub_self]
  rfl

theorem numbered_succ {s s' : σ} (h : bound s' = bound s + 1) : numbered bound s s' = [bound s] := by
  unfold numbered
  rw [h, Nat.add_sub_cancel_left]
  rfl

/-- What one step puts out and holds, against what was held and came in. -/
def Books (step : σ → α → σ) (place : σ → List Nat) (bound : σ → Nat) (out : σ → α → Option Nat)
    (R : List Nat → List Nat → Prop) (s : σ) (a : α) : Prop :=
  bound s ≤ bound (step s a) ∧
    R ((out s a).toList ++ place (step s a)) (place s ++ numbered bound s (step s a))

/-- **The ledger rule.** `R` is a preorder of lists that appending respects. -/
theorem books_run (hrefl : ∀ l, R l l) (htrans : ∀ {l m n}, R l m → R m n → R l n)
    (hleft : ∀ {l m} k, R l m → R (k ++ l) (k ++ m)) (hright : ∀ {l m} k, R l m → R (l ++ k) (m ++ k))
    {s : σ} {as : List α} (h : AllSteps step (Books step place bound out R) s as) :
    bound s ≤ bound (run step s as) ∧
      R (outputs step out s as ++ place (run step s as))
        (place s ++ numbered bound s (run step s as)) := by
  induction as generalizing s with
  | nil =>
    refine ⟨Nat.le_refl _, ?_⟩
    rw [run_nil, numbered_self, List.append_nil]
    exact hrefl _
  | cons a as ih =>
    obtain ⟨⟨hle, hfirst⟩, hrest⟩ := h
    obtain ⟨hle', hlater⟩ := ih hrest
    refine ⟨hle.trans hle', ?_⟩
    have hshifted := htrans (hleft (out s a).toList hlater)
      (List.append_assoc _ _ _ ▸ hright (numbered bound (step s a) (run step (step s a) as)) hfirst)
    rw [List.append_assoc, numbered_trans hle hle', ← List.append_assoc] at hshifted
    exact hshifted

/-- From an empty state: all numbers given out, in some order. -/
theorem books_perm {s : σ} {as : List α} (h : AllSteps step (Books step place bound out List.Perm) s as)
    (hplace : place s = []) (hbound : bound s = 0) :
    (outputs step out s as ++ place (run step s as)).Perm (List.range (bound (run step s as))) := by
  have hrun := (books_run List.Perm.refl List.Perm.trans (fun k => List.Perm.append_left k)
    (fun k hp => List.Perm.append_right k hp) h).2
  rw [hplace, List.nil_append] at hrun
  unfold numbered at hrun
  rwa [hbound, Nat.sub_zero, ← List.range_eq_range'] at hrun

end Ledger

section Outputs

variable {σ α β γ : Type*} {step : σ → α → σ}

theorem allSteps_of_all {P : σ → α → Prop} (h : ∀ s a, P s a) (s : σ) (as : List α) :
    AllSteps step P s as := by
  induction as generalizing s with
  | nil => trivial
  | cons a as ih => exact ⟨h s a, ih (step s a)⟩

theorem outputs_map (g : β → γ) (out : σ → α → Option β) (s : σ) (as : List α) :
    outputs step (fun s a => (out s a).map g) s as = (outputs step out s as).map g := by
  induction as generalizing s with
  | nil => rfl
  | cons a as ih =>
    show ((out s a).map g).toList ++ _ = ((out s a).toList ++ _).map g
    rw [ih, List.map_append, Option.toList_map]

end Outputs

/-! ## Counters -/

section Counters

variable {σ α β : Type*} {step : σ → α → σ}

/-- **The counter rule.** A 32-bit counter that grows by `gain` in every step. -/
theorem counter_run (counter : σ → UInt32) {gain : σ → α → Nat} {s : σ} {as : List α}
    (h : AllSteps step (fun s a => counter (step s a) = counter s + UInt32.ofNat (gain s a)) s as) :
    counter (run step s as) = counter s + UInt32.ofNat (total step gain s as) := by
  induction as generalizing s with
  | nil => exact (UInt32.add_zero _).symm
  | cons a as ih =>
    rw [run_cons, ih h.2, h.1, UInt32.add_assoc, ← UInt32.ofNat_add]
    rfl

theorem total_countP (out : σ → α → Option β) (p : β → Bool) (s : σ) (as : List α) :
    total step (fun s a => (out s a).toList.countP p) s as = (outputs step out s as).countP p := by
  induction as generalizing s with
  | nil => rfl
  | cons a as ih =>
    show _ + total step _ _ as = ((out s a).toList ++ _).countP p
    rw [ih, List.countP_append]

theorem total_add (f g : σ → α → Nat) (s : σ) (as : List α) :
    total step (fun s a => f s a + g s a) s as = total step f s as + total step g s as := by
  induction as generalizing s with
  | nil => rfl
  | cons a as ih =>
    show f s a + g s a + total step _ _ as = f s a + total step f _ as + (g s a + total step g _ as)
    rw [ih]
    omega

end Counters

end McpGateway.Lib
