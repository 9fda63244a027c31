import Mathlib.Algebra.Order.Ring.Nat
import Mathlib.Data.Fin.Basic
import Mathlib.Data.Finset.Max
import Mathlib.Data.List.Basic
import Mathlib.Data.Rat.Floor
import Mathlib.Order.Lattice
import Mathlib.Tactic.Linarith

/-!
# Durable calls

A procedure that writes a store by a sequence of calls, each of which takes
effect at once or fails and ends the sequence. Whatever the answers are, the
store is left as after the first few calls (`attempt_cases`), which is also
what a loss of power leaves.
-/

namespace McpGateway.Lib

section Durable

variable {σ ε : Type*}

/-- The store after the first `k` calls. -/
def upTo (k : Nat) (calls : List (σ → σ)) (s : σ) : σ := (calls.take k).foldl (fun s f => f s) s

/-- The calls in order, the first answered by `answer i`; the error of the call
that failed, and the store. -/
def attempt (answer : Nat → Option ε) : Nat → List (σ → σ) → σ → Option ε × σ
  | _, [], s => (none, s)
  | i, f :: fs, s =>
    match answer i with
    | some e => (some e, s)
    | none => attempt answer (i + 1) fs (f s)

/-- How many of `n` calls succeed before the first failure, the first answered by `answer i`. -/
def answered (answer : Nat → Option ε) : Nat → Nat → Nat
  | _, 0 => 0
  | i, n + 1 =>
    match answer i with
    | some _ => 0
    | none => answered answer (i + 1) n + 1

@[simp] theorem upTo_zero (calls : List (σ → σ)) (s : σ) : upTo 0 calls s = s := rfl

@[simp] theorem upTo_nil (k : Nat) (s : σ) : upTo k [] s = s := by
  rw [upTo, List.take_nil]
  rfl

@[simp] theorem upTo_succ (k : Nat) (f : σ → σ) (fs : List (σ → σ)) (s : σ) :
    upTo (k + 1) (f :: fs) s = upTo k fs (f s) := rfl

/-- Past the first of two parts all of it has taken effect. -/
theorem upTo_append (k : Nat) (fs gs : List (σ → σ)) (s : σ) :
    upTo k (fs ++ gs) s = upTo (k - fs.length) gs (upTo k fs s) := by
  rw [upTo, List.take_append, List.foldl_append]
  rfl

/-- What each call preserves, the first few calls preserve. -/
theorem upTo_induction {P : σ → Prop} {calls : List (σ → σ)} {s : σ} (h : P s)
    (hcall : ∀ f ∈ calls, ∀ s, P s → P (f s)) (k : Nat) : P (upTo k calls s) := by
  induction calls generalizing k s with
  | nil => rwa [upTo_nil]
  | cons f fs ih =>
    cases k with
    | zero => exact h
    | succ k =>
      exact ih (hcall f List.mem_cons_self s h)
        (fun g hg => hcall g (List.mem_cons_of_mem f hg)) k

/-- A failed procedure stopped before one of its calls; a successful one made them all. -/
theorem attempt_cases (answer : Nat → Option ε) (i : Nat) (calls : List (σ → σ)) (s : σ) :
    (∃ k e, k < calls.length ∧ answer (i + k) = some e ∧
        attempt answer i calls s = (some e, upTo k calls s)) ∨
      attempt answer i calls s = (none, upTo calls.length calls s) := by
  induction calls generalizing i s with
  | nil => exact .inr rfl
  | cons f fs ih =>
    unfold attempt
    cases hi : answer i with
    | some e => exact .inl ⟨0, e, Nat.succ_pos _, hi, rfl⟩
    | none =>
      rcases ih (i + 1) (f s) with ⟨k, e, hk, hanswer, h⟩ | h
      · refine .inl ⟨k + 1, e, Nat.succ_lt_succ hk, ?_, h⟩
        rwa [Nat.add_right_comm, Nat.add_assoc] at hanswer
      · exact .inr h

theorem attempt_snd (answer : Nat → Option ε) (i : Nat) (calls : List (σ → σ)) (s : σ) :
    (attempt answer i calls s).2 = upTo (answered answer i calls.length) calls s := by
  induction calls generalizing i s with
  | nil => rfl
  | cons f fs ih =>
    rw [attempt, List.length_cons, answered]
    cases answer i with
    | some e => rfl
    | none => exact ih (i + 1) (f s)

theorem lt_answered_iff (answer : Nat → Option ε) (i n k : Nat) :
    k < answered answer i n ↔ k < n ∧ ∀ j ≤ k, answer (i + j) = none := by
  induction n generalizing i k with
  | zero => simp [answered]
  | succ n ih =>
    unfold answered
    cases hi : answer i with
    | some e =>
      refine iff_of_false (Nat.not_lt_zero k) ?_
      rintro ⟨-, h⟩
      exact absurd ((h 0 (Nat.zero_le k)).symm.trans hi) nofun
    | none =>
      have hnext : ∀ j, answer (i + 1 + j) = answer (i + (j + 1)) :=
        fun j => congrArg answer (Nat.add_right_comm i 1 j)
      cases k with
      | zero =>
        refine iff_of_true (Nat.succ_pos _) ⟨Nat.succ_pos n, fun j hj => ?_⟩
        rwa [Nat.le_zero.1 hj]
      | succ k =>
        rw [Nat.succ_lt_succ_iff, ih]
        refine and_congr Nat.succ_lt_succ_iff.symm ⟨fun h j hj => ?_, fun h j hj => ?_⟩
        · cases j with
          | zero => exact hi
          | succ j => exact (hnext j).symm.trans (h j (Nat.le_of_succ_le_succ hj))
        · exact (hnext j).trans (h (j + 1) (Nat.succ_le_succ hj))

theorem attempt_fst_iff (answer : Nat → Option ε) (i : Nat) (calls : List (σ → σ)) (s : σ) :
    (attempt answer i calls s).1 = none ↔ ∀ k < calls.length, answer (i + k) = none := by
  induction calls generalizing i s with
  | nil => exact iff_of_true rfl fun k hk => absurd hk (Nat.not_lt_zero k)
  | cons f fs ih =>
    unfold attempt
    cases hi : answer i with
    | some e =>
      refine iff_of_false nofun fun h => ?_
      exact absurd ((h 0 (Nat.succ_pos _)).symm.trans hi) nofun
    | none =>
      simp only
      rw [ih]
      have hnext : ∀ j, answer (i + 1 + j) = answer (i + (j + 1)) :=
        fun j => congrArg answer (Nat.add_right_comm i 1 j)
      refine ⟨fun h k hk => ?_, fun h k hk => ?_⟩
      · cases k with
        | zero => exact hi
        | succ k => exact (hnext k).symm.trans (h k (Nat.lt_of_succ_lt_succ hk))
      · exact (hnext k).trans (h (k + 1) (Nat.succ_lt_succ hk))

theorem attempt_fst_some {answer : Nat → Option ε} {i : Nat} {calls : List (σ → σ)} {s : σ} {e : ε}
    (h : (attempt answer i calls s).1 = some e) : ∃ k, answer (i + k) = some e := by
  rcases attempt_cases answer i calls s with ⟨k, e', -, hk, hresult⟩ | hall
  · rw [hresult] at h
    cases h
    exact ⟨k, hk⟩
  · rw [hall] at h
    cases h

theorem attempt_of_none {answer : Nat → Option ε} (h : ∀ i, answer i = none) (i : Nat)
    (calls : List (σ → σ)) (s : σ) :
    attempt answer i calls s = (none, upTo calls.length calls s) := by
  rcases attempt_cases answer i calls s with ⟨k, e, -, he, -⟩ | hall
  · rw [h] at he
    cases he
  · exact hall

end Durable

end McpGateway.Lib
