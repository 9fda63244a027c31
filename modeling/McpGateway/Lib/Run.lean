import Mathlib.Algebra.Order.Ring.Nat
import Mathlib.Data.Fin.Basic
import Mathlib.Data.Finset.Max
import Mathlib.Data.List.Basic
import Mathlib.Data.Rat.Floor
import Mathlib.Order.Basic
import Mathlib.Order.Lattice
import Mathlib.Tactic.Linarith

/-!
# Runs of a deterministic machine

A machine is a total function `step : σ → α → σ`; every choice of the
environment is part of the label `α`. `run` folds a list of labels.
`AllSteps step P s as` says that `P` holds of every step of the run, and
`allSteps_iff` turns a per-step equivalence into one about whole runs.
-/

namespace McpGateway.Lib

section Runs

variable {σ α : Type*} (step : σ → α → σ)

/-- The state after the labels `as`. -/
def run (s : σ) (as : List α) : σ := as.foldl step s

/-- Every step of the run from `s` along `as` satisfies `P`. -/
def AllSteps (P : σ → α → Prop) : σ → List α → Prop
  | _, [] => True
  | s, a :: as => P s a ∧ AllSteps P (step s a) as

/-- Whether every step is good can be computed. -/
instance allStepsDecidable (P : σ → α → Prop) [∀ s a, Decidable (P s a)] :
    (s : σ) → (as : List α) → Decidable (AllSteps step P s as)
  | _, [] => .isTrue trivial
  | s, a :: as =>
    have : Decidable (AllSteps step P (step s a) as) := allStepsDecidable P (step s a) as
    inferInstanceAs (Decidable (P s a ∧ AllSteps step P (step s a) as))

/-- The sum of `f` over the steps of a run. -/
def total (f : σ → α → Nat) : σ → List α → Nat
  | _, [] => 0
  | s, a :: as => f s a + total f (step s a) as

/-- What the steps of a run put out, in order. -/
def outputs {β : Type*} (out : σ → α → Option β) : σ → List α → List β
  | _, [] => []
  | s, a :: as => (out s a).toList ++ outputs out (step s a) as

variable {step}

@[simp] theorem run_nil (s : σ) : run step s [] = s := rfl

@[simp] theorem run_cons (s : σ) (a : α) (as : List α) :
    run step s (a :: as) = run step (step s a) as := rfl

theorem run_append (s : σ) (as bs : List α) :
    run step s (as ++ bs) = run step (run step s as) bs := List.foldl_append

theorem run_concat (s : σ) (as : List α) (a : α) :
    run step s (as ++ [a]) = step (run step s as) a := by rw [run_append]; rfl

variable {P Q : σ → α → Prop}

@[simp] theorem allSteps_nil (s : σ) : AllSteps step P s [] := trivial

@[simp] theorem allSteps_cons (s : σ) (a : α) (as : List α) :
    AllSteps step P s (a :: as) ↔ P s a ∧ AllSteps step P (step s a) as := Iff.rfl

theorem allSteps_append (s : σ) (as bs : List α) :
    AllSteps step P s (as ++ bs) ↔ AllSteps step P s as ∧ AllSteps step P (run step s as) bs := by
  induction as generalizing s with
  | nil => simp
  | cons a as ih => simp [ih, and_assoc]

theorem allSteps_reached {R : σ → Prop} {s : σ} {as : List α} {a : α}
    (h : AllSteps step (fun s a => R (step s a)) s (as ++ [a])) : R (run step s (as ++ [a])) := by
  rw [run_concat]
  exact ((allSteps_append s as [a]).1 h).2.1

/-- `AllSteps` speaks about each step, wherever it stands in the run. -/
theorem allSteps_iff_split (s : σ) (as : List α) :
    AllSteps step P s as ↔
      ∀ as₁ a as₂, as = as₁ ++ a :: as₂ → P (run step s as₁) a := by
  constructor
  · rintro h as₁ a as₂ rfl
    exact (((allSteps_append s as₁ (a :: as₂)).1 h).2).1
  · intro h
    induction as generalizing s with
    | nil => trivial
    | cons a as ih =>
      refine ⟨h [] a as rfl, ih _ fun as₁ b as₂ he => ?_⟩
      exact h (a :: as₁) b as₂ (by rw [he]; rfl)

theorem allSteps_of_forall {R : α → Prop} {as : List α} (h : ∀ a ∈ as, R a) (s : σ) :
    AllSteps step (fun _ a => R a) s as := by
  induction as generalizing s with
  | nil => trivial
  | cons a as ih =>
    exact ⟨h a List.mem_cons_self, ih (fun b hb => h b (List.mem_cons_of_mem a hb)) (step s a)⟩

theorem AllSteps.mono (h : ∀ s a, P s a → Q s a) {s : σ} {as : List α}
    (hs : AllSteps step P s as) : AllSteps step Q s as := by
  induction as generalizing s with
  | nil => trivial
  | cons a as ih => exact ⟨h _ _ hs.1, ih hs.2⟩

theorem AllSteps.and {s : σ} {as : List α} (hP : AllSteps step P s as)
    (hQ : AllSteps step Q s as) : AllSteps step (fun s a => P s a ∧ Q s a) s as := by
  induction as generalizing s with
  | nil => trivial
  | cons a as ih => exact ⟨⟨hP.1, hQ.1⟩, ih hP.2 hQ.2⟩

/-- **The run rule.** `K` is what is known before a step about the state and
the labels still to come. If it survives every step that satisfies `P`, and
under it `P` is the same as `G`, the two agree on whole runs. -/
theorem allSteps_iff {K : σ → List α → Prop} {G : σ → α → Prop}
    (keep : ∀ s a as, K s (a :: as) → P s a → K (step s a) as)
    (same : ∀ s a as, K s (a :: as) → (P s a ↔ G s a))
    {s : σ} {as : List α} (hK : K s as) : AllSteps step P s as ↔ AllSteps step G s as := by
  induction as generalizing s with
  | nil => simp
  | cons a as ih =>
    simp only [allSteps_cons]
    rw [same s a as hK]
    refine and_congr_right fun hG => ih (keep s a as hK ((same s a as hK).2 hG))

/-- **The invariant rule.** An invariant kept by every guarded step holds at
the end of every guarded run. -/
theorem inv_run {Inv : σ → Prop} {G : σ → α → Prop}
    (keep : ∀ s a, Inv s → G s a → Inv (step s a)) {s : σ} {as : List α}
    (hs : Inv s) (hG : AllSteps step G s as) : Inv (run step s as) := by
  induction as generalizing s with
  | nil => exact hs
  | cons a as ih => exact ih (keep s a hs hG.1) hG.2

/-- What a guarded step does under an invariant, at every step of a guarded run. -/
theorem allSteps_of_inv {Inv : σ → Prop} {G : σ → α → Prop}
    (keep : ∀ s a, Inv s → G s a → Inv (step s a))
    (holds : ∀ s a, Inv s → G s a → P s a) {s : σ} {as : List α}
    (hs : Inv s) (hG : AllSteps step G s as) : AllSteps step P s as := by
  induction as generalizing s with
  | nil => trivial
  | cons a as ih => exact ⟨holds s a hs hG.1, ih (keep s a hs hG.1) hG.2⟩

/-- **The balance rule.** If every step balances what is held with what comes in
and goes out, so does the run. -/
theorem balance_run {held : σ → Nat} {gain spend : σ → α → Nat} {s : σ} {as : List α}
    (h : AllSteps step (fun s a => held s + gain s a = held (step s a) + spend s a) s as) :
    held s + total step gain s as = held (run step s as) + total step spend s as := by
  induction as generalizing s with
  | nil => rfl
  | cons a as ih =>
    obtain ⟨hfirst, hrest⟩ := h
    have hlater := ih hrest
    show held s + (gain s a + total step gain (step s a) as) =
      held (run step (step s a) as) + (spend s a + total step spend (step s a) as)
    omega

/-- **The probe rule.** A run is good with a last step `r` put after any part of
it, if `r` is good at the start and every step is good and leaves `r` good. -/
theorem allSteps_probe (r : α) (s : σ) (as : List α) :
    (∀ before after, as = before ++ after → AllSteps step P s (before ++ [r])) ↔
      P s r ∧ AllSteps step (fun s a => P s a ∧ P (step s a) r) s as := by
  induction as generalizing s with
  | nil =>
    constructor
    · intro h
      exact ⟨(h [] [] rfl).1, trivial⟩
    · rintro ⟨hr, -⟩ before after hsplit
      obtain ⟨rfl, -⟩ := List.append_eq_nil_iff.1 hsplit.symm
      exact ⟨hr, trivial⟩
  | cons a as ih =>
    have hlater := ih (step s a)
    constructor
    · intro h
      have hrest := hlater.1 fun before after hsplit =>
        (h (a :: before) after (by rw [hsplit]; rfl)).2
      exact ⟨(h [] (a :: as) rfl).1, ⟨(h [a] as rfl).1, hrest.1⟩, hrest.2⟩
    · rintro ⟨hr, ⟨ha, hafter⟩, hrest⟩ before after hsplit
      cases before with
      | nil => exact ⟨hr, trivial⟩
      | cons b before =>
        obtain ⟨rfl, htail⟩ := List.cons.inj hsplit
        exact ⟨ha, hlater.2 ⟨hafter, hrest⟩ before after htail⟩

/-- **The floor rule.** If every output lies above a floor that never falls, and
raises it at least to itself, the outputs of a run increase. -/
theorem outputs_increasing {β : Type*} [Preorder β] {out : σ → α → Option β} {floor : σ → β}
    {s : σ} {as : List α}
    (h : AllSteps step (fun s a => floor s ≤ floor (step s a) ∧
      ∀ v ∈ out s a, floor s < v ∧ v ≤ floor (step s a)) s as) :
    (outputs step out s as).Pairwise (· < ·) ∧ ∀ v ∈ outputs step out s as, floor s < v := by
  induction as generalizing s with
  | nil => exact ⟨.nil, fun v hv => absurd hv List.not_mem_nil⟩
  | cons a as ih =>
    obtain ⟨⟨hfloor, hout⟩, hrest⟩ := h
    obtain ⟨hpairwise, habove⟩ := ih hrest
    refine ⟨List.pairwise_append.2 ⟨?_, hpairwise, ?_⟩, fun v hv => ?_⟩
    · cases out s a with
      | none => exact .nil
      | some v => exact List.pairwise_singleton _ v
    · intro v hv w hw
      exact (hout v (Option.mem_toList.1 hv)).2.trans_lt (habove w hw)
    · rcases List.mem_append.1 hv with hfirst | hlater
      · exact (hout v (Option.mem_toList.1 hfirst)).1
      · exact hfloor.trans_lt (habove v hlater)

theorem outputs_cons_none {β : Type*} {out : σ → α → Option β} {s : σ} {a : α} {as : List α}
    (h : out s a = none) : outputs step out s (a :: as) = outputs step out (step s a) as := by
  show (out s a).toList ++ _ = _
  rw [h]
  rfl

theorem outputs_cons_some {β : Type*} {out : σ → α → Option β} {s : σ} {a : α} {as : List α}
    {v : β} (h : out s a = some v) :
    outputs step out s (a :: as) = v :: outputs step out (step s a) as := by
  show (out s a).toList ++ _ = _
  rw [h]
  rfl

theorem outputs_forall {β : Type*} {out : σ → α → Option β} {R : β → Prop} {s : σ} {as : List α}
    (h : AllSteps step (fun s a => ∀ v ∈ out s a, R v) s as) :
    ∀ v ∈ outputs step out s as, R v := by
  induction as generalizing s with
  | nil => exact fun v hv => absurd hv List.not_mem_nil
  | cons a as ih =>
    intro v hv
    rcases List.mem_append.1 hv with hfirst | hlater
    · exact h.1 v (Option.mem_toList.1 hfirst)
    · exact ih h.2 v hlater

section Rounds

variable {β : Type*} {out : σ → α → Option β} (stop : β) (Inv : σ → List α → Prop)
  (done : σ → β → Prop)

/-- **The round rule.** Until `stop` is put out, no output is done before its
step, every output is done after it, and what is done stays done: so no output
before `stop` comes twice. -/
theorem nodup_before [DecidableEq β]
    (keep : ∀ s a as, Inv s (a :: as) → stop ∉ out s a →
      Inv (step s a) as ∧ ∀ v, done s v → done (step s a) v)
    (pick : ∀ s a as, Inv s (a :: as) → ∀ v ∈ out s a, v ≠ stop →
      ¬ done s v ∧ done (step s a) v)
    {s : σ} {as : List α} (h : Inv s as) :
    ((outputs step out s as).takeWhile (· ≠ stop)).Nodup ∧
      ∀ v ∈ (outputs step out s as).takeWhile (· ≠ stop), ¬ done s v := by
  induction as generalizing s with
  | nil => exact ⟨List.nodup_nil, fun v hv => absurd hv List.not_mem_nil⟩
  | cons a as ih =>
    cases hout : out s a with
    | none =>
      obtain ⟨hinv, hdone⟩ := keep s a as h (by rw [hout]; exact Option.not_mem_none stop)
      obtain ⟨hnodup, hnew⟩ := ih hinv
      rw [outputs_cons_none hout]
      exact ⟨hnodup, fun v hv hold => hnew v hv (hdone v hold)⟩
    | some v =>
      rw [outputs_cons_some hout]
      by_cases hstop : v = stop
      · rw [List.takeWhile_cons_of_neg (by simp [hstop])]
        exact ⟨List.nodup_nil, fun v hv => absurd hv List.not_mem_nil⟩
      · obtain ⟨hinv, hdone⟩ := keep s a as h fun hmem =>
          hstop (Option.some.inj (hout.symm.trans hmem))
        obtain ⟨hnew, hold⟩ := pick s a as h v hout hstop
        obtain ⟨hnodup, hlater⟩ := ih hinv
        rw [List.takeWhile_cons_of_pos (by simp [hstop])]
        refine ⟨List.nodup_cons.2 ⟨fun hmem => hlater v hmem hold, hnodup⟩, fun w hw => ?_⟩
        rcases List.mem_cons.1 hw with rfl | hmem
        · exact hnew
        · exact fun hbefore => hlater w hmem (hdone w hbefore)

theorem length_outputs_of_rounds {rounds : σ → α → Nat}
    (keep : ∀ s a as, Inv s (a :: as) → stop ∉ out s a → Inv (step s a) as)
    (round : ∀ s a as, Inv s (a :: as) → (out s a).toList.length = rounds s a)
    {s : σ} {as : List α} (h : Inv s as) (hstop : stop ∉ outputs step out s as) :
    (outputs step out s as).length = total step rounds s as := by
  induction as generalizing s with
  | nil => rfl
  | cons a as ih =>
    have hsplit : outputs step out s (a :: as) =
      (out s a).toList ++ outputs step out (step s a) as := rfl
    rw [hsplit, List.mem_append, not_or, Option.mem_toList] at hstop
    rw [hsplit, List.length_append, round s a as h, ih (keep s a as h hstop.1) hstop.2]
    rfl

end Rounds

/-- **The counter rule.** Along steps that never take a counter back, and keep
what is seen whenever they keep the counter, the counter decides what is seen. -/
theorem seen_of_counter {β γ : Type*} [PartialOrder β] (counter : σ → β) (seen : σ → γ)
    {s : σ} {as : List α}
    (h : AllSteps step (fun s a => counter s ≤ counter (step s a) ∧
      (counter (step s a) = counter s → seen (step s a) = seen s)) s as) :
    counter s ≤ counter (run step s as) ∧
      (counter (run step s as) = counter s → seen (run step s as) = seen s) := by
  induction as generalizing s with
  | nil => exact ⟨le_refl _, fun _ => rfl⟩
  | cons a as ih =>
    obtain ⟨⟨hle, hseen⟩, hrest⟩ := h
    obtain ⟨hle', hseen'⟩ := ih hrest
    refine ⟨hle.trans hle', fun heq => ?_⟩
    rw [run_cons] at heq ⊢
    have hfirst : counter (step s a) = counter s :=
      le_antisymm (hle'.trans heq.le) hle
    rw [hseen' (heq.trans hfirst.symm), hseen hfirst]

end Runs

end McpGateway.Lib
