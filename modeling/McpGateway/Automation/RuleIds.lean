import McpGateway.Automation.Isolation

/-!
# The ids of the rules

A rule gets its id from the client or from the counter `s_next_id`, which is
stored with the rules. `RuleBook` runs the engine next to the ids that are not
the counter's own: those that clients chose, and those of the rules that are
stored when the counter starts over at 1. Every other id is below the counter.
-/

namespace McpGateway.Automation

open McpGateway.Lib

inductive RuleStep
  | upsert (rule : AutomationRule) (env : SaveEnv)
  | delete (id : SeqId) (env : SaveEnv)
  | reboot (readable : Bool) (timer : Nat)

def ruleIds (rules : List AutomationRule) : List SeqId := rules.map fun r => r.id

namespace AutomationEngine

/-- `automation_init` after a restart; the stored rules stay where they are when
they cannot be read. -/
def reboot (s : AutomationEngine) (readable : Bool) (timer : Nat) : AutomationEngine :=
  { boot (if readable then s.saved else none) timer with saved := s.saved }

def edit (s : AutomationEngine) : RuleStep → AutomationEngine
  | .upsert rule env => (s.automationUpsertRule rule env).2
  | .delete id env => (s.automationDeleteRule id env).2
  | .reboot readable timer => s.reboot readable timer

/-- The rule is stored under an id that the engine assigns. -/
def Assigns (s : AutomationEngine) (rule : AutomationRule) : Prop :=
  rule.id = 0 ∧ (s.upsertPlan rule).isOk = true

instance (s : AutomationEngine) (rule : AutomationRule) : Decidable (s.Assigns rule) :=
  inferInstanceAs (Decidable (_ ∧ _))

/-- An id that a call assigns is not 0, and no stored rule has it. -/
def FreshId (s : AutomationEngine) : RuleStep → Prop
  | .upsert rule _ => s.Assigns rule →
      (s.filled rule).id ≠ 0 ∧ (s.filled rule).id ∉ ruleIds s.rules
  | _ => True

instance (s : AutomationEngine) : (a : RuleStep) → Decidable (s.FreshId a)
  | .upsert rule _ => inferInstanceAs (Decidable (s.Assigns rule → _))
  | .delete .. | .reboot .. => .isTrue trivial

end AutomationEngine

structure RuleBook where
  engine : AutomationEngine
  /-- The ids that are not the counter's own. -/
  foreign : List SeqId

namespace RuleBook

def boot (timer : Nat) : RuleBook := ⟨.boot none timer, []⟩

/-- The counter that is read back has run over, so `automation_init` puts it to 1. -/
def StartsOver (w : RuleBook) (readable : Bool) : Prop :=
  ∃ p ∈ w.engine.saved, readable = true ∧ p.nextId = 0

instance (w : RuleBook) (readable : Bool) : Decidable (w.StartsOver readable) :=
  inferInstanceAs (Decidable (∃ p ∈ w.engine.saved, _))

def storedIds (w : RuleBook) : List SeqId :=
  match w.engine.saved with
  | some p => ruleIds p.rules
  | none => []

def note (w : RuleBook) : RuleStep → List SeqId
  | .upsert rule _ =>
    if rule.id ≠ 0 ∧ rule.id ∉ ruleIds w.engine.rules then rule.id :: w.foreign else w.foreign
  | .delete .. => w.foreign
  | .reboot readable _ => if w.StartsOver readable then w.storedIds ++ w.foreign else w.foreign

def step (w : RuleBook) (a : RuleStep) : RuleBook := ⟨w.engine.edit a, w.note a⟩

/-- The call keeps the ids apart. -/
def UniqueIds (w : RuleBook) (a : RuleStep) : Prop :=
  (ruleIds (w.step a).engine.rules).Nodup ∧ w.engine.FreshId a

instance (w : RuleBook) (a : RuleStep) : Decidable (w.UniqueIds a) :=
  inferInstanceAs (Decidable (_ ∧ _))

/-- When the counter is used it has not run over, and it does not stand at an id
that a stored rule has from elsewhere. -/
def CounterApart (w : RuleBook) : RuleStep → Prop
  | .upsert rule _ => w.engine.Assigns rule →
      w.engine.nextId ≠ 0 ∧
        ∀ id ∈ ruleIds w.engine.rules, id ∈ w.foreign → id ≠ w.engine.nextId
  | _ => True

instance (w : RuleBook) : (a : RuleStep) → Decidable (w.CounterApart a)
  | .upsert rule _ => inferInstanceAs (Decidable (w.engine.Assigns rule → _))
  | .delete .. | .reboot .. => .isTrue trivial

end RuleBook

/-! ## Rules and their counter -/

/-- No two rules have one id, and each id is foreign or below the counter. -/
structure Counted (foreign : List SeqId) (nextId : SeqId) (rules : List AutomationRule) :
    Prop where
  distinct : (ruleIds rules).Nodup
  below : ∀ id ∈ ruleIds rules, id ∈ foreign ∨ id < nextId ∨ nextId = 0

theorem lt_next {id nextId : SeqId} (h : id ≤ nextId) : id < nextId + 1 ∨ nextId + 1 = 0 := by
  have hsum := Fin.val_add_one nextId
  rw [Fin.le_def] at h
  rw [Fin.lt_def, Fin.ext_iff, Fin.val_zero]
  split at hsum <;> omega

namespace Counted

variable {foreign foreign' : List SeqId} {nextId : SeqId} {rules rules' : List AutomationRule}
  {rule : AutomationRule}

theorem empty : Counted foreign nextId [] := ⟨List.nodup_nil, fun _ hid => by cases hid⟩

theorem mono (h : Counted foreign nextId rules) (hsub : foreign ⊆ foreign') :
    Counted foreign' nextId rules :=
  ⟨h.distinct, fun id hid => (h.below id hid).imp_left fun hf => hsub hf⟩

theorem congr (h : Counted foreign nextId rules) (hids : ruleIds rules' = ruleIds rules) :
    Counted foreign nextId rules' := ⟨hids ▸ h.distinct, hids ▸ h.below⟩

theorem append_ids : ruleIds (rules ++ [rule]) = ruleIds rules ++ [rule.id] := List.map_append

theorem append (h : Counted foreign nextId rules) (hfresh : rule.id ∉ ruleIds rules)
    (hbelow : rule.id ∈ foreign ∨ rule.id < nextId ∨ nextId = 0) :
    Counted foreign nextId (rules ++ [rule]) := by
  refine ⟨?_, fun id hid => ?_⟩
  · rw [append_ids, ← List.concat_eq_append]
    exact h.distinct.concat hfresh
  · rw [append_ids, List.mem_append, List.mem_singleton] at hid
    rcases hid with hid | rfl
    · exact h.below id hid
    · exact hbelow

theorem count (h : Counted foreign nextId rules) (hne : nextId ≠ 0) :
    Counted foreign (nextId + 1) rules := by
  refine ⟨h.distinct, fun id hid => (h.below id hid).imp_right fun hlt => ?_⟩
  exact lt_next (hlt.resolve_right hne).le

theorem eraseIdx (h : Counted foreign nextId rules) (i : Nat) :
    Counted foreign nextId (rules.eraseIdx i) := by
  have hsub : List.Sublist (ruleIds (rules.eraseIdx i)) (ruleIds rules) :=
    (List.eraseIdx_sublist rules i).map _
  exact ⟨h.distinct.sublist hsub, fun id hid => h.below id (hsub.subset hid)⟩

/-- Under a counter that starts over every id is foreign. -/
theorem restart (h : Counted foreign nextId rules) (next : SeqId) :
    Counted (ruleIds rules ++ foreign) next rules :=
  ⟨h.distinct, fun _ hid => .inl (List.mem_append_left _ hid)⟩

end Counted

section Upsert

variable {s : AutomationEngine} {rule : AutomationRule}

/-- An upsert puts a rule in the place of the one with its id, or behind the others. -/
theorem upsertPlan_ids {slot : Nat} {rules : List AutomationRule}
    (h : s.upsertPlan rule = .ok (slot, rules)) :
    (rule.id ≠ 0 ∧ rule.id ∈ ruleIds s.rules ∧ ruleIds rules = ruleIds s.rules) ∨
      ((rule.id = 0 ∨ rule.id ∉ ruleIds s.rules) ∧ rules = s.rules ++ [s.filled rule]) := by
  unfold AutomationEngine.upsertPlan at h
  split at h
  · cases h
  · split at h
    · rename_i slot' hslot
      obtain ⟨rfl, rfl⟩ := Prod.mk.inj (Except.ok.inj h)
      unfold AutomationEngine.slotOf at hslot
      split at hslot
      · rename_i hid
        obtain ⟨hlt, hfound, -⟩ := List.findIdx?_eq_some_iff_getElem.1 hslot
        have hsame : (s.filled rule).id = s.rules[slot'].id := by
          rw [of_decide_eq_true hfound]
          exact if_neg hid
        refine .inl ⟨hid, ?_, ?_⟩
        · rw [← of_decide_eq_true hfound]
          exact List.mem_map_of_mem (List.getElem_mem hlt)
        · have hlt' : slot' < (ruleIds s.rules).length := by
            rw [ruleIds, List.length_map]
            exact hlt
          have hself := List.set_getElem_self hlt'
          simp only [ruleIds, List.getElem_map] at hself
          rw [ruleIds, List.map_set, hsame]
          exact hself
      · cases hslot
    · rename_i hslot
      split at h
      · cases h
      · obtain ⟨-, rfl⟩ := Prod.mk.inj (Except.ok.inj h)
        refine .inr ⟨?_, rfl⟩
        by_cases hid : rule.id = 0
        · exact .inl hid
        · unfold AutomationEngine.slotOf at hslot
          rw [if_pos hid, List.findIdx?_eq_none_iff] at hslot
          refine .inr fun hmem => ?_
          obtain ⟨r, hr, heq⟩ := List.mem_map.1 hmem
          exact absurd (hslot r hr) (by simp [heq])

end Upsert

/-! ## Runs -/

namespace RuleBook

/-- The rules in memory and the stored ones go with their counters. -/
structure Sound (w : RuleBook) : Prop where
  rules : Counted w.foreign w.engine.nextId w.engine.rules
  saved : ∀ p ∈ w.engine.saved, Counted w.foreign p.nextId p.rules

variable {w : RuleBook} {rule : AutomationRule}

theorem sound_boot (timer : Nat) : (boot timer).Sound := ⟨.empty, fun _ hp => by cases hp⟩

theorem Sound.save (h : w.Sound) (env : SaveEnv) :
    Sound ⟨(w.engine.saveLocked env).2, w.foreign⟩ := by
  unfold AutomationEngine.saveLocked
  split
  · exact h
  · split
    · exact h
    · refine ⟨h.rules, fun p hp => ?_⟩
      obtain rfl := Option.some.inj hp
      exact h.rules

theorem note_subset (w : RuleBook) (a : RuleStep) : w.foreign ⊆ w.note a := by
  intro id hid
  unfold note
  split
  · split
    · exact List.mem_cons_of_mem _ hid
    · exact hid
  · exact hid
  · split
    · exact List.mem_append_right _ hid
    · exact hid

theorem Sound.fresh_iff (h : w.Sound) (a : RuleStep) :
    w.engine.FreshId a ↔ w.CounterApart a := by
  cases a with
  | upsert rule env =>
    refine forall_congr' fun hassigns => ?_
    have hid : (w.engine.filled rule).id = w.engine.nextId := if_pos hassigns.1
    rw [hid]
    refine and_congr_right fun hne => ⟨fun hfresh id hmem _ heq => hfresh (heq ▸ hmem), ?_⟩
    intro hapart hmem
    rcases h.rules.below _ hmem with hforeign | hlt | hzero
    · exact hapart _ hmem hforeign rfl
    · exact lt_irrefl _ hlt
    · exact hne hzero
  | delete => exact Iff.rfl
  | reboot => exact Iff.rfl

theorem Sound.store (h : w.Sound) {slot : Nat} {rules : List AutomationRule} (env : SaveEnv)
    (hplan : w.engine.upsertPlan rule = .ok (slot, rules))
    (hfresh : w.engine.FreshId (.upsert rule env)) :
    Sound ⟨w.engine.storeRule rule slot rules, w.note (.upsert rule env)⟩ := by
  have hsaved : ∀ p ∈ w.engine.saved, Counted (w.note (.upsert rule env)) p.nextId p.rules :=
    fun p hp => (h.saved p hp).mono (note_subset w _)
  refine ⟨?_, hsaved⟩
  have hrules := h.rules.mono (note_subset w (.upsert rule env))
  rcases upsertPlan_ids hplan with ⟨hid, -, hids⟩ | ⟨hnew, rfl⟩
  · show Counted _ (if rule.id = 0 then _ else _) rules
    rw [if_neg hid]
    exact hrules.congr hids
  · show Counted _ (if rule.id = 0 then _ else _) _
    by_cases hid : rule.id = 0
    · -- The rule is stored under the counter, which then goes on.
      obtain ⟨hne, hout⟩ := hfresh ⟨hid, by rw [hplan]; rfl⟩
      have hfilled : (w.engine.filled rule).id = w.engine.nextId := if_pos hid
      rw [hfilled] at hne
      rw [if_pos hid]
      refine (hrules.count hne).append hout (.inr ?_)
      rw [hfilled]
      exact lt_next (le_refl _)
    · have hout : rule.id ∉ ruleIds w.engine.rules := hnew.resolve_left hid
      have hfilled : (w.engine.filled rule).id = rule.id := if_neg hid
      rw [if_neg hid]
      refine hrules.append (hfilled ▸ hout) (.inl ?_)
      rw [hfilled]
      show rule.id ∈ ite _ _ _
      rw [if_pos ⟨hid, hout⟩]
      exact List.mem_cons_self

theorem Sound.upsert (h : w.Sound) (env : SaveEnv)
    (hfresh : w.engine.FreshId (.upsert rule env)) : (w.step (.upsert rule env)).Sound := by
  show Sound ⟨(w.engine.automationUpsertRule rule env).2, w.note (.upsert rule env)⟩
  have hsub := note_subset w (.upsert rule env)
  unfold AutomationEngine.automationUpsertRule
  cases hplan : w.engine.upsertPlan rule with
  | error err => exact ⟨h.rules.mono hsub, fun p hp => (h.saved p hp).mono hsub⟩
  | ok r => exact (h.store env hplan hfresh).save env

theorem Sound.delete (h : w.Sound) (id : SeqId) (env : SaveEnv) :
    (w.step (.delete id env)).Sound := by
  show Sound ⟨(w.engine.automationDeleteRule id env).2, w.foreign⟩
  unfold AutomationEngine.automationDeleteRule
  split
  · exact h
  · rename_i i hi
    have hdrop : Sound ⟨w.engine.dropRule i, w.foreign⟩ := ⟨h.rules.eraseIdx i, h.saved⟩
    exact hdrop.save env

/-- After a restart the rules go with the counter they were stored with, or with 1. -/
theorem Sound.reboot (h : w.Sound) (readable : Bool) (timer : Nat) :
    (w.step (.reboot readable timer)).Sound := by
  refine ⟨?_, fun p hp => (h.saved p hp).mono (note_subset w (.reboot readable timer))⟩
  show Counted (w.note (.reboot readable timer))
    (AutomationEngine.boot (if readable then w.engine.saved else none) timer).nextId
    (AutomationEngine.boot (if readable then w.engine.saved else none) timer).rules
  cases readable with
  | false => exact .empty
  | true =>
    rw [if_pos rfl]
    cases hsaved : w.engine.saved with
    | none => exact .empty
    | some p =>
      have hp := h.saved p (Option.mem_def.2 hsaved)
      show Counted _ (if _ then _ else _) (if _ then _ else _)
      by_cases hsize : p.rules.length ≤ automationMaxRules
      · rw [if_pos hsize]
        by_cases hzero : p.nextId = 0
        · rw [if_neg fun hboth => hboth.2 hzero]
          have hover : w.StartsOver true := ⟨p, Option.mem_def.2 hsaved, rfl, hzero⟩
          show Counted (ite _ _ _) 1 p.rules
          rw [if_pos hover, storedIds, hsaved]
          exact hp.restart 1
        · rw [if_pos ⟨hsize, hzero⟩]
          exact hp.mono (note_subset w _)
      · rw [if_neg hsize]
        exact .empty

theorem Sound.step (h : w.Sound) {a : RuleStep} (hfresh : w.engine.FreshId a) :
    (w.step a).Sound := by
  cases a with
  | upsert rule env => exact h.upsert env hfresh
  | delete id env => exact h.delete id env
  | reboot readable timer => exact h.reboot readable timer

/-- **Unique rule ids.** In every run from a device without rules the ids of the
stored rules are distinct, and an assigned id is new and not 0, if and only if the
counter, whenever it is used, has not run over and does not stand at a foreign id. -/
theorem unique_ids_run_iff (timer : Nat) (steps : List RuleStep) :
    AllSteps RuleBook.step UniqueIds (boot timer) steps ↔
      AllSteps RuleBook.step CounterApart (boot timer) steps := by
  refine allSteps_iff (K := fun w _ => w.Sound) ?_ ?_ (sound_boot timer)
  · intro w a _ h hunique
    exact h.step hunique.2
  · intro w a _ h
    rw [← h.fresh_iff a]
    exact and_iff_right_of_imp fun hfresh => (h.step hfresh).rules.distinct

/-! ### An id chosen ahead of the counter -/

/-- A client chooses id 1, and the next rule is given id 1 as well. -/
theorem chosen_id_assigned_again :
    ¬ AllSteps RuleBook.step UniqueIds (boot 0)
      [.upsert (alertAbove 1 "level") ⟨.ok, .ok, .ok⟩,
        .upsert (alertAbove 0 "temp") ⟨.ok, .ok, .ok⟩] := by decide +kernel

end RuleBook

end McpGateway.Automation
