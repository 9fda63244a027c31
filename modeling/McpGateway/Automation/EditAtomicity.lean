import McpGateway.Automation.Isolation

/-!
# Edits that fail

`automation_upsert_rule` and `automation_delete_rule` change the rules in memory
and their timers before `save_locked`, and do not take that back when it fails.
`edit_atomic_iff` says when a call that returns an error has changed nothing.
-/

namespace McpGateway.Automation

open McpGateway.Lib

inductive RuleEdit
  | upsert (rule : AutomationRule)
  | delete (id : SeqId)

namespace AutomationEngine

def perform (s : AutomationEngine) (env : SaveEnv) : RuleEdit → EspErr × AutomationEngine
  | .upsert rule => s.automationUpsertRule rule env
  | .delete id => s.automationDeleteRule id env

def stored (s : AutomationEngine) : List AutomationRule :=
  match s.saved with
  | some p => p.rules
  | none => []

/-- Every step of `save_locked` succeeds. -/
def Saves (env : SaveEnv) : Prop := env.open = .ok ∧ env.set = .ok ∧ env.commit = .ok

/-- The rules in memory, the timing state of each of them, and that they are the
stored ones are as they were in `s`. -/
structure Unchanged (s t : AutomationEngine) : Prop where
  rules : t.rules = s.rules
  timers : ∀ i < s.rules.length, t.conditionSince i = s.conditionSince i ∧
    t.lastTrigger i = s.lastTrigger i ∧ t.conditionActive i = s.conditionActive i
  stored : s.stored = s.rules → t.stored = t.rules

/-- A call that returns an error changes nothing. -/
def Atomic (s : AutomationEngine) (env : SaveEnv) (edit : RuleEdit) : Prop :=
  (s.perform env edit).1 ≠ .ok → s.Unchanged (s.perform env edit).2

/-- The call ends before it changes anything: its rule has no source, the table
is full, or no rule has the identifier. -/
def Refused (s : AutomationEngine) : RuleEdit → Prop
  | .upsert rule => rule.sourceDevice.str = [] ∨ rule.sourcePoint.str = [] ∨
      s.slotOf rule.id = none ∧ automationMaxRules ≤ s.rules.length
  | .delete id => ∀ r ∈ s.rules, r.id ≠ id

/-- The call puts a rule over an equal one whose timers have not started. -/
def Rewrites (s : AutomationEngine) : RuleEdit → Prop
  | .upsert rule => ∃ slot, s.slotOf rule.id = some slot ∧
      s.rules[slot]? = some (s.filled rule) ∧ s.conditionSince slot = 0 ∧ s.lastTrigger slot = 0
  | .delete _ => False

/-! ## What a call does -/

variable {s : AutomationEngine} {env : SaveEnv} {rule : AutomationRule}

/-- A save writes the rules unless opening or writing fails, and changes nothing else. -/
theorem saveLocked_spec (s : AutomationEngine) (env : SaveEnv) :
    (∃ saved, (s.saveLocked env).2 = { s with saved := saved } ∧
      (saved = s.saved ∨ saved = some ⟨s.nextId, s.rules⟩)) ∧
    ((s.saveLocked env).1 = .ok ↔ Saves env) := by
  unfold saveLocked Saves
  by_cases hopen : env.open = .ok
  · rw [if_neg (not_not.2 hopen)]
    by_cases hset : env.set = .ok
    · rw [if_neg (not_not.2 hset)]
      exact ⟨⟨_, rfl, .inr rfl⟩, fun h => ⟨hopen, hset, h⟩, fun h => h.2.2⟩
    · rw [if_pos hset]
      exact ⟨⟨_, rfl, .inl rfl⟩, fun h => absurd h hset, fun h => absurd h.2.1 hset⟩
  · rw [if_pos hopen]
    exact ⟨⟨_, rfl, .inl rfl⟩, fun h => absurd h hopen, fun h => absurd h.1 hopen⟩

/-- The plan of a rule with a source: its own slot, or a new one while there is room. -/
theorem upsertPlan_of_source (hdevice : rule.sourceDevice.str ≠ [])
    (hpoint : rule.sourcePoint.str ≠ []) :
    (∀ slot, s.slotOf rule.id = some slot →
      s.upsertPlan rule = .ok (slot, s.rules.set slot (s.filled rule))) ∧
    (s.slotOf rule.id = none → automationMaxRules ≤ s.rules.length →
      s.upsertPlan rule = .error .noMem) ∧
    (s.slotOf rule.id = none → ¬ automationMaxRules ≤ s.rules.length →
      s.upsertPlan rule = .ok (s.rules.length, s.rules ++ [s.filled rule])) := by
  unfold upsertPlan
  rw [if_neg (not_or.2 ⟨hdevice, hpoint⟩)]
  refine ⟨fun slot hslot => ?_, fun hslot hfull => ?_, fun hslot hroom => ?_⟩
  · rw [hslot]
  · rw [hslot]
    exact if_pos hfull
  · rw [hslot]
    exact if_neg hroom

theorem perform_refused {edit : RuleEdit} (h : s.Refused edit) :
    (s.perform env edit).2 = s := by
  cases edit with
  | upsert rule =>
    have hplan : ∃ err, s.upsertPlan rule = .error err := by
      by_cases hsource : rule.sourceDevice.str = [] ∨ rule.sourcePoint.str = []
      · exact ⟨_, if_pos hsource⟩
      · obtain ⟨hdevice, hpoint⟩ := not_or.1 hsource
        obtain ⟨hslot, hfull⟩ := (h.resolve_left hdevice).resolve_left hpoint
        exact ⟨_, (upsertPlan_of_source hdevice hpoint).2.1 hslot hfull⟩
    obtain ⟨err, hplan⟩ := hplan
    rw [perform, automationUpsertRule, hplan]
  | delete id =>
    have hnone : (s.rules.findIdx? fun r => decide (r.id = id)) = none := by
      rw [List.findIdx?_eq_none_iff]
      exact fun r hr => decide_eq_false (h r hr)
    rw [perform, automationDeleteRule, hnone]

/-- An upsert that is not refused stores its rule in a slot of its own or a new
one, and saves that. -/
theorem perform_upsert (h : ¬ s.Refused (.upsert rule)) : ∃ slot rules,
    s.perform env (.upsert rule) = (s.storeRule rule slot rules).saveLocked env ∧
      (s.slotOf rule.id = some slot ∧ rules = s.rules.set slot (s.filled rule) ∨
        s.slotOf rule.id = none ∧ rules = s.rules ++ [s.filled rule]) := by
  obtain ⟨hdevice, hpoint, hroom⟩ : rule.sourceDevice.str ≠ [] ∧ rule.sourcePoint.str ≠ [] ∧
      ¬ (s.slotOf rule.id = none ∧ automationMaxRules ≤ s.rules.length) := by
    unfold Refused at h
    tauto
  obtain ⟨hreplace, -, happend⟩ := @upsertPlan_of_source s rule hdevice hpoint
  cases hslot : s.slotOf rule.id with
  | some slot =>
    refine ⟨slot, _, ?_, .inl ⟨rfl, rfl⟩⟩
    rw [perform, automationUpsertRule, hreplace slot hslot]
  | none =>
    refine ⟨s.rules.length, _, ?_, .inr ⟨rfl, rfl⟩⟩
    rw [perform, automationUpsertRule, happend hslot fun hfull => hroom ⟨hslot, hfull⟩]

theorem perform_delete {id : SeqId} (h : ¬ s.Refused (.delete id)) : ∃ i < s.rules.length,
    s.perform env (.delete id) = (s.dropRule i).saveLocked env := by
  cases hfind : (s.rules.findIdx? fun r => decide (r.id = id)) with
  | none =>
    rw [List.findIdx?_eq_none_iff] at hfind
    exact absurd (fun r hr => of_decide_eq_false (hfind r hr)) h
  | some i =>
    refine ⟨i, (List.findIdx?_eq_some_iff_getElem.1 hfind).1, ?_⟩
    rw [perform, automationDeleteRule, hfind]

/-! ## When a failed call has changed nothing -/

theorem Unchanged.refl (s : AutomationEngine) : s.Unchanged s :=
  ⟨rfl, fun _ _ => ⟨rfl, rfl, rfl⟩, fun h => h⟩

/-- Storing a rule and saving changes nothing only where the rule and its timers
are there already. -/
theorem unchanged_store_iff {slot : Nat} (hslot : slot < s.rules.length) :
    s.Unchanged ((s.storeRule rule slot (s.rules.set slot (s.filled rule))).saveLocked env).2 ↔
      s.rules[slot]? = some (s.filled rule) ∧ s.conditionSince slot = 0 ∧
        s.lastTrigger slot = 0 := by
  obtain ⟨⟨saved, hafter, hsaved⟩, -⟩ := saveLocked_spec
    (s.storeRule rule slot (s.rules.set slot (s.filled rule))) env
  rw [hafter]
  constructor
  · intro h
    have hrule : s.rules.set slot (s.filled rule) = s.rules := h.rules
    obtain ⟨hsince, htrigger, -⟩ := h.timers slot hslot
    have hzero : Function.update s.conditionSince slot 0 slot = s.conditionSince slot := hsince
    have hzero' : Function.update s.lastTrigger slot 0 slot = s.lastTrigger slot := htrigger
    rw [Function.update_self] at hzero hzero'
    refine ⟨?_, hzero.symm, hzero'.symm⟩
    rw [← hrule, List.getElem?_set_self hslot]
  · rintro ⟨hrule, hsince, htrigger⟩
    have hsame : s.rules.set slot (s.filled rule) = s.rules := by
      obtain ⟨_, hget⟩ := List.getElem?_eq_some_iff.1 hrule
      rw [← hget, List.set_getElem_self]
    refine ⟨hsame, fun i _ => ⟨?_, ?_, rfl⟩, fun hstored => ?_⟩
    · exact congrFun ((Function.update_eq_self_iff).2 hsince.symm) i
    · exact congrFun ((Function.update_eq_self_iff).2 htrigger.symm) i
    · rcases hsaved with hold | hnew
      · subst hold
        exact hstored.trans hsame.symm
      · subst hnew
        rfl

/-- A save that has another number of rules to save changes something. -/
theorem not_unchanged_of_length {t : AutomationEngine} (h : t.rules.length ≠ s.rules.length) :
    ¬ s.Unchanged (t.saveLocked env).2 := by
  intro hunchanged
  obtain ⟨⟨saved, hafter, -⟩, -⟩ := saveLocked_spec t env
  have hrules := hunchanged.rules
  rw [hafter] at hrules
  exact h (congrArg List.length hrules)

theorem slotOf_lt {id : SeqId} {slot : Nat} (h : s.slotOf id = some slot) :
    slot < s.rules.length := by
  unfold slotOf at h
  split at h
  · exact (List.findIdx?_eq_some_iff_getElem.1 h).1
  · cases h

theorem unchanged_iff_rewrites {edit : RuleEdit} (h : ¬ s.Refused edit) :
    s.Unchanged (s.perform env edit).2 ↔ s.Rewrites edit := by
  cases edit with
  | upsert rule =>
    obtain ⟨slot, rules, hperform, ⟨hslot, rfl⟩ | ⟨hslot, rfl⟩⟩ := @perform_upsert s env rule h
    · rw [hperform, unchanged_store_iff (slotOf_lt hslot)]
      unfold Rewrites
      constructor
      · exact fun hthere => ⟨slot, hslot, hthere⟩
      · rintro ⟨slot', hslot', hthere⟩
        cases hslot.symm.trans hslot'
        exact hthere
    · have hgrown : (s.storeRule rule slot (s.rules ++ [s.filled rule])).rules.length ≠
          s.rules.length := by
        show (s.rules ++ [s.filled rule]).length ≠ _
        rw [List.length_append, List.length_singleton]
        omega
      rw [hperform]
      refine iff_of_false (not_unchanged_of_length hgrown) ?_
      rintro ⟨slot', hslot', -⟩
      rw [hslot] at hslot'
      cases hslot'
  | delete id =>
    obtain ⟨i, hi, hperform⟩ := @perform_delete s env id h
    have hshrunk : (s.dropRule i).rules.length ≠ s.rules.length := by
      show (s.rules.eraseIdx i).length ≠ _
      rw [List.length_eraseIdx_of_lt hi]
      omega
    rw [hperform]
    exact iff_of_false (not_unchanged_of_length hshrunk) fun hrewrites => hrewrites

theorem perform_ok_iff {edit : RuleEdit} (h : ¬ s.Refused edit) :
    (s.perform env edit).1 = .ok ↔ Saves env := by
  cases edit with
  | upsert rule =>
    obtain ⟨slot, rules, hperform, -⟩ := @perform_upsert s env rule h
    rw [hperform]
    exact (saveLocked_spec _ env).2
  | delete id =>
    obtain ⟨i, -, hperform⟩ := @perform_delete s env id h
    rw [hperform]
    exact (saveLocked_spec _ env).2

/-- **Atomic edits.** A call changes nothing when it returns an error if and only
if it ends before it changes anything, its save succeeds, or it puts a rule over
an equal one. -/
theorem edit_atomic_iff (s : AutomationEngine) (env : SaveEnv) (edit : RuleEdit) :
    s.Atomic env edit ↔ s.Refused edit ∨ Saves env ∨ s.Rewrites edit := by
  unfold Atomic
  by_cases hrefused : s.Refused edit
  · rw [perform_refused hrefused]
    exact iff_of_true (fun _ => .refl s) (.inl hrefused)
  · rw [unchanged_iff_rewrites hrefused, Ne, perform_ok_iff hrefused]
    tauto

/-! ## A deletion that is not saved -/

def oneRule : AutomationEngine := .boot (some ⟨2, [alertAbove 1 "temp"]⟩) 0

/-- The flash is full: the rule is gone from memory, and comes back with the next start. -/
theorem unsaved_delete_forgets :
    (oneRule.perform ⟨.ok, .fail, .ok⟩ (.delete 1)).1 = .fail ∧
      oneRule.stored = oneRule.rules ∧
      (oneRule.perform ⟨.ok, .fail, .ok⟩ (.delete 1)).2.rules = [] ∧
      (oneRule.perform ⟨.ok, .fail, .ok⟩ (.delete 1)).2.stored = [alertAbove 1 "temp"] ∧
      ¬ oneRule.Atomic ⟨.ok, .fail, .ok⟩ (.delete 1) := by
  have hcode : (oneRule.perform ⟨.ok, .fail, .ok⟩ (.delete 1)).1 = .fail := by decide +kernel
  have hempty : (oneRule.perform ⟨.ok, .fail, .ok⟩ (.delete 1)).2.rules = [] := by decide +kernel
  refine ⟨hcode, rfl, hempty, by decide +kernel, fun hatomic => ?_⟩
  have hrules := (hatomic (by rw [hcode]; decide)).rules
  rw [hempty] at hrules
  exact absurd (congrArg List.length hrules) (by decide +kernel)

end AutomationEngine

end McpGateway.Automation
