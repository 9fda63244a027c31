import McpGateway.Automation.Engine
import McpGateway.Lib.Run

/-!
# Rules apart from each other

Every upsert starts a reference machine that holds its rule alone. `Watched`
runs the engine next to these machines: each rule of the table, and each rule
of the snapshot, carries the number of the upsert it comes from, and an
evaluation is also given to the machine of that number.
-/

namespace McpGateway.Automation

open McpGateway.Lib McpGateway.Tcm

/-! ## The reference machine -/

/-- A rule on its own, with its own timing state. -/
structure RuleMachine where
  rule : AutomationRule
  active : Bool
  since : Option Int
  last : Option Int
  deriving DecidableEq

namespace RuleMachine

def start (rule : AutomationRule) : RuleMachine := ⟨rule, false, none, none⟩

def matched (m : RuleMachine) (value : CFloat) : Bool := conditionMatches m.rule value m.active

/-- The condition has held for the hold time, and the cooldown is over. -/
def elapsed (m : RuleMachine) (now : Int) : Bool :=
  !(decide (now - m.since.getD now < m.rule.holdMs.toNat) ||
    m.last.any fun l => decide (now - l < m.rule.cooldownMs.toNat))

/-- Evaluated on `value` at `now`, the rule acts or is blocked by its interlock. -/
def acts (m : RuleMachine) (value : CFloat) (now : Int) : Bool := m.matched value && m.elapsed now

def next (m : RuleMachine) (value : CFloat) (now : Int) : RuleMachine where
  rule := m.rule
  active := m.matched value
  since := if m.matched value then some (m.since.getD now) else none
  last := if m.acts value now then some now else m.last

end RuleMachine

/-! ## The engine next to the reference machines -/

/-- The list with `a` in a slot, or behind its last one. -/
def placeAt {α : Type*} (l : List α) (slot : Nat) (a : α) : List α :=
  if slot < l.length then l.set slot a else l ++ [a]

structure Watched where
  engine : AutomationEngine
  /-- The machine of each upsert. -/
  machines : List RuleMachine
  /-- The upsert each rule of the table comes from. -/
  owners : List Nat
  /-- The upsert each rule of the snapshot comes from. -/
  copied : List Nat

namespace Watched

def boot (saved : Option PersistedRules) (timer : Nat) : Watched where
  engine := .boot saved timer
  machines := (AutomationEngine.boot saved timer).rules.map .start
  owners := List.range (AutomationEngine.boot saved timer).rules.length
  copied := []

def feed (w : Watched) (e : Evaluation) : List RuleMachine :=
  match w.copied[e.i]? with
  | none => w.machines
  | some owner => w.machines.modify owner fun m => m.next (toFloat e.state.value) e.now

def watch (w : Watched) : EngineStep → Watched
  | .upsert rule _ =>
    match w.engine.upsertPlan rule with
    | .error _ => w
    | .ok (slot, _) =>
      { w with
        owners := placeAt w.owners slot w.machines.length
        machines := w.machines ++ [.start (w.engine.filled rule)] }
  | .delete id _ =>
    match w.engine.rules.findIdx? fun r => r.id = id with
    | none => w
    | some i => { w with owners := w.owners.eraseIdx i }
  | .cycle =>
    match w.engine.task with
    | .idle => { w with copied := w.owners }
    | _ => w
  | .check pool =>
    match w.engine.evaluation pool with
    | none => w
    | some e => { w with machines := w.feed e }
  | _ => w

def step (w : Watched) (a : EngineStep) : Watched :=
  { w.watch a with engine := w.engine.step a }

/-- The machine of the upsert that an evaluated rule comes from. -/
def machineOf (w : Watched) (e : Evaluation) : Option RuleMachine :=
  w.copied[e.i]?.bind fun owner => w.machines[owner]?

/-- The evaluated rule acts, or is blocked, exactly when the machine that holds
this rule alone does. -/
def IsolatedAt (w : Watched) (e : Evaluation) : Prop :=
  ∃ m ∈ w.machineOf e, m.rule = e.rule ∧
    w.engine.acts e = m.acts (toFloat e.state.value) e.now

def Isolated (w : Watched) : EngineStep → Prop
  | .check pool => ∀ e ∈ w.engine.evaluation pool, w.IsolatedAt e
  | _ => True

instance (w : Watched) (e : Evaluation) : Decidable (w.IsolatedAt e) :=
  inferInstanceAs (Decidable (∃ m ∈ w.machineOf e, _))

instance (w : Watched) (a : EngineStep) : Decidable (w.Isolated a) :=
  match a with
  | .check pool => inferInstanceAs (Decidable (∀ e ∈ w.engine.evaluation pool, w.IsolatedAt e))
  | .upsert .. | .delete .. | .wait .. | .cycle | .interlock .. | .finish .. => .isTrue trivial

end Watched

/-! ## When the slots keep the machines apart -/

/-- The hysteresis plays no part in the condition of the rule. -/
def IgnoresActive (rule : AutomationRule) : Prop :=
  ∀ v, conditionMatches rule v true = conditionMatches rule v false

namespace AutomationTask

/-- Slot `k` of the snapshot is still to be evaluated, or in its action. -/
def Pending (k : Nat) : AutomationTask → Prop
  | idle => False
  | scanning snapshot _ i => i ≤ k ∧ k < snapshot.length
  | due snapshot _ i _ _ => i ≤ k ∧ k < snapshot.length
  | acting snapshot _ i _ _ => i ≤ k ∧ k < snapshot.length

def time : AutomationTask → Option Int
  | idle => none
  | scanning _ now _ => some now
  | due _ now _ _ _ => some now
  | acting _ now _ _ _ => some now

/-- The slot whose action is under way, and its time. -/
def busy : AutomationTask → Option (Nat × Int)
  | due _ now i _ _ => some (i, now)
  | acting _ now i _ _ => some (i, now)
  | _ => none

end AutomationTask

namespace AutomationEngine

/-- The time that the next evaluation cannot come before. -/
def clock (s : AutomationEngine) : Int := s.task.time.getD s.uptime

/-- A stored rule goes to a slot that no evaluation of this cycle still
touches, and finds no condition of an earlier rule in it. -/
def PutSafe (s : AutomationEngine) (rule : AutomationRule) : Prop :=
  ∀ slot rules, s.upsertPlan rule = .ok (slot, rules) →
    ¬ s.task.Pending slot ∧ (s.conditionActive slot = true → IgnoresActive rule)

/-- No hold time or cooldown of slot `j` is running. -/
def Rests (s : AutomationEngine) (j : Nat) (rule : AutomationRule) : Prop :=
  (rule.holdMs = 0 ∨ s.conditionSince j = 0) ∧
    (s.lastTrigger j = 0 ∨ rule.cooldownMs.toNat ≤ s.clock - s.lastTrigger j)

/-- A deleted rule and the rules behind it are not touched in this cycle any
more, the other rules rest, and those that move find their own condition. -/
def DropSafe (s : AutomationEngine) (id : SeqId) : Prop :=
  ∀ i, (s.rules.findIdx? fun r => r.id = id) = some i →
    (∀ k, s.task.Pending k → k < i) ∧
      ∀ j rule, j ≠ i → s.rules[j]? = some rule → s.Rests j rule ∧
        (i < j → s.conditionActive (j - 1) = s.conditionActive j ∨ IgnoresActive rule)

/-- A rule whose condition holds is not evaluated in the first millisecond, and
one that has not acted yet not before the uptime reaches its cooldown. -/
def CheckSafe (s : AutomationEngine) (pool : StatePool) : Prop :=
  ∀ e ∈ s.evaluation pool, s.matched e.rule e.i e.state = true →
    0 < e.now ∧ (e.rule.holdMs.toNat ≤ e.now - s.sinceAt e.now e.i → s.lastTrigger e.i = 0 →
      e.rule.cooldownMs.toNat ≤ e.now)

def Safe (s : AutomationEngine) : EngineStep → Prop
  | .upsert rule _ => s.PutSafe rule
  | .delete id _ => s.DropSafe id
  | .check pool => s.CheckSafe pool
  | _ => True

/-- `s_last_trigger[j]`, or what the task is about to write there. -/
def lastOf (s : AutomationEngine) (j : Nat) : Int :=
  match s.task.busy with
  | some (i, now) => if j = i then now else s.lastTrigger j
  | none => s.lastTrigger j

end AutomationEngine

/-! ## One slot and one machine -/

/-- A slot is in the state of a machine, as far as evaluations from `clock` on can tell. -/
structure Agrees (clock : Int) (m : RuleMachine) (active : Bool) (since last : Int) : Prop where
  past : since ≤ clock ∧ ∀ t, m.since = some t → t ≤ clock
  active : active = m.active ∨ IgnoresActive m.rule
  since : m.rule.holdMs = 0 ∨ since = m.since.getD 0 ∧ m.since ≠ some 0
  last : last = m.last.getD 0 ∨ last = 0 ∧ ∃ l, m.last = some l ∧ m.rule.cooldownMs.toNat ≤ clock - l

/-- `s_condition_since` of a condition that holds at `now`. -/
def sinceOr (now since : Int) : Int := if since = 0 then now else since

section Slot

variable {clock now : Int} {m : RuleMachine} {active : Bool} {since last : Int} {value : CFloat}

theorem Agrees.start (hclock : 0 ≤ clock) {rule : AutomationRule}
    (h : active = true → IgnoresActive rule) : Agrees clock (.start rule) active 0 0 := by
  refine ⟨⟨hclock, fun t ht => ?_⟩, ?_, .inr ⟨rfl, by simp [RuleMachine.start]⟩, .inl rfl⟩
  · cases ht
  · cases active with
    | false => exact .inl rfl
    | true => exact .inr (h rfl)

theorem Agrees.later (h : Agrees clock m active since last) (hc : clock ≤ now) :
    Agrees now m active since last := by
  refine ⟨⟨h.past.1.trans hc, fun t ht => (h.past.2 t ht).trans hc⟩, h.active, h.since,
    h.last.imp_right ?_⟩
  rintro ⟨h0, l, hl, hover⟩
  exact ⟨h0, l, hl, by omega⟩

theorem Agrees.clearSince (h : Agrees clock m active since last) (hclock : 0 ≤ clock)
    (hsince : m.rule.holdMs = 0 ∨ since = 0) : Agrees clock m active 0 last := by
  refine ⟨⟨hclock, h.past.2⟩, h.active, ?_, h.last⟩
  rcases h.since with hhold | ⟨heq, hne⟩
  · exact .inl hhold
  · exact hsince.imp_right fun (h0 : since = 0) => ⟨h0 ▸ heq, hne⟩

theorem Agrees.clearLast (h : Agrees clock m active since last)
    (hlast : last = 0 ∨ m.rule.cooldownMs.toNat ≤ clock - last) :
    Agrees clock m active since 0 := by
  refine ⟨h.past, h.active, h.since, ?_⟩
  rcases h.last with heq | ⟨-, hover⟩
  · rcases hlast with h0 | hover
    · exact .inl (h0 ▸ heq)
    · cases hm : m.last with
      | none => exact .inl rfl
      | some l =>
        rw [hm, Option.getD_some] at heq
        exact .inr ⟨rfl, l, rfl, heq ▸ hover⟩
  · exact .inr ⟨rfl, hover⟩

theorem Agrees.moved (h : Agrees clock m active since last) {active' : Bool}
    (hactive : active' = active ∨ IgnoresActive m.rule) : Agrees clock m active' since last :=
  ⟨h.past, hactive.elim (fun he => he ▸ h.active) .inr, h.since, h.last⟩

theorem Agrees.matched (h : Agrees clock m active since last) (value : CFloat) :
    conditionMatches m.rule value active = m.matched value := by
  unfold RuleMachine.matched
  rcases h.active with rfl | hignores
  · rfl
  · cases active <;> cases m.active <;> simp [hignores value]

theorem sinceOr_le (hc : clock ≤ now) (h : since ≤ clock) : sinceOr now since ≤ now := by
  unfold sinceOr
  split <;> omega

theorem Agrees.held (h : Agrees clock m active since last) (hc : clock ≤ now) :
    m.rule.holdMs.toNat ≤ now - sinceOr now since ↔
      m.rule.holdMs.toNat ≤ now - m.since.getD now := by
  rcases h.since with hhold | ⟨heq, hne⟩
  · have hslot := sinceOr_le hc h.past.1
    have hmachine : m.since.getD now ≤ now := by
      cases hm : m.since with
      | none => exact le_refl now
      | some t => exact (h.past.2 t hm).trans hc
    have hzero : m.rule.holdMs.toNat = 0 := by rw [hhold]; rfl
    omega
  · cases hm : m.since with
    | none =>
      rw [hm, Option.getD_none] at heq
      rw [sinceOr, if_pos heq, Option.getD_none]
    | some t =>
      rw [hm, Option.getD_some] at heq
      have hne0 : since ≠ 0 := fun h0 => hne (by rw [hm, ← heq, h0])
      rw [sinceOr, if_neg hne0, Option.getD_some, heq]

theorem Agrees.cooled (h : Agrees clock m active since last) (hc : clock ≤ now)
    (hfirst : last = 0 → m.rule.cooldownMs.toNat ≤ now) :
    m.rule.cooldownMs.toNat ≤ now - last ↔
      ∀ l, m.last = some l → m.rule.cooldownMs.toNat ≤ now - l := by
  rcases h.last with heq | ⟨h0, l, hl, hover⟩
  · cases hm : m.last with
    | none =>
      rw [hm, Option.getD_none] at heq
      have := hfirst heq
      simp only [reduceCtorEq, false_imp_iff, implies_true, iff_true]
      omega
    | some l =>
      rw [hm, Option.getD_some] at heq
      simp [heq]
  · have := hfirst h0
    simp only [hl, Option.some.injEq, forall_eq']
    omega

theorem elapsed_iff : m.elapsed now = true ↔ m.rule.holdMs.toNat ≤ now - m.since.getD now ∧
    ∀ l, m.last = some l → m.rule.cooldownMs.toNat ≤ now - l := by
  unfold RuleMachine.elapsed
  cases m.last with
  | none => simp
  | some l => simp

/-- **One evaluation.** The slot and the machine act together, and agree after it. -/
theorem Agrees.evaluated (h : Agrees clock m active since last) (hclock : 0 ≤ clock)
    (hc : clock ≤ now) (hsafe : m.matched value = true → 0 < now ∧
      (m.rule.holdMs.toNat ≤ now - sinceOr now since → last = 0 →
        m.rule.cooldownMs.toNat ≤ now)) {acts : Bool}
    (hacts : acts = true ↔ m.matched value = true ∧
      m.rule.holdMs.toNat ≤ now - sinceOr now since ∧ m.rule.cooldownMs.toNat ≤ now - last) :
    acts = m.acts value now ∧ Agrees now (m.next value now) (m.matched value)
      (if m.matched value then sinceOr now since else 0) (if acts then now else last) := by
  have hsame : acts = m.acts value now := by
    rw [Bool.eq_iff_iff, hacts, RuleMachine.acts, Bool.and_eq_true, elapsed_iff]
    refine and_congr_right fun hm => ?_
    rw [← h.held hc]
    refine and_congr_right fun hheld => ?_
    exact h.cooled hc ((hsafe hm).2 hheld)
  refine ⟨hsame, ?_⟩
  have hlater : Agrees now m active since last := h.later hc
  have hsince := sinceOr_le hc h.past.1
  cases hm : m.matched value with
  | false =>
    have hidle : acts = false := by rw [hsame, RuleMachine.acts, hm, Bool.false_and]
    have hnext : m.next value now = ⟨m.rule, false, none, m.last⟩ := by
      simp [RuleMachine.next, RuleMachine.acts, hm]
    rw [hnext, hidle]
    refine ⟨⟨hclock.trans hc, fun t ht => ?_⟩, .inl rfl, .inr ⟨rfl, by simp⟩, hlater.last⟩
    cases ht
  | true =>
    have hnow := (hsafe hm).1
    have hnext : m.next value now = ⟨m.rule, true, some (m.since.getD now),
        if acts then some now else m.last⟩ := by
      rw [hsame]
      simp [RuleMachine.next, hm]
    rw [hnext]
    refine ⟨⟨hsince, fun t ht => ?_⟩, .inl rfl, ?_, ?_⟩
    · rw [← Option.some.inj ht]
      cases ht' : m.since with
      | none => exact le_refl now
      | some t' => exact (h.past.2 t' ht').trans hc
    · refine h.since.imp_right ?_
      rintro ⟨heq, hne⟩
      cases ht : m.since with
      | none =>
        rw [ht, Option.getD_none] at heq
        simp only [heq, sinceOr, if_true, Option.getD_none, Option.getD_some, ne_eq,
          Option.some.injEq, true_and]
        omega
      | some t =>
        rw [ht, Option.getD_some] at heq
        have hne0 : t ≠ 0 := fun h0 => hne (by rw [ht, h0])
        simp [heq, sinceOr, hne0]
    · cases acts with
      | false => exact hlater.last
      | true => exact .inl rfl

end Slot

/-! ## The invariant -/

/-- The machine of slot `j` of the table is in the state of the slot. -/
def Watched.Owned (w : Watched) (j : Nat) (rule : AutomationRule) : Prop :=
  ∃ owner m, w.owners[j]? = some owner ∧ w.machines[owner]? = some m ∧ m.rule = rule ∧
    Agrees w.engine.clock m (w.engine.conditionActive j) (w.engine.conditionSince j)
      (w.engine.lastOf j)

/-- The slots are in the states of the machines, and what is left of the
snapshot is as in the table. -/
structure Apart (w : Watched) : Prop where
  length : w.owners.length = w.engine.rules.length
  nodup : w.owners.Nodup
  clock : 0 ≤ w.engine.clock ∧ w.engine.clock ≤ w.engine.uptime
  slots : ∀ j rule, w.engine.rules[j]? = some rule → w.Owned j rule
  pending : ∀ k, w.engine.task.Pending k →
    w.engine.task.snapshot[k]? = w.engine.rules[k]? ∧ w.copied[k]? = w.owners[k]?
  busy : ∀ i now, w.engine.task.busy = some (i, now) → w.engine.task.Pending i

theorem Apart.boot (saved : Option PersistedRules) (timer : Nat) :
    Apart (.boot saved timer) := by
  refine ⟨List.length_range, List.nodup_range, ⟨Int.natCast_nonneg _, le_refl _⟩, ?_, ?_, ?_⟩
  · intro j rule hrule
    have hstored : (AutomationEngine.boot saved timer).rules[j]? = some rule := hrule
    have hlt := (List.getElem?_eq_some_iff.1 hstored).1
    refine ⟨j, .start rule, List.getElem?_range hlt, ?_, rfl, .start (Int.natCast_nonneg _) ?_⟩
    · show (List.map _ _)[j]? = _
      rw [List.getElem?_map, hstored]
      rfl
    · exact fun hactive => absurd hactive (by simp [Watched.boot, AutomationEngine.boot])
  · exact fun k hk => hk.elim
  · intro i now hi
    cases hi

section Steps

variable {w w' : Watched}

/-- A step that leaves the table, the machines and the slots as they are. -/
theorem Apart.frame (h : Apart w) (hmachines : w'.machines = w.machines)
    (howners : w'.owners = w.owners) (hrules : w'.engine.rules = w.engine.rules)
    (hactive : w'.engine.conditionActive = w.engine.conditionActive)
    (hsince : w'.engine.conditionSince = w.engine.conditionSince)
    (hlast : w'.engine.lastOf = w.engine.lastOf) (hclock : w.engine.clock ≤ w'.engine.clock)
    (huptime : w'.engine.clock ≤ w'.engine.uptime)
    (hpending : ∀ k, w'.engine.task.Pending k →
      w'.engine.task.snapshot[k]? = w.engine.rules[k]? ∧ w'.copied[k]? = w.owners[k]?)
    (hbusy : ∀ i now, w'.engine.task.busy = some (i, now) → w'.engine.task.Pending i) :
    Apart w' := by
  refine ⟨by rw [howners, hrules, h.length], howners ▸ h.nodup, ⟨h.clock.1.trans hclock, huptime⟩,
    ?_, ?_, hbusy⟩
  · intro j rule hrule
    obtain ⟨owner, m, howner, hm, hmrule, hagrees⟩ := h.slots j rule (hrules ▸ hrule)
    refine ⟨owner, m, howners ▸ howner, hmachines ▸ hm, hmrule, ?_⟩
    rw [hactive, hsince, hlast]
    exact hagrees.later hclock
  · intro k hk
    rw [hrules, howners]
    exact hpending k hk

theorem Apart.wait (h : Apart w) (elapsed : Nat) : Apart (w.step (.wait elapsed)) := by
  have huptime : w.engine.uptime ≤ (w.engine.step (.wait elapsed)).uptime := by
    show ((w.engine.timer / 1000 : Nat) : Int) ≤ ((w.engine.timer + elapsed) / 1000 : Nat)
    omega
  have hclock : w.engine.clock ≤ (w.engine.step (.wait elapsed)).clock ∧
      (w.engine.step (.wait elapsed)).clock ≤ (w.engine.step (.wait elapsed)).uptime := by
    have hle := h.clock.2
    show w.engine.task.time.getD _ ≤ w.engine.task.time.getD _ ∧ w.engine.task.time.getD _ ≤ _
    unfold AutomationEngine.clock at hle
    cases htime : w.engine.task.time with
    | none => exact ⟨huptime, le_refl _⟩
    | some now =>
      rw [htime, Option.getD_some] at hle
      exact ⟨le_refl _, hle.trans huptime⟩
  exact h.frame rfl rfl rfl rfl rfl rfl hclock.1 hclock.2 h.pending h.busy

theorem Apart.cycle (h : Apart w) : Apart (w.step .cycle) := by
  cases htask : w.engine.task with
  | idle =>
    have hengine : w.engine.step .cycle =
        { w.engine with task := .scanning w.engine.rules w.engine.uptime 0 } := by
      simp only [AutomationEngine.step, AutomationEngine.cycle, htask]
    have hwatch : w.watch .cycle = { w with copied := w.owners } := by
      simp only [Watched.watch, htask]
    have hclock : w.engine.clock = w.engine.uptime := by
      rw [AutomationEngine.clock, htask]
      rfl
    unfold Watched.step
    rw [hengine, hwatch]
    refine h.frame rfl rfl rfl rfl rfl ?_ hclock.le (le_refl _) (fun _ _ => ⟨rfl, rfl⟩) ?_
    · funext j
      simp only [AutomationEngine.lastOf, htask, AutomationTask.busy]
    · intro i now hi
      cases hi
  | _ =>
    have hengine : w.engine.step .cycle = w.engine := by
      simp only [AutomationEngine.step, AutomationEngine.cycle, htask]
    have hwatch : w.watch .cycle = w := by simp only [Watched.watch, htask]
    rw [Watched.step, hengine, hwatch]
    exact h

variable {snapshot : List AutomationRule} {i : Nat} {now : Int} {rule : AutomationRule}
  {state : TcmContext}

theorem Apart.time_le (h : Apart w) (htime : w.engine.task.time = some now) :
    w.engine.clock = now ∧ now ≤ w.engine.uptime := by
  have hclock : w.engine.clock = now := by rw [AutomationEngine.clock, htime, Option.getD_some]
  exact ⟨hclock, hclock ▸ h.clock.2⟩

theorem Apart.skip (h : Apart w) (htask : w.engine.task = .scanning snapshot now i) :
    Apart { w with engine := { w.engine with task := .scanning snapshot now (i + 1) } } := by
  have htime : w.engine.task.time = some now := by rw [htask]; rfl
  obtain ⟨hclock, hle⟩ := h.time_le htime
  have hpending := h.pending
  rw [htask] at hpending
  refine h.frame rfl rfl rfl rfl rfl ?_ hclock.le hle ?_ ?_
  · funext j
    simp only [AutomationEngine.lastOf, htask, AutomationTask.busy]
  · exact fun k hk => hpending k ⟨Nat.le_of_succ_le hk.1, hk.2⟩
  · intro j t hj
    cases hj

theorem Apart.done (h : Apart w) (htask : w.engine.task = .scanning snapshot now i) :
    Apart { w with engine := { w.engine with task := .idle } } := by
  have htime : w.engine.task.time = some now := by rw [htask]; rfl
  obtain ⟨hclock, hle⟩ := h.time_le htime
  refine h.frame rfl rfl rfl rfl rfl ?_ (hclock.le.trans hle) (le_refl _) ?_ ?_
  · funext j
    simp only [AutomationEngine.lastOf, htask, AutomationTask.busy]
  · exact fun k hk => hk.elim
  · intro j t hj
    cases hj

theorem Apart.allow (h : Apart w) (htask : w.engine.task = .due snapshot now i rule state) :
    Apart { w with engine := { w.engine with task := .acting snapshot now i rule state } } := by
  have htime : w.engine.task.time = some now := by rw [htask]; rfl
  obtain ⟨hclock, hle⟩ := h.time_le htime
  have hpending := h.pending
  have hbusy := h.busy
  rw [htask] at hpending hbusy
  refine h.frame rfl rfl rfl rfl rfl ?_ hclock.le hle hpending hbusy
  funext j
  simp only [AutomationEngine.lastOf, htask, AutomationTask.busy]

theorem Apart.triggered (h : Apart w) {engine : AutomationEngine}
    (htask : engine.task = .due snapshot now i rule state ∨
      engine.task = .acting snapshot now i rule state)
    (hsame : ∃ stats, engine = { w.engine with stats := stats }) :
    Apart { w with engine := engine.triggered snapshot now i } := by
  obtain ⟨stats, rfl⟩ := hsame
  have htask' : w.engine.task.time = some now ∧ w.engine.task.busy = some (i, now) ∧
      w.engine.task.snapshot = snapshot ∧
        ∀ k, i ≤ k ∧ k < snapshot.length → w.engine.task.Pending k := by
    rcases htask with ht | ht <;>
      · have ht' : w.engine.task = _ := ht
        rw [ht']
        exact ⟨rfl, rfl, rfl, fun k hk => hk⟩
  obtain ⟨htime, hbusy, hsnapshot, hpending⟩ := htask'
  obtain ⟨hclock, hle⟩ := h.time_le htime
  refine h.frame rfl rfl rfl rfl rfl ?_ hclock.le hle ?_ ?_
  · funext j
    simp only [AutomationEngine.lastOf, hbusy]
    show Function.update w.engine.lastTrigger i now j = _
    rw [Function.update_apply]
  · intro k hk
    have hold := h.pending k (hpending k ⟨Nat.le_of_succ_le hk.1, hk.2⟩)
    rw [hsnapshot] at hold
    exact hold
  · intro j t hj
    cases hj

theorem Apart.interlock (h : Apart w) (pool : StatePool) : Apart (w.step (.interlock pool)) := by
  cases htask : w.engine.task with
  | due snapshot now i rule state =>
    have hstep : w.step (.interlock pool) = { w with engine := w.engine.interlock pool } := rfl
    rw [hstep]
    simp only [AutomationEngine.interlock, htask]
    split
    · exact h.allow htask
    · exact h.triggered (.inl htask) ⟨_, rfl⟩
  | _ =>
    have hengine : w.engine.interlock pool = w.engine := by
      simp only [AutomationEngine.interlock, htask]
    show Apart { w with engine := w.engine.interlock pool }
    rw [hengine]
    exact h

theorem Apart.finish (h : Apart w) (env : ExecEnv) : Apart (w.step (.finish env)) := by
  cases htask : w.engine.task with
  | acting snapshot now i rule state =>
    have hstep : w.step (.finish env) = { w with engine := w.engine.finish env } := rfl
    rw [hstep]
    simp only [AutomationEngine.finish, htask]
    split
    · exact h.triggered (.inr htask) ⟨_, rfl⟩
    · exact h.triggered (.inr htask) ⟨_, rfl⟩
  | _ =>
    have hengine : w.engine.finish env = w.engine := by
      simp only [AutomationEngine.finish, htask]
    show Apart { w with engine := w.engine.finish env }
    rw [hengine]
    exact h

section Evaluated

variable {pool : StatePool} {e : Evaluation}

theorem Apart.evaluated (h : Apart w) (he : w.engine.evaluation pool = some e) :
    ∃ owner m, w.copied[e.i]? = some owner ∧ w.owners[e.i]? = some owner ∧
      w.machines[owner]? = some m ∧ m.rule = e.rule ∧
        Agrees e.now m (w.engine.conditionActive e.i) (w.engine.conditionSince e.i)
          (w.engine.lastTrigger e.i) := by
  obtain ⟨htask, hrule, -⟩ := evaluation_eq_some he
  have hlt : e.i < e.snapshot.length := (List.getElem?_eq_some_iff.1 hrule).1
  have hpending := h.pending e.i (by rw [htask]; exact ⟨le_refl _, hlt⟩)
  rw [htask] at hpending
  obtain ⟨owner, m, howner, hm, hmrule, hagrees⟩ :=
    h.slots e.i e.rule (hpending.1 ▸ hrule)
  refine ⟨owner, m, hpending.2 ▸ howner, howner, hm, hmrule, ?_⟩
  have hlast : w.engine.lastOf e.i = w.engine.lastTrigger e.i := by
    simp only [AutomationEngine.lastOf, htask, AutomationTask.busy]
  rw [hlast, (h.time_le (by rw [htask]; rfl)).1] at hagrees
  exact hagrees

theorem acts_iff {s : AutomationEngine} : s.acts e = true ↔
    s.matched e.rule e.i e.state = true ∧
      e.rule.holdMs.toNat ≤ e.now - sinceOr e.now (s.conditionSince e.i) ∧
        e.rule.cooldownMs.toNat ≤ e.now - s.lastTrigger e.i := by
  unfold AutomationEngine.acts AutomationEngine.timersOver AutomationEngine.sinceAt sinceOr
  simp

theorem Apart.agree (h : Apart w) (hsafe : w.engine.CheckSafe pool)
    (he : w.engine.evaluation pool = some e) {m : RuleMachine} (hrule : m.rule = e.rule)
    (hagrees : Agrees e.now m (w.engine.conditionActive e.i) (w.engine.conditionSince e.i)
      (w.engine.lastTrigger e.i)) :
    w.engine.matched e.rule e.i e.state = m.matched (toFloat e.state.value) ∧
      w.engine.acts e = m.acts (toFloat e.state.value) e.now ∧
      Agrees e.now (m.next (toFloat e.state.value) e.now)
        (w.engine.matched e.rule e.i e.state)
        (if w.engine.matched e.rule e.i e.state then w.engine.sinceAt e.now e.i else 0)
        (if w.engine.acts e then e.now else w.engine.lastTrigger e.i) := by
  obtain ⟨htask, -, -⟩ := evaluation_eq_some he
  have hmatched : w.engine.matched e.rule e.i e.state = m.matched (toFloat e.state.value) := by
    rw [← hagrees.matched, hrule]
    rfl
  have htime : w.engine.task.time = some e.now := by rw [htask]; rfl
  have hnow : 0 ≤ e.now := (h.time_le htime).1 ▸ h.clock.1
  have hacts := acts_iff (e := e) (s := w.engine)
  rw [hmatched, ← hrule] at hacts
  have := hagrees.evaluated hnow (le_refl _) (fun hm => by
    rw [hrule]
    exact hsafe e he (hmatched ▸ hm)) hacts
  rw [hmatched]
  exact ⟨rfl, this⟩

theorem after_active (s : AutomationEngine) : (e.after s).conditionActive =
    Function.update s.conditionActive e.i (s.matched e.rule e.i e.state) := rfl

theorem after_since (s : AutomationEngine) : (e.after s).conditionSince =
    Function.update s.conditionSince e.i
      (if s.matched e.rule e.i e.state then s.sinceAt e.now e.i else 0) := rfl

theorem after_time (s : AutomationEngine) : (e.after s).task.time = some e.now := by
  rw [after_task]
  split <;> rfl

theorem after_pending {s : AutomationEngine} {k : Nat} (h : (e.after s).task.Pending k) :
    e.i ≤ k ∧ k < e.snapshot.length := by
  rw [after_task] at h
  split at h
  · exact h
  · exact ⟨Nat.le_of_succ_le h.1, h.2⟩

theorem after_busy {s : AutomationEngine} (hlt : e.i < e.snapshot.length)
    (h : (e.after s).task.busy = some (i, now)) : (e.after s).task.Pending i := by
  rw [after_task] at h ⊢
  split at h
  · rename_i hacts
    rw [if_pos hacts]
    obtain ⟨rfl, rfl⟩ := Prod.mk.inj (Option.some.inj h)
    exact ⟨le_refl _, hlt⟩
  · cases h

theorem after_lastOf (s : AutomationEngine) (j : Nat) : (e.after s).lastOf j =
    if j = e.i then if s.acts e then e.now else s.lastTrigger e.i else s.lastTrigger j := by
  unfold AutomationEngine.lastOf
  rw [after_task]
  by_cases hacts : s.acts e = true
  · rw [if_pos hacts, if_pos hacts]
    rfl
  · rw [if_neg hacts, if_neg hacts]
    show s.lastTrigger j = _
    split
    · rename_i hj
      rw [hj]
    · rfl

/-- An evaluation keeps its slot and its machine together, and touches no other. -/
theorem Apart.evaluate (h : Apart w) (hsafe : w.engine.CheckSafe pool)
    (he : w.engine.evaluation pool = some e) : Apart (w.step (.check pool)) := by
  obtain ⟨owner, m, hcopied, howner, hm, hrule, hagrees⟩ := h.evaluated he
  obtain ⟨htask, hread, hcheck⟩ := evaluation_eq_some he
  obtain ⟨-, -, hafter⟩ := h.agree hsafe he hrule hagrees
  have htime : w.engine.task.time = some e.now := by rw [htask]; rfl
  obtain ⟨hclock, hle⟩ := h.time_le htime
  have hstep : w.step (.check pool) =
      { w with
        engine := e.after w.engine
        machines := w.machines.modify owner fun m => m.next (toFloat e.state.value) e.now } := by
    show { w.watch (.check pool) with engine := w.engine.check pool } = _
    simp only [hcheck, Watched.watch, he, Watched.feed, hcopied]
  have hclock' : (e.after w.engine).clock = e.now := by
    rw [AutomationEngine.clock, after_time, Option.getD_some]
  have hscan : ∀ j, w.engine.lastOf j = w.engine.lastTrigger j := by
    intro j
    simp only [AutomationEngine.lastOf, htask, AutomationTask.busy]
  rw [hstep]
  refine ⟨h.length, h.nodup, ⟨?_, ?_⟩, ?_, ?_,
    fun i now hi => after_busy (List.getElem?_eq_some_iff.1 hread).1 hi⟩
  · show 0 ≤ (e.after w.engine).clock
    rw [hclock', ← hclock]
    exact h.clock.1
  · show (e.after w.engine).clock ≤ w.engine.uptime
    rw [hclock']
    exact hle
  · intro j rule hj
    obtain ⟨o, m', ho, hm', hmrule, hold⟩ := h.slots j rule hj
    by_cases hji : j = e.i
    · subst hji
      obtain rfl : o = owner := Option.some.inj (ho.symm.trans howner)
      obtain rfl : m' = m := Option.some.inj (hm'.symm.trans hm)
      refine ⟨o, m'.next (toFloat e.state.value) e.now, ho, ?_, hmrule, ?_⟩
      · show (List.modify _ _ _)[o]? = _
        rw [List.getElem?_modify_eq, hm']
        rfl
      · show Agrees (e.after w.engine).clock _ ((e.after w.engine).conditionActive e.i)
          ((e.after w.engine).conditionSince e.i) ((e.after w.engine).lastOf e.i)
        rw [hclock', after_lastOf, if_pos rfl, after_active, after_since, Function.update_self,
          Function.update_self]
        exact hafter
    · have hne : owner ≠ o := by
        rintro rfl
        have hlt := (List.getElem?_eq_some_iff.1 ho).1
        exact hji ((List.getElem?_inj hlt h.nodup).1 (ho.trans howner.symm))
      refine ⟨o, m', ho, ?_, hmrule, ?_⟩
      · show (List.modify _ _ _)[o]? = _
        rw [List.getElem?_modify_ne _ _ hne]
        exact hm'
      · show Agrees (e.after w.engine).clock _ ((e.after w.engine).conditionActive j)
          ((e.after w.engine).conditionSince j) ((e.after w.engine).lastOf j)
        rw [hclock', after_lastOf, if_neg hji, after_active, after_since,
          Function.update_of_ne hji, Function.update_of_ne hji]
        rw [hclock, hscan] at hold
        exact hold
  · intro k hk
    have hpending := h.pending k (by rw [htask]; exact after_pending hk)
    rw [htask] at hpending
    show (e.after w.engine).task.snapshot[k]? = _ ∧ _
    rw [after_snapshot]
    exact hpending

theorem Apart.check (h : Apart w) (hsafe : w.engine.CheckSafe pool) :
    Apart (w.step (.check pool)) := by
  cases he : w.engine.evaluation pool with
  | some e => exact h.evaluate hsafe he
  | none =>
    have hstep : w.step (.check pool) = { w with engine := w.engine.check pool } := by
      show { w.watch (.check pool) with engine := w.engine.check pool } = _
      simp only [Watched.watch, he]
    rw [hstep]
    rcases evaluation_eq_none he with hsame | ⟨snapshot, now, i, htask, ⟨-, hidle⟩ | hskip⟩
    · rw [hsame]
      exact h
    · rw [hidle]
      exact h.done htask
    · rw [hskip]
      exact h.skip htask

theorem Apart.isolatedAt (h : Apart w) (hsafe : w.engine.CheckSafe pool)
    (he : w.engine.evaluation pool = some e) : w.IsolatedAt e := by
  obtain ⟨owner, m, hcopied, -, hm, hrule, hagrees⟩ := h.evaluated he
  refine ⟨m, ?_, hrule, (h.agree hsafe he hrule hagrees).2.1⟩
  rw [Option.mem_def, Watched.machineOf, hcopied, Option.bind_some, hm]

theorem Apart.isolated (h : Apart w) {a : EngineStep} (hsafe : w.engine.Safe a) :
    w.Isolated a := by
  cases a with
  | check pool => exact fun e he => h.isolatedAt hsafe he
  | _ => trivial

end Evaluated

/-! ### Edits -/

section Place

variable {α : Type*} {l : List α} {slot : Nat} {a : α}

theorem getElem?_placeAt (h : slot ≤ l.length) (j : Nat) :
    (placeAt l slot a)[j]? = if j = slot then some a else l[j]? := by
  unfold placeAt
  split
  · rename_i hlt
    rw [List.getElem?_set]
    by_cases hj : slot = j
    · rw [if_pos hj, if_pos hj.symm, if_pos hlt]
    · rw [if_neg hj, if_neg (Ne.symm hj)]
  · have hend : slot = l.length := by omega
    subst hend
    by_cases hj : j = l.length
    · rw [if_pos hj, hj, List.getElem?_concat_length]
    · rw [if_neg hj, List.getElem?_append]
      split
      · rfl
      · rw [List.getElem?_eq_none (l := [a]) (by simp; omega), List.getElem?_eq_none (by omega)]

theorem length_placeAt {β : Type*} {l' : List β} (h : l.length = l'.length) (b : β) :
    (placeAt l slot a).length = (placeAt l' slot b).length := by
  unfold placeAt
  rw [h]
  split <;> simp [h]

theorem nodup_placeAt (hl : l.Nodup) (ha : a ∉ l) : (placeAt l slot a).Nodup := by
  unfold placeAt
  split
  · exact hl.set ha
  · rw [← List.concat_eq_append]
    exact hl.concat ha

end Place

theorem saveLocked_snd (s : AutomationEngine) (env : SaveEnv) :
    ∃ saved, (s.saveLocked env).2 = { s with saved := saved } := by
  unfold AutomationEngine.saveLocked
  split
  · exact ⟨s.saved, rfl⟩
  · split
    · exact ⟨s.saved, rfl⟩
    · exact ⟨_, rfl⟩

theorem Apart.save (h : Apart w) (env : SaveEnv) :
    Apart { w with engine := (w.engine.saveLocked env).2 } := by
  obtain ⟨saved, heq⟩ := saveLocked_snd w.engine env
  rw [heq]
  exact h.frame rfl rfl rfl rfl rfl rfl (le_refl _) h.clock.2 h.pending h.busy

theorem Apart.owner_lt (h : Apart w) {owner : Nat} (ho : owner ∈ w.owners) :
    owner < w.machines.length := by
  obtain ⟨j, hj⟩ := List.mem_iff_getElem?.1 ho
  have hlt : j < w.engine.rules.length := h.length ▸ (List.getElem?_eq_some_iff.1 hj).1
  obtain ⟨o, m, ho', hm, -⟩ := h.slots j _ (List.getElem?_eq_getElem hlt)
  obtain rfl : o = owner := Option.some.inj (ho'.symm.trans hj)
  exact (List.getElem?_eq_some_iff.1 hm).1

theorem upsertPlan_ok {s : AutomationEngine} {slot : Nat} {rules : List AutomationRule}
    (h : s.upsertPlan rule = .ok (slot, rules)) :
    slot ≤ s.rules.length ∧ rules = placeAt s.rules slot (s.filled rule) := by
  unfold AutomationEngine.upsertPlan at h
  split at h
  · cases h
  · split at h
    · rename_i slot' hslot
      obtain ⟨rfl, rfl⟩ := Prod.mk.inj (Except.ok.inj h)
      have hlt : slot' < s.rules.length := by
        unfold AutomationEngine.slotOf at hslot
        split at hslot
        · exact (List.findIdx?_eq_some_iff_getElem.1 hslot).1
        · cases hslot
      exact ⟨hlt.le, by rw [placeAt, if_pos hlt]⟩
    · split at h
      · cases h
      · obtain ⟨rfl, rfl⟩ := Prod.mk.inj (Except.ok.inj h)
        exact ⟨le_refl _, by rw [placeAt, if_neg (lt_irrefl _)]⟩

theorem lastOf_busy {s : AutomationEngine} (h : s.task.busy = some (i, now)) (j : Nat) :
    s.lastOf j = if j = i then now else s.lastTrigger j := by
  rw [AutomationEngine.lastOf, h]

theorem lastOf_free {s : AutomationEngine} (h : s.task.busy = none) (j : Nat) :
    s.lastOf j = s.lastTrigger j := by
  rw [AutomationEngine.lastOf, h]

/-- The times of the actions when those of some slots are changed. -/
theorem lastOf_eq_of {s s' : AutomationEngine} {j j' : Nat} (htask : s'.task.busy = s.task.busy)
    (hbusy : ∀ i now, s.task.busy = some (i, now) → (j' = i ↔ j = i))
    (hlast : s'.lastTrigger j' = s.lastTrigger j) : s'.lastOf j' = s.lastOf j := by
  cases hb : s.task.busy with
  | none => rw [lastOf_free hb, lastOf_free (htask.trans hb), hlast]
  | some b =>
    have hb' : s'.task.busy = some (b.1, b.2) := htask.trans hb
    rw [lastOf_busy (hb : _ = some (b.1, b.2)), lastOf_busy hb', hlast]
    simp only [hbusy b.1 b.2 hb]

theorem lastOf_idle {s : AutomationEngine}
    (hbusy : ∀ i now, s.task.busy = some (i, now) → s.task.Pending i) {j : Nat}
    (hj : ¬ s.task.Pending j) : s.lastOf j = s.lastTrigger j := by
  cases hb : s.task.busy with
  | none => exact lastOf_free hb j
  | some b =>
    rw [lastOf_busy (hb : _ = some (b.1, b.2)), if_neg]
    rintro rfl
    exact hj (hbusy b.1 b.2 hb)

theorem Apart.put (h : Apart w) {slot : Nat} {rules : List AutomationRule}
    (hplan : w.engine.upsertPlan rule = .ok (slot, rules)) (hsafe : w.engine.PutSafe rule) :
    Apart { w with
      engine := w.engine.storeRule rule slot rules
      owners := placeAt w.owners slot w.machines.length
      machines := w.machines ++ [.start (w.engine.filled rule)] } := by
  obtain ⟨hslot, rfl⟩ := upsertPlan_ok hplan
  obtain ⟨hpending, hactive⟩ := hsafe slot _ hplan
  have hslot' : slot ≤ w.owners.length := h.length ▸ hslot
  refine ⟨length_placeAt h.length _, nodup_placeAt h.nodup fun hmem => ?_, h.clock, ?_, ?_, h.busy⟩
  · exact absurd (h.owner_lt hmem) (lt_irrefl _)
  · intro j rule' hj
    have hrule : (if j = slot then some (w.engine.filled rule) else w.engine.rules[j]?) =
        some rule' := (getElem?_placeAt hslot j).symm.trans hj
    have howner : (placeAt w.owners slot w.machines.length)[j]? =
        if j = slot then some w.machines.length else w.owners[j]? := getElem?_placeAt hslot' j
    by_cases hjs : j = slot
    · rw [if_pos hjs] at hrule howner
      refine ⟨_, _, howner, List.getElem?_concat_length, Option.some.inj hrule, ?_⟩
      show Agrees w.engine.clock _ (w.engine.conditionActive j)
        (Function.update w.engine.conditionSince slot 0 j)
        (AutomationEngine.lastOf (w.engine.storeRule rule slot _) j)
      rw [lastOf_idle (s := w.engine.storeRule rule slot _) h.busy (hjs ▸ hpending)]
      show Agrees _ _ _ _ (Function.update w.engine.lastTrigger slot 0 j)
      rw [hjs, Function.update_self, Function.update_self]
      exact .start h.clock.1 hactive
    · rw [if_neg hjs] at hrule howner
      obtain ⟨o, m, ho, hm, hmrule, hagrees⟩ := h.slots j rule' hrule
      refine ⟨o, m, howner.trans ho, ?_, hmrule, ?_⟩
      · show (w.machines ++ _)[o]? = _
        rw [List.getElem?_append_left (List.getElem?_eq_some_iff.1 hm).1, hm]
      · show Agrees w.engine.clock _ (w.engine.conditionActive j)
          (Function.update w.engine.conditionSince slot 0 j)
          (AutomationEngine.lastOf (w.engine.storeRule rule slot _) j)
        have hlast : (w.engine.storeRule rule slot
            (placeAt w.engine.rules slot (w.engine.filled rule))).lastOf j = w.engine.lastOf j :=
          lastOf_eq_of rfl (fun _ _ _ => Iff.rfl) (Function.update_of_ne hjs 0 w.engine.lastTrigger)
        rw [hlast, Function.update_of_ne hjs]
        exact hagrees
  · intro k hk
    have hks : k ≠ slot := fun he => hpending (he ▸ hk)
    have hold := h.pending k hk
    refine ⟨hold.1.trans ?_, hold.2.trans ?_⟩
    · show _ = (placeAt w.engine.rules slot _)[k]?
      rw [getElem?_placeAt hslot, if_neg hks]
    · show _ = (placeAt w.owners slot _)[k]?
      rw [getElem?_placeAt hslot', if_neg hks]

theorem Apart.upsert (h : Apart w) (env : SaveEnv) (hsafe : w.engine.PutSafe rule) :
    Apart (w.step (.upsert rule env)) := by
  have hstep : w.step (.upsert rule env) = { w.watch (.upsert rule env) with
      engine := (w.engine.automationUpsertRule rule env).2 } := rfl
  rw [hstep]
  cases hplan : w.engine.upsertPlan rule with
  | error err =>
    simp only [Watched.watch, AutomationEngine.automationUpsertRule, hplan]
    exact h
  | ok r =>
    simp only [Watched.watch, AutomationEngine.automationUpsertRule, hplan]
    exact (h.put hplan hsafe).save env

theorem Apart.kept (h : Apart w) {i j j' : Nat} (hrule : w.engine.rules[j']? = some rule)
    (howner : (w.owners.eraseIdx i)[j]? = w.owners[j']?) (hrests : w.engine.Rests j' rule)
    (hactive : w.engine.conditionActive j = w.engine.conditionActive j' ∨ IgnoresActive rule)
    (hbusy : ∀ b now, w.engine.task.busy = some (b, now) → (j = b ↔ j' = b)) :
    Watched.Owned { w with engine := w.engine.dropRule i, owners := w.owners.eraseIdx i }
      j rule := by
  obtain ⟨o, m, ho, hm, hmrule, hagrees⟩ := h.slots j' rule hrule
  subst hmrule
  refine ⟨o, m, howner.trans ho, hm, rfl, ?_⟩
  have hcleared := (hagrees.clearSince h.clock.1 hrests.1).moved hactive
  show Agrees w.engine.clock m (w.engine.conditionActive j) 0 ((w.engine.dropRule i).lastOf j)
  cases hb : w.engine.task.busy with
  | none =>
    rw [lastOf_free hb] at hcleared
    rw [lastOf_free (show (w.engine.dropRule i).task.busy = none from hb)]
    exact hcleared.clearLast hrests.2
  | some b =>
    have hb' : (w.engine.dropRule i).task.busy = some (b.1, b.2) := hb
    rw [lastOf_busy (hb : _ = some (b.1, b.2))] at hcleared
    rw [lastOf_busy hb']
    by_cases hj : j' = b.1
    · rw [if_pos hj] at hcleared
      rw [if_pos ((hbusy b.1 b.2 hb).2 hj)]
      exact hcleared
    · rw [if_neg hj] at hcleared
      rw [if_neg fun he => hj ((hbusy b.1 b.2 hb).1 he)]
      exact hcleared.clearLast hrests.2

/-- A rule goes, and those behind it move up. -/
theorem Apart.drop (h : Apart w) {id : SeqId} {i : Nat}
    (hfind : (w.engine.rules.findIdx? fun r => r.id = id) = some i)
    (hsafe : w.engine.DropSafe id) :
    Apart { w with engine := w.engine.dropRule i, owners := w.owners.eraseIdx i } := by
  obtain ⟨hpending, hrests⟩ := hsafe i hfind
  refine ⟨?_, h.nodup.sublist (List.eraseIdx_sublist _ _), h.clock, ?_, ?_, h.busy⟩
  · show (w.owners.eraseIdx i).length = (w.engine.rules.eraseIdx i).length
    rw [List.length_eraseIdx, List.length_eraseIdx, h.length]
  · intro j rule hj
    have hj' : (w.engine.rules.eraseIdx i)[j]? = some rule := hj
    by_cases hlt : j < i
    · rw [List.getElem?_eraseIdx_of_lt hlt] at hj'
      exact h.kept hj' (List.getElem?_eraseIdx_of_lt hlt) (hrests j rule hlt.ne hj').1 (.inl rfl)
        fun _ _ _ => Iff.rfl
    · have hle : i ≤ j := Nat.le_of_not_lt hlt
      rw [List.getElem?_eraseIdx_of_ge hle] at hj'
      obtain ⟨hrest, hactive⟩ := hrests (j + 1) rule (by omega) hj'
      refine h.kept hj' (List.getElem?_eraseIdx_of_ge hle) hrest (hactive (by omega)) ?_
      intro b now hb
      have := hpending b (h.busy b now hb)
      omega
  · intro k hk
    have hki := hpending k hk
    have hold := h.pending k hk
    refine ⟨hold.1.trans ?_, hold.2.trans ?_⟩
    · exact (List.getElem?_eraseIdx_of_lt hki).symm
    · exact (List.getElem?_eraseIdx_of_lt hki).symm

theorem Apart.delete (h : Apart w) {id : SeqId} (env : SaveEnv) (hsafe : w.engine.DropSafe id) :
    Apart (w.step (.delete id env)) := by
  have hstep : w.step (.delete id env) = { w.watch (.delete id env) with
      engine := (w.engine.automationDeleteRule id env).2 } := rfl
  rw [hstep]
  cases hfind : w.engine.rules.findIdx? fun r => r.id = id with
  | none =>
    simp only [Watched.watch, AutomationEngine.automationDeleteRule, hfind]
    exact h
  | some i =>
    simp only [Watched.watch, AutomationEngine.automationDeleteRule, hfind]
    exact (h.drop hfind hsafe).save env

/-- **One step.** A safe step keeps the slots and the machines together. -/
theorem Apart.step (h : Apart w) {a : EngineStep} (hsafe : w.engine.Safe a) :
    Apart (w.step a) := by
  cases a with
  | upsert rule env => exact h.upsert env hsafe
  | delete id env => exact h.delete env hsafe
  | wait elapsed => exact h.wait elapsed
  | cycle => exact h.cycle
  | check pool => exact h.check hsafe
  | interlock pool => exact h.interlock pool
  | finish env => exact h.finish env

end Steps

/-- **Isolation.** From any stored rules, in a run whose steps are all safe, a
rule is acted on or blocked exactly when the machine that holds it alone says so. -/
theorem rules_isolated_run (saved : Option PersistedRules) (timer : Nat)
    (steps : List EngineStep)
    (h : AllSteps Watched.step (fun w a => w.engine.Safe a) (.boot saved timer) steps) :
    AllSteps Watched.step Watched.Isolated (.boot saved timer) steps :=
  allSteps_of_inv (fun _ _ hw hsafe => Apart.step hw hsafe) (fun _ _ hw hsafe => hw.isolated hsafe)
    (.boot saved timer) h

/-! ### A deleted rule and a running cooldown -/

def alertAbove (id : SeqId) (point : String) : AutomationRule where
  id := id
  enabled := true
  name := .copy 48 "high".toList
  sourceDevice := .copy 32 "boiler".toList
  sourcePoint := .copy 32 point.toList
  conditionOperator := .gt
  threshold := .fin 10
  hysteresis := .fin 0
  holdMs := 0
  cooldownMs := 60000
  interlockDevice := .empty
  interlockPoint := .empty
  interlockRequiredState := false
  action := .mqttAlert
  targetDevice := .empty
  targetPoint := .empty
  targetValue := .fin 0
  alertTopic := .empty
  alertMessage := .copy 128 "too hot".toList

def hotPool : StatePool :=
  tcmStatePoolUpdate { TcmContext.zero with
    deviceId := .copy 32 "boiler".toList
    pointId := .copy 32 "temp".toList
    value := .fin 20 } (.empty 64)

def quietEnv : ExecEnv where
  control := { mcpWriteEnabled := false, llroundRest := fun _ => 0 }
  amm := .empty 64
  answer := .ok
  dataPrefix := "data/".toList
  publish := .ok

/-- Two rules, of which the second has a state to look at, after 100 s. -/
def twoRules : Watched :=
  .boot (some ⟨3, [alertAbove 1 "level", alertAbove 2 "temp"]⟩) 100000000

def alertSteps : List EngineStep :=
  [.cycle, .check hotPool, .check hotPool, .interlock hotPool, .finish quietEnv, .check hotPool]

/-- The first rule is deleted a second before the next evaluations. -/
def deleteSteps : List EngineStep :=
  [.delete 1 ⟨.ok, .ok, .ok⟩, .wait 1000000, .cycle, .check hotPool]

theorem dropSafe_boot (saved : Option PersistedRules) (timer : Nat) (id : SeqId) :
    (AutomationEngine.boot saved timer).DropSafe id := by
  intro i _
  refine ⟨fun k hk => hk.elim, fun j rule _ _ => ⟨⟨.inr rfl, .inl rfl⟩, fun _ => .inl rfl⟩⟩

/-- A deletion before the alert does not stand in its way. -/
theorem alert_after_delete :
    AllSteps Watched.step (fun w a => w.engine.Safe a) twoRules
        (.delete 1 ⟨.ok, .ok, .ok⟩ :: alertSteps.eraseIdx 1) ∧
      AllSteps Watched.step Watched.Isolated twoRules
        (.delete 1 ⟨.ok, .ok, .ok⟩ :: alertSteps.eraseIdx 1) := by
  have hsafe : AllSteps Watched.step (fun w a => w.engine.Safe a) twoRules
      (.delete 1 ⟨.ok, .ok, .ok⟩ :: alertSteps.eraseIdx 1) := by
    refine ⟨dropSafe_boot _ _ 1, trivial, ?_, trivial, trivial, ?_, trivial⟩
    · show ∀ e ∈ AutomationEngine.evaluation _ hotPool, _
      decide +kernel
    · show ∀ e ∈ AutomationEngine.evaluation _ hotPool, _
      decide +kernel
  exact ⟨hsafe, rules_isolated_run _ _ _ hsafe⟩

/-- The cooldown of the second rule is a minute, and it alerts again after a second. -/
theorem cooldown_lost : ¬ AllSteps Watched.step Watched.Isolated twoRules
    (alertSteps ++ deleteSteps) := by decide +kernel

end McpGateway.Automation
