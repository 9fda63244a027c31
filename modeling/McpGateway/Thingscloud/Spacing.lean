import McpGateway.Lib.Run
import McpGateway.Thingscloud.Adapter

/-!
# The distance between two messages

The limiter of `tc_rate_allow` with the cloud's answers, from the program's
start on. Its clock goes on in whole periods, whenever a token is spent: a token
that is spent late in its period can be followed by one early in the next.
`message_spacing_iff` says when two messages keep the period's distance.
-/

namespace McpGateway.Thingscloud

open McpGateway.Lib McpGateway.Tcm

/-- An answer of the cloud, and whether `thingscloud_record_publish_response`
got the adapter lock for it within its second. -/
structure CloudAnswer where
  nowMs : Int
  accepted : Bool
  errorCode : Int
  locked : Bool

/-- The times without telemetry that an answer asks for. -/
def CloudAnswer.Forbids (r : CloudAnswer) (nowMs : Int) : Prop :=
  r.errorCode = 413 ∨ r.errorCode = 403 ∧ nowMs < r.nowMs + 60000

instance (r : CloudAnswer) (nowMs : Int) : Decidable (r.Forbids nowMs) :=
  inferInstanceAs (Decidable (_ ∨ _))

/-- Flow control or a refused size: the answers that the guard acts on. -/
def CloudAnswer.Refuses (r : CloudAnswer) : Prop := r.errorCode = 413 ∨ r.errorCode = 403

instance (r : CloudAnswer) : Decidable r.Refuses := inferInstanceAs (Decidable (_ ∨ _))

/-- The statics, with the calls that returned true since the last reconnect and
the answers since the guard was last cleared. -/
structure RateHistory where
  adapter : Adapter
  allowed : List Int
  answers : List CloudAnswer

/-- A reconnect or a clearing that does not get the lock changes nothing and is no event. -/
inductive RateEvent
  | allow (nowMs : Int)
  | response (r : CloudAnswer)
  | connected (env : LinkEnv)
  | cleared (nowMs : Int)

def RateEvent.nowMs : RateEvent → Int
  | .allow nowMs => nowMs
  | .response r => r.nowMs
  | .connected env => env.nowMs
  | .cleared nowMs => nowMs

/-- A refusal gets the lock. -/
def RateEvent.Recorded : RateEvent → Prop
  | .response r => r.Refuses → r.locked = true
  | _ => True

instance : (e : RateEvent) → Decidable e.Recorded
  | .allow _ => .isTrue trivial
  | .response _ => inferInstanceAs (Decidable (_ → _))
  | .connected _ => .isTrue trivial
  | .cleared _ => .isTrue trivial

namespace RateHistory

def boot : RateHistory := ⟨.boot, [], []⟩

def step (s : RateHistory) : RateEvent → RateHistory
  | .allow nowMs =>
    let r := tcRateAllow s.adapter nowMs
    { s with adapter := r.2, allowed := if r.1 then nowMs :: s.allowed else s.allowed }
  | .response r =>
    { s with
      adapter :=
        if r.locked then recordPublishResponse r.nowMs r.accepted r.errorCode s.adapter
        else s.adapter
      answers := r :: s.answers }
  | .connected env => { s with adapter := onMqttConnected env s.adapter, allowed := [] }
  | .cleared nowMs => ⟨clearPublishGuard nowMs s.adapter, [], []⟩

/-- A call that returns true comes a period after every earlier one, and at no
time that an answer forbids. -/
def Spaced (s : RateHistory) : RateEvent → Prop
  | .allow nowMs =>
    (tcRateAllow s.adapter nowMs).1 = true →
      (∀ t ∈ s.allowed, t + rateRefillMs ≤ nowMs) ∧ ∀ r ∈ s.answers, ¬ r.Forbids nowMs
  | _ => True

end RateHistory

/-- Neither the suspension nor the block is on. -/
def Adapter.GuardOpen (a : Adapter) (nowMs : Int) : Prop :=
  a.uploadSuspended = false ∧ a.rateBlockUntilMs ≤ nowMs

/-- A period has passed on the limiter's clock. -/
def Adapter.RefillDue (a : Adapter) (nowMs : Int) : Prop :=
  a.rateLastMs ≠ 0 ∧ rateRefillMs ≤ nowMs - a.rateLastMs

instance (a : Adapter) (nowMs : Int) : Decidable (a.GuardOpen nowMs) :=
  inferInstanceAs (Decidable (_ ∧ _))

instance (a : Adapter) (nowMs : Int) : Decidable (a.RefillDue nowMs) :=
  inferInstanceAs (Decidable (_ ∧ _))

/-! The limiter's clock cuts the time into periods, from `s_rate_last_ms` on and before it. -/

def Adapter.period (a : Adapter) (nowMs : Int) : Int := (nowMs - a.rateLastMs) / rateRefillMs

/-- How far into its period a time lies. -/
def Adapter.phase (a : Adapter) (nowMs : Int) : Int := (nowMs - a.rateLastMs) % rateRefillMs

/-- If a call finds the guard open and a refill due, and the token before it was spent in the
period just before, that one was spent no further into its period. -/
def RateHistory.InPhase (s : RateHistory) : RateEvent → Prop
  | .allow nowMs =>
    s.adapter.GuardOpen nowMs → s.adapter.RefillDue nowMs → ∀ t ∈ s.allowed,
      s.adapter.period nowMs = s.adapter.period t + 1 → s.adapter.phase t ≤ s.adapter.phase nowMs
  | _ => True

instance (s : RateHistory) : (e : RateEvent) → Decidable (s.Spaced e)
  | .allow _ => inferInstanceAs (Decidable (_ → _))
  | .response _ => .isTrue trivial
  | .connected _ => .isTrue trivial
  | .cleared _ => .isTrue trivial

instance (s : RateHistory) : (e : RateEvent) → Decidable (s.InPhase e)
  | .allow _ => inferInstanceAs (Decidable (_ → _))
  | .response _ => .isTrue trivial
  | .connected _ => .isTrue trivial
  | .cleared _ => .isTrue trivial

/-! ## One call -/

section Calls

variable {a : Adapter} {nowMs : Int}

theorem tcRateRefill_guard : (tcRateRefill a nowMs).uploadSuspended = a.uploadSuspended ∧
    (tcRateRefill a nowMs).rateBlockUntilMs = a.rateBlockUntilMs := by
  unfold tcRateRefill
  simp only
  split_ifs <;> exact ⟨rfl, rfl⟩

theorem tcRateRefill_tokens (htokens : 0 ≤ a.rateTokens) :
    (tcRateRefill a nowMs).rateTokens =
      if a.RefillDue nowMs then rateBucketTokens else a.rateTokens := by
  unfold tcRateRefill
  by_cases hunset : a.rateLastMs = 0
  · rw [if_pos hunset, if_neg fun hdue : a.RefillDue nowMs => hdue.1 hunset]
  · rw [if_neg hunset]
    simp only
    by_cases hshort : nowMs - a.rateLastMs < rateRefillMs
    · rw [if_pos hshort, if_neg fun hdue : a.RefillDue nowMs => absurd hdue.2 (Int.not_le.2 hshort)]
    · have hdue : a.RefillDue nowMs := ⟨hunset, Int.not_lt.1 hshort⟩
      rw [if_neg hshort, if_pos hdue]
      have hperiods : 1 ≤ (nowMs - a.rateLastMs) / rateRefillMs := by
        unfold rateRefillMs at hshort ⊢
        omega
      show min (a.rateTokens + (nowMs - a.rateLastMs) / rateRefillMs) rateBucketTokens = _
      unfold rateBucketTokens
      omega

/-- What a call does: it goes through with an open guard and a token, and spends the token. -/
theorem tcRateAllow_spec (htokens : 0 ≤ a.rateTokens ∧ a.rateTokens ≤ rateBucketTokens) :
    ((tcRateAllow a nowMs).1 = true ↔
      a.GuardOpen nowMs ∧ (0 < a.rateTokens ∨ a.RefillDue nowMs)) ∧
    (tcRateAllow a nowMs).2.rateTokens =
      (if (tcRateAllow a nowMs).1 then 0 else a.rateTokens) ∧
    (tcRateAllow a nowMs).2.uploadSuspended = a.uploadSuspended ∧
    (tcRateAllow a nowMs).2.rateBlockUntilMs = a.rateBlockUntilMs := by
  have hguard : a.GuardOpen nowMs ↔ ¬ (a.uploadSuspended = true ∨ nowMs < a.rateBlockUntilMs) := by
    unfold Adapter.GuardOpen
    rw [not_or, Bool.not_eq_true, Int.not_lt]
  unfold tcRateAllow
  by_cases hclosed : a.uploadSuspended = true ∨ nowMs < a.rateBlockUntilMs
  · rw [if_pos hclosed]
    exact ⟨⟨fun h => absurd h Bool.false_ne_true, fun h => absurd hclosed (hguard.1 h.1)⟩,
      rfl, rfl, rfl⟩
  · rw [if_neg hclosed]
    have hopen := hguard.2 hclosed
    obtain ⟨hsuspended, hblock⟩ := @tcRateRefill_guard a nowMs
    have hrefilled := @tcRateRefill_tokens a nowMs htokens.1
    unfold rateBucketTokens at htokens hrefilled
    simp only
    by_cases htoken : (tcRateRefill a nowMs).rateTokens > 0
    · rw [if_pos htoken]
      refine ⟨⟨fun _ => ⟨hopen, ?_⟩, fun _ => rfl⟩, ?_, hsuspended, hblock⟩
      · by_cases hdue : a.RefillDue nowMs
        · exact .inr hdue
        · rw [if_neg hdue] at hrefilled
          exact .inl (hrefilled ▸ htoken)
      · show (tcRateRefill a nowMs).rateTokens - 1 = 0
        split at hrefilled <;> omega
    · rw [if_neg htoken]
      by_cases hdue : a.RefillDue nowMs
      · rw [if_pos hdue] at hrefilled
        exact absurd (by rw [hrefilled]; decide) htoken
      · rw [if_neg hdue] at hrefilled
        refine ⟨⟨fun h => absurd h Bool.false_ne_true, ?_⟩, hrefilled, hsuspended, hblock⟩
        rintro ⟨-, hspare | hdue'⟩
        · exact absurd (hrefilled ▸ hspare) htoken
        · exact absurd hdue' hdue

/-- A refill never turns the clock back, and brings it to the last mark. -/
theorem tcRateRefill_clock : nowMs < (tcRateRefill a nowMs).rateLastMs + rateRefillMs ∧
    (a.rateLastMs = 0 → (tcRateRefill a nowMs).rateLastMs = nowMs) ∧
    (a.rateLastMs ≠ 0 → a.rateLastMs ≤ (tcRateRefill a nowMs).rateLastMs) := by
  unfold tcRateRefill rateRefillMs
  by_cases hunset : a.rateLastMs = 0
  · rw [if_pos hunset]
    exact ⟨Int.lt_add_of_pos_right _ (by decide), fun _ => rfl, fun h => absurd hunset h⟩
  · rw [if_neg hunset]
    simp only
    split
    · exact ⟨by omega, fun h => absurd h hunset, fun _ => le_refl _⟩
    · refine ⟨?_, fun h => absurd h hunset, fun _ => ?_⟩
      · show nowMs < a.rateLastMs + (nowMs - a.rateLastMs) / 30000 * 30000 + 30000
        omega
      · show a.rateLastMs ≤ a.rateLastMs + (nowMs - a.rateLastMs) / 30000 * 30000
        omega

/-- A call with the guard closed changes nothing, any other one sets the clock. -/
theorem tcRateAllow_clock :
    tcRateAllow a nowMs = (false, a) ∨
      (tcRateAllow a nowMs).2.rateLastMs = (tcRateRefill a nowMs).rateLastMs := by
  unfold tcRateAllow
  split
  · exact .inl rfl
  · right
    simp only
    split <;> rfl

theorem onMqttConnected_guard (env : LinkEnv) (a : Adapter) :
    (onMqttConnected env a).uploadSuspended = a.uploadSuspended ∧
      (onMqttConnected env a).rateBlockUntilMs = a.rateBlockUntilMs := by
  unfold onMqttConnected checkModeChange
  split <;> exact ⟨rfl, rfl⟩

end Calls

/-! ## Runs -/

namespace RateHistory

/-- The bucket holds at most its one token, and none after a call has spent it; no token was
spent after the clock's period; and the answers are in the guard. -/
structure Consistent (s : RateHistory) : Prop where
  tokens : 0 ≤ s.adapter.rateTokens ∧ s.adapter.rateTokens ≤ rateBucketTokens
  spent : s.allowed ≠ [] → s.adapter.rateTokens = 0
  clock : s.adapter.rateLastMs ≠ 0 → ∀ t ∈ s.allowed, t < s.adapter.rateLastMs + rateRefillMs
  recorded : ∀ r ∈ s.answers,
    (r.errorCode = 413 → s.adapter.uploadSuspended = true) ∧
      (r.errorCode = 403 → r.nowMs + 60000 ≤ s.adapter.rateBlockUntilMs)

variable {s : RateHistory}

theorem emptyBucket : 0 ≤ (0 : Int) ∧ 0 ≤ rateBucketTokens := by decide

theorem fullBucket : 0 ≤ rateBucketTokens ∧ rateBucketTokens ≤ rateBucketTokens := by decide

theorem Consistent.boot : boot.Consistent :=
  ⟨fullBucket, fun h => absurd rfl h, fun _ _ ht => absurd ht List.not_mem_nil,
    fun _ hr => absurd hr List.not_mem_nil⟩

/-- Before a call the tokens were spent before its time, after it no later than the clock's
period. -/
theorem Consistent.clock_allow (h : s.Consistent) {nowMs : Int}
    (hpast : ∀ t ∈ s.allowed, t ≤ nowMs) :
    (s.step (.allow nowMs)).adapter.rateLastMs ≠ 0 → ∀ t ∈ (s.step (.allow nowMs)).allowed,
      t < (s.step (.allow nowMs)).adapter.rateLastMs + rateRefillMs := by
  show (tcRateAllow s.adapter nowMs).2.rateLastMs ≠ 0 →
    ∀ t ∈ (if (tcRateAllow s.adapter nowMs).1 then nowMs :: s.allowed else s.allowed),
      t < (tcRateAllow s.adapter nowMs).2.rateLastMs + rateRefillMs
  obtain ⟨hnow, hset, hforward⟩ := @tcRateRefill_clock s.adapter nowMs
  rcases @tcRateAllow_clock s.adapter nowMs with hclosed | hclock
  · rw [hclosed]
    exact h.clock
  · rw [hclock]
    intro _ t ht
    have hold : t = nowMs ∨ t ∈ s.allowed := by
      split at ht
      · exact List.mem_cons.1 ht
      · exact .inr ht
    rcases hold with rfl | hold
    · exact hnow
    · by_cases hunset : s.adapter.rateLastMs = 0
      · exact (hpast t hold).trans_lt hnow
      · exact (h.clock hunset t hold).trans_le (Int.add_le_add_right (hforward hunset) _)

theorem Consistent.allow (h : s.Consistent) {nowMs : Int} (hpast : ∀ t ∈ s.allowed, t ≤ nowMs) :
    (s.step (.allow nowMs)).Consistent := by
  obtain ⟨-, htokens, hsuspended, hblock⟩ := @tcRateAllow_spec s.adapter nowMs h.tokens
  refine ⟨?_, ?_, h.clock_allow hpast, ?_⟩
  · show 0 ≤ (tcRateAllow s.adapter nowMs).2.rateTokens ∧
      (tcRateAllow s.adapter nowMs).2.rateTokens ≤ rateBucketTokens
    rw [htokens]
    split
    · exact emptyBucket
    · exact h.tokens
  · intro hallowed
    show (tcRateAllow s.adapter nowMs).2.rateTokens = 0
    rw [htokens]
    split
    · rfl
    · rename_i hdenied
      refine h.spent fun hnone => hallowed ?_
      show (if _ then _ else _) = _
      rw [if_neg hdenied, hnone]
  · intro r hr
    show (_ → (tcRateAllow s.adapter nowMs).2.uploadSuspended = true) ∧
      (_ → _ ≤ (tcRateAllow s.adapter nowMs).2.rateBlockUntilMs)
    rw [hsuspended, hblock]
    exact h.recorded r hr

theorem Consistent.lost (h : s.Consistent) {r : CloudAnswer}
    (hrecorded : RateEvent.Recorded (.response r)) (hlock : r.locked = false) :
    (s.step (.response r)).Consistent := by
  have haccepted : ¬ r.Refuses := fun hrefuses => by
    have hlocked := hrecorded hrefuses
    rw [hlock] at hlocked
    cases hlocked
  rw [step, hlock]
  refine ⟨h.tokens, h.spent, h.clock, fun q hq => ?_⟩
  rcases List.mem_cons.1 hq with rfl | hq
  · exact ⟨fun h413 => absurd (.inl h413) haccepted, fun h403 => absurd (.inr h403) haccepted⟩
  · exact h.recorded q hq

/-- An answer is recorded over the earlier ones, which came before it. -/
theorem Consistent.response (h : s.Consistent) {r : CloudAnswer} (hlock : r.locked = true)
    (hlater : ∀ earlier ∈ s.answers, earlier.nowMs ≤ r.nowMs) :
    (s.step (.response r)).Consistent := by
  have hstep : s.step (.response r) =
      { s with
        adapter := recordPublishResponse r.nowMs r.accepted r.errorCode s.adapter
        answers := r :: s.answers } := by
    rw [step, hlock]
    rfl
  rw [hstep]
  unfold recordPublishResponse
  simp only
  by_cases hblocked : r.errorCode = 403
  · rw [if_pos hblocked]
    refine ⟨emptyBucket, fun _ => rfl, h.clock, fun q hq => ?_⟩
    rcases List.mem_cons.1 hq with rfl | hq
    · exact ⟨fun h413 => absurd (hblocked.symm.trans h413) (by decide), fun _ => le_refl _⟩
    · refine ⟨(h.recorded q hq).1, fun _ => ?_⟩
      exact Int.add_le_add_right (hlater q hq) 60000
  · rw [if_neg hblocked]
    by_cases htoolarge : r.errorCode = 413
    · rw [if_pos htoolarge]
      refine ⟨h.tokens, h.spent, h.clock, fun q hq => ⟨fun _ => rfl, ?_⟩⟩
      rcases List.mem_cons.1 hq with rfl | hq
      · exact fun h403 => absurd h403 hblocked
      · exact (h.recorded q hq).2
    · rw [if_neg htoolarge]
      refine ⟨h.tokens, h.spent, h.clock, fun q hq => ?_⟩
      rcases List.mem_cons.1 hq with rfl | hq
      · exact ⟨fun h413 => absurd h413 htoolarge, fun h403 => absurd h403 hblocked⟩
      · exact h.recorded q hq

theorem Consistent.connected (h : s.Consistent) (env : LinkEnv) :
    (s.step (.connected env)).Consistent := by
  refine ⟨fullBucket, fun hnone => absurd rfl hnone, fun _ _ ht => absurd ht List.not_mem_nil,
    fun r hr => ?_⟩
  obtain ⟨hsuspended, hblock⟩ := onMqttConnected_guard env s.adapter
  show (_ → (onMqttConnected env s.adapter).uploadSuspended = true) ∧
    (_ → _ ≤ (onMqttConnected env s.adapter).rateBlockUntilMs)
  rw [hsuspended, hblock]
  exact h.recorded r hr

theorem Consistent.cleared (nowMs : Int) : (s.step (.cleared nowMs)).Consistent :=
  ⟨fullBucket, fun h => absurd rfl h, fun _ _ ht => absurd ht List.not_mem_nil,
    fun _ hr => absurd hr List.not_mem_nil⟩

/-- No answer and no spent token comes from the future, the events are in order, and the
refusals among them get the lock. -/
structure Ordered (s : RateHistory) (events : List RateEvent) : Prop where
  answers : ∀ r ∈ s.answers, ∀ e ∈ events, r.nowMs ≤ e.nowMs
  spent : ∀ t ∈ s.allowed, ∀ e ∈ events, t ≤ e.nowMs
  times : (events.map RateEvent.nowMs).Pairwise (· ≤ ·)
  recorded : ∀ e ∈ events, e.Recorded

theorem Ordered.step {e : RateEvent} {events : List RateEvent} (h : s.Ordered (e :: events)) :
    (s.step e).Ordered events := by
  obtain ⟨hfirst, htimes⟩ := List.pairwise_cons.1 h.times
  have hrecorded : ∀ e ∈ events, e.Recorded :=
    fun later hlater => h.recorded later (List.mem_cons_of_mem e hlater)
  have hanswers : ∀ r ∈ s.answers, ∀ later ∈ events, r.nowMs ≤ later.nowMs :=
    fun r hr later hlater => h.answers r hr later (List.mem_cons_of_mem e hlater)
  have hspent : ∀ t ∈ s.allowed, ∀ later ∈ events, t ≤ later.nowMs :=
    fun t ht later hlater => h.spent t ht later (List.mem_cons_of_mem e hlater)
  cases e with
  | allow nowMs =>
    refine ⟨hanswers, fun t ht later hlater => ?_, htimes, hrecorded⟩
    rw [RateHistory.step] at ht
    dsimp only at ht
    split at ht
    · rcases List.mem_cons.1 ht with rfl | ht
      · exact hfirst later.nowMs (List.mem_map_of_mem hlater)
      · exact hspent t ht later hlater
    · exact hspent t ht later hlater
  | response r =>
    refine ⟨fun q hq later hlater => ?_, hspent, htimes, hrecorded⟩
    rcases List.mem_cons.1 hq with rfl | hq
    · exact hfirst later.nowMs (List.mem_map_of_mem hlater)
    · exact hanswers q hq later hlater
  | connected env =>
    exact ⟨hanswers, fun _ ht => absurd ht List.not_mem_nil, htimes, hrecorded⟩
  | cleared nowMs =>
    exact ⟨fun _ hr => absurd hr List.not_mem_nil, fun _ ht => absurd ht List.not_mem_nil,
      htimes, hrecorded⟩

theorem Consistent.step {e : RateEvent} {events : List RateEvent} (h : s.Consistent)
    (hordered : s.Ordered (e :: events)) : (s.step e).Consistent := by
  cases e with
  | allow nowMs => exact h.allow fun t ht => hordered.spent t ht _ List.mem_cons_self
  | response r =>
    cases hlock : r.locked with
    | false => exact h.lost (hordered.recorded _ List.mem_cons_self) hlock
    | true => exact h.response hlock fun q hq => hordered.answers q hq _ List.mem_cons_self
  | connected env => exact h.connected env
  | cleared nowMs => exact .cleared nowMs

theorem Consistent.not_forbids (h : s.Consistent) {nowMs : Int}
    (hopen : s.adapter.GuardOpen nowMs) {r : CloudAnswer} (hr : r ∈ s.answers) :
    ¬ r.Forbids nowMs := by
  obtain ⟨hsuspended, hblock⟩ := h.recorded r hr
  rintro (h413 | ⟨h403, hearly⟩)
  · rw [hopen.1] at hsuspended
    exact absurd (hsuspended h413) Bool.false_ne_true
  · exact absurd (hearly.trans_le ((hblock h403).trans hopen.2)) (lt_irrefl _)

/-- When a refill is due, the tokens were spent in earlier periods: of two successive periods
the phases decide about the distance, and more than two are always far enough apart. -/
theorem Consistent.distance_iff (h : s.Consistent) {nowMs t : Int}
    (hdue : s.adapter.RefillDue nowMs) (ht : t ∈ s.allowed) :
    t + rateRefillMs ≤ nowMs ↔
      (s.adapter.period nowMs = s.adapter.period t + 1 →
        s.adapter.phase t ≤ s.adapter.phase nowMs) := by
  have hlast := h.clock hdue.1 t ht
  have hlater := hdue.2
  unfold Adapter.period Adapter.phase
  unfold rateRefillMs at hlast hlater ⊢
  omega

/-- One call is spaced if and only if it is in phase. -/
theorem Consistent.spaced_iff (h : s.Consistent) (e : RateEvent) : s.Spaced e ↔ s.InPhase e := by
  cases e with
  | allow nowMs =>
    obtain ⟨hallow, -⟩ := @tcRateAllow_spec s.adapter nowMs h.tokens
    unfold Spaced InPhase
    simp only
    rw [hallow]
    constructor
    · intro hspaced hopen hdue t ht
      exact (h.distance_iff hdue ht).1 ((hspaced ⟨hopen, .inr hdue⟩).1 t ht)
    · rintro hphase ⟨hopen, htoken⟩
      refine ⟨fun t ht => ?_, fun r hr => h.not_forbids hopen hr⟩
      have hempty := h.spent (List.ne_nil_of_mem ht)
      have hdue := htoken.resolve_left (by rw [hempty]; exact lt_irrefl 0)
      exact (h.distance_iff hdue ht).2 (hphase hopen hdue t ht)
  | response r => exact Iff.rfl
  | connected env => exact Iff.rfl
  | cleared nowMs => exact Iff.rfl

end RateHistory

/-- **Message spacing.** In every run since the start, with the events in order and no refusal
lost, the calls that return true keep their distance and stay out of the forbidden times if and
only if the tokens of successive periods are spent in phase. -/
theorem message_spacing_iff {events : List RateEvent}
    (hordered : (events.map RateEvent.nowMs).Pairwise (· ≤ ·))
    (hrecorded : ∀ e ∈ events, e.Recorded) :
    AllSteps RateHistory.step RateHistory.Spaced .boot events ↔
      AllSteps RateHistory.step RateHistory.InPhase .boot events := by
  have hstart : RateHistory.boot.Consistent ∧ RateHistory.boot.Ordered events :=
    ⟨.boot, fun _ hr => absurd hr List.not_mem_nil, fun _ ht => absurd ht List.not_mem_nil,
      hordered, hrecorded⟩
  refine @allSteps_iff _ _ RateHistory.step RateHistory.Spaced
    (fun s events => s.Consistent ∧ s.Ordered events) RateHistory.InPhase ?_ ?_ _ _ hstart
  · rintro s e events ⟨hconsistent, hordered⟩ -
    exact ⟨hconsistent.step hordered, hordered.step⟩
  · rintro s e events ⟨hconsistent, -⟩
    exact hconsistent.spaced_iff e

/-- A refused message, the next one after the block, and one further into its period. -/
theorem message_spacing_after_refusal :
    AllSteps RateHistory.step RateHistory.Spaced .boot
      [.allow 1000, .response ⟨1200, false, 403, true⟩, .allow 31000, .allow 61200,
        .allow 91500] :=
  (message_spacing_iff (by decide) (by decide)).2 (by decide +kernel)

/-- The second message goes out 59,999 ms after the first, late in its period, and the
third one a millisecond later. -/
theorem messages_one_ms_apart :
    (tcRateAllow (run RateHistory.step .boot [.allow 1000]).adapter 60999).1 = true ∧
      (tcRateAllow (run RateHistory.step .boot [.allow 1000, .allow 60999]).adapter 61000).1 =
        true ∧
      ¬ AllSteps RateHistory.step RateHistory.Spaced .boot
        [.allow 1000, .allow 60999, .allow 61000] := by
  decide +kernel

end McpGateway.Thingscloud
