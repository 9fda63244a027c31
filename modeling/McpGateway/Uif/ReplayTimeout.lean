import McpGateway.Runtime.Settings
import McpGateway.Uif.TrackedReplay

/-!
# The time-out of a replay

`uif_replay_all` on both platforms, with the acknowledgements, responses and
connection losses that end a replay. Only the ThingsCloud branch sets
`s_replay_sent_ms`. The world keeps beside the statics when the outstanding
replay was published, and on which branch.
-/

namespace McpGateway.Uif

open McpGateway.Lib McpGateway.Storage McpGateway.Tcm McpGateway.Thingscloud
open McpGateway.Runtime (MqttPlatform)

/-- What a call of `uif_replay_all` finds: the configured platform, the connection,
and how `mqtt_publish_tracked` ends. -/
structure ReplayCall where
  platform : MqttPlatform
  reportMode : ReportMode
  connected : Bool
  clientAccepts : Publish → Bool
  tracked : EspErr

/-- `uif_replay_all` on the other platforms: its loop ends after one publish. -/
def uifReplayTracked (call : ReplayCall) (nowMs : Int) (u : Replay) (st : Store) (a : Adapter) :
    ReplayOut :=
  match replayStart call.connected nowMs u st with
  | (.error e, u, st) => ⟨e, u, st, a, []⟩
  | (.ok _, u, st) =>
    if call.tracked ≠ .ok then ⟨call.tracked, { u with outstanding := false }, st, a, []⟩
    else ⟨.ok, u, st, a, []⟩

/-- `uif_replay_all`. -/
def uifReplayOn (lib : JsonLib) (call : ReplayCall) (nowMs : Int) (u : Replay) (st : Store)
    (a : Adapter) : ReplayOut :=
  if call.platform = .thingscloud then
    uifReplayAll lib ⟨call.reportMode, nowMs, call.connected, call.clientAccepts⟩ u st a
  else uifReplayTracked call nowMs u st a

structure TimedWorld where
  nowMs : Int
  replay : Replay
  store : Store
  adapter : Adapter
  /-- When the outstanding replay was published. -/
  publishedMs : Int
  /-- It was published by the branch that leaves `s_replay_sent_ms` alone. -/
  untimed : Bool

inductive TimedOp
  | tick (ms : Nat)
  | replayAll (call : ReplayCall)
  | acknowledged (id : SeqId)
  | response (gatewayTopic accepted : Bool) (errorCode : Int)
  | connectionLost
  | others (store : Store) (adapter : Adapter)

namespace TimedWorld

variable (lib : JsonLib)

def boot (nowMs : Nat) (store : Store) (adapter : Adapter) : TimedWorld where
  nowMs := nowMs
  replay := ⟨false, 0, false, 0, 0⟩
  store := store
  adapter := adapter
  publishedMs := 0
  untimed := false

def call (w : TimedWorld) (c : ReplayCall) : ReplayOut :=
  uifReplayOn lib c w.nowMs w.replay w.store w.adapter

def publishes (w : TimedWorld) (c : ReplayCall) : Bool :=
  !w.replay.outstanding && (w.call lib c).replay.outstanding

def step (w : TimedWorld) : TimedOp → TimedWorld
  | .tick ms => { w with nowMs := w.nowMs + ms }
  | .replayAll c =>
    { w with
      replay := (w.call lib c).replay
      store := (w.call lib c).store
      adapter := (w.call lib c).adapter
      publishedMs := if w.publishes lib c then w.nowMs else w.publishedMs
      untimed := if w.publishes lib c then decide (c.platform ≠ .thingscloud) else w.untimed }
  | .acknowledged id =>
    let r := replayAcknowledged w.replay w.store id
    { w with replay := r.1, store := r.2 }
  | .response gatewayTopic accepted errorCode =>
    let r := uifReplayCloudResponse w.nowMs gatewayTopic accepted errorCode w.replay w.store
    { w with replay := r.1, store := r.2 }
  | .connectionLost => { w with replay := uifReplayConnectionLost w.replay }
  | .others store adapter => { w with store := store, adapter := adapter }

/-- The call declares the outstanding replay timed out. -/
def TimesOut (w : TimedWorld) (c : ReplayCall) : Prop :=
  w.replay.outstanding = true ∧ (w.call lib c).replay.outstanding = false

/-- A replay times out only when its time-out has passed since it was published. -/
def TimeoutInTime (w : TimedWorld) : TimedOp → Prop
  | .replayAll c => w.TimesOut lib c → responseTimeoutMs ≤ w.nowMs - w.publishedMs
  | _ => True

/-- No call on a connected client finds a replay of the branch without a time outstanding,
unless its time-out has passed, or not yet the first 20 seconds since the start. -/
def TimedCalls (w : TimedWorld) : TimedOp → Prop
  | .replayAll c => c.connected = true → w.replay.outstanding = true → w.untimed = true →
      responseTimeoutMs ≤ w.nowMs - w.publishedMs ∨ w.nowMs < responseTimeoutMs
  | _ => True

end TimedWorld

/-! ## What a call does to the statics -/

/-- The statics after a call of `uif_replay_all` at `nowMs`. -/
inductive CallEffect (platform : MqttPlatform) (nowMs : Int) (u : Replay) : Replay → Prop
  | unchanged : CallEffect platform nowMs u u
  | timedOut (hwaiting : u.outstanding = true) (hlate : responseTimeoutMs ≤ nowMs - u.sentMs) :
      CallEffect platform nowMs u
        { u with outstanding := false, retryAfterMs := nowMs + rejectRetryMs }
  | timed (sequence : SeqId) (gatewayTopic : Bool) (hfree : u.outstanding = false)
      (hdue : u.retryAfterMs ≤ nowMs) (hplatform : platform = .thingscloud) :
      CallEffect platform nowMs u
        { u with
          outstanding := true, sequence := sequence, gatewayTopic := gatewayTopic, sentMs := nowMs }
  | paced (sequence : SeqId) (gatewayTopic : Bool) (hfree : u.outstanding = false) :
      CallEffect platform nowMs u
        { outstanding := false, sequence := sequence, gatewayTopic := gatewayTopic
          sentMs := nowMs, retryAfterMs := nowMs + pacingRetryMs }
  | untimed (sequence : SeqId) (hfree : u.outstanding = false) (hdue : u.retryAfterMs ≤ nowMs)
      (hplatform : platform ≠ .thingscloud) :
      CallEffect platform nowMs u { u with outstanding := true, sequence := sequence }
  | refused (sequence : SeqId) (hfree : u.outstanding = false) :
      CallEffect platform nowMs u { u with sequence := sequence }

section Effects

variable {lib : JsonLib} {call : ReplayCall} {nowMs : Int} {u : Replay} {st : Store} {a : Adapter}

/-- Past the gate nothing is outstanding, and the retry time has come. -/
theorem replayGate_cases (nowMs : Int) (u : Replay) :
    (∃ e, replayGate nowMs u = (some e, u)) ∨
      u.outstanding = true ∧ responseTimeoutMs ≤ nowMs - u.sentMs ∧
        replayGate nowMs u =
          (some .timeout, { u with outstanding := false, retryAfterMs := nowMs + rejectRetryMs }) ∨
      u.outstanding = false ∧ u.retryAfterMs ≤ nowMs ∧ replayGate nowMs u = (none, u) := by
  unfold replayGate
  split
  · rename_i hwaiting
    split
    · exact .inl ⟨_, rfl⟩
    · rename_i hlate
      exact .inr (.inl ⟨hwaiting, not_lt.1 hlate, rfl⟩)
  · rename_i hfree
    split
    · exact .inl ⟨_, rfl⟩
    · rename_i hdue
      exact .inr (.inr ⟨Bool.eq_false_of_not_eq_true hfree, not_lt.1 hdue, rfl⟩)

theorem uifReplayAll_effect (hplatform : call.platform = .thingscloud) :
    CallEffect call.platform nowMs u
      (uifReplayAll lib ⟨call.reportMode, nowMs, call.connected, call.clientAccepts⟩ u st
        a).replay := by
  unfold uifReplayAll
  split
  · exact .unchanged
  · rcases replayGate_cases nowMs u with ⟨e, hgate⟩ | ⟨hwaiting, hlate, hgate⟩ |
      ⟨hfree, hdue, hgate⟩
    · rw [hgate]
      exact .unchanged
    · rw [hgate]
      exact .timedOut hwaiting hlate
    · rw [hgate]
      dsimp only
      split
      · exact .unchanged
      · exact .unchanged
      · split
        · exact .unchanged
        · split
          · exact .paced _ _ hfree
          · exact .timed _ _ hfree hdue hplatform

/-- Up to the publish nothing changes, the replay times out, or the token is taken. -/
theorem replayStart_cases (connected : Bool) (nowMs : Int) (u : Replay) (st : Store) :
    (∃ e st', replayStart connected nowMs u st = (.error e, u, st')) ∨
      u.outstanding = true ∧ responseTimeoutMs ≤ nowMs - u.sentMs ∧
        replayStart connected nowMs u st = (.error .timeout,
          { u with outstanding := false, retryAfterMs := nowMs + rejectRetryMs }, st) ∨
      u.outstanding = false ∧ u.retryAfterMs ≤ nowMs ∧ ∃ record st',
        replayStart connected nowMs u st =
          (.ok record, { u with sequence := record.sequenceId, outstanding := true }, st') := by
  unfold replayStart
  split
  · exact .inl ⟨_, _, rfl⟩
  · rcases replayGate_cases nowMs u with ⟨e, hgate⟩ | ⟨hwaiting, hlate, hgate⟩ |
      ⟨hfree, hdue, hgate⟩
    · rw [hgate]
      exact .inl ⟨_, _, rfl⟩
    · rw [hgate]
      exact .inr (.inl ⟨hwaiting, hlate, rfl⟩)
    · rw [hgate]
      dsimp only
      split
      · exact .inl ⟨_, _, rfl⟩
      · exact .inl ⟨_, _, rfl⟩
      · exact .inr (.inr ⟨hfree, hdue, _, _, rfl⟩)

theorem uifReplayTracked_effect (hplatform : call.platform ≠ .thingscloud) :
    CallEffect call.platform nowMs u (uifReplayTracked call nowMs u st a).replay := by
  unfold uifReplayTracked
  rcases replayStart_cases call.connected nowMs u st with ⟨e, st', hstart⟩ |
    ⟨hwaiting, hlate, hstart⟩ | ⟨hfree, hdue, record, st', hstart⟩
  · rw [hstart]
    exact .unchanged
  · rw [hstart]
    exact .timedOut hwaiting hlate
  · rw [hstart]
    dsimp only
    split
    · have hrefused : ({ u with sequence := record.sequenceId, outstanding := false } : Replay) =
          { u with sequence := record.sequenceId } := by
        rw [← hfree]
      show CallEffect call.platform nowMs u { u with
        sequence := record.sequenceId, outstanding := false }
      rw [hrefused]
      exact .refused _ hfree
    · exact .untimed _ hfree hdue hplatform

theorem uifReplayOn_effect :
    CallEffect call.platform nowMs u (uifReplayOn lib call nowMs u st a).replay := by
  unfold uifReplayOn
  split
  · rename_i hplatform
    exact uifReplayAll_effect hplatform
  · rename_i hplatform
    exact uifReplayTracked_effect hplatform

end Effects

namespace TimedWorld

variable {lib : JsonLib} {w : TimedWorld}

/-- While a replay is outstanding its time of sending is that of its publish, or, from the
branch without a time, 0 or from long before. -/
structure Timed (w : TimedWorld) : Prop where
  started : 0 ≤ w.nowMs
  sent : 0 ≤ w.replay.sentMs
  resting : w.replay.outstanding = false →
    w.replay.sentMs = 0 ∨ w.replay.sentMs + pacingRetryMs ≤ w.replay.retryAfterMs
  past : w.replay.outstanding = true → 0 ≤ w.publishedMs ∧ w.publishedMs ≤ w.nowMs
  timed : w.replay.outstanding = true → w.untimed = false → w.replay.sentMs = w.publishedMs
  untimed : w.replay.outstanding = true → w.untimed = true →
    w.replay.sentMs = 0 ∨ w.replay.sentMs + pacingRetryMs ≤ w.publishedMs

theorem timed_boot (nowMs : Nat) (store : Store) (adapter : Adapter) :
    (boot nowMs store adapter).Timed :=
  ⟨Int.natCast_nonneg nowMs, le_refl _, fun _ => .inl rfl, fun h => (by cases h),
    fun h => (by cases h), fun h => (by cases h)⟩

theorem Timed.rest (h : w.Timed) {w' : TimedWorld} (hnow : w.nowMs ≤ w'.nowMs)
    (hfree : w'.replay.outstanding = false) (hsent : 0 ≤ w'.replay.sentMs)
    (hlong : w'.replay.sentMs = 0 ∨
      w'.replay.sentMs + pacingRetryMs ≤ w'.replay.retryAfterMs) : w'.Timed :=
  ⟨h.started.trans hnow, hsent, fun _ => hlong, fun ho => absurd (hfree.symm.trans ho) (by decide),
    fun ho => absurd (hfree.symm.trans ho) (by decide),
    fun ho => absurd (hfree.symm.trans ho) (by decide)⟩

theorem Timed.congr (h : w.Timed) {w' : TimedWorld} (hnow : w.nowMs ≤ w'.nowMs)
    (hreplay : w'.replay = w.replay) (hpublished : w'.publishedMs = w.publishedMs)
    (huntimed : w'.untimed = w.untimed) : w'.Timed := by
  obtain ⟨hstarted, hsent, hresting, hpast, htimed, hu⟩ := h
  refine ⟨hstarted.trans hnow, ?_, ?_, ?_, ?_, ?_⟩ <;> rw [hreplay]
  · exact hsent
  · exact hresting
  · intro ho
    rw [hpublished]
    exact ⟨(hpast ho).1, (hpast ho).2.trans hnow⟩
  · rw [hpublished, huntimed]
    exact htimed
  · rw [hpublished, huntimed]
    exact hu

theorem Timed.sent_le (h : w.Timed) (ho : w.replay.outstanding = true) :
    w.replay.sentMs ≤ w.nowMs := by
  have hstarted := h.started
  have hpast := h.past ho
  cases hu : w.untimed with
  | false =>
    rw [h.timed ho hu]
    exact hpast.2
  | true =>
    have hpacing : pacingRetryMs = 30000 := rfl
    rcases h.untimed ho hu with hzero | hlong
    · omega
    · omega

theorem Timed.call (h : w.Timed) (c : ReplayCall) : (w.step lib (.replayAll c)).Timed := by
  have heffect : CallEffect c.platform w.nowMs w.replay (w.call lib c).replay := uifReplayOn_effect
  have hpacing : pacingRetryMs = 30000 := rfl
  have hreject : rejectRetryMs = 60000 := rfl
  have hstep : w.step lib (.replayAll c) =
      { w with
        replay := (w.call lib c).replay
        store := (w.call lib c).store
        adapter := (w.call lib c).adapter
        publishedMs := if w.publishes lib c then w.nowMs else w.publishedMs
        untimed := if w.publishes lib c then decide (c.platform ≠ .thingscloud)
          else w.untimed } := rfl
  rw [hstep]
  unfold publishes
  generalize (w.call lib c).store = store
  generalize (w.call lib c).adapter = adapter
  generalize (w.call lib c).replay = u at heffect ⊢
  cases heffect with
  | unchanged =>
    refine h.congr (le_refl _) rfl ?_ ?_ <;> simp
  | timedOut hwaiting hlate =>
    have hsent := h.sent_le hwaiting
    refine h.rest (le_refl _) rfl h.sent (.inr ?_)
    show w.replay.sentMs + pacingRetryMs ≤ w.nowMs + rejectRetryMs
    omega
  | timed sequence gatewayTopic hfree hdue hplatform =>
    have hstarted := h.started
    simp only [hfree, Bool.not_false, Bool.true_and, if_true, hplatform]
    exact ⟨hstarted, hstarted, fun ho => (by cases ho), fun _ => ⟨hstarted, le_refl _⟩,
      fun _ _ => rfl, fun _ hu => by simp at hu⟩
  | paced sequence gatewayTopic hfree =>
    exact h.rest (le_refl _) rfl h.started (.inr (le_refl _))
  | untimed sequence hfree hdue hplatform =>
    have hstarted := h.started
    simp only [hfree, Bool.not_false, Bool.true_and, if_true]
    refine ⟨hstarted, h.sent, fun ho => (by cases ho), fun _ => ⟨hstarted, le_refl _⟩,
      fun _ hu => absurd (of_decide_eq_false hu) (not_not.2 hplatform), fun _ _ => ?_⟩
    rcases h.resting hfree with hzero | hlong
    · exact .inl hzero
    · exact .inr (hlong.trans hdue)
  | refused sequence hfree =>
    exact h.rest (le_refl _) hfree h.sent (h.resting hfree)

theorem Timed.acknowledge (h : w.Timed) (store : Store) (id : SeqId) :
    Timed { w with replay := (replayAcknowledged w.replay w.store id).1, store := store } := by
  unfold replayAcknowledged
  dsimp only
  split
  · exact h.rest (le_refl _) rfl (le_refl _) (.inl rfl)
  · exact h.congr (le_refl _) rfl rfl rfl

theorem Timed.respond (h : w.Timed) (gatewayTopic accepted : Bool) (errorCode : Int) :
    (w.step lib (.response gatewayTopic accepted errorCode)).Timed := by
  unfold step uifReplayCloudResponse
  dsimp only
  split
  · exact h.congr (le_refl _) rfl rfl rfl
  · split
    · have hclear : (replayAcknowledged w.replay w.store w.replay.sequence).1 =
          w.replay.clear := if_pos rfl
      rw [hclear]
      exact h.rest (le_refl _) rfl (le_refl _) (.inl rfl)
    · exact h.rest (le_refl _) rfl (le_refl _) (.inl rfl)

theorem Timed.step (h : w.Timed) (op : TimedOp) : (w.step lib op).Timed := by
  cases op with
  | tick ms => exact h.congr (Int.le_add_of_nonneg_right (Int.natCast_nonneg ms)) rfl rfl rfl
  | replayAll c => exact h.call c
  | acknowledged id => exact h.acknowledge _ id
  | response gatewayTopic accepted errorCode => exact h.respond gatewayTopic accepted errorCode
  | connectionLost => exact h.rest (le_refl _) rfl (le_refl _) (.inl rfl)
  | others store adapter => exact h.congr (le_refl _) rfl rfl rfl

/-! ## When a replay times out -/

/-- A call that finds a replay outstanding gives it up when `s_replay_sent_ms` is 20 seconds
back. -/
theorem timesOut_iff (c : ReplayCall) : w.TimesOut lib c ↔
    c.connected = true ∧ w.replay.outstanding = true ∧
      responseTimeoutMs ≤ w.nowMs - w.replay.sentMs := by
  unfold TimesOut
  rw [and_left_comm]
  refine and_congr_right fun ho => ?_
  have heffect : CallEffect c.platform w.nowMs w.replay (w.call lib c).replay := uifReplayOn_effect
  constructor
  · intro hfree
    refine ⟨?_, ?_⟩
    · by_contra hdown
      have hsame : (w.call lib c).replay = w.replay := by
        have hdown' : c.connected = false := Bool.eq_false_of_not_eq_true hdown
        unfold call uifReplayOn uifReplayAll uifReplayTracked replayStart
        simp only [hdown', if_true]
        split <;> rfl
      rw [hsame, ho] at hfree
      cases hfree
    · generalize (w.call lib c).replay = u at heffect hfree
      cases heffect with
      | unchanged => cases hfree.symm.trans ho
      | timedOut _ hlate => exact hlate
      | timed _ _ hfree' => cases hfree'.symm.trans ho
      | paced _ _ hfree' => cases hfree'.symm.trans ho
      | untimed _ hfree' => cases hfree'.symm.trans ho
      | refused _ hfree' => cases hfree'.symm.trans ho
  · rintro ⟨hconnected, hlate⟩
    have hgate : replayGate w.nowMs w.replay = (some .timeout,
        { w.replay with outstanding := false, retryAfterMs := w.nowMs + rejectRetryMs }) := by
      unfold replayGate
      rw [if_pos ho, if_neg (not_lt.2 hlate)]
    unfold call uifReplayOn uifReplayAll uifReplayTracked replayStart
    simp only [hconnected, hgate, Bool.true_eq_false, if_false]
    split <;> rfl

theorem Timed.inTime_iff (h : w.Timed) (op : TimedOp) :
    w.TimeoutInTime lib op ↔ w.TimedCalls op := by
  cases op with
  | replayAll c =>
    have hpacing : pacingRetryMs = 30000 := rfl
    have htimeout : responseTimeoutMs = 20000 := rfl
    unfold TimeoutInTime TimedCalls
    simp only [timesOut_iff, and_imp]
    refine imp_congr_right fun hconnected => imp_congr_right fun ho => ?_
    have hpast := h.past ho
    have hsent := h.sent
    cases hu : w.untimed with
    | false =>
      rw [h.timed ho hu]
      exact iff_of_true id fun hfalse => by cases hfalse
    | true =>
      simp only [forall_const]
      rcases h.untimed ho hu with hzero | hlong
      · rw [hzero]
        omega
      · omega
  | _ => exact Iff.rfl

/-- **Time-outs.** In every run from a restart each replay that times out was published
at least 20 seconds before, if and only if no connected call in between finds a replay of
the branch without a time too early. -/
theorem timeout_run_iff (lib : JsonLib) (nowMs : Nat) (store : Store) (adapter : Adapter)
    (ops : List TimedOp) :
    AllSteps (TimedWorld.step lib) (TimeoutInTime lib) (boot nowMs store adapter) ops ↔
      AllSteps (TimedWorld.step lib) TimedCalls (boot nowMs store adapter) ops :=
  allSteps_iff (K := fun w _ => w.Timed) (fun _ op _ h _ => h.step op)
    (fun _ op _ h => h.inTime_iff op) (timed_boot nowMs store adapter)

/-! ## A replay on a custom broker -/

def customCall : ReplayCall where
  platform := .custom
  reportMode := .gateway
  connected := true
  clientAccepts := fun _ => true
  tracked := .ok

/-- 100 seconds after the start a record is published, and the next round of the replay
task, half a second later, gives the replay up. -/
theorem custom_times_out_at_once :
    ¬ AllSteps (TimedWorld.step (.knowing [])) (TimeoutInTime (.knowing []))
      (boot 100000 TrackedWorld.storeWithRecord .boot)
      [.replayAll customCall, .tick 500, .replayAll customCall] := by
  intro h
  have hlate : responseTimeoutMs ≤ (100500 : Int) - 100000 :=
    h.2.2.1 ⟨by decide +kernel, by decide +kernel⟩
  revert hlate
  decide

end TimedWorld

end McpGateway.Uif
