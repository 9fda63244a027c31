import McpGateway.Storage.OfflineIndex
import McpGateway.Uif.EarlyRemoval

/-!
# Draining the backlog

One round lets the retry delays pass, replays the oldest record and has the
cloud accept what was published. The response to a replay never carries the
topic class the replay waits for, so a round removes no file: `drains_iff`
says that only an empty store ends up empty.
-/

namespace McpGateway.Uif

open McpGateway.Lib McpGateway.Storage McpGateway.Tcm McpGateway.Thingscloud

/-! ## Rounds -/

/-- The cloud accepts everything in flight, the oldest publish first. -/
def deliver (site : Site) (w : World) : World :=
  run (step site) w (List.replicate w.inFlight.length (.response 0 acceptingResponse))

/-- `ms` pass, `uif_replay_all` runs, and its publish is accepted. -/
def drainRound (site : Site) (w : World) (ms : Nat) : World :=
  deliver site (run (step site) w [.tick ms, .replayAll fun _ => true])

/-- No record is stored on a mounted medium. -/
def Drained (st : Store) : Prop := ∀ id, ¬ Visible st id

/-! ## What a round keeps -/

theorem drained_congr {st st' : Store} (h : SameFiles st st') :
    Drained st' ↔ Drained st := by
  simp only [Drained, Visible, h.flash, h.tf, h.card]

theorem uifReplayAll_sameFiles (lib : JsonLib) (env : LinkEnv) (u : Replay) (st : Store)
    (a : Adapter) : SameFiles st (uifReplayAll lib env u st a).store := by
  have hpeek := offlineStorePeekOldest_sameFiles st
  simp only [uifReplayAll]
  split
  · exact SameFiles.refl st
  · split
    · exact SameFiles.refl st
    · split
      · exact hpeek
      · exact hpeek
      · split
        · exact hpeek
        · split <;> exact hpeek

variable {site : Site} {w : World}

theorem Consistent.replay_unanswered (h : Consistent site w) {f : InFlight} (hf : f ∈ w.inFlight)
    (hr : f.record ≠ none) (ho : w.replay.outstanding = true) :
    responseClass f.topic ≠ some w.replay.gatewayTopic := by
  intro hclass
  obtain ⟨hm, ht⟩ := (h.answered hf ho).1 hclass
  exact hr (h.status_record hf hm ht)

/-- Only replays are in flight, and no file of `st` has gone. -/
structure Stuck (site : Site) (st : Store) (w : World) : Prop where
  consistent : Consistent site w
  replays : ∀ f ∈ w.inFlight, f.record ≠ none
  files : SameFiles st w.store

def RoundOp : Op → Prop
  | .tick _ | .replayAll _ | .response _ _ => True
  | _ => False

theorem Stuck.step {st : Store} (h : Stuck site st w) {a : Op} (ha : RoundOp a) :
    Stuck site st (step site w a) := by
  have hcons := step_consistent h.consistent a
  cases a with
  | tick ms => exact ⟨hcons, h.replays, h.files⟩
  | replayAll accepts =>
    refine ⟨hcons, ?_, h.files.trans (uifReplayAll_sameFiles _ _ _ _ _)⟩
    intro f hf
    rcases List.mem_append.1 hf with hf | hf
    · exact h.replays f hf
    · obtain ⟨p, -, rfl⟩ := List.mem_map.1 hf
      exact Option.some_ne_none _
  | response i doc =>
    cases hf : w.inFlight[i]? with
    | none =>
      have hstay : Uif.step site w (.response i doc) = w := by simp only [Uif.step, hf]
      rwa [hstay]
    | some f =>
      have hmem : f ∈ w.inFlight := List.mem_of_getElem? hf
      have hstep : Uif.step site w (.response i doc) =
          respond { w with inFlight := w.inFlight.eraseIdx i } f doc := by simp only [Uif.step, hf]
      have hstore := respond_store { w with inFlight := w.inFlight.eraseIdx i } f doc
      rw [if_neg fun hc => h.consistent.replay_unanswered hmem (h.replays f hmem) hc.1 hc.2.1]
        at hstore
      refine ⟨hcons, ?_, ?_⟩
      · rw [hstep, respond_inFlight]
        exact fun g hg => h.replays g (List.mem_of_mem_eraseIdx hg)
      · rw [hstep, hstore]
        exact h.files
  | _ => exact ha.elim

theorem Stuck.run {st : Store} (h : Stuck site st w) {ops : List Op} (hops : ∀ a ∈ ops, RoundOp a) :
    Stuck site st (run (Uif.step site) w ops) := by
  induction ops generalizing w with
  | nil => exact h
  | cons a ops ih =>
    exact ih (h.step (hops a List.mem_cons_self)) fun b hb => hops b (List.mem_cons_of_mem a hb)

theorem Stuck.drainRound {st : Store} (h : Stuck site st w) (ms : Nat) :
    Stuck site st (drainRound site w ms) := by
  have hreplay : Stuck site st (Lib.run (Uif.step site) w [.tick ms, .replayAll fun _ => true]) :=
    h.run (by simp [RoundOp])
  refine hreplay.run ?_
  intro a ha
  rw [List.eq_of_mem_replicate ha]
  trivial

theorem Stuck.rounds {st : Store} (h : Stuck site st w) (times : List Nat) :
    Stuck site st (Lib.run (Uif.drainRound site) w times) := by
  induction times generalizing w with
  | nil => exact h
  | cons ms times ih => exact ih (h.drainRound ms)

theorem boot_stuck (site : Site) (nowMs : Int) (connected : Bool) (st : Store) (adapter : Adapter) :
    Stuck site st (World.boot nowMs connected st adapter) :=
  ⟨boot_consistent nowMs connected st adapter, fun _ h => (by cases h), SameFiles.refl st⟩

/-- **Only an empty store drains.** From boot with any store and adapter
state, and whatever time passes before each round, some number of rounds
leaves no record exactly when there was none. -/
theorem drains_iff (site : Site) (nowMs : Int) (connected : Bool) (store : Store)
    (adapter : Adapter) (times : Nat → Nat) :
    (∃ n, Drained (run (drainRound site) (World.boot nowMs connected store adapter)
      ((List.range n).map times)).store) ↔ Drained store := by
  have hfiles := fun n => ((boot_stuck site nowMs connected store adapter).rounds
    ((List.range n).map times)).files
  constructor
  · rintro ⟨n, hn⟩
    exact (drained_congr (hfiles n)).1 hn
  · exact fun h => ⟨0, h⟩

/-! ## One valid record -/

def oneRecordStore : Store :=
  (uifCacheRecord subdeviceSite.lib freshStore sampleContext "t".toList (putWith 1048576)).2

/-- The cloud accepts the record in the first round, and it is still there
after any number of rounds two minutes apart. -/
theorem accepted_record_stays :
    tcmValidate sampleContext = true ∧
      (drainRound subdeviceSite (World.boot 100000 true oneRecordStore .boot) 120000).settled = [1] ∧
      ¬ ∃ n, Drained (run (drainRound subdeviceSite)
        (World.boot 100000 true oneRecordStore .boot) ((List.range n).map fun _ => 120000)).store := by
  refine ⟨by decide, by decide +kernel, ?_⟩
  rintro ⟨n, hn⟩
  have hfiles := ((boot_stuck subdeviceSite 100000 true oneRecordStore .boot).rounds
    ((List.range n).map fun _ => 120000)).files
  exact (drained_congr hfiles).1 hn 1 (Or.inl (by decide +kernel))

end McpGateway.Uif
