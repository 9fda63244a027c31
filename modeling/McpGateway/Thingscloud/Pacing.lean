import McpGateway.Thingscloud.Aggregation
import McpGateway.Thingscloud.Packets

/-!
# Pacing

The limiter has one token, so a flush sends one packet at most, and a flush
that does not send all its packets keeps the whole buffer. Each slot of a
buffer gets a mark: when its sample came in, and by which flush it was handed
to the MQTT client since. `flush_progress_run` says along which calls no sample
is sent again while an older one still waits.
-/

namespace McpGateway.Thingscloud

open McpGateway.Lib McpGateway.Tcm

/-! ## Marked buffers -/

/-- What a call sees; the client takes every message. -/
structure Call where
  reportMode : ReportMode
  nowMs : Int
  connected : Bool
  hold : Bool

def Call.env (c : Call) : LinkEnv where
  reportMode := c.reportMode
  nowMs := c.nowMs
  connected := c.connected
  clientAccepts _ := true

@[simp] theorem Call.env_reportMode (c : Call) : c.env.reportMode = c.reportMode := rfl

/-- When a slot's sample came in, and the last flush that handed it over. -/
structure Mark where
  born : Nat
  handed : Option Nat

/-- The statics, with the number of events so far and the marks of the slots. -/
structure Pacing where
  adapter : Adapter
  time : Nat
  marks : ReportMode → Nat → Mark

/-- The message has a field of the property's name. -/
def carries (mode : ReportMode) (p : CloudProperty) (m : Publish) : Bool :=
  match m.payload, mode with
  | .json doc, .gateway => (doc.getItemCaseSensitive p.propertyKey.str).isSome
  | .json doc, .subdevice =>
    match doc.getItemCaseSensitive p.deviceAddress.str with
    | some device => (device.getItemCaseSensitive p.propertyKey.str).isSome
    | none => false
  | .text _, _ => false

/-- Slot `i` goes out with one of the messages. -/
def handedOver (mode : ReportMode) (buffer : List CloudProperty) (sent : List Publish)
    (i : Nat) : Bool :=
  match buffer[i]? with
  | some p => sent.any (carries mode p)
  | none => false

namespace Pacing

variable (lib : JsonLib) (c : Call)

def switch (s : Pacing) : Pacing :=
  { s with adapter := Thingscloud.checkModeChange s.adapter c.reportMode }

/-- `thingscloud_flush`. -/
def flush (s : Pacing) : Pacing :=
  let out := thingscloudFlush lib c.env c.hold s.adapter
  let buffer := (s.switch c).adapter.buffer c.reportMode
  { adapter := out.1
    time := s.time + 1
    marks := fun mode i =>
      if mode = c.reportMode ∧ handedOver mode buffer out.2 i = true then
        { s.marks mode i with handed := some s.time }
      else s.marks mode i }

def flushIfFull (s : Pacing) : Pacing :=
  if bufferFull s.adapter c.reportMode then s.flush lib c else s

def slotOf (mode : ReportMode) (id : PropertyId) (buffer : List CloudProperty) : Nat :=
  (buffer.findIdx? fun p => decide (bufferedId mode p = id)).getD buffer.length

def take (ctx : TcmContext) (s : Pacing) : Pacing where
  adapter := addContext c.env ctx s.adapter
  time := s.time + 1
  marks := fun mode i =>
    if mode = c.reportMode ∧
        (sampleId mode ctx).map (fun id => slotOf mode id (s.adapter.buffer mode)) = some i then
      { born := s.time, handed := none }
    else s.marks mode i

/-- `thingscloud_publish_context`. -/
def publish (ctx : TcmContext) (s : Pacing) : Pacing :=
  if ctx.qualityState ≠ .good ∨ ctx.pointId.str = [] then s
  else
    let s := ((s.switch c).flushIfFull lib c).switch c
    if bufferFull s.adapter c.reportMode then
      { s with adapter := { s.adapter with droppedCount := s.adapter.droppedCount + 1 } }
    else (s.take c ctx).flushIfFull lib c

end Pacing

inductive PacingStep
  | flush (c : Call)
  | publish (c : Call) (ctx : TcmContext)

def Pacing.step (lib : JsonLib) (s : Pacing) : PacingStep → Pacing
  | .flush c => s.flush lib c
  | .publish c ctx => s.publish lib c ctx

section Unmarked

variable (lib : JsonLib) (c : Call) (s : Pacing)

theorem Pacing.flush_adapter :
    (s.flush lib c).adapter = (thingscloudFlush lib c.env c.hold s.adapter).1 := rfl

theorem Pacing.flushIfFull_adapter :
    (s.flushIfFull lib c).adapter = (Thingscloud.flushIfFull lib c.env c.hold s.adapter).1 := by
  unfold Pacing.flushIfFull Thingscloud.flushIfFull
  rw [Call.env_reportMode]
  split <;> rfl

theorem Pacing.publish_adapter (ctx : TcmContext) :
    (s.publish lib c ctx).adapter =
      (thingscloudPublishContext lib c.env c.hold ctx s.adapter).1 := by
  have hrest : ∀ (t : Pacing) (sent : List Publish),
      (if bufferFull t.adapter c.reportMode then
        { t with adapter := { t.adapter with droppedCount := t.adapter.droppedCount + 1 } }
      else (t.take c ctx).flushIfFull lib c).adapter =
      (if bufferFull t.adapter c.reportMode then
        ({ t.adapter with droppedCount := t.adapter.droppedCount + 1 }, sent)
      else
        let g := Thingscloud.flushIfFull lib c.env c.hold (addContext c.env ctx t.adapter)
        (g.1, sent ++ g.2)).1 := by
    intro t sent
    by_cases hfull : bufferFull t.adapter c.reportMode = true
    · rw [if_pos hfull, if_pos hfull]
    · rw [if_neg hfull, if_neg hfull]
      exact Pacing.flushIfFull_adapter lib c _
  unfold Pacing.publish thingscloudPublishContext
  by_cases hskip : ctx.qualityState ≠ .good ∨ ctx.pointId.str = []
  · rw [if_pos hskip, if_pos hskip]
  · rw [if_neg hskip, if_neg hskip, Call.env_reportMode]
    refine (hrest _ (Thingscloud.flushIfFull lib c.env c.hold (s.switch c).adapter).2).trans ?_
    simp only [Pacing.switch, Pacing.flushIfFull_adapter]

end Unmarked

/-! ## Progress -/

/-- `P` holds at each flush of a step. -/
def AtFlushes (lib : JsonLib) (P : Call → Pacing → Prop) (s : Pacing) : PacingStep → Prop
  | .flush c => P c s
  | .publish c ctx =>
    ctx.qualityState = .good → ctx.pointId.str ≠ [] →
      let before := s.switch c
      let after := (before.flushIfFull lib c).switch c
      (bufferFull before.adapter c.reportMode → P c before) ∧
        (bufferFull after.adapter c.reportMode = false →
          bufferFull (after.take c ctx).adapter c.reportMode → P c (after.take c ctx))

/-- The flush sends no sample again that an earlier flush handed over, while a
sample buffered before that flush has not been handed over. -/
def MakesProgress (lib : JsonLib) (c : Call) (s : Pacing) : Prop :=
  let buffer := (s.switch c).adapter.buffer c.reportMode
  ∀ i earlier,
    handedOver c.reportMode buffer (thingscloudFlush lib c.env c.hold s.adapter).2 i = true →
    (s.marks c.reportMode i).handed = some earlier →
    ∀ k < buffer.length, (s.marks c.reportMode k).born < earlier →
      (s.marks c.reportMode k).handed ≠ none

def bufferPackets (lib : JsonLib) (mode : ReportMode) (buffer : List CloudProperty) :
    List Json × EspErr :=
  match mode with
  | .gateway => (gwAttrPackets lib buffer [] 0, .ok)
  | .subdevice => subdevicePackets lib buffer [] 0

/-- If the flush can send anything, its buffer fits into one packet. -/
def FitsOnePacket (lib : JsonLib) (c : Call) (s : Pacing) : Prop :=
  let a := (s.switch c).adapter
  c.hold = false → c.connected = true → (tcRateAllow a c.nowMs).1 = true →
    let packets := bufferPackets lib c.reportMode (a.buffer c.reportMode)
    packets.1.length ≤ 1 ∧ packets.2 = .ok

/-! ## The limiter -/

section Limiter

variable {lib : JsonLib} {env : LinkEnv} {a : Adapter}

theorem tcRateRefill_throttled (n : Nat) (now : Int) :
    tcRateRefill { a with throttledCount := n } now =
      { tcRateRefill a now with throttledCount := n } := by
  unfold tcRateRefill
  simp only
  split_ifs <;> rfl

theorem tcRateRefill_twice (now : Int) :
    (tcRateRefill (tcRateRefill a now) now).rateTokens = (tcRateRefill a now).rateTokens := by
  have hquiet : ∀ b : Adapter, b.rateLastMs = 0 ∨ now - b.rateLastMs < rateRefillMs →
      (tcRateRefill b now).rateTokens = b.rateTokens := by
    intro b hb
    unfold tcRateRefill
    by_cases hzero : b.rateLastMs = 0
    · rw [if_pos hzero]
    · rw [if_neg hzero]
      simp only
      rw [if_pos (hb.resolve_left hzero)]
  apply hquiet
  unfold tcRateRefill
  by_cases hzero : a.rateLastMs = 0
  · rw [if_pos hzero]
    right
    simp [rateRefillMs]
  · rw [if_neg hzero]
    simp only
    split
    · rename_i hshort
      exact .inr hshort
    · right
      simp only [rateRefillMs]
      omega

theorem tcRateAllow_false {now : Int} (h : (tcRateAllow a now).1 = false) (n : Nat) :
    (tcRateAllow { (tcRateAllow a now).2 with throttledCount := n } now).1 = false := by
  unfold tcRateAllow at h ⊢
  by_cases hblocked : a.uploadSuspended ∨ now < a.rateBlockUntilMs
  · rw [if_pos hblocked]
    simp only
    rw [if_pos hblocked]
  · rw [if_neg hblocked] at h ⊢
    simp only at h ⊢
    split at h
    · cases h
    · rename_i hempty
      rw [if_neg hempty]
      simp only [tcRateRefill_throttled, tcRateRefill_twice, if_neg hempty]
      split <;> rfl

/-- Without a token nothing is sent, also by the next call at that time. -/
theorem tcPublishTelemetry_denied (h : (tcRateAllow a env.nowMs).1 = false) (p : Publish) :
    (tcPublishTelemetry env a p).sent = [] ∧ (tcPublishTelemetry env a p).err = .noMem ∧
      (tcRateAllow (tcPublishTelemetry env a p).adapter env.nowMs).1 = false := by
  unfold tcPublishTelemetry
  simp only [h, if_true]
  exact ⟨trivial, trivial, tcRateAllow_false h _⟩

theorem sendAll_denied (topic : TcTopic) (ds : List Json)
    (h : (tcRateAllow a env.nowMs).1 = false) : (sendAll env topic ds a).sent = [] := by
  induction ds generalizing a with
  | nil => rfl
  | cons d ds ih =>
    obtain ⟨hsent, -, hdenied⟩ := tcPublishTelemetry_denied h ⟨topic, .json d⟩
    simp only [sendAll, hsent, ih hdenied, List.nil_append]

theorem sendWhileOk_denied (topic : TcTopic) (ds : List Json) (last : EspErr)
    (h : (tcRateAllow a env.nowMs).1 = false) :
    (sendWhileOk lib env topic ds last a).sent = [] := by
  cases ds with
  | nil => rfl
  | cons d ds =>
    have hfirst : (publishJsonObject lib env a d topic).err ≠ .ok ∧
        (publishJsonObject lib env a d topic).sent = [] := by
      unfold publishJsonObject
      split
      · refine ⟨?_, rfl⟩
        intro h
        cases h
      · obtain ⟨hsent, herr, -⟩ := tcPublishTelemetry_denied h ⟨topic, .json d⟩
        rw [hsent, herr]
        exact ⟨by decide, rfl⟩
    simp only [sendWhileOk, if_pos hfirst.1]
    exact hfirst.2

/-- With a token and a client that takes it, a message goes out. -/
theorem tcPublishTelemetry_allowed {p : Publish} (h : (tcRateAllow a env.nowMs).1 = true)
    (haccepts : env.clientAccepts p = true) : (tcPublishTelemetry env a p).err = .ok := by
  have hpublish : mqttPublish env p = .ok := if_pos haccepts
  unfold tcPublishTelemetry
  simp only [h, Bool.true_eq_false, if_false, hpublish, if_true]

end Limiter

/-! ## One flush -/

/-- No sample that is buffered has been handed over. -/
def Unhanded (s : Pacing) : Prop :=
  ∀ mode, ∀ i < (s.adapter.buffer mode).length, (s.marks mode i).handed = none

section OneFlush

variable {lib : JsonLib} {c : Call} {a : Adapter} {s : Pacing}

theorem checkModeChange_length (a : Adapter) (mode' mode : ReportMode) :
    ((checkModeChange a mode').buffer mode).length ≤ (a.buffer mode).length := by
  unfold checkModeChange
  split
  · exact Nat.le_refl _
  · cases mode <;> exact Nat.zero_le _

theorem thingscloudFlush_length (lib : JsonLib) (env : LinkEnv) (hold : Bool) (a : Adapter)
    (mode : ReportMode) :
    ((thingscloudFlush lib env hold a).1.buffer mode).length ≤ (a.buffer mode).length := by
  have hkept : ∀ {mode' : ReportMode} {b : Adapter}, SameBuffers (checkModeChange a mode') b →
      (b.buffer mode).length ≤ (a.buffer mode).length := by
    intro mode' b hsame
    rw [hsame.buffer mode]
    exact checkModeChange_length a mode' mode
  unfold thingscloudFlush
  split
  · exact Nat.le_refl _
  · cases env.reportMode with
    | gateway =>
      simp only
      split
      · exact hkept (.refl _)
      · have hsame : SameBuffers (checkModeChange a .gateway) (publishGatewayAttributes lib env _
            (checkModeChange a .gateway).gwAgg).adapter :=
              .publishes (publishGatewayAttributes_publishes _ _)
        have hlength := hkept hsame
        split
        · cases mode
          · exact hlength
          · exact Nat.zero_le _
        · exact hlength
    | subdevice =>
      simp only
      split
      · exact hkept (.refl _)
      · have hsame : SameBuffers (checkModeChange a .subdevice) (publishSubdeviceAggregated lib env
            _ (checkModeChange a .subdevice).agg).adapter :=
              .publishes (publishSubdeviceAggregated_publishes _ _)
        have hlength := hkept hsame
        split
        · cases mode
          · exact Nat.zero_le _
          · exact hlength
        · exact hlength

theorem length_le_one {α : Type*} {l : List α} (h : l.length ≤ 1) : l = [] ∨ ∃ x, l = [x] := by
  rcases Nat.le_one_iff_eq_zero_or_eq_one.1 h with hzero | hone
  · exact .inl (List.length_eq_zero_iff.1 hzero)
  · exact .inr (List.length_eq_one_iff.1 hone)

theorem publishGatewayAttributes_fits {env : LinkEnv} {props : List CloudProperty}
    (haccepts : ∀ p, env.clientAccepts p = true)
    (hfits : env.connected = true → (tcRateAllow a env.nowMs).1 = true →
      (gwAttrPackets lib props [] 0).length ≤ 1) :
    (publishGatewayAttributes lib env a props).sent = [] ∨
      (publishGatewayAttributes lib env a props).err = .ok := by
  unfold publishGatewayAttributes
  split
  · exact .inl rfl
  · rename_i hready
    rw [publishGwAttrChunked_eq]
    cases htoken : (tcRateAllow a env.nowMs).1 with
    | false => exact .inl (sendAll_denied _ _ htoken)
    | true =>
      have hlength := hfits (by simpa using fun h => hready (.inr h)) htoken
      rcases length_le_one hlength with hnone | ⟨d, hone⟩
      · rw [hnone]
        exact .inl rfl
      · right
        rw [hone]
        simp only [sendAll, firstError_of_ok]
        exact tcPublishTelemetry_allowed htoken (haccepts _)

theorem publishSubdeviceAggregated_fits {env : LinkEnv} {props : List CloudProperty}
    (haccepts : ∀ p, env.clientAccepts p = true)
    (hfits : env.connected = true → (tcRateAllow a env.nowMs).1 = true →
      (subdevicePackets lib props [] 0).1.length ≤ 1 ∧ (subdevicePackets lib props [] 0).2 = .ok) :
    (publishSubdeviceAggregated lib env a props).sent = [] ∨
      (publishSubdeviceAggregated lib env a props).err = .ok := by
  by_cases hprops : props = []
  · rw [publishSubdeviceAggregated, if_pos hprops]
    exact .inl rfl
  cases hconnected : env.connected with
  | false =>
    rw [publishSubdeviceAggregated, if_neg hprops, hconnected, if_pos rfl]
    exact .inl rfl
  | true =>
    rw [publishSubdeviceAggregated_eq hprops hconnected]
    cases htoken : (tcRateAllow a env.nowMs).1 with
    | false => exact .inl (sendWhileOk_denied _ _ _ htoken)
    | true =>
      obtain ⟨hlength, hlast⟩ := hfits hconnected htoken
      simp only
      rw [hlast]
      rcases length_le_one hlength with hnone | ⟨d, hone⟩
      · rw [hnone]
        exact .inl rfl
      · rw [hone]
        simp only [sendWhileOk]
        split
        · rename_i herr
          left
          unfold publishJsonObject at herr ⊢
          split
          · rfl
          · rename_i hshort
            rw [if_neg hshort] at herr
            exact absurd (tcPublishTelemetry_allowed htoken (haccepts _)) herr
        · exact .inr rfl

/-- A flush that fits into one packet sends nothing, or empties its buffer. -/
theorem thingscloudFlush_fits (hfits : FitsOnePacket lib c s) :
    (thingscloudFlush lib c.env c.hold s.adapter).2 = [] ∨
      (thingscloudFlush lib c.env c.hold s.adapter).1.buffer c.reportMode = [] := by
  have haccepts : ∀ p, c.env.clientAccepts p = true := fun _ => rfl
  unfold FitsOnePacket at hfits
  unfold thingscloudFlush
  cases hhold : c.hold with
  | true => exact .inl rfl
  | false =>
    rw [if_neg Bool.false_ne_true, Call.env_reportMode]
    simp only [Pacing.switch] at hfits
    generalize checkModeChange s.adapter c.reportMode = a at hfits ⊢
    cases hmode : c.reportMode with
    | gateway =>
      simp only
      split
      · exact .inl rfl
      · have hone := publishGatewayAttributes_fits haccepts fun hconnected htoken => by
          have hpackets := hfits hhold hconnected htoken
          rw [hmode] at hpackets
          exact hpackets.1
        split
        · exact .inr rfl
        · rename_i herr
          exact .inl (hone.resolve_right herr)
    | subdevice =>
      simp only
      split
      · exact .inl rfl
      · have hone := publishSubdeviceAggregated_fits haccepts fun hconnected htoken => by
          have hpackets := hfits hhold hconnected htoken
          rw [hmode] at hpackets
          exact hpackets
        split
        · exact .inr rfl
        · rename_i herr
          exact .inl (hone.resolve_right herr)

theorem Unhanded.switch (h : Unhanded s) (c : Call) : Unhanded (s.switch c) :=
  fun mode i hi => h mode i (hi.trans_le (checkModeChange_length s.adapter c.reportMode mode))

theorem Unhanded.flush (h : Unhanded s) (hfits : FitsOnePacket lib c s) :
    Unhanded (s.flush lib c) := by
  intro mode i hi
  have hold := h mode i (hi.trans_le (thingscloudFlush_length lib c.env c.hold s.adapter mode))
  unfold Pacing.flush
  simp only
  split
  · rename_i hsent
    obtain ⟨rfl, hsent⟩ := hsent
    rcases thingscloudFlush_fits hfits with hnone | hempty
    · unfold handedOver at hsent
      rw [hnone] at hsent
      split at hsent <;> cases hsent
    · rw [Pacing.flush_adapter, hempty] at hi
      exact absurd hi (Nat.not_lt_zero i)
  · exact hold

theorem Unhanded.flushIfFull (h : Unhanded s)
    (hfits : bufferFull s.adapter c.reportMode = true → FitsOnePacket lib c s) :
    Unhanded (s.flushIfFull lib c) := by
  unfold Pacing.flushIfFull
  split
  · rename_i hfull
    exact h.flush (hfits hfull)
  · exact h

/-- Where nothing has been handed over, nothing is sent again. -/
theorem Unhanded.makesProgress (h : Unhanded s) : MakesProgress lib c s := by
  intro i earlier hsent hhanded
  have hi : i < ((s.switch c).adapter.buffer c.reportMode).length := by
    unfold handedOver at hsent
    split at hsent
    · rename_i p hp
      exact (List.getElem?_eq_some_iff.1 hp).1
    · cases hsent
  have hnone := h.switch c c.reportMode i hi
  rw [Pacing.switch] at hnone
  rw [hhanded] at hnone
  cases hnone

theorem addContext_other {env : LinkEnv} {ctx : TcmContext} {mode : ReportMode}
    (hmode : mode ≠ env.reportMode) :
    (addContext env ctx a).buffer mode = a.buffer mode := by
  unfold addContext
  cases mode <;> cases hreport : env.reportMode
  · exact absurd hreport.symm hmode
  · simp only [addContextToGwAgg]
    split <;> rfl
  · rfl
  · exact absurd hreport.symm hmode

theorem ingest_slot {mode : ReportMode} {nowMs : Int} {ctx : TcmContext}
    {buffer : List CloudProperty} {i : Nat} (hi : i < (ingest mode nowMs ctx buffer).length)
    (hnew : buffer.length ≤ i) :
    (sampleId mode ctx).map (fun id => Pacing.slotOf mode id buffer) = some i := by
  unfold ingest at hi
  split at hi
  · omega
  · rename_i id hid
    split at hi
    · omega
    · rename_i hroom
      unfold addToBuffer at hi
      rw [hid, Option.map_some, Pacing.slotOf]
      simp only at hi
      split at hi
      · rw [List.length_set] at hi
        omega
      · rename_i hnone
        rw [if_neg hroom, List.length_append, List.length_singleton] at hi
        rw [hnone, Option.getD_none]
        congr 1
        omega

/-- A sample that comes in takes a new slot, or one whose mark it clears. -/
theorem Unhanded.take (h : Unhanded s) {ctx : TcmContext} (hgood : ctx.qualityState = .good)
    (hpoint : ctx.pointId.str ≠ [])
    (hroom : bufferFull s.adapter c.reportMode = false) : Unhanded (s.take c ctx) := by
  intro mode i hi
  unfold Pacing.take at hi ⊢
  simp only at hi ⊢
  split
  · rfl
  · rename_i hslot
    by_cases hmode : mode = c.reportMode
    · subst hmode
      have hshort : ¬ (s.adapter.buffer c.reportMode).length ≥ aggBufferMax := by
        intro hlong
        rw [bufferFull_iff.2 hlong] at hroom
        cases hroom
      obtain ⟨hbuffer, -⟩ := addContext_buffer (Call.env_reportMode c) (by tauto) hshort
      rw [hbuffer] at hi
      apply h c.reportMode i
      rw [← Nat.not_le]
      exact fun hnew => hslot ⟨rfl, ingest_slot hi hnew⟩
    · rw [addContext_other hmode] at hi
      exact h mode i hi

/-- Every step under the condition makes progress and hands nothing over that stays. -/
theorem Unhanded.step {x : PacingStep} (h : Unhanded s)
    (hfits : AtFlushes lib (FitsOnePacket lib) s x) :
    Unhanded (s.step lib x) ∧ AtFlushes lib (MakesProgress lib) s x := by
  cases x with
  | flush c => exact ⟨h.flush hfits, h.makesProgress⟩
  | publish c ctx =>
    by_cases hskip : ctx.qualityState ≠ .good ∨ ctx.pointId.str = []
    · refine ⟨?_, fun hgood hpoint => absurd hskip (by tauto)⟩
      unfold Pacing.step Pacing.publish
      simp only
      rw [if_pos hskip]
      exact h
    · obtain ⟨hgood, hpoint⟩ : ctx.qualityState = .good ∧ ctx.pointId.str ≠ [] := by tauto
      obtain ⟨hfirst, hsecond⟩ := hfits hgood hpoint
      have hbefore := h.switch c
      have hafter := (hbefore.flushIfFull hfirst).switch c
      unfold Pacing.step Pacing.publish
      simp only
      rw [if_neg hskip]
      refine ⟨?_, fun _ _ => ⟨fun _ => hbefore.makesProgress, fun hroom _ => ?_⟩⟩
      · split
        · exact fun mode i hi => hafter mode i (by cases mode <;> exact hi)
        · rename_i hroom
          have hroom := Bool.eq_false_iff.2 hroom
          exact (hafter.take hgood hpoint hroom).flushIfFull (hsecond hroom)
      · exact (hafter.take hgood hpoint hroom).makesProgress

end OneFlush

/-- **Progress.** If every flush that can send fits its buffer into one packet,
then along the whole run no sample is sent again while an older one still waits. -/
theorem flush_progress_run (lib : JsonLib) {a : Adapter} (hempty : a.agg = [] ∧ a.gwAgg = [])
    (time : Nat) (marks : ReportMode → Nat → Mark) {steps : List PacingStep}
    (hfits : AllSteps (Pacing.step lib) (AtFlushes lib (FitsOnePacket lib))
      ⟨a, time, marks⟩ steps) :
    AllSteps (Pacing.step lib) (AtFlushes lib (MakesProgress lib)) ⟨a, time, marks⟩ steps := by
  have hstart : Unhanded ⟨a, time, marks⟩ := by
    intro mode i hi
    cases mode
    · rw [Adapter.buffer, hempty.1] at hi
      exact absurd hi (Nat.not_lt_zero i)
    · rw [Adapter.buffer, hempty.2] at hi
      exact absurd hi (Nat.not_lt_zero i)
  exact allSteps_of_inv (fun _ _ h hfits => (h.step hfits).1) (fun _ _ h hfits => (h.step hfits).2)
    hstart hfits

/-! ## Two packets -/

/-- The gateway mode with a link that takes everything. -/
def openCall (nowMs : Int) : Call where
  reportMode := .gateway
  nowMs := nowMs
  connected := true
  hold := false

/-- A point with a custom key of 62 characters. -/
def longSample (n : Nat) : TcmContext :=
  { sampleContext with
    gatewayPropertyKey := .copy 64 (List.replicate 60 'a' ++ printDecimal (n + 10)) }

/-- A sample of each of `n` points. -/
def longSamples (n : Nat) : List PacingStep :=
  (List.range n).map fun i => .publish (openCall 100000) (longSample i)

def bootPacing : Pacing := ⟨.boot, 0, fun _ _ => ⟨0, none⟩⟩

theorem flush_progress_run_one :
    AllSteps (Pacing.step (.knowing [])) (AtFlushes (.knowing []) (MakesProgress (.knowing [])))
      bootPacing [.publish (openCall 100000) (longSample 0), .flush (openCall 100000)] := by
  refine flush_progress_run (.knowing []) ⟨rfl, rfl⟩ 0 (fun _ _ => ⟨0, none⟩) ⟨?_, ?_, trivial⟩
  · exact fun _ _ => ⟨fun hfull => absurd hfull (by decide +kernel),
      fun _ hfull => absurd hfull (by decide +kernel)⟩
  · intro _ _ _
    decide +kernel

/-- After sixteen such points and a flush. -/
def heldTail : Pacing :=
  run (Pacing.step (.knowing [])) bootPacing (longSamples 16 ++ [.flush (openCall 100000)])

/-- The second flush sends the first points again, while the last one still waits. -/
theorem second_flush_repeats :
    handedOver .gateway heldTail.adapter.gwAgg
        (thingscloudFlush (.knowing []) (openCall 130000).env false heldTail.adapter).2 0 = true ∧
      (heldTail.marks .gateway 0).handed = some 16 ∧
      (heldTail.marks .gateway 15).born = 15 ∧ (heldTail.marks .gateway 15).handed = none ∧
      ¬ AllSteps (Pacing.step (.knowing []))
        (AtFlushes (.knowing []) (MakesProgress (.knowing []))) bootPacing
        (longSamples 16 ++ [.flush (openCall 100000)] ++ [.flush (openCall 130000)]) := by
  -- One evaluation of the run for all of it.
  obtain ⟨hsent, hlength, hlast, hhanded, hborn, hwaits⟩ :
      handedOver .gateway heldTail.adapter.gwAgg
          (thingscloudFlush (.knowing []) (openCall 130000).env false heldTail.adapter).2 0 = true ∧
        heldTail.adapter.gwAgg.length = 16 ∧ heldTail.adapter.lastReportMode = some .gateway ∧
        (heldTail.marks .gateway 0).handed = some 16 ∧ (heldTail.marks .gateway 15).born = 15 ∧
        (heldTail.marks .gateway 15).handed = none := by
    decide +kernel
  refine ⟨hsent, hhanded, hborn, hwaits, fun hall => ?_⟩
  rw [allSteps_append, allSteps_cons] at hall
  have hprogress : MakesProgress (.knowing []) (openCall 130000) heldTail := hall.2.1
  have hmode : (openCall 130000).reportMode = .gateway := rfl
  have hhold : (openCall 130000).hold = false := rfl
  unfold MakesProgress Pacing.switch at hprogress
  rw [hmode, hhold, checkModeChange_self hlast, Adapter.buffer] at hprogress
  dsimp only at hprogress
  exact hprogress 0 16 hsent hhanded 15 (by rw [hlength]; decide) (by rw [hborn]; decide) hwaits

end McpGateway.Thingscloud
