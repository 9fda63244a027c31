import McpGateway.Lib.Keyed
import McpGateway.Lib.Run
import McpGateway.Thingscloud.Packets
import McpGateway.Thingscloud.PropertyKeys

/-!
# The aggregation buffers

Between two flushes `thingscloud_publish_context` keeps one property for each
key. `fill_property_value` clears the slot before it looks at the value, and a
full buffer takes nothing in, also not for a key that it has.
`newest_buffered_run` says along which calls the buffer holds the newest finite
sample of every key. A sample must find room or change nothing, and a non-finite
one must change nothing.
-/

namespace McpGateway.Thingscloud

open McpGateway.Lib McpGateway.Tcm

/-! ## Flushes that fail -/

/-- What a publish leaves of the statics. -/
structure SameBuffers (a b : Adapter) : Prop where
  agg : b.agg = a.agg
  gwAgg : b.gwAgg = a.gwAgg
  mode : b.lastReportMode = a.lastReportMode

namespace SameBuffers

variable {a b c : Adapter} {lib : JsonLib} {env : LinkEnv}

theorem refl (a : Adapter) : SameBuffers a a := ⟨rfl, rfl, rfl⟩

theorem trans (h : SameBuffers a b) (h' : SameBuffers b c) : SameBuffers a c :=
  ⟨h'.agg.trans h.agg, h'.gwAgg.trans h.gwAgg, h'.mode.trans h.mode⟩

theorem rateAllow (a : Adapter) (nowMs : Int) : SameBuffers a (tcRateAllow a nowMs).2 := by
  unfold tcRateAllow tcRateRefill
  simp only
  split_ifs <;> exact ⟨rfl, rfl, rfl⟩

theorem telemetry (env : LinkEnv) (a : Adapter) (p : Publish) :
    SameBuffers a (tcPublishTelemetry env a p).adapter := by
  have hallow := rateAllow a env.nowMs
  unfold tcPublishTelemetry
  simp only
  split_ifs <;> exact ⟨hallow.agg, hallow.gwAgg, hallow.mode⟩

theorem publishes {topic : TcTopic} {sent : List Publish} (h : Publishes env topic a b sent) :
    SameBuffers a b := by
  induction h with
  | nothing a => exact refl a
  | more doc _ ih => exact (telemetry env _ _).trans ih

end SameBuffers

/-- The flush does not succeed: it is held back, or it ends with an error. -/
def FlushFails (lib : JsonLib) (env : LinkEnv) (hold : Bool) (a : Adapter) : Prop :=
  hold = true ∨
    match env.reportMode with
    | .gateway => (publishGatewayAttributes lib env a a.gwAgg).err ≠ .ok
    | .subdevice => (publishSubdeviceAggregated lib env a a.agg).err ≠ .ok

theorem FlushFails.sameBuffers {lib : JsonLib} {env : LinkEnv} {hold : Bool} {a : Adapter}
    (h : FlushFails lib env hold a) (hmode : a.lastReportMode = some env.reportMode) :
    SameBuffers a (thingscloudFlush lib env hold a).1 := by
  unfold thingscloudFlush
  cases hold with
  | true => exact .refl a
  | false =>
    have hfails := h.resolve_left Bool.false_ne_true
    rw [if_neg Bool.false_ne_true, checkModeChange, if_pos hmode]
    cases hreport : env.reportMode with
    | gateway =>
      rw [hreport] at hfails
      simp only
      split
      · exact .refl a
      · exact .publishes (publishGatewayAttributes_publishes a _)
    | subdevice =>
      rw [hreport] at hfails
      simp only
      split
      · exact .refl a
      · exact .publishes (publishSubdeviceAggregated_publishes a _)

/-! ## Keys -/

def Adapter.buffer (a : Adapter) : ReportMode → List CloudProperty
  | .gateway => a.gwAgg
  | .subdevice => a.agg

/-- A device address and a property key; the gateway's attributes have no address. -/
abbrev PropertyId := CStr × CStr

def bufferedId (mode : ReportMode) (p : CloudProperty) : PropertyId :=
  match mode with
  | .gateway => ([], p.propertyKey.str)
  | .subdevice => (p.deviceAddress.str, p.propertyKey.str)

/-- What a context is reported under; `none` if it is not reported. -/
def sampleId (mode : ReportMode) (ctx : TcmContext) : Option PropertyId :=
  if ctx.qualityState ≠ .good ∨ ctx.pointId.str = [] then none
  else
    match mode with
    | .gateway =>
      match gatewayKey ctx with
      | .ok key => some ([], key)
      | .error _ => none
    | .subdevice => some ((formatDeviceAddress ctx.channelId ctx.slaveId 40).2, ctx.pointId.str)

def named (mode : ReportMode) (id : PropertyId) (p : CloudProperty) : CloudProperty :=
  match mode with
  | .gateway => { p with propertyKey := .copy 64 id.2 }
  | .subdevice => { p with deviceAddress := .copy 40 id.1, propertyKey := .copy 64 id.2 }

section Keys

variable {mode : ReportMode} {ctx : TcmContext} {id : PropertyId} {a : Adapter} {env : LinkEnv}

theorem sampleId_bounds (h : sampleId mode ctx = some id) :
    id.2 ≠ [] ∧ id.2.length < 64 ∧ id.1.length < 40 := by
  unfold sampleId at h
  split at h
  · cases h
  · rename_i hreported
    rw [not_or] at hreported
    cases mode with
    | gateway =>
      simp only at h
      split at h
      · rename_i key hkey
        rw [← Option.some.inj h]
        obtain ⟨hne, hlt⟩ := gatewayKey_bounds hkey
        exact ⟨hne, hlt, Nat.zero_lt_succ 39⟩
      · cases h
    | subdevice =>
      have hpoint := ctx.pointId.lt
      rw [← Option.some.inj h, formatDeviceAddress_eq]
      refine ⟨hreported.2, ?_, deviceAddress_length _ _⟩
      show ctx.pointId.str.length < 64
      omega

theorem named_id (h : sampleId mode ctx = some id) (p : CloudProperty) :
    bufferedId mode (named mode id p) = id := by
  obtain ⟨-, hkey, haddress⟩ := sampleId_bounds h
  cases mode with
  | gateway =>
    have hnone : id.1 = [] := by
      unfold sampleId at h
      split at h
      · cases h
      · simp only at h
        split at h
        · rw [← Option.some.inj h]
        · cases h
    show ([], (CBuf.copy 64 id.2).str) = id
    rw [CBuf.copy_str_of_lt hkey, ← hnone]
  | subdevice =>
    show ((CBuf.copy 40 id.1).str, (CBuf.copy 64 id.2).str) = id
    rw [CBuf.copy_str_of_lt hkey, CBuf.copy_str_of_lt haddress]

/-- What a call makes of the buffer, flushes apart. -/
def ingest (mode : ReportMode) (nowMs : Int) (ctx : TcmContext) (buffer : List CloudProperty) :
    List CloudProperty :=
  match sampleId mode ctx with
  | none => buffer
  | some id =>
    if buffer.length ≥ aggBufferMax then buffer
    else addToBuffer buffer (fun p => bufferedId mode p = id) (fillPropertyValue nowMs ctx)
      (named mode id)

theorem addContext_buffer (hmode : env.reportMode = mode)
    (hgood : ¬ (ctx.qualityState ≠ .good ∨ ctx.pointId.str = []))
    (hroom : ¬ (a.buffer mode).length ≥ aggBufferMax) :
    (addContext env ctx a).buffer mode = ingest mode env.nowMs ctx (a.buffer mode) ∧
      (addContext env ctx a).lastReportMode = a.lastReportMode := by
  unfold addContext ingest sampleId
  rw [hmode, if_neg hgood]
  cases mode with
  | gateway =>
    simp only [addContextToGwAgg]
    cases gatewayKey ctx with
    | error e => exact ⟨rfl, rfl⟩
    | ok key =>
      have hsame : (fun p : CloudProperty => decide (p.propertyKey.str = key)) =
          fun p => decide (bufferedId .gateway p = ([], key)) := by
        funext p
        simp [bufferedId]
      simp only [if_neg hroom, hsame]
      exact ⟨rfl, trivial⟩
  | subdevice =>
    have hsame : (fun p : CloudProperty =>
        decide (p.deviceAddress.str = (formatDeviceAddress ctx.channelId ctx.slaveId 40).2 ∧
          p.propertyKey.str = ctx.pointId.str)) =
        fun p => decide (bufferedId .subdevice p =
          ((formatDeviceAddress ctx.channelId ctx.slaveId 40).2, ctx.pointId.str)) := by
      funext p
      simp [bufferedId, Prod.ext_iff]
    simp only [addContextToAgg, if_neg hroom, hsame]
    exact ⟨rfl, trivial⟩

variable {nowMs : Int} {buffer : List CloudProperty}

theorem bufferedId_key (mode : ReportMode) (p : CloudProperty) :
    (bufferedId mode p).2 = p.propertyKey.str := by
  cases mode <;> rfl

theorem ingest_value {v : CloudValue} (nowMs : Int) (hid : sampleId mode ctx = some id)
    (hroom : buffer.length < aggBufferMax) (hv : propertyValue ctx = some v) :
    ∃ p, bufferedId mode p = id ∧ p.value = v ∧
      ingest mode nowMs ctx buffer = putKeyed (bufferedId mode) p buffer := by
  have hnamed := named_id hid { blankProperty nowMs ctx with value := v }
  refine ⟨named mode id { blankProperty nowMs ctx with value := v }, hnamed, ?_, ?_⟩
  · cases mode <;> rfl
  · unfold ingest addToBuffer fillPropertyValue
    simp only [hid, hv, if_neg (Nat.not_le_of_lt hroom), if_true]
    split
    · rename_i i hi
      rw [putKeyed_of_some (i := i)]
      rw [hnamed]
      exact hi
    · rename_i hnone
      rw [putKeyed_of_none]
      rw [hnamed]
      exact hnone

/-- A sample without a value blanks the slot of its key, or a new one. -/
theorem ingest_blank (nowMs : Int) (hid : sampleId mode ctx = some id)
    (hroom : buffer.length < aggBufferMax) (hv : propertyValue ctx = none) :
    ∃ p ∈ ingest mode nowMs ctx buffer, p.propertyKey.str = [] := by
  refine ⟨blankProperty nowMs ctx, ?_, rfl⟩
  unfold ingest addToBuffer fillPropertyValue
  simp only [hid, hv, if_neg (Nat.not_le_of_lt hroom), Bool.false_eq_true, if_false]
  split
  · rename_i i hi
    exact List.mem_set (List.findIdx?_eq_some_iff_findIdx_eq.1 hi).1 _
  · exact List.mem_append_right _ List.mem_cons_self

theorem ingest_full (h : aggBufferMax ≤ buffer.length) : ingest mode nowMs ctx buffer = buffer := by
  unfold ingest
  split
  · rfl
  · exact if_pos h

end Keys

/-! ## One call -/

/-- One call of `thingscloud_publish_context`. -/
structure Sample where
  env : LinkEnv
  hold : Bool
  ctx : TcmContext

/-- The statics, and the samples of the calls so far, newest first. -/
structure Ingestion where
  adapter : Adapter
  samples : List TcmContext

def Ingestion.step (lib : JsonLib) (s : Ingestion) (x : Sample) : Ingestion where
  adapter := (thingscloudPublishContext lib x.env x.hold x.ctx s.adapter).1
  samples := x.ctx :: s.samples

/-- No flush of the call succeeds. -/
def NoFlush (lib : JsonLib) (s : Ingestion) (x : Sample) : Prop :=
  let a := checkModeChange s.adapter x.env.reportMode
  let added := addContext x.env x.ctx a
  x.ctx.qualityState = .good → x.ctx.pointId.str ≠ [] →
    if bufferFull a x.env.reportMode then FlushFails lib x.env x.hold a
    else bufferFull added x.env.reportMode → FlushFails lib x.env x.hold added

/-- The report mode of the last call was `mode`, or nothing is buffered. -/
def Settled (mode : ReportMode) (a : Adapter) : Prop :=
  a.lastReportMode = some mode ∨ (a.agg = [] ∧ a.gwAgg = [])

section OneCall

variable {lib : JsonLib} {env : LinkEnv} {mode : ReportMode} {hold : Bool} {a b : Adapter}

theorem SameBuffers.buffer (h : SameBuffers a b) (mode : ReportMode) :
    b.buffer mode = a.buffer mode := by
  cases mode
  · exact h.agg
  · exact h.gwAgg

theorem bufferFull_iff : bufferFull a mode = true ↔ aggBufferMax ≤ (a.buffer mode).length := by
  cases mode <;> simp [bufferFull, Adapter.buffer]

theorem checkModeChange_self (h : a.lastReportMode = some mode) : checkModeChange a mode = a :=
  if_pos h

theorem Settled.checkModeChange (h : Settled mode a) :
    (checkModeChange a mode).buffer mode = a.buffer mode ∧
      (checkModeChange a mode).lastReportMode = some mode := by
  by_cases hlast : a.lastReportMode = some mode
  · rw [checkModeChange_self hlast]
    exact ⟨rfl, hlast⟩
  · obtain ⟨hagg, hgw⟩ := h.resolve_left hlast
    unfold Thingscloud.checkModeChange
    rw [if_neg hlast]
    refine ⟨?_, rfl⟩
    cases mode
    · exact hagg.symm
    · exact hgw.symm

theorem flushIfFull_sameBuffers
    (h : bufferFull a env.reportMode = true → FlushFails lib env hold a)
    (hmode : a.lastReportMode = some env.reportMode) :
    SameBuffers a (flushIfFull lib env hold a).1 := by
  unfold flushIfFull
  split
  · rename_i hfull
    exact (h hfull).sameBuffers hmode
  · exact .refl a

/-- A call without a successful flush only takes its sample in. -/
theorem step_buffer {s : Ingestion} {x : Sample} (hmode : x.env.reportMode = mode)
    (hsettled : Settled mode s.adapter) (hno : NoFlush lib s x) :
    (s.step lib x).adapter.buffer mode =
        ingest mode x.env.nowMs x.ctx (s.adapter.buffer mode) ∧
      Settled mode (s.step lib x).adapter := by
  by_cases hskip : x.ctx.qualityState ≠ .good ∨ x.ctx.pointId.str = []
  · have hid : sampleId mode x.ctx = none := if_pos hskip
    unfold Ingestion.step thingscloudPublishContext ingest
    rw [if_pos hskip, hid]
    exact ⟨rfl, hsettled⟩
  · obtain ⟨hbuffer, hlast⟩ := hsettled.checkModeChange
    have hno := hno (by tauto) (by tauto)
    unfold Ingestion.step thingscloudPublishContext
    rw [if_neg hskip]
    rw [hmode] at hno ⊢
    simp only
    rw [← hbuffer]
    generalize checkModeChange s.adapter mode = a at hlast hno ⊢
    by_cases hfull : bufferFull a mode = true
    · rw [if_pos hfull] at hno
      have hsame : SameBuffers a (flushIfFull lib x.env x.hold a).1 :=
        flushIfFull_sameBuffers (fun _ => hno) (hmode ▸ hlast)
      have hlong : aggBufferMax ≤ (a.buffer mode).length := bufferFull_iff.1 hfull
      rw [checkModeChange_self (hsame.mode.trans hlast), ingest_full hlong,
        if_pos (bufferFull_iff.2 (hsame.buffer mode ▸ hlong))]
      refine ⟨?_, .inl (hsame.mode.trans hlast)⟩
      rw [← hsame.buffer mode]
      cases mode <;> rfl
    · rw [if_neg hfull] at hno
      have hquiet : flushIfFull lib x.env x.hold a = (a, []) := by
        unfold flushIfFull
        rw [hmode, if_neg hfull]
      rw [hquiet, checkModeChange_self hlast, if_neg hfull]
      obtain ⟨hadded, hkept⟩ := addContext_buffer hmode hskip
        (fun hlong => hfull (bufferFull_iff.2 hlong))
      have hsame : SameBuffers _ (flushIfFull lib x.env x.hold (addContext x.env x.ctx a)).1 :=
        flushIfFull_sameBuffers (hmode ▸ hno) (hmode ▸ hkept.trans hlast)
      exact ⟨(hsame.buffer mode).trans hadded, .inl (hsame.mode.trans (hkept.trans hlast))⟩

end OneCall

/-! ## The newest samples -/

def lastFinite (mode : ReportMode) (samples : List TcmContext) (id : PropertyId) :
    Option TcmContext :=
  samples.find? fun ctx => decide (sampleId mode ctx = some id) && ctx.value.isFinite

/-- What the buffer is for: one entry for a key, with the key's newest finite sample. -/
structure NewestBuffered (mode : ReportMode) (s : Ingestion) : Prop where
  named : ∀ p ∈ s.adapter.buffer mode, p.propertyKey.str ≠ []
  distinct : ((s.adapter.buffer mode).map (bufferedId mode)).Nodup
  newest : ∀ p ∈ s.adapter.buffer mode, ∃ ctx,
    lastFinite mode s.samples (bufferedId mode p) = some ctx ∧ propertyValue ctx = some p.value

/-- The call leaves such a buffer, with every key that was in it. -/
def KeepsNewest (lib : JsonLib) (mode : ReportMode) (s : Ingestion) (x : Sample) : Prop :=
  NewestBuffered mode (s.step lib x) ∧
    ∀ p ∈ s.adapter.buffer mode,
      bufferedId mode p ∈ ((s.step lib x).adapter.buffer mode).map (bufferedId mode)

/-- A full buffer turns away no finite sample that changes a buffered key, and a
buffer with room gets no other non-finite sample than one that a buffered key
already shows. -/
def Harmless (mode : ReportMode) (s : Ingestion) (x : Sample) : Prop :=
  ∀ id, sampleId mode x.ctx = some id →
    if aggBufferMax ≤ (s.adapter.buffer mode).length then
      x.ctx.value.isFinite = true → ∀ p ∈ s.adapter.buffer mode, bufferedId mode p = id →
        propertyValue x.ctx = some p.value
    else
      x.ctx.value.isFinite = false → ∃ p ∈ s.adapter.buffer mode, bufferedId mode p = id ∧
        propertyValue x.ctx = some p.value

/-- The invariant of a run: a buffer with room has every key of a finite sample. -/
structure Held (mode : ReportMode) (s : Ingestion) : Prop extends NewestBuffered mode s where
  settled : Settled mode s.adapter
  seen : (s.adapter.buffer mode).length < aggBufferMax → ∀ id,
    (lastFinite mode s.samples id).isSome → id ∈ (s.adapter.buffer mode).map (bufferedId mode)

section Newest

variable {lib : JsonLib} {mode : ReportMode} {s : Ingestion} {x : Sample} {ctx : TcmContext}
  {samples : List TcmContext} {id : PropertyId}

theorem lastFinite_self (hid : sampleId mode ctx = some id) (hfinite : ctx.value.isFinite = true) :
    lastFinite mode (ctx :: samples) id = some ctx := by
  unfold lastFinite
  rw [List.find?_cons, hfinite, decide_eq_true hid]
  rfl

theorem lastFinite_other (h : sampleId mode ctx = some id → ctx.value.isFinite = false) :
    lastFinite mode (ctx :: samples) id = lastFinite mode samples id := by
  unfold lastFinite
  rw [List.find?_cons]
  by_cases hid : sampleId mode ctx = some id
  · rw [h hid, Bool.and_false]
  · rw [decide_eq_false hid, Bool.false_and]

/-- A call that leaves the buffer alone must not bring a finite sample that changes it. -/
theorem keepsNewest_same_iff (h : NewestBuffered mode s)
    (hsame : (s.step lib x).adapter.buffer mode = s.adapter.buffer mode) :
    KeepsNewest lib mode s x ↔ ∀ p ∈ s.adapter.buffer mode,
      sampleId mode x.ctx = some (bufferedId mode p) → x.ctx.value.isFinite = true →
        propertyValue x.ctx = some p.value := by
  constructor
  · rintro ⟨hafter, -⟩ p hp hid hfinite
    obtain ⟨ctx, hlast, hvalue⟩ := hafter.newest p (hsame ▸ hp)
    have hctx : x.ctx = ctx := Option.some.inj ((lastFinite_self hid hfinite).symm.trans hlast)
    rw [hctx]
    exact hvalue
  · intro hharmless
    refine ⟨⟨hsame ▸ h.named, hsame ▸ h.distinct, fun p hp => ?_⟩, fun p hp => ?_⟩
    · rw [hsame] at hp
      show ∃ ctx, lastFinite mode (x.ctx :: s.samples) (bufferedId mode p) = some ctx ∧ _
      by_cases hnew : sampleId mode x.ctx = some (bufferedId mode p) ∧ x.ctx.value.isFinite = true
      · exact ⟨x.ctx, lastFinite_self hnew.1 hnew.2, hharmless p hp hnew.1 hnew.2⟩
      · rw [lastFinite_other fun hid => by
          rw [← Bool.not_eq_true]
          exact fun hfinite => hnew ⟨hid, hfinite⟩]
        exact h.newest p hp
    · rw [hsame]
      exact List.mem_map_of_mem hp

/-- A call that puts an entry under its key must put the key's newest finite value. -/
theorem keepsNewest_put_iff (h : NewestBuffered mode s) {p : CloudProperty}
    (hput : (s.step lib x).adapter.buffer mode =
      putKeyed (bufferedId mode) p (s.adapter.buffer mode))
    (hid : sampleId mode x.ctx = some (bufferedId mode p)) :
    KeepsNewest lib mode s x ↔
      ∃ ctx, lastFinite mode (x.ctx :: s.samples) (bufferedId mode p) = some ctx ∧
        propertyValue ctx = some p.value := by
  have hmem : ∀ q, q ∈ (s.step lib x).adapter.buffer mode ↔
      q = p ∨ (q ∈ s.adapter.buffer mode ∧ bufferedId mode q ≠ bufferedId mode p) := by
    intro q
    rw [hput]
    exact mem_putKeyed h.distinct
  constructor
  · rintro ⟨hafter, -⟩
    exact hafter.newest p ((hmem p).2 (.inl rfl))
  · intro hp
    refine ⟨⟨fun q hq => ?_, hput ▸ putKeyed_nodup h.distinct p, fun q hq => ?_⟩, fun q hq => ?_⟩
    · rcases (hmem q).1 hq with rfl | ⟨hold, -⟩
      · rw [← bufferedId_key mode]
        exact (sampleId_bounds hid).1
      · exact h.named q hold
    · rcases (hmem q).1 hq with rfl | ⟨hold, hne⟩
      · exact hp
      · show ∃ ctx, lastFinite mode (x.ctx :: s.samples) (bufferedId mode q) = some ctx ∧ _
        rw [lastFinite_other fun heq => absurd (Option.some.inj (heq.symm.trans hid)) hne]
        exact h.newest q hold
    · by_cases heq : bufferedId mode q = bufferedId mode p
      · rw [heq]
        exact List.mem_map_of_mem ((hmem p).2 (.inl rfl))
      · exact List.mem_map_of_mem ((hmem q).2 (.inr ⟨hq, heq⟩))

/-- A sample that finds room is harmless if it is finite, or changes nothing. -/
theorem keepsNewest_room_iff (h : Held mode s) (hid : sampleId mode x.ctx = some id)
    (hroom : (s.adapter.buffer mode).length < aggBufferMax)
    (hbuffer : (s.step lib x).adapter.buffer mode =
      ingest mode x.env.nowMs x.ctx (s.adapter.buffer mode)) :
    KeepsNewest lib mode s x ↔ (x.ctx.value.isFinite = false →
      ∃ p ∈ s.adapter.buffer mode, bufferedId mode p = id ∧
        propertyValue x.ctx = some p.value) := by
  cases hvalue : propertyValue x.ctx with
  | none =>
    have hunfinite : x.ctx.value.isFinite = false := by
      rw [← Bool.not_eq_true, CFloat.isFinite_iff]
      rintro ⟨q, hq⟩
      have hsome := propertyValue_finite hq
      rw [hvalue] at hsome
      cases hsome
    constructor
    · rintro ⟨hafter, -⟩
      obtain ⟨p, hp, hblank⟩ := ingest_blank x.env.nowMs hid hroom hvalue
      exact absurd hblank (hafter.named p (hbuffer ▸ hp))
    · intro hharmless
      obtain ⟨p, -, -, hsome⟩ := hharmless hunfinite
      cases hsome
  | some v =>
    obtain ⟨p, rfl, rfl, hput⟩ := ingest_value x.env.nowMs hid hroom hvalue
    rw [keepsNewest_put_iff h.toNewestBuffered (hbuffer.trans hput) hid]
    cases hfinite : x.ctx.value.isFinite with
    | true =>
      constructor
      · intro _ hunfinite
        cases hunfinite
      · exact fun _ => ⟨x.ctx, lastFinite_self hid hfinite, hvalue⟩
    | false =>
      rw [lastFinite_other fun _ => hfinite]
      constructor
      · rintro ⟨ctx, hlast, hctx⟩ -
        -- An older finite sample has the key in the buffer, as there is room.
        obtain ⟨q, hq, hkey⟩ :=
          List.mem_map.1 (h.seen hroom (bufferedId mode p) (by rw [hlast]; rfl))
        obtain ⟨ctx', hlast', hctx'⟩ := h.newest q hq
        rw [hkey] at hlast'
        obtain rfl := Option.some.inj (hlast.symm.trans hlast')
        exact ⟨q, hq, hkey, hctx.symm.trans hctx'⟩
      · intro hharmless
        obtain ⟨q, hq, hkey, hsame⟩ := hharmless rfl
        obtain ⟨ctx, hlast, hctx⟩ := h.newest q hq
        exact ⟨ctx, hkey ▸ hlast, hctx.trans hsame.symm⟩

/-- **One call.** -/
theorem keepsNewest_iff_harmless (h : Held mode s) (hmode : x.env.reportMode = mode)
    (hno : NoFlush lib s x) : KeepsNewest lib mode s x ↔ Harmless mode s x := by
  obtain ⟨hbuffer, -⟩ := step_buffer hmode h.settled hno
  unfold Harmless
  cases hid : sampleId mode x.ctx with
  | none =>
    have hsame : (s.step lib x).adapter.buffer mode = s.adapter.buffer mode := by
      rw [hbuffer]
      unfold ingest
      rw [hid]
    rw [keepsNewest_same_iff h.toNewestBuffered hsame, hid]
    constructor
    · intro _ id hsome
      cases hsome
    · intro _ p _ hsome
      cases hsome
  | some id =>
    simp only [Option.some.injEq, forall_eq']
    split
    · rename_i hfull
      rw [keepsNewest_same_iff h.toNewestBuffered (hbuffer.trans (ingest_full hfull)), hid]
      constructor
      · exact fun hkeeps hfinite p hp hkey => hkeeps p hp (congrArg some hkey.symm) hfinite
      · exact fun hturned p hp hkey hfinite =>
          hturned hfinite p hp (Option.some.inj hkey).symm
    · rename_i hfull
      exact keepsNewest_room_iff h hid (Nat.lt_of_not_le hfull) hbuffer

theorem Held.step (h : Held mode s) (hmode : x.env.reportMode = mode) (hno : NoFlush lib s x)
    (hkeeps : KeepsNewest lib mode s x) : Held mode (s.step lib x) := by
  obtain ⟨hbuffer, hsettled⟩ := step_buffer hmode h.settled hno
  refine { hkeeps.1 with settled := hsettled, seen := fun hroom' id hsome => ?_ }
  have hroom : (s.adapter.buffer mode).length < aggBufferMax := by
    rw [← Nat.not_le]
    intro hfull
    rw [hbuffer, ingest_full hfull] at hroom'
    omega
  by_cases hnew : sampleId mode x.ctx = some id ∧ x.ctx.value.isFinite = true
  · obtain ⟨q, hq⟩ := CFloat.isFinite_iff.1 hnew.2
    obtain ⟨v, hvalue⟩ := Option.isSome_iff_exists.1 (propertyValue_finite hq)
    obtain ⟨p, rfl, -, hput⟩ := ingest_value x.env.nowMs hnew.1 hroom hvalue
    rw [hbuffer, hput]
    exact List.mem_map_of_mem ((mem_putKeyed h.distinct).2 (.inl rfl))
  · have holder : lastFinite mode (s.step lib x).samples id = lastFinite mode s.samples id :=
      lastFinite_other fun hid => by
        rw [← Bool.not_eq_true]
        exact fun hfinite => hnew ⟨hid, hfinite⟩
    rw [holder] at hsome
    obtain ⟨p, hp, rfl⟩ := List.mem_map.1 (h.seen hroom id hsome)
    exact hkeeps.2 p hp

end Newest

/-- **The newest samples.** From empty buffers, in one report mode and while no
flush succeeds, the buffer keeps the newest finite sample of every key if and
only if every sample is harmless where it arrives. -/
theorem newest_buffered_run (lib : JsonLib) (mode : ReportMode) {a : Adapter}
    (hempty : a.agg = [] ∧ a.gwAgg = []) {samples : List Sample}
    (hmode : ∀ x ∈ samples, x.env.reportMode = mode)
    (hflush : AllSteps (Ingestion.step lib) (NoFlush lib) ⟨a, []⟩ samples) :
    AllSteps (Ingestion.step lib) (KeepsNewest lib mode) ⟨a, []⟩ samples ↔
      AllSteps (Ingestion.step lib) (Harmless mode) ⟨a, []⟩ samples := by
  have hbuffer : a.buffer mode = [] := by
    cases mode
    · exact hempty.1
    · exact hempty.2
  have hheld : Held mode ⟨a, []⟩ := by
    refine ⟨⟨?_, ?_, ?_⟩, .inr hempty, fun _ id hsome => ?_⟩
    · rw [hbuffer]
      exact fun p hp => absurd hp List.not_mem_nil
    · rw [hbuffer]
      exact List.nodup_nil
    · rw [hbuffer]
      exact fun p hp => absurd hp List.not_mem_nil
    · cases hsome
  refine allSteps_iff (K := fun s xs => Held mode s ∧ (∀ x ∈ xs, x.env.reportMode = mode) ∧
    AllSteps (Ingestion.step lib) (NoFlush lib) s xs) ?_ ?_ ⟨hheld, hmode, hflush⟩
  · rintro s x xs ⟨h, hmode, hno, hlater⟩ hkeeps
    exact ⟨h.step (hmode x List.mem_cons_self) hno hkeeps,
      fun y hy => hmode y (List.mem_cons_of_mem x hy), hlater⟩
  · rintro s x xs ⟨h, hmode, hno, -⟩
    exact keepsNewest_iff_harmless h (hmode x List.mem_cons_self) hno

/-! ## A backlog -/

theorem noFlush_of_hold {lib : JsonLib} {x : Sample} (h : x.hold = true) (s : Ingestion) :
    NoFlush lib s x := by
  intro _ _
  split
  · exact .inl h
  · exact fun _ => .inl h

/-- A reading of one point while records wait in the cache. -/
def heldSample (value : CFloat) : Sample where
  env :=
    { reportMode := .subdevice
      nowMs := 100000
      connected := true
      clientAccepts := fun _ => true }
  hold := true
  ctx := { sampleContext with dataType := .float32, value := value }

theorem newest_buffered_run_held :
    AllSteps (Ingestion.step (.knowing [])) (KeepsNewest (.knowing []) .subdevice) ⟨.boot, []⟩
        [heldSample (.fin 5), heldSample (.fin 7)] ↔
      AllSteps (Ingestion.step (.knowing [])) (Harmless .subdevice) ⟨.boot, []⟩
        [heldSample (.fin 5), heldSample (.fin 7)] :=
  newest_buffered_run (.knowing []) .subdevice ⟨rfl, rfl⟩ (by simp [heldSample])
    ⟨noFlush_of_hold rfl _, noFlush_of_hold rfl _, trivial⟩

/-- A NaN takes the key out of the buffer, with the value it had. -/
theorem nan_blanks_key :
    let calls := [heldSample (.fin 5), heldSample .nan]
    (∀ x ∈ calls, x.env.reportMode = .subdevice) ∧
      AllSteps (Ingestion.step (.knowing [])) (NoFlush (.knowing [])) ⟨.boot, []⟩ calls ∧
      (run (Ingestion.step (.knowing [])) ⟨.boot, []⟩ calls).adapter.agg.map
        (bufferedId .subdevice) = [([], [])] ∧
      ¬ AllSteps (Ingestion.step (.knowing [])) (KeepsNewest (.knowing []) .subdevice)
        ⟨.boot, []⟩ calls := by
  have hkeys : (run (Ingestion.step (.knowing [])) ⟨.boot, []⟩
      [heldSample (.fin 5), heldSample .nan]).adapter.agg.map (bufferedId .subdevice) =
        [([], [])] := by decide +kernel
  have hblank : ([], []) ∈ (run (Ingestion.step (.knowing [])) ⟨.boot, []⟩
      [heldSample (.fin 5), heldSample .nan]).adapter.agg.map (bufferedId .subdevice) := by
    rw [hkeys]
    exact List.mem_cons_self
  refine ⟨by simp [heldSample], ?_, hkeys, ?_⟩
  · exact ⟨noFlush_of_hold rfl _, noFlush_of_hold rfl _, trivial⟩
  · rintro ⟨-, ⟨hafter, -⟩, -⟩
    obtain ⟨p, hp, hkey⟩ := List.mem_map.1 hblank
    exact hafter.named p hp ((bufferedId_key .subdevice p).symm.trans (congrArg Prod.snd hkey))

end McpGateway.Thingscloud
