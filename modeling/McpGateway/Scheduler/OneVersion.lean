import McpGateway.Lib.Run
import McpGateway.Scheduler.Pipeline

/-!
# One mapping version for each context

The poll task decodes with its copy of an entry, the build task enriches with
what the physical key resolves to later. `one_version_run` says that the two
agree as long as the mapping of a point stays put while a poll of it is under
way.
-/

namespace McpGateway.Scheduler

open McpGateway.Lib McpGateway.Tcm McpGateway.Amm McpGateway.Modbus

/-- What a context takes over from its mapping and its consumers decode by. -/
structure MappingFacts where
  dataType : DataType
  byteOrder : ByteOrder
  scaleFactor : CFloat
  offset : CFloat
  deviceId : CBuf 32
  pointId : CBuf 32
  measurementName : CBuf 32
  mappingVersion : SeqId
  deriving DecidableEq

def factsOfEntry (e : AmmMappingEntry) : MappingFacts :=
  ⟨e.dataType, e.byteOrder, e.scaleFactor, e.offset, e.deviceId, e.pointId, e.measurementName,
    e.mappingVersion⟩

def factsOfContext (ctx : TcmContext) : MappingFacts :=
  ⟨ctx.dataType, ctx.byteOrder, ctx.scaleFactor, ctx.offset, ctx.deviceId, ctx.pointId,
    ctx.measurementName, ctx.mappingVersion⟩

@[simp] theorem factsOfContext_enrichWith (e : AmmMappingEntry) (ctx : TcmContext) :
    factsOfContext (enrichWith e ctx) = factsOfEntry e := rfl

namespace Pipeline

/-- The context has the facts of the entry its poll was made with, and the
number this entry decodes the registers of that poll to. -/
def FromPoll (s : Pipeline) (ctx : TcmContext) (poll : Nat) : Prop :=
  ∃ p regs, s.log[poll]? = some p ∧ p.regs = some regs ∧
    factsOfContext ctx = factsOfEntry p.entry ∧ ctx.rawValue = (decodeRead p.entry regs).1

/-- A push that puts a context enriched with a mapping on the queue. -/
def Pushes (s : Pipeline) (ctx : TcmContext) (poll : Nat) : Prop :=
  s.build = .stored ctx .ok poll ∧ s.contexts.length < queueContextSize

/-- The step pushes only contexts of one version. -/
def OneVersion (s : Pipeline) (a : PipelineStep) : Prop :=
  a = .push → ∀ ctx poll, s.Pushes ctx poll → s.FromPoll ctx poll

/-- The key of the entry resolves to nothing or to an entry with the same facts. -/
def Resolves (a : AmmTable) (e : AmmMappingEntry) : Prop :=
  ∀ e', ammFindMappingForObject e.key a = some e' → factsOfEntry e' = factsOfEntry e

/-- A poll with the entry is under way: it reads, or its valid result is not
built yet. -/
def UnderWay (s : Pipeline) (e : AmmMappingEntry) : Prop :=
  (∃ nowMs, s.poll = .selected e nowMs) ∨
    ∃ item ∈ s.items, item.result.valid = true ∧ ∃ p, s.log[item.poll]? = some p ∧ p.entry = e

/-- The step leaves the mappings of the points being polled alone: the entry
that is selected is still the one its key resolves to, and a mutation changes no
mapping of a poll under way. -/
def MappingsSettled (s : Pipeline) : PipelineStep → Prop
  | .mutate op => ∀ e, s.UnderWay e → Resolves (op.apply s.amm) e
  | .select nowMs => ∀ i e, s.selection nowMs = some (i, e) → Resolves s.amm e
  | _ => True

/-- The invariant: every result on its way is traced and its entry resolves to
itself, and a built context is of one version. -/
structure VersionInv (s : Pipeline) : Prop where
  traced : ∀ item ∈ s.items, ∃ p, s.Traced item p
  received : ∀ item, s.build = .received item → item.result.valid = true
  resolves : ∀ e, s.UnderWay e → Resolves s.amm e
  built : ∀ ctx poll, s.build = .built ctx .ok poll ∨ s.build = .stored ctx .ok poll →
    s.FromPoll ctx poll

/-! ## Steps keep the invariant -/

theorem versionInv_start (amm : AmmTable) (pool : StatePool) :
    VersionInv (Pipeline.start amm pool) := by
  have hitems : (Pipeline.start amm pool).items = [] := rfl
  refine ⟨?_, by simp [Pipeline.start], ?_, ?_⟩
  · intro item hitem
    rw [hitems] at hitem
    cases hitem
  · rintro e (⟨nowMs, hsel⟩ | ⟨item, hitem, -⟩)
    · cases hsel
    · rw [hitems] at hitem
      cases hitem
  · rintro ctx poll (h | h) <;> cases h

section Steps

variable {s t : Pipeline}

theorem VersionInv.pass (h : VersionInv s) (hamm : t.amm = s.amm) (hlog : t.log = s.log)
    (hitems : ∀ item ∈ t.items, item ∈ s.items)
    (hrec : ∀ item, t.build = .received item → s.build = .received item ∨ item.result.valid = true)
    (hsel : ∀ e nowMs, t.poll = .selected e nowMs → s.poll = .selected e nowMs)
    (hbuild : ∀ ctx poll, t.build = .built ctx .ok poll ∨ t.build = .stored ctx .ok poll →
      s.build = .built ctx .ok poll ∨ s.build = .stored ctx .ok poll) : VersionInv t := by
  refine ⟨?_, ?_, ?_, ?_⟩
  · intro item hitem
    obtain ⟨p, hp⟩ := h.traced item (hitems item hitem)
    exact ⟨p, by rw [Traced, hlog]; exact hp⟩
  · intro item hb
    exact (hrec item hb).elim (h.received item) id
  · rintro e (⟨nowMs, hpoll⟩ | ⟨item, hitem, hvalid, p, hp, he⟩)
    · rw [hamm]
      exact h.resolves e (.inl ⟨nowMs, hsel e nowMs hpoll⟩)
    · rw [hamm]
      rw [hlog] at hp
      exact h.resolves e (.inr ⟨item, hitems item hitem, hvalid, p, hp, he⟩)
  · intro ctx poll hb
    rw [FromPoll, hlog]
    exact h.built ctx poll (hbuild ctx poll hb)

theorem VersionInv.mutate (h : VersionInv s) {op : AmmOp}
    (hG : ∀ e, s.UnderWay e → Resolves (op.apply s.amm) e) :
    VersionInv { s with amm := op.apply s.amm } :=
  ⟨h.traced, h.received, hG, h.built⟩

theorem VersionInv.copy (h : VersionInv s) : VersionInv s.copy := by
  refine h.pass ?_ ?_ (by simp) ?_ ?_ ?_ <;> unfold Pipeline.copy <;> split <;> simp_all

theorem VersionInv.select (h : VersionInv s) {nowMs : Int}
    (hG : ∀ i e, s.selection nowMs = some (i, e) → Resolves s.amm e) :
    VersionInv (s.select nowMs) := by
  unfold Pipeline.select
  split
  · rename_i mappings hpoll
    have hmem : ∀ item, item ∈ s.build.items ++ s.raw ++ [] → item ∈ s.items := by
      simp [Pipeline.items, hpoll, PollTask.items]
    cases hsel : s.selection nowMs with
    | none => exact h.pass rfl rfl hmem (fun _ hb => .inl hb) (by simp) (fun _ _ hb => hb)
    | some r =>
      obtain ⟨i, cfg⟩ := r
      refine ⟨fun item hitem => h.traced item (hmem item hitem), h.received, ?_, h.built⟩
      rintro e (⟨t, ht⟩ | ⟨item, hitem, rest⟩)
      · obtain ⟨rfl, rfl⟩ := PollTask.selected.inj ht
        exact hG i cfg hsel
      · exact h.resolves e (.inr ⟨item, hmem item hitem, rest⟩)
  · exact h

theorem VersionInv.answer (h : VersionInv s) (reply : Nat → Option (List UInt16))
    (net : NetworkState) : VersionInv (s.answer reply net) := by
  cases hpoll : s.poll with
  | selected cfg nowMs =>
    have hitems := items_answer s hpoll reply net
    have hlog : (s.answer reply net).log = s.log ++ [⟨cfg, pollRead cfg reply⟩] := by
      simp only [Pipeline.answer, hpoll]
    have hold : ∀ {i : Nat} {p : Poll}, s.log[i]? = some p →
        (s.answer reply net).log[i]? = some p := by
      intro i p hp
      rw [hlog, List.getElem?_append_left (List.getElem?_eq_some_iff.1 hp).1]
      exact hp
    have hnew : (s.answer reply net).log[s.log.length]? = some ⟨cfg, pollRead cfg reply⟩ := by
      rw [hlog, List.getElem?_concat_length]
    have hamm : (s.answer reply net).amm = s.amm := by simp only [Pipeline.answer, hpoll]
    have hbuild : (s.answer reply net).build = s.build := by simp only [Pipeline.answer, hpoll]
    refine ⟨?_, fun item hb => h.received item (hbuild ▸ hb), ?_, ?_⟩
    · intro item hitem
      rw [hitems, List.mem_append, List.mem_singleton] at hitem
      rcases hitem with hitem | rfl
      · obtain ⟨p, hp, hr⟩ := h.traced item hitem
        exact ⟨p, hold hp, hr⟩
      · exact ⟨_, hnew, rfl⟩
    · rintro e (⟨t, ht⟩ | ⟨item, hitem, hvalid, p, hp, rfl⟩)
      · simp only [Pipeline.answer, hpoll, reduceCtorEq] at ht
      · rw [hamm]
        rw [hitems, List.mem_append, List.mem_singleton] at hitem
        rcases hitem with hitem | rfl
        · obtain ⟨q, hq, -⟩ := h.traced item hitem
          obtain rfl := Option.some.inj (hp.symm.trans (hold hq))
          exact h.resolves _ (.inr ⟨item, hitem, hvalid, p, hq, rfl⟩)
        · obtain rfl := Option.some.inj (hp.symm.trans hnew)
          exact h.resolves _ (.inl ⟨nowMs, hpoll⟩)
    · intro ctx poll hb
      rw [hbuild] at hb
      obtain ⟨p, regs, hp, rest⟩ := h.built ctx poll hb
      exact ⟨p, regs, hold hp, rest⟩
  | idle | copied mappings | answered item =>
    have hsame : s.answer reply net = s := by simp only [Pipeline.answer, hpoll]
    rw [hsame]
    exact h

theorem VersionInv.send (h : VersionInv s) : VersionInv s.send := by
  refine h.pass ?_ ?_ ?_ ?_ ?_ ?_
  · unfold Pipeline.send
    split <;> rfl
  · unfold Pipeline.send
    split <;> rfl
  · intro item hitem
    rcases items_send s with heq | ⟨-, last, hpoll, heq⟩
    · rwa [← heq]
    · rw [heq] at hitem
      exact List.mem_append_left _ hitem
  · intro item hb
    unfold Pipeline.send at hb
    split at hb <;> exact .inl hb
  · intro e nowMs hsel
    unfold Pipeline.send at hsel
    split at hsel
    · cases hsel
    · exact hsel
  · intro ctx poll hb
    unfold Pipeline.send at hb
    split at hb <;> exact hb

theorem VersionInv.receive (h : VersionInv s) : VersionInv s.receive := by
  refine h.pass ?_ ?_ ?_ ?_ ?_ ?_
  · unfold Pipeline.receive
    split <;> rfl
  · unfold Pipeline.receive
    split <;> rfl
  · intro item hitem
    rcases items_receive s with heq | ⟨head, -, heq⟩
    · rwa [← heq]
    · rw [heq]
      exact List.mem_cons_of_mem head hitem
  · intro item hb
    unfold Pipeline.receive at hb
    split at hb
    · simp only at hb
      split at hb
      · obtain rfl := BuildTask.received.inj hb
        exact .inr ‹_›
      · cases hb
    · exact .inl hb
  · intro e nowMs hsel
    unfold Pipeline.receive at hsel
    split at hsel <;> exact hsel
  · intro ctx poll hb
    unfold Pipeline.receive at hb
    split at hb
    · simp only at hb
      split at hb <;> rcases hb with hb | hb <;> cases hb
    · exact hb

theorem VersionInv.buildStep (h : VersionInv s) (env : BuildEnv) (net : NetworkState) :
    VersionInv (s.buildStep env net) := by
  cases hbuild : s.build with
  | received item =>
    have hitems := items_build s hbuild env net
    have hmem : ∀ i ∈ (s.buildStep env net).items, i ∈ s.items := by
      intro i hi
      rw [hitems]
      exact List.mem_cons_of_mem item hi
    have hvalid := h.received item hbuild
    obtain ⟨p, hp, hresult⟩ := h.traced item (by rw [hitems]; exact List.mem_cons_self)
    have hresolves := h.resolves p.entry (.inr ⟨item, by rw [hitems]; exact List.mem_cons_self,
      hvalid, p, hp, rfl⟩)
    unfold Pipeline.buildStep at hmem ⊢
    rw [hbuild] at hmem ⊢
    simp only at hmem ⊢
    cases hc : buildContext env net s.amm item.result with
    | none => exact h.pass rfl rfl (by simpa [hc] using hmem) (by simp) (by simp) (by simp)
    | some r =>
      obtain ⟨enriched, ctx⟩ := r
      rw [hc] at hmem
      refine ⟨fun i hi => h.traced i (hmem i hi), by simp, ?_, ?_⟩
      · rintro e (hsel | ⟨i, hi, rest⟩)
        · exact h.resolves e (.inl hsel)
        · exact h.resolves e (.inr ⟨i, hmem i hi, rest⟩)
      · rintro ctx' poll (hb | hb)
        · obtain ⟨rfl, rfl, rfl⟩ := BuildTask.built.inj hb
          obtain ⟨base, e, hfind, rfl, hvalue, -⟩ := buildContext_enriched hc
          rw [hresult] at hfind hvalue hvalid
          obtain ⟨regs, hregs⟩ := Option.isSome_iff_exists.1 hvalid
          refine ⟨p, regs, hp, hregs, ?_, ?_⟩
          · rw [factsOfContext_enrichWith]
            exact hresolves e hfind
          · rw [hregs] at hvalue
            exact hvalue
        · cases hb
  | idle | built ctx enriched poll | stored ctx enriched poll =>
    have hsame : s.buildStep env net = s := by simp only [Pipeline.buildStep, hbuild]
    rw [hsame]
    exact h

theorem VersionInv.store (h : VersionInv s) : VersionInv s.store := by
  unfold Pipeline.store
  split
  · rename_i ctx enriched poll hbuild
    refine h.pass rfl rfl ?_ (by simp) (fun _ _ hsel => hsel) ?_
    · simp [Pipeline.items, hbuild, BuildTask.items]
    · rintro ctx' poll' (hb | hb)
      · cases hb
      · obtain ⟨rfl, rfl, rfl⟩ := BuildTask.stored.inj hb
        exact .inl hbuild
  · exact h

theorem VersionInv.push (h : VersionInv s) : VersionInv s.push := by
  unfold Pipeline.push
  split
  · rename_i ctx enriched poll hbuild
    refine h.pass rfl rfl ?_ (by simp) (fun _ _ hsel => hsel) (by simp)
    simp [Pipeline.items, hbuild, BuildTask.items]
  · exact h

theorem VersionInv.step (h : VersionInv s) {a : PipelineStep} (hG : s.MappingsSettled a) :
    VersionInv (s.step a) := by
  cases a with
  | mutate op => exact h.mutate hG
  | copy => exact h.copy
  | select nowMs => exact h.select hG
  | answer reply net => exact h.answer reply net
  | send => exact h.send
  | receive => exact h.receive
  | build env net => exact h.buildStep env net
  | store => exact h.store
  | push => exact h.push
  | publish => exact ⟨h.traced, h.received, h.resolves, h.built⟩

end Steps

/-- **One mapping version.** In every run whose steps leave the mappings of the
points being polled alone, each context pushed with an enrichment has the facts
of the entry with which its registers were read and decoded. -/
theorem one_version_run {amm : AmmTable} {pool : StatePool} {steps : List PipelineStep}
    (hG : AllSteps Pipeline.step MappingsSettled (Pipeline.start amm pool) steps) :
    AllSteps Pipeline.step OneVersion (Pipeline.start amm pool) steps := by
  refine allSteps_of_inv (fun s a h hG => h.step hG) ?_ (versionInv_start amm pool) hG
  rintro s a h - - ctx poll ⟨hbuild, -⟩
  exact h.built ctx poll (.inr hbuild)

/-! ## A mapping changed between poll and build -/

/-- The holding register 0 of slave 1, as a caller adds it. -/
def meter : AmmMappingEntry :=
  { AmmMappingEntry.zero with
    slaveId := 1
    functionCode := 3
    dataType := .uint16
    scaleFactor := .fin 1
    deviceId := .copy 32 "meter".toList
    pointId := .copy 32 "power".toList }

def meterStart : Pipeline :=
  Pipeline.start (ammAddMapping .ok meter (.empty 1000)).2 (.empty 1000)

/-- One poll that reads the value 7, up to the raw queue. -/
def pollSteps : List PipelineStep :=
  [.copy, .select 1000, .answer (fun _ => some [7]) .online, .send]

def buildSteps : List PipelineStep :=
  [.receive, .build ⟨"gw".toList, 0, 1, 1⟩ .online, .store]

/-- The scale of the meter is changed while its result is queued. -/
def rescaleSteps : List PipelineStep :=
  [.mutate (.add .ok { meter with scaleFactor := .fin 2 })]

theorem meter_settled :
    AllSteps Pipeline.step MappingsSettled meterStart (pollSteps ++ buildSteps ++ [.push]) := by
  have hsel : (meterStart.step .copy).selection 1000 =
      some (0, (AmmTable.empty 1000).stored meter) := by decide +kernel
  refine ⟨trivial, ?_, trivial, trivial, trivial, trivial, trivial, trivial, trivial⟩
  intro i e h
  obtain ⟨rfl, rfl⟩ := Prod.mk.inj (Option.some.inj (hsel.symm.trans h))
  intro e' hfind
  have hself : ammFindMappingForObject ((AmmTable.empty 1000).stored meter).key
      (meterStart.step .copy).amm = some ((AmmTable.empty 1000).stored meter) := by decide +kernel
  rw [← Option.some.inj (hself.symm.trans hfind)]

theorem one_version_meter :
    AllSteps Pipeline.step MappingsSettled meterStart (pollSteps ++ buildSteps ++ [.push]) ∧
      AllSteps Pipeline.step OneVersion meterStart (pollSteps ++ buildSteps ++ [.push]) :=
  ⟨meter_settled, one_version_run meter_settled⟩

/-- With the change the value 7, read with scale 1, is pushed with scale 2. -/
theorem rescaled_while_queued : ¬ AllSteps Pipeline.step OneVersion meterStart
    (pollSteps ++ rescaleSteps ++ buildSteps ++ [.push]) := by
  intro h
  have hpush := (allSteps_iff_split _ _).1 h _ .push [] rfl
  have hroom : (run Pipeline.step meterStart (pollSteps ++ rescaleSteps ++ buildSteps)).contexts =
      [] := by rfl
  have hpolled : (run Pipeline.step meterStart
      (pollSteps ++ rescaleSteps ++ buildSteps)).log[0]?.map (·.entry.scaleFactor) =
        some (.fin 1) := by decide +kernel
  obtain ⟨ctx, hbuild, hscale⟩ : ∃ ctx, (run Pipeline.step meterStart
      (pollSteps ++ rescaleSteps ++ buildSteps)).build = .stored ctx .ok 0 ∧
        ctx.scaleFactor = .fin 2 := ⟨_, rfl, by decide +kernel⟩
  obtain ⟨p, regs, hlog, -, hfacts, -⟩ := hpush rfl ctx 0 ⟨hbuild, by rw [hroom]; decide⟩
  rw [hlog] at hpolled
  have hp : p.entry.scaleFactor = .fin 1 := Option.some.inj hpolled
  have hctx : ctx.scaleFactor = p.entry.scaleFactor := congrArg MappingFacts.scaleFactor hfacts
  rw [hscale, hp] at hctx
  exact absurd hctx (by decide +kernel)

end Pipeline

end McpGateway.Scheduler
