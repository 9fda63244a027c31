import McpGateway.Lib.Run
import McpGateway.Scheduler.OneVersion

/-!
# The state pool and the order of polls

A failed poll is written to the state pool at once, a successful one goes
through the raw queue and the build task. `pool_follows_polls_run` says that
the pool shows the last poll of each point as long as no poll of a point fails
while a success of it is waiting.
-/

namespace McpGateway.Scheduler

open McpGateway.Lib McpGateway.Tcm McpGateway.Amm McpGateway.Modbus

/-- The context shows the registers of a poll with the entry. -/
def Shows (ctx : TcmContext) (e : AmmMappingEntry) (regs : List UInt16) : Prop :=
  ctx.names = e.names ∧ ctx.qualityState = .good ∧ ctx.rawValue = (decodeRead e regs).1 ∧
    ctx.value = ((decodeRead e regs).1.mul e.scaleFactor).add e.offset ∧
    ctx.valueText = (decodeRead e regs).2

/-- The pool shows the outcome of a poll: its value, or that it failed. -/
def Reflects (pool : StatePool) (p : Poll) : Prop :=
  ∃ ctx, tcmStatePoolGet p.entry.deviceId.str p.entry.pointId.str pool = some ctx ∧
    match p.regs with
    | some regs => Shows ctx p.entry regs
    | none => ctx.qualityState = .invalid

/-- The pool has a slot for every point of the table and nothing else. -/
structure PoolFits (a : AmmTable) (pool : StatePool) : Prop where
  nodup : (pool.states.map TcmContext.names).Nodup
  known : ∀ n ∈ pool.states.map TcmContext.names, n ∈ a.entries.map AmmMappingEntry.names
  room : a.entries.length ≤ pool.capacity

/-- Distinct names, physical keys that lead to their entries, and contexts that
`tcm_validate` accepts. -/
structure TableOk (a : AmmTable) : Prop where
  names : (a.entries.map AmmMappingEntry.names).Nodup
  keys : ∀ e ∈ a.entries, ammFindMappingForObject e.key a = some e
  accepted : ∀ e ∈ a.entries, ∀ env net regs,
    (buildContext env net a (pollResult e (some regs))).isSome

/-! ## Pool updates -/

theorem PoolFits.hasRoom {a : AmmTable} {pool : StatePool} (h : PoolFits a pool) {ctx : TcmContext}
    (hctx : ctx.names ∈ a.entries.map AmmMappingEntry.names) : pool.HasRoom ctx := by
  by_cases hmem : ctx.names ∈ pool.states.map TcmContext.names
  · exact .inl hmem
  · have hnodup : (ctx.names :: pool.states.map TcmContext.names).Nodup :=
      List.nodup_cons.2 ⟨hmem, h.nodup⟩
    have hsub : ctx.names :: pool.states.map TcmContext.names ⊆
        a.entries.map AmmMappingEntry.names := by
      intro n hn
      rcases List.mem_cons.1 hn with rfl | hn
      · exact hctx
      · exact h.known n hn
    have hlen := (List.subperm_of_subset hnodup hsub).length_le
    have hroom := h.room
    simp only [List.length_cons, List.length_map] at hlen
    exact .inr (by omega)

theorem PoolFits.update {a : AmmTable} {pool : StatePool} (h : PoolFits a pool) {ctx : TcmContext}
    (hctx : ctx.names ∈ a.entries.map AmmMappingEntry.names) :
    PoolFits a (tcmStatePoolUpdate ctx pool) := by
  rcases update_names (h.hasRoom hctx) with heq | ⟨hnew, heq⟩
  · exact ⟨by rw [heq]; exact h.nodup, by rw [heq]; exact h.known, h.room⟩
  · refine ⟨?_, ?_, h.room⟩
    · rw [heq, List.nodup_append]
      refine ⟨h.nodup, List.nodup_singleton _, ?_⟩
      rintro n hn m hm rfl
      rw [List.mem_singleton] at hm
      exact hnew (hm ▸ hn)
    · intro n hn
      rw [heq, List.mem_append, List.mem_singleton] at hn
      rcases hn with hn | rfl
      · exact h.known n hn
      · exact hctx

section Update

variable {a : AmmTable} {pool : StatePool} {ctx : TcmContext} {p : Poll}

theorem Reflects.of_update (h : PoolFits a pool) (hp : p.entry ∈ a.entries)
    (hctx : ctx.names = p.entry.names)
    (hshows : match p.regs with
      | some regs => Shows ctx p.entry regs
      | none => ctx.qualityState = .invalid) : Reflects (tcmStatePoolUpdate ctx pool) p := by
  refine ⟨ctx, ?_, hshows⟩
  rw [tcmStatePoolGet_update (h.hasRoom (by rw [hctx]; exact List.mem_map_of_mem hp))]
  exact if_pos hctx

theorem Reflects.update_of_ne (h : PoolFits a pool)
    (hctx : ctx.names ∈ a.entries.map AmmMappingEntry.names) (hne : ctx.names ≠ p.entry.names)
    (hp : Reflects pool p) : Reflects (tcmStatePoolUpdate ctx pool) p := by
  obtain ⟨c, hget, hshows⟩ := hp
  refine ⟨c, ?_, hshows⟩
  rw [tcmStatePoolGet_update (h.hasRoom hctx)]
  exact (if_neg hne).trans hget

end Update

theorem shows_of_built {a : AmmTable} {e : AmmMappingEntry} {env : BuildEnv} {net : NetworkState}
    {regs : List UInt16} {enriched : EspErr} {ctx : TcmContext}
    (hkey : ammFindMappingForObject e.key a = some e)
    (h : buildContext env net a (pollResult e (some regs)) = some (enriched, ctx)) :
    Shows ctx e regs := by
  have hok : enriched = .ok := by
    unfold buildContext at h
    split at h
    · cases h
    · rename_i base hbase
      have hctx := (rawContext_of_built hbase).1
      simp only [ammEnrichContext, hctx, pollResult_key, hkey] at h
      split at h
      · exact (Prod.mk.inj (Option.some.inj h)).1.symm
      · cases h
  subst hok
  obtain ⟨base, e', hfind, rfl, hvalue, hquality, htext⟩ := buildContext_enriched h
  rw [pollResult_key, hkey] at hfind
  obtain rfl := Option.some.inj hfind
  refine ⟨rfl, ?_, hvalue, ?_, htext⟩
  · show base.qualityState = .good
    rw [hquality]
    rfl
  · show (base.value.mul e.scaleFactor).add e.offset = _
    rw [hvalue]
    rfl

/-! ## Waiting successes -/

theorem getElem?_concat_of_some {α : Type*} {l : List α} {a b : α} {i : Nat}
    (h : l[i]? = some b) : (l ++ [a])[i]? = some b := by
  rw [List.getElem?_append_left (List.getElem?_eq_some_iff.1 h).1]
  exact h

theorem getElem?_concat_cases {α : Type*} {l : List α} {a b : α} {i : Nat}
    (h : (l ++ [a])[i]? = some b) : l[i]? = some b ∨ i = l.length ∧ b = a := by
  have hi := (List.getElem?_eq_some_iff.1 h).1
  rw [List.length_append, List.length_singleton] at hi
  rcases Nat.lt_or_eq_of_le (Nat.le_of_lt_succ hi) with hlt | rfl
  · rw [List.getElem?_append_left hlt] at h
    exact .inl h
  · rw [List.getElem?_concat_length] at h
    exact .inr ⟨rfl, (Option.some.inj h).symm⟩

def BuildTask.pending : BuildTask → List Nat
  | .built _ _ poll => [poll]
  | _ => []

namespace Pipeline

/-- The successful polls that are not in the pool yet, oldest first. -/
def pending (s : Pipeline) : List Nat :=
  s.build.pending ++ (s.items.filter fun item : RawItem => item.result.valid).map RawItem.poll

/-- Both tasks wait and the raw queue is empty. -/
def AtRest (s : Pipeline) : Prop := s.poll = .idle ∧ s.raw = [] ∧ s.build = .idle

/-- `p` is the last finished poll with the entry `e`. -/
def LastPoll (s : Pipeline) (e : AmmMappingEntry) (p : Poll) : Prop :=
  ∃ i : Nat, s.log[i]? = some p ∧ p.entry = e ∧
    ∀ (j : Nat) (q : Poll), i < j → s.log[j]? = some q → q.entry ≠ e

/-- Every point whose last poll has ended is shown with its outcome. -/
def ShowsLastPolls (s : Pipeline) : Prop :=
  ∀ (e : AmmMappingEntry) (p : Poll), s.LastPoll e p → Reflects s.pool p

/-- The step stores no success of a point after a later poll of it failed. -/
def StoresInOrder (s : Pipeline) (a : PipelineStep) : Prop :=
  a = .store → ∀ (ctx : TcmContext) (enriched : EspErr) (k : Nat),
    s.build = .built ctx enriched k → ∀ p : Poll, s.log[k]? = some p →
      ∀ (j : Nat) (q : Poll), k < j → s.log[j]? = some q → q.entry = p.entry → q.regs.isSome

/-- The table stays as it is and no result is dropped. -/
def Steady (s : Pipeline) (a : PipelineStep) : Prop :=
  (∀ op, a ≠ .mutate op) ∧
    (a = .send → ∀ item, s.poll = .answered item → s.raw.length < queueRawDataSize)

/-- No poll fails while a success with the same entry is waiting. -/
def FailsAlone (s : Pipeline) (a : PipelineStep) : Prop :=
  ∀ reply net, a = .answer reply net → ∀ cfg nowMs, s.poll = .selected cfg nowMs →
    pollRead cfg reply = none → ∀ k ∈ s.pending, ∀ p : Poll, s.log[k]? = some p → p.entry ≠ cfg

/-- The invariant. `waiting`: with a success, all later polls of its entry are
waiting too; `shown`: the last poll of an entry is waiting or shown. -/
structure OrderInv (a : AmmTable) (s : Pipeline) : Prop where
  amm : s.amm = a
  copied : ∀ mappings, s.poll = .copied mappings → mappings = a.entries
  selected : ∀ e nowMs, s.poll = .selected e nowMs → e ∈ a.entries
  logged : ∀ p ∈ s.log, p.entry ∈ a.entries
  traced : ∀ item ∈ s.items, ∃ p, s.Traced item p
  received : ∀ item, s.build = .received item → item.result.valid = true
  built : ∀ ctx enriched k, s.build = .built ctx enriched k →
    ∃ p regs, s.log[k]? = some p ∧ p.regs = some regs ∧ Shows ctx p.entry regs
  pool : PoolFits a s.pool
  sorted : s.pending.Pairwise (· < ·)
  success : ∀ k ∈ s.pending, ∃ p regs, s.log[k]? = some p ∧ p.regs = some regs
  waiting : ∀ k ∈ s.pending, ∀ p : Poll, s.log[k]? = some p → ∀ (j : Nat) (q : Poll), k < j →
    s.log[j]? = some q → q.entry = p.entry → j ∈ s.pending
  shown : ∀ (i : Nat) (p : Poll), s.log[i]? = some p →
    (∀ (j : Nat) (q : Poll), i < j → s.log[j]? = some q → q.entry ≠ p.entry) →
      i ∈ s.pending ∨ Reflects s.pool p

section Steps

variable {a : AmmTable} {s t : Pipeline}

/-- A step that keeps what waits and what is shown keeps the invariant. -/
theorem OrderInv.pass (h : OrderInv a s) (hamm : t.amm = s.amm) (hlog : t.log = s.log)
    (hpool : t.pool = s.pool) (hpending : t.pending = s.pending)
    (hcopied : ∀ mappings, t.poll = .copied mappings → mappings = a.entries)
    (hselected : ∀ e nowMs, t.poll = .selected e nowMs → e ∈ a.entries)
    (hitems : ∀ item ∈ t.items, item ∈ s.items)
    (hrec : ∀ item, t.build = .received item → s.build = .received item ∨ item.result.valid = true)
    (hbuilt : ∀ ctx enriched k, t.build = .built ctx enriched k →
      ∃ p regs, s.log[k]? = some p ∧ p.regs = some regs ∧ Shows ctx p.entry regs) :
    OrderInv a t where
  amm := hamm.trans h.amm
  copied := hcopied
  selected := hselected
  logged := by rw [hlog]; exact h.logged
  traced := by
    intro item hitem
    obtain ⟨p, hp⟩ := h.traced item (hitems item hitem)
    exact ⟨p, by rw [Traced, hlog]; exact hp⟩
  received := fun item hb => (hrec item hb).elim (h.received item) id
  built := by rw [hlog]; exact hbuilt
  pool := by rw [hpool]; exact h.pool
  sorted := by rw [hpending]; exact h.sorted
  success := by rw [hpending, hlog]; exact h.success
  waiting := by rw [hpending, hlog]; exact h.waiting
  shown := by rw [hpending, hlog, hpool]; exact h.shown

theorem OrderInv.copy (h : OrderInv a s) : OrderInv a s.copy := by
  have hitems := items_copy s
  unfold Pipeline.copy at hitems ⊢
  split
  · rename_i hpoll
    rw [hpoll] at hitems
    refine h.pass rfl rfl rfl ?_ ?_ (by simp) ?_ (fun _ hb => .inl hb) h.built
    · simp only [pending, hitems]
    · intro mappings hm
      rw [← PollTask.copied.inj hm, h.amm]
    · intro item hitem
      rwa [hitems] at hitem
  · exact h

theorem OrderInv.select (h : OrderInv a s) (nowMs : Int) : OrderInv a (s.select nowMs) := by
  unfold Pipeline.select
  split
  · rename_i mappings hpoll
    have hmem : ∀ item, item ∈ s.build.items ++ s.raw ++ [] → item ∈ s.items := by
      simp [Pipeline.items, hpoll, PollTask.items]
    have hpending : s.build.pending ++ ((s.build.items ++ s.raw ++ []).filter fun item : RawItem =>
        item.result.valid).map RawItem.poll = s.pending := by
      simp [pending, Pipeline.items, hpoll, PollTask.items]
    cases hsel : s.selection nowMs with
    | none =>
      exact h.pass rfl rfl rfl hpending (by simp) (by simp) hmem (fun _ hb => .inl hb) h.built
    | some r =>
      obtain ⟨i, cfg⟩ := r
      refine h.pass rfl rfl rfl hpending (by simp) ?_ hmem (fun _ hb => .inl hb) h.built
      intro e t ht
      obtain ⟨rfl, -⟩ := PollTask.selected.inj ht
      rw [Pipeline.selection, hpoll] at hsel
      rcases selectLoop_mem hsel with hcfg | hnone
      · rw [← h.copied mappings hpoll]
        exact hcfg
      · cases hnone
  · exact h

theorem OrderInv.send (h : OrderInv a s) (hsteady : s.Steady .send) : OrderInv a s.send := by
  have hitems : s.send.items = s.items := by
    rcases items_send s with heq | ⟨hfull, item, hpoll, -⟩
    · exact heq
    · exact absurd (hsteady.2 rfl item hpoll) (Nat.not_lt.2 hfull)
  unfold Pipeline.send at hitems ⊢
  split
  · rename_i item hpoll
    rw [hpoll] at hitems
    refine h.pass rfl rfl rfl ?_ (by simp) (by simp) ?_ (fun _ hb => .inl hb) h.built
    · simp only [pending, hitems]
    · intro i hi
      rwa [hitems] at hi
  · exact h

theorem OrderInv.receive (h : OrderInv a s) : OrderInv a s.receive := by
  unfold Pipeline.receive
  split
  · rename_i item rest hbuild hraw
    cases hv : item.result.valid with
    | true =>
      refine h.pass rfl rfl rfl ?_ h.copied h.selected ?_ ?_ (by simp)
      · simp [pending, Pipeline.items, hbuild, hraw, BuildTask.pending, BuildTask.items]
      · simp [Pipeline.items, hbuild, hraw, BuildTask.items]
      · intro i hi
        rw [if_pos rfl] at hi
        rw [← BuildTask.received.inj hi]
        exact .inr hv
    | false =>
      refine h.pass rfl rfl rfl ?_ h.copied h.selected ?_ (by simp) (by simp)
      · simp [pending, Pipeline.items, hbuild, hraw, BuildTask.pending, BuildTask.items, hv]
      · intro i hi
        simp only [Pipeline.items, hbuild, hraw, BuildTask.items, Bool.false_eq_true,
          if_false, List.nil_append] at hi ⊢
        exact List.mem_cons_of_mem item hi
  · exact h

theorem OrderInv.buildStep (ht : TableOk a) (h : OrderInv a s) (env : BuildEnv)
    (net : NetworkState) : OrderInv a (s.buildStep env net) := by
  unfold Pipeline.buildStep
  split
  · rename_i item hbuild
    have hvalid := h.received item hbuild
    have hitem : item ∈ s.items := by simp [Pipeline.items, hbuild, BuildTask.items]
    obtain ⟨p, hp, hresult⟩ := h.traced item hitem
    have hentry := h.logged p (List.mem_of_getElem? hp)
    rw [hresult] at hvalid
    obtain ⟨regs, hregs⟩ := Option.isSome_iff_exists.1 hvalid
    rw [hregs] at hresult
    obtain ⟨r, hr⟩ := Option.isSome_iff_exists.1 (ht.accepted p.entry hentry env net regs)
    obtain ⟨enriched, ctx⟩ := r
    have hc : buildContext env net s.amm item.result = some (enriched, ctx) := by
      rw [h.amm, hresult]
      exact hr
    simp only [hc]
    refine h.pass rfl rfl rfl ?_ h.copied h.selected ?_ (by simp) ?_
    · have hv : item.result.valid = true := h.received item hbuild
      simp [pending, Pipeline.items, hbuild, BuildTask.pending, BuildTask.items, hv]
    · intro i hi
      simp only [Pipeline.items, hbuild, BuildTask.items, List.nil_append,
        List.cons_append] at hi ⊢
      exact List.mem_cons_of_mem item hi
    · intro ctx' enriched' k hb
      obtain ⟨rfl, rfl, rfl⟩ := BuildTask.built.inj hb
      exact ⟨p, regs, hp, hregs, shows_of_built (ht.keys p.entry hentry) hr⟩
  · exact h

theorem OrderInv.push (h : OrderInv a s) : OrderInv a s.push := by
  unfold Pipeline.push
  split
  · rename_i ctx enriched poll hbuild
    refine h.pass rfl rfl rfl ?_ h.copied h.selected ?_ (by simp) (by simp)
    · simp [pending, Pipeline.items, hbuild, BuildTask.pending, BuildTask.items]
    · simp [Pipeline.items, hbuild, BuildTask.items]
  · exact h

theorem entry_eq_of_names (ht : TableOk a) {e e' : AmmMappingEntry} (he : e ∈ a.entries)
    (he' : e' ∈ a.entries) (h : e.names = e'.names) : e = e' :=
  List.inj_on_of_nodup_map ht.names he he' h

theorem OrderInv.pending_lt (h : OrderInv a s) {k : Nat} (hk : k ∈ s.pending) :
    k < s.log.length := by
  obtain ⟨p, regs, hp, -⟩ := h.success k hk
  exact (List.getElem?_eq_some_iff.1 hp).1

theorem OrderInv.answer_some (h : OrderInv a s) {cfg : AmmMappingEntry} {nowMs : Int}
    (hpoll : s.poll = .selected cfg nowMs) {reply : Nat → Option (List UInt16)}
    {regs : List UInt16} (hregs : pollRead cfg reply = some regs) (net : NetworkState) :
    OrderInv a (s.answer reply net) := by
  have hitems := items_answer s hpoll reply net
  rw [hregs] at hitems
  have hcfg := h.selected cfg nowMs hpoll
  simp only [Pipeline.answer, hpoll, hregs, Option.isSome_some, if_true] at hitems ⊢
  set t : Pipeline := { s with
    poll := .answered ⟨pollResult cfg (some regs), s.log.length⟩
    log := s.log ++ [⟨cfg, some regs⟩] } with ht
  have hpending : t.pending = s.pending ++ [s.log.length] := by
    simp [pending, hitems, t, List.filter_cons]
  have hlog : ∀ {i : Nat} {p : Poll}, t.log[i]? = some p →
      s.log[i]? = some p ∨ i = s.log.length ∧ p = ⟨cfg, some regs⟩ :=
    fun hp => getElem?_concat_cases hp
  have hold : ∀ {i : Nat} {p : Poll}, s.log[i]? = some p → t.log[i]? = some p :=
    fun hp => getElem?_concat_of_some hp
  have hnew : t.log[s.log.length]? = some ⟨cfg, some regs⟩ := List.getElem?_concat_length
  refine ⟨h.amm, by simp [t], by simp [t], ?_, ?_, h.received, ?_, h.pool, ?_, ?_, ?_, ?_⟩
  · intro p hp
    rcases List.mem_append.1 hp with hp | hp
    · exact h.logged p hp
    · rw [List.mem_singleton.1 hp]
      exact hcfg
  · intro item hitem
    rw [hitems, List.mem_append, List.mem_singleton] at hitem
    rcases hitem with hitem | rfl
    · obtain ⟨p, hp, hr⟩ := h.traced item hitem
      exact ⟨p, hold hp, hr⟩
    · exact ⟨_, hnew, rfl⟩
  · intro ctx enriched k hb
    obtain ⟨p, regs', hp, rest⟩ := h.built ctx enriched k hb
    exact ⟨p, regs', hold hp, rest⟩
  · rw [hpending, List.pairwise_append]
    refine ⟨h.sorted, List.pairwise_singleton _ _, ?_⟩
    intro k hk j hj
    rw [List.mem_singleton.1 hj]
    exact h.pending_lt hk
  · intro k hk
    rw [hpending, List.mem_append, List.mem_singleton] at hk
    rcases hk with hk | rfl
    · obtain ⟨p, regs', hp, hr⟩ := h.success k hk
      exact ⟨p, regs', hold hp, hr⟩
    · exact ⟨_, regs, hnew, rfl⟩
  · intro k hk p hp j q hkj hq hentry
    rw [hpending, List.mem_append, List.mem_singleton] at hk ⊢
    rcases hlog hq with hq | ⟨rfl, -⟩
    · have hj := (List.getElem?_eq_some_iff.1 hq).1
      rcases hk with hk | rfl
      · rcases hlog hp with hp | ⟨rfl, -⟩
        · exact .inl (h.waiting k hk p hp j q hkj hq hentry)
        · omega
      · omega
    · exact .inr rfl
  · intro i p hp hlast
    rw [hpending, List.mem_append, List.mem_singleton]
    rcases hlog hp with hp | ⟨rfl, -⟩
    · rcases h.shown i p hp (fun j q hij hq => hlast j q hij (hold hq)) with hwait | hshown
      · exact .inl (.inl hwait)
      · exact .inr hshown
    · exact .inl (.inr rfl)

/-- A failed poll is shown at once; no success of its point waits. -/
theorem OrderInv.answer_none (ht : TableOk a) (h : OrderInv a s) {cfg : AmmMappingEntry}
    {nowMs : Int} (hpoll : s.poll = .selected cfg nowMs) {reply : Nat → Option (List UInt16)}
    (hregs : pollRead cfg reply = none) (net : NetworkState)
    (hG : s.FailsAlone (.answer reply net)) : OrderInv a (s.answer reply net) := by
  have hitems := items_answer s hpoll reply net
  rw [hregs] at hitems
  have hcfg := h.selected cfg nowMs hpoll
  have halone := hG reply net rfl cfg nowMs hpoll hregs
  have hnames : (failedState cfg nowMs net).names ∈ a.entries.map AmmMappingEntry.names :=
    List.mem_map_of_mem hcfg
  simp only [Pipeline.answer, hpoll, hregs, Option.isSome_none, Bool.false_eq_true,
    if_false] at hitems ⊢
  set t : Pipeline := { s with
    poll := .answered ⟨pollResult cfg none, s.log.length⟩
    pool := tcmStatePoolUpdate (failedState cfg nowMs net) s.pool
    log := s.log ++ [⟨cfg, none⟩] } with htdef
  have hpending : t.pending = s.pending := by
    simp [pending, hitems, t]
  have hlog : ∀ {i : Nat} {p : Poll}, t.log[i]? = some p →
      s.log[i]? = some p ∨ i = s.log.length ∧ p = ⟨cfg, none⟩ :=
    fun hp => getElem?_concat_cases hp
  have hold : ∀ {i : Nat} {p : Poll}, s.log[i]? = some p → t.log[i]? = some p :=
    fun hp => getElem?_concat_of_some hp
  have hnew : t.log[s.log.length]? = some ⟨cfg, none⟩ := List.getElem?_concat_length
  refine ⟨h.amm, by simp [t], by simp [t], ?_, ?_, h.received, ?_, h.pool.update hnames, ?_, ?_,
    ?_, ?_⟩
  · intro p hp
    rcases List.mem_append.1 hp with hp | hp
    · exact h.logged p hp
    · rw [List.mem_singleton.1 hp]
      exact hcfg
  · intro item hitem
    rw [hitems, List.mem_append, List.mem_singleton] at hitem
    rcases hitem with hitem | rfl
    · obtain ⟨p, hp, hr⟩ := h.traced item hitem
      exact ⟨p, hold hp, hr⟩
    · exact ⟨_, hnew, rfl⟩
  · intro ctx enriched k hb
    obtain ⟨p, regs, hp, rest⟩ := h.built ctx enriched k hb
    exact ⟨p, regs, hold hp, rest⟩
  · rw [hpending]
    exact h.sorted
  · intro k hk
    rw [hpending] at hk
    obtain ⟨p, regs, hp, hr⟩ := h.success k hk
    exact ⟨p, regs, hold hp, hr⟩
  · intro k hk p hp j q hkj hq hentry
    rw [hpending] at hk ⊢
    have hklt := h.pending_lt hk
    rcases hlog hp with hp | ⟨rfl, -⟩
    · rcases hlog hq with hq | ⟨-, rfl⟩
      · exact h.waiting k hk p hp j q hkj hq hentry
      · exact absurd hentry.symm (halone k hk p hp)
    · omega
  · intro i p hp hlast
    rw [hpending]
    rcases hlog hp with hp | ⟨-, rfl⟩
    · have hne : cfg ≠ p.entry :=
        hlast _ _ (List.getElem?_eq_some_iff.1 hp).1 hnew
      rcases h.shown i p hp (fun j q hij hq => hlast j q hij (hold hq)) with hwait | hshown
      · exact .inl hwait
      · refine .inr (hshown.update_of_ne h.pool hnames fun hsame => hne ?_)
        exact entry_eq_of_names ht hcfg (h.logged p (List.mem_of_getElem? hp)) hsame
    · exact .inr (Reflects.of_update h.pool hcfg rfl rfl)

theorem OrderInv.answer (ht : TableOk a) (h : OrderInv a s) {reply : Nat → Option (List UInt16)}
    {net : NetworkState} (hG : s.FailsAlone (.answer reply net)) :
    OrderInv a (s.answer reply net) := by
  cases hpoll : s.poll with
  | selected cfg nowMs =>
    cases hregs : pollRead cfg reply with
    | some regs => exact h.answer_some hpoll hregs net
    | none => exact h.answer_none ht hpoll hregs net hG
  | idle | copied mappings | answered item =>
    have hsame : s.answer reply net = s := by simp only [Pipeline.answer, hpoll]
    rw [hsame]
    exact h

/-- The oldest waiting success is stored; a later poll of its point waits as well. -/
theorem OrderInv.store (ht : TableOk a) (h : OrderInv a s) : OrderInv a s.store := by
  unfold Pipeline.store
  split
  · rename_i ctx enriched k hbuild
    obtain ⟨p, regs, hp, hregs, hshows⟩ := h.built ctx enriched k hbuild
    have hentry := h.logged p (List.mem_of_getElem? hp)
    have hnames : ctx.names ∈ a.entries.map AmmMappingEntry.names := by
      rw [hshows.1]
      exact List.mem_map_of_mem hentry
    set t : Pipeline := { s with
      build := .stored ctx enriched k
      pool := tcmStatePoolUpdate ctx s.pool } with htdef
    have hpending : s.pending = k :: t.pending := by
      simp [pending, Pipeline.items, hbuild, BuildTask.pending, BuildTask.items, t]
    have hsorted := h.sorted
    rw [hpending, List.pairwise_cons] at hsorted
    have hk : k ∈ s.pending := by
      rw [hpending]
      exact List.mem_cons_self
    have hmem : ∀ {j : Nat}, j ∈ t.pending → j ∈ s.pending := by
      intro j hj
      rw [hpending]
      exact List.mem_cons_of_mem k hj
    refine ⟨h.amm, h.copied, h.selected, h.logged, ?_, by simp [t], by simp [t],
      h.pool.update hnames, hsorted.2, fun j hj => h.success j (hmem hj), ?_, ?_⟩
    · intro item hitem
      refine h.traced item ?_
      simpa [Pipeline.items, hbuild, BuildTask.items, t] using hitem
    · intro i hi q hq j r hij hr hsame
      have hj := h.waiting i (hmem hi) q hq j r hij hr hsame
      rw [hpending] at hj
      have hki := hsorted.1 i hi
      rcases List.mem_cons.1 hj with rfl | hj
      · omega
      · exact hj
    · intro i q hq hlast
      have hstored : i = k → Reflects t.pool q := by
        rintro rfl
        obtain rfl := Option.some.inj (hp.symm.trans hq)
        refine Reflects.of_update h.pool hentry hshows.1 ?_
        rw [hregs]
        exact hshows
      rcases h.shown i q hq hlast with hwait | hshown
      · rw [hpending] at hwait
        rcases List.mem_cons.1 hwait with heq | hwait
        · exact .inr (hstored heq)
        · exact .inl hwait
      · by_cases hsame : ctx.names = q.entry.names
        · have heq : p.entry = q.entry := by
            refine entry_eq_of_names ht hentry (h.logged q (List.mem_of_getElem? hq)) ?_
            rw [← hshows.1, hsame]
          rcases Nat.lt_trichotomy i k with hlt | hik | hlt
          · exact absurd heq (hlast k p hlt hp)
          · exact .inr (hstored hik)
          · have hwait := h.waiting k hk p hp i q hlt hq heq.symm
            rw [hpending] at hwait
            exact .inl ((List.mem_cons.1 hwait).resolve_left (by omega))
        · exact .inr (hshown.update_of_ne h.pool hnames hsame)
  · exact h

/-- Under the invariant a success stored is older than successes only. -/
theorem OrderInv.storesInOrder (h : OrderInv a s) (step : PipelineStep) : s.StoresInOrder step := by
  rintro - ctx enriched k hbuild p hp j q hkj hq hentry
  have hk : k ∈ s.pending := by simp [pending, hbuild, BuildTask.pending]
  obtain ⟨r, regs, hr, hregs⟩ := h.success j (h.waiting k hk p hp j q hkj hq hentry)
  obtain rfl := Option.some.inj (hr.symm.trans hq)
  rw [hregs]
  rfl

theorem OrderInv.showsLastPolls (h : OrderInv a s) (hrest : s.AtRest) : s.ShowsLastPolls := by
  obtain ⟨hpoll, hraw, hbuild⟩ := hrest
  have hnone : s.pending = [] := by
    simp [pending, Pipeline.items, hpoll, hraw, hbuild, BuildTask.pending, BuildTask.items,
      PollTask.items]
  rintro e p ⟨i, hp, rfl, hlast⟩
  rcases h.shown i p hp hlast with hwait | hshown
  · rw [hnone] at hwait
    cases hwait
  · exact hshown

/-- Every steady step in which no poll fails before its successes are stored
keeps the invariant. -/
theorem OrderInv.step (ht : TableOk a) (h : OrderInv a s) {step : PipelineStep}
    (hsteady : s.Steady step) (hG : s.FailsAlone step) : OrderInv a (s.step step) := by
  cases step with
  | mutate op => exact absurd rfl (hsteady.1 op)
  | copy => exact h.copy
  | select nowMs => exact h.select nowMs
  | answer reply net => exact h.answer ht hG
  | send => exact h.send hsteady
  | receive => exact h.receive
  | build env net => exact h.buildStep ht env net
  | store => exact h.store ht
  | push => exact h.push
  | publish =>
    exact h.pass rfl rfl rfl rfl h.copied h.selected (fun _ hi => hi) (fun _ hb => .inl hb) h.built

end Steps

theorem orderInv_start {a : AmmTable} {pool : StatePool} (h : PoolFits a pool) :
    OrderInv a (Pipeline.start a pool) where
  amm := rfl
  copied := by simp [Pipeline.start]
  selected := by simp [Pipeline.start]
  logged := by simp [Pipeline.start]
  traced := by simp [Pipeline.start, Pipeline.items, BuildTask.items, PollTask.items]
  received := by simp [Pipeline.start]
  built := by simp [Pipeline.start]
  pool := h
  sorted := List.Pairwise.nil
  success := by simp [Pipeline.start, pending, Pipeline.items, BuildTask.items, PollTask.items,
    BuildTask.pending]
  waiting := by simp [Pipeline.start]
  shown := by simp [Pipeline.start]

/-- **The pool follows the polls.** With distinct names and keys and no dropped
result, as long as no poll fails while a success of its entry waits: no success
is stored after a later failure of its point, and at rest the pool shows the
last poll of every point. -/
theorem pool_follows_polls_run {a : AmmTable} {pool : StatePool} {steps : List PipelineStep}
    (ht : TableOk a) (hpool : PoolFits a pool)
    (hsteady : AllSteps Pipeline.step Steady (Pipeline.start a pool) steps)
    (hG : AllSteps Pipeline.step FailsAlone (Pipeline.start a pool) steps) :
    AllSteps Pipeline.step StoresInOrder (Pipeline.start a pool) steps ∧
      ((run Pipeline.step (Pipeline.start a pool) steps).AtRest →
        (run Pipeline.step (Pipeline.start a pool) steps).ShowsLastPolls) := by
  have hboth := hsteady.and hG
  have hstart := orderInv_start hpool
  have keep : ∀ s step, OrderInv a s → (s.Steady step ∧ s.FailsAlone step) →
      OrderInv a (s.step step) := fun s step h hs => h.step ht hs.1 hs.2
  exact ⟨allSteps_of_inv keep (fun s step h _ => h.storesInOrder step) hstart hboth,
    (inv_run keep hstart hboth).showsLastPolls⟩

/-! ## A failure while a success is queued -/

def meterTable : AmmTable := (ammAddMapping .ok meter (.empty 1000)).2

/-- A poll of the meter that no attempt answers, up to the raw queue. -/
def failSteps : List PipelineStep :=
  [.copy, .select 3000, .answer (fun _ => none) .online, .send]

theorem poolFits_empty (a : AmmTable) (h : a.entries.length ≤ 1000) :
    PoolFits a (.empty 1000) :=
  ⟨List.nodup_nil, fun _ hn => absurd hn List.not_mem_nil, h⟩

theorem tableOk_meter : TableOk meterTable := by
  have hentries : meterTable.entries = [(AmmTable.empty 1000).stored meter] := by decide +kernel
  have hfind : ammFindMappingForObject ((AmmTable.empty 1000).stored meter).key meterTable =
      some ((AmmTable.empty 1000).stored meter) := by decide +kernel
  refine ⟨by rw [hentries]; decide +kernel, ?_, ?_⟩
  · intro e he
    rw [hentries, List.mem_singleton] at he
    rw [he]
    exact hfind
  · intro e he env net regs
    rw [hentries, List.mem_singleton] at he
    rw [he]
    have hslave : meter.slaveId ≠ 0 ∧ meter.slaveId ≤ 247 := by decide
    have hfunction : meter.functionCode ∈ ([1, 2, 3, 4] : List UInt8) := by decide
    exact buildContext_isSome hfind hslave hfunction (by decide +kernel)

theorem poolFits_meter : PoolFits meterTable (.empty 1000) := poolFits_empty _ (by decide +kernel)

theorem steady_of_lt {s : Pipeline} {a : PipelineStep} (hop : ∀ op, a ≠ .mutate op)
    (hraw : s.raw.length < queueRawDataSize) : s.Steady a :=
  ⟨hop, fun _ _ _ => hraw⟩

/-- A success up to the pool, then a failure, up to rest. -/
def storedThenFailed : List PipelineStep :=
  pollSteps ++ buildSteps ++ [.push] ++ failSteps ++ [.receive]

/-- A success and a failure, both queued before the first is built. -/
def queuedThenFailed : List PipelineStep :=
  pollSteps ++ failSteps ++ buildSteps ++ [.push, .receive]

theorem storedThenFailed_steady : AllSteps Pipeline.step Steady meterStart storedThenFailed := by
  refine ⟨?_, ?_, ?_, ?_, ?_, ?_, ?_, ?_, ?_, ?_, ?_, ?_, ?_, trivial⟩ <;>
    exact steady_of_lt (by simp) (by decide +kernel)

theorem storedThenFailed_failsAlone :
    AllSteps Pipeline.step FailsAlone meterStart storedThenFailed := by
  refine ⟨?_, ?_, ?_, ?_, ?_, ?_, ?_, ?_, ?_, ?_, ?_, ?_, ?_, trivial⟩ <;>
    rintro reply net heq cfg nowMs hpoll hnone k hk p hp
  all_goals try cases heq
  · have hread : pollRead ((AmmTable.empty 1000).stored meter) (fun _ => some [7]) = some [7] := by
      decide +kernel
    have hsel : (run Pipeline.step meterStart (pollSteps.take 2)).poll =
        .selected ((AmmTable.empty 1000).stored meter) 1000 := by rfl
    obtain ⟨rfl, -⟩ := PollTask.selected.inj (hpoll.symm.trans hsel)
    rw [hread] at hnone
    cases hnone
  · have hempty : (run Pipeline.step meterStart (storedThenFailed.take 10)).pending = [] := by
      decide +kernel
    exact absurd (hempty ▸ hk) List.not_mem_nil

/-- The failure comes when the pool shows the success, and is shown in turn. -/
theorem meter_pool_follows_polls :
    (AllSteps Pipeline.step StoresInOrder (Pipeline.start meterTable (.empty 1000))
        storedThenFailed ∧
      ((run Pipeline.step (Pipeline.start meterTable (.empty 1000)) storedThenFailed).AtRest →
        (run Pipeline.step (Pipeline.start meterTable (.empty 1000))
          storedThenFailed).ShowsLastPolls)) ∧
      (run Pipeline.step (Pipeline.start meterTable (.empty 1000)) storedThenFailed).AtRest :=
  ⟨pool_follows_polls_run tableOk_meter poolFits_meter storedThenFailed_steady
    storedThenFailed_failsAlone, by rfl, by rfl, by rfl⟩

/-- The queued success is stored after the failure, and the pool stays at it. -/
theorem success_hides_failure :
    TableOk meterTable ∧ PoolFits meterTable (.empty 1000) ∧
      AllSteps Pipeline.step Steady (Pipeline.start meterTable (.empty 1000)) queuedThenFailed ∧
      (run Pipeline.step (Pipeline.start meterTable (.empty 1000)) queuedThenFailed).AtRest ∧
      ¬ AllSteps Pipeline.step StoresInOrder (Pipeline.start meterTable (.empty 1000))
        queuedThenFailed ∧
      ¬ (run Pipeline.step (Pipeline.start meterTable (.empty 1000))
        queuedThenFailed).ShowsLastPolls := by
  refine ⟨tableOk_meter, poolFits_meter, ?_, ⟨by rfl, by rfl, by rfl⟩, ?_, ?_⟩
  · refine ⟨?_, ?_, ?_, ?_, ?_, ?_, ?_, ?_, ?_, ?_, ?_, ?_, ?_, trivial⟩ <;>
      exact steady_of_lt (by simp) (by decide +kernel)
  · show ¬ AllSteps Pipeline.step StoresInOrder meterStart queuedThenFailed
    intro h
    have hstore := (allSteps_iff_split _ _).1 h (pollSteps ++ failSteps ++ buildSteps.take 2) .store
      [.push, .receive] rfl
    have hlog : (run Pipeline.step meterStart (pollSteps ++ failSteps ++ buildSteps.take 2)).log =
        [⟨(AmmTable.empty 1000).stored meter, some [7]⟩,
          ⟨(AmmTable.empty 1000).stored meter, none⟩] := by decide +kernel
    obtain ⟨ctx, enriched, hb⟩ : ∃ ctx enriched, (run Pipeline.step meterStart
        (pollSteps ++ failSteps ++ buildSteps.take 2)).build = .built ctx enriched 0 :=
      ⟨_, _, rfl⟩
    have hgood := hstore rfl ctx enriched 0 hb ⟨(AmmTable.empty 1000).stored meter, some [7]⟩
      (by rw [hlog]; rfl) 1 ⟨(AmmTable.empty 1000).stored meter, none⟩ Nat.zero_lt_one
      (by rw [hlog]; rfl) rfl
    cases hgood
  · show ¬ (run Pipeline.step meterStart queuedThenFailed).ShowsLastPolls
    intro h
    have hlog : (run Pipeline.step meterStart queuedThenFailed).log =
        [⟨(AmmTable.empty 1000).stored meter, some [7]⟩,
          ⟨(AmmTable.empty 1000).stored meter, none⟩] := by decide +kernel
    have hpool : (tcmStatePoolGet ((AmmTable.empty 1000).stored meter).deviceId.str
        ((AmmTable.empty 1000).stored meter).pointId.str
          (run Pipeline.step meterStart queuedThenFailed).pool).map (·.qualityState) =
            some .good := by decide +kernel
    have hlast : (run Pipeline.step meterStart queuedThenFailed).LastPoll
        ((AmmTable.empty 1000).stored meter) ⟨(AmmTable.empty 1000).stored meter, none⟩ := by
      refine ⟨1, by rw [hlog]; rfl, rfl, ?_⟩
      intro j q hj hq
      rw [hlog, List.getElem?_eq_none (show 2 ≤ j by omega)] at hq
      cases hq
    obtain ⟨ctx, hget, hinvalid⟩ := h _ _ hlast
    have hgood := congrArg (Option.map (·.qualityState)) hget
    rw [Option.map_some, hinvalid] at hgood
    exact absurd (hgood.symm.trans hpool) (by decide)

end Pipeline

end McpGateway.Scheduler
