import McpGateway.Tcm.StatePool
import McpGateway.Lib.Run

/-!
# The state pool as a map of last values

An update leaves one context for its point. When the pool is full and the point
is new, the context with the oldest timestamp goes. Over runs of updates, the
pool answers for a point with its last update, unless the point went since.
-/

namespace McpGateway.Tcm

open McpGateway.Lib

/-- `tcm_state_pool_init`; `psram` and `internal` say whether the memory is there. -/
def tcmStatePoolInit (psram internal : Bool) : Option StatePool :=
  if psram then some (.empty ammMaxMappingEntries)
  else if internal then some (.empty ammFallbackMappingEntries)
  else none

namespace StatePool

def keys (p : StatePool) : List (CStr × CStr) := p.states.map TcmContext.names

def update (p : StatePool) (ctx : TcmContext) : StatePool := tcmStatePoolUpdate ctx p

/-- The update takes the point `k` out of the pool. -/
def Evicts (p : StatePool) (ctx : TcmContext) (k : CStr × CStr) : Prop :=
  k ∈ p.keys ∧ k ∉ (p.update ctx).keys

/-- The update neither is for the point `k` nor takes it out. -/
def Spares (k : CStr × CStr) (p : StatePool) (ctx : TcmContext) : Prop :=
  ctx.names ≠ k ∧ ¬ p.Evicts ctx k

/-- `ctx` is the last of the updates for its point, and the point stayed from then on. -/
def LastUpdate (p : StatePool) (updates : List TcmContext) (ctx : TcmContext) : Prop :=
  ∃ earlier later, updates = earlier ++ ctx :: later ∧
    AllSteps update (Spares ctx.names) (run update p (earlier ++ [ctx])) later

/-! ## The oldest slot -/

/-- What the loop finds: a slot whose timestamp is at most all those seen. -/
theorem oldestLoop_le {best : Int} {seen rest : List TcmContext} {oldest : Nat}
    (hslot : ∃ s ∈ seen[oldest]?, s.timestampMs = best) (hbest : ∀ s ∈ seen, best ≤ s.timestampMs) :
    ∃ s ∈ (seen ++ rest)[oldestLoop rest seen.length oldest best]?,
      ∀ s' ∈ seen ++ rest, s.timestampMs ≤ s'.timestampMs := by
  induction rest generalizing seen oldest best with
  | nil =>
    obtain ⟨s, hs, rfl⟩ := hslot
    rw [List.append_nil]
    exact ⟨s, hs, hbest⟩
  | cons r rest ih =>
    have hsplit : seen ++ r :: rest = (seen ++ [r]) ++ rest := by simp
    have hlength : seen.length + 1 = (seen ++ [r]).length := by simp
    rw [oldestLoop, hsplit, hlength]
    split
    · rename_i hlt
      refine ih ⟨r, List.getElem?_concat_length, rfl⟩ fun s hs => ?_
      rcases List.mem_append.1 hs with hs | hs
      · exact hlt.le.trans (hbest s hs)
      · rw [List.mem_singleton.1 hs]
    · rename_i hle
      obtain ⟨s, hs, hts⟩ := hslot
      refine ih ⟨s, ?_, hts⟩ fun s' hs' => ?_
      · rw [Option.mem_def] at hs ⊢
        rw [List.getElem?_append_left (List.getElem?_eq_some_iff.1 hs).1, hs]
      · rcases List.mem_append.1 hs' with hs' | hs'
        · exact hbest s' hs'
        · rw [List.mem_singleton.1 hs']
          exact not_lt.1 hle

theorem oldestSlot_le {states : List TcmContext} (h : states ≠ []) :
    ∃ s ∈ states[oldestSlot states]?, ∀ s' ∈ states, s.timestampMs ≤ s'.timestampMs := by
  cases states with
  | nil => exact absurd rfl h
  | cons s ss =>
    refine @oldestLoop_le s.timestampMs [s] ss 0 ⟨s, rfl, rfl⟩ fun s' hs' => ?_
    rw [List.mem_singleton.1 hs']

/-! ## One update -/

variable {p : StatePool} {ctx s : TcmContext} {k : CStr × CStr}

theorem mem_keys : k ∈ p.keys ↔ ∃ s ∈ p.states, s.names = k := List.mem_map

/-- Contexts with the same names in a pool without duplicates are the same. -/
theorem eq_of_names (hn : p.keys.Nodup) {s s' : TcmContext} (hs : s ∈ p.states)
    (hs' : s' ∈ p.states) (h : s.names = s'.names) : s = s' :=
  List.inj_on_of_nodup_map hn hs hs' h

theorem get_eq_some_iff (hn : p.keys.Nodup) (deviceId pointId : CStr) :
    tcmStatePoolGet deviceId pointId p = some s ↔ s ∈ p.states ∧ s.names = (deviceId, pointId) := by
  unfold tcmStatePoolGet
  constructor
  · intro h
    have hnames := List.find?_some h
    exact ⟨List.mem_of_find?_eq_some h, of_decide_eq_true hnames⟩
  · rintro ⟨hs, hnames⟩
    obtain ⟨s', hs'⟩ := Option.isSome_iff_exists.1
      ((List.find?_isSome (p := fun s => decide (s.names = (deviceId, pointId)))).2
        ⟨s, hs, decide_eq_true hnames⟩)
    have hnames' := List.find?_some hs'
    rw [hs', eq_of_names hn (List.mem_of_find?_eq_some hs') hs]
    exact (of_decide_eq_true hnames').trans hnames.symm

/-- There is a slot, and no point has two. -/
structure Sound (p : StatePool) : Prop where
  slots : 0 < p.capacity
  distinct : p.keys.Nodup

/-- **An update, case by case.** It replaces the context of its point; or adds
one, while there is room; or replaces the oldest one. -/
theorem update_cases (hcap : 0 < p.capacity) (ctx : TcmContext) :
    (∃ i s, p.states[i]? = some s ∧ s.names = ctx.names ∧
        (p.update ctx).states = p.states.set i ctx) ∨
      ctx.names ∉ p.keys ∧ p.states.length < p.capacity ∧
        (p.update ctx).states = p.states ++ [ctx] ∨
      ctx.names ∉ p.keys ∧ p.states.length = p.capacity ∧
        ∃ i s, p.states[i]? = some s ∧ (∀ s' ∈ p.states, s.timestampMs ≤ s'.timestampMs) ∧
          (p.update ctx).states = p.states.set i ctx := by
  show (∃ i s, _ ∧ _ ∧ updateStates p.capacity ctx p.states = _) ∨
    _ ∧ _ ∧ updateStates p.capacity ctx p.states = _ ∨
    _ ∧ _ ∧ ∃ i s, _ ∧ _ ∧ updateStates p.capacity ctx p.states = _
  unfold updateStates
  cases hfind : p.states.findIdx? fun s => s.names = ctx.names with
  | some i =>
    obtain ⟨hlt, hnames, -⟩ := List.findIdx?_eq_some_iff_getElem.1 hfind
    exact .inl ⟨i, _, List.getElem?_eq_getElem hlt, of_decide_eq_true hnames, rfl⟩
  | none =>
    have hnew : ctx.names ∉ p.keys := by
      rw [mem_keys]
      rintro ⟨s, hs, hnames⟩
      exact absurd (List.findIdx?_eq_none_iff.1 hfind s hs) (by simp [hnames])
    by_cases hroom : p.states.length < p.capacity
    · exact .inr (.inl ⟨hnew, hroom, if_pos hroom⟩)
    · have hfull : p.states.length = p.capacity := le_antisymm p.fits (not_lt.1 hroom)
      have hne : p.states ≠ [] := List.ne_nil_of_length_pos (hfull ▸ hcap)
      obtain ⟨s, hs, hle⟩ := oldestSlot_le hne
      exact .inr (.inr ⟨hnew, hfull, _, s, hs, hle, if_neg hroom⟩)

/-- A context of the same point in a slot changes no point. -/
theorem map_names_set {l : List TcmContext} {i : Nat} (hs : l[i]? = some s)
    (hnames : s.names = ctx.names) :
    (l.set i ctx).map TcmContext.names = l.map TcmContext.names := by
  obtain ⟨hlt, rfl⟩ := List.getElem?_eq_some_iff.1 hs
  have hlt' : i < (l.map TcmContext.names).length := by rwa [List.length_map]
  have hself := List.set_getElem_self hlt'
  rw [List.getElem_map, hnames] at hself
  rw [List.map_set, hself]

theorem Sound.next (h : p.Sound) (ctx : TcmContext) : (p.update ctx).Sound := by
  refine ⟨h.slots, ?_⟩
  have hn : (p.states.map TcmContext.names).Nodup := h.distinct
  unfold keys
  rcases update_cases h.slots ctx with ⟨i, s, hs, hnames, heq⟩ | ⟨hnew, -, heq⟩ |
    ⟨hnew, -, i, s, -, -, heq⟩
  · rw [heq, map_names_set hs hnames]
    exact hn
  · rw [heq, List.map_append, List.map_singleton, ← List.concat_eq_append]
    exact hn.concat hnew
  · rw [heq, List.map_set]
    exact hn.set hnew

theorem self_mem_update (hcap : 0 < p.capacity) (ctx : TcmContext) :
    ctx ∈ (p.update ctx).states := by
  rcases update_cases hcap ctx with ⟨i, s, hs, -, heq⟩ | ⟨-, -, heq⟩ | ⟨-, -, i, s, hs, -, heq⟩
  · rw [heq]
    exact List.mem_set (List.getElem?_eq_some_iff.1 hs).1 ctx
  · rw [heq]
    exact List.mem_append_right _ List.mem_cons_self
  · rw [heq]
    exact List.mem_set (List.getElem?_eq_some_iff.1 hs).1 ctx

theorem mem_of_mem_update (hcap : 0 < p.capacity) (h : s ∈ (p.update ctx).states) :
    s ∈ p.states ∨ s = ctx := by
  rcases update_cases hcap ctx with ⟨i, s', -, -, heq⟩ | ⟨-, -, heq⟩ | ⟨-, -, i, s', -, -, heq⟩
  · exact List.mem_or_eq_of_mem_set (heq ▸ h)
  · rw [heq, List.mem_append, List.mem_singleton] at h
    exact h
  · exact List.mem_or_eq_of_mem_set (heq ▸ h)

/-- **The contexts after an update**: the new one, and those it spares. -/
theorem Sound.mem_update_iff (hp : p.Sound) :
    s ∈ (p.update ctx).states ↔ s = ctx ∨ s ∈ p.states ∧ Spares s.names p ctx := by
  have hself := self_mem_update hp.slots ctx
  constructor
  · intro h
    by_cases hs : s = ctx
    · exact .inl hs
    · refine .inr ⟨(mem_of_mem_update hp.slots h).resolve_right hs, fun hnames => hs ?_, fun he => ?_⟩
      · exact eq_of_names (hp.next ctx).distinct h hself hnames.symm
      · exact he.2 (mem_keys.2 ⟨s, h, rfl⟩)
  · rintro (rfl | ⟨hs, hne, hspared⟩)
    · exact hself
    · have hkey : s.names ∈ (p.update ctx).keys := by
        by_contra hgone
        exact hspared ⟨mem_keys.2 ⟨s, hs, rfl⟩, hgone⟩
      obtain ⟨s', hs', hnames⟩ := mem_keys.1 hkey
      rcases mem_of_mem_update hp.slots hs' with hold | rfl
      · rwa [← eq_of_names hp.distinct hold hs hnames]
      · exact absurd hnames hne

theorem evicts_oldest (hcap : 0 < p.capacity) (hs : s ∈ p.states) (he : p.Evicts ctx s.names) :
    ctx.names ∉ p.keys ∧ p.states.length = p.capacity ∧
      ∀ s' ∈ p.states, s.timestampMs ≤ s'.timestampMs := by
  have hgone : s ∉ (p.update ctx).states := fun h => he.2 (mem_keys.2 ⟨s, h, rfl⟩)
  rcases update_cases hcap ctx with ⟨i, s', hs', hnames, heq⟩ | ⟨-, -, heq⟩ |
    ⟨hnew, hfull, i, s', hs', hle, heq⟩
  · refine absurd ?_ he.2
    rw [keys, heq, map_names_set hs' hnames]
    exact he.1
  · exact absurd (heq ▸ List.mem_append_left _ hs) hgone
  · refine ⟨hnew, hfull, ?_⟩
    obtain ⟨j, hj⟩ := List.mem_iff_getElem?.1 hs
    by_cases hij : i = j
    · rw [← hij, hs'] at hj
      exact Option.some.inj hj ▸ hle
    · refine absurd (List.mem_iff_getElem?.2 ⟨j, ?_⟩) hgone
      rw [heq, List.getElem?_set_ne hij, hj]

/-! ## Runs of updates -/

theorem run_capacity (updates : List TcmContext) :
    (run update p updates).capacity = p.capacity := by
  induction updates generalizing p with
  | nil => rfl
  | cons ctx updates ih => exact ih

theorem Sound.reached (h : p.Sound) (updates : List TcmContext) :
    (run update p updates).Sound := by
  induction updates generalizing p with
  | nil => exact h
  | cons ctx updates ih => exact ih (h.next ctx)

/-- **The contexts after a run** are the last updates of the points that stayed. -/
theorem Sound.mem_run_iff (h : p.Sound) (hempty : p.states = []) (updates : List TcmContext) :
    s ∈ (run update p updates).states ↔ LastUpdate p updates s := by
  induction updates using List.reverseRecOn with
  | nil =>
    rw [run_nil, hempty]
    refine iff_of_false List.not_mem_nil ?_
    rintro ⟨earlier, later, heq, -⟩
    exact List.append_ne_nil_of_right_ne_nil earlier (List.cons_ne_nil s later) heq.symm
  | append_singleton updates ctx ih =>
    rw [run_concat, (h.reached updates).mem_update_iff, ih]
    constructor
    · rintro (rfl | ⟨⟨earlier, later, rfl, hspared⟩, hctx⟩)
      · exact ⟨updates, [], rfl, trivial⟩
      · refine ⟨earlier, later ++ [ctx], by simp, (allSteps_append _ _ _).2 ⟨hspared, ?_, trivial⟩⟩
        rwa [← run_append, List.append_assoc]
    · rintro ⟨earlier, later, heq, hspared⟩
      rcases List.eq_nil_or_concat later with rfl | ⟨before, last, rfl⟩
      · exact .inl (List.append_singleton_inj.1 heq).2.symm
      · rw [List.concat_eq_append] at heq hspared
        have hsplit : updates ++ [ctx] = (earlier ++ s :: before) ++ [last] := by simpa using heq
        obtain ⟨rfl, rfl⟩ := List.append_singleton_inj.1 hsplit
        obtain ⟨hbefore, hlast, -⟩ := (allSteps_append _ _ _).1 hspared
        rw [← run_append, List.append_assoc] at hlast
        exact .inr ⟨⟨earlier, before, rfl, hbefore⟩, hlast⟩

theorem Sound.keys_subset (h : p.Sound) (hempty : p.states = []) (updates : List TcmContext) :
    (run update p updates).keys ⊆ updates.map TcmContext.names := by
  intro k hk
  obtain ⟨s, hs, rfl⟩ := mem_keys.1 hk
  obtain ⟨earlier, later, rfl, -⟩ := (h.mem_run_iff hempty updates).1 hs
  exact List.mem_map_of_mem (List.mem_append_right _ List.mem_cons_self)

theorem Sound.few_points (h : p.Sound) (hempty : p.states = []) {updates : List TcmContext}
    (hfew : (updates.map TcmContext.names).toFinset.card ≤ p.capacity) :
    AllSteps update (fun p ctx => ∀ k, ¬ p.Evicts ctx k) p updates := by
  rw [allSteps_iff_split]
  rintro earlier ctx later rfl k he
  have hreached := h.reached earlier
  obtain ⟨s, hs, rfl⟩ := mem_keys.1 he.1
  obtain ⟨hnew, hfull, -⟩ := evicts_oldest hreached.slots hs he
  rw [run_capacity] at hfull
  have hsub : insert ctx.names (run update p earlier).keys.toFinset ⊆
      ((earlier ++ ctx :: later).map TcmContext.names).toFinset := by
    intro k hk
    rw [List.mem_toFinset, List.map_append, List.mem_append]
    rcases Finset.mem_insert.1 hk with rfl | hk
    · exact .inr List.mem_cons_self
    · exact .inl (h.keys_subset hempty earlier (List.mem_toFinset.1 hk))
  have hcard := Finset.card_le_card hsub
  rw [Finset.card_insert_of_notMem (by rwa [List.mem_toFinset]),
    List.toFinset_card_of_nodup hreached.distinct, keys, List.length_map, hfull] at hcard
  omega

theorem Sound.oldest_first (h : p.Sound) (updates : List TcmContext) :
    AllSteps update (fun p ctx => ∀ s ∈ p.states, p.Evicts ctx s.names →
      ∀ s' ∈ p.states, s.timestampMs ≤ s'.timestampMs) p updates := by
  rw [allSteps_iff_split]
  rintro earlier ctx later rfl s hs he
  exact (evicts_oldest (h.reached earlier).slots hs he).2.2

theorem init_spec {psram internal : Bool} (h : tcmStatePoolInit psram internal = some p) :
    p.Sound ∧ p.states = [] := by
  unfold tcmStatePoolInit at h
  split at h
  · obtain rfl := Option.some.inj h
    exact ⟨⟨by decide, List.nodup_nil⟩, rfl⟩
  · split at h
    · obtain rfl := Option.some.inj h
      exact ⟨⟨by decide, List.nodup_nil⟩, rfl⟩
    · cases h

/-- **The pool is a map of last values.** -/
theorem last_value_map {psram internal : Bool} (h : tcmStatePoolInit psram internal = some p)
    (updates : List TcmContext) :
    (run update p updates).keys.Nodup ∧
      (run update p updates).states.length ≤ p.capacity ∧
      (∀ deviceId pointId s,
        tcmStatePoolGet deviceId pointId (run update p updates) = some s ↔
          LastUpdate p updates s ∧ s.names = (deviceId, pointId)) ∧
      ((updates.map TcmContext.names).toFinset.card ≤ p.capacity →
        AllSteps update (fun p ctx => ∀ k, ¬ p.Evicts ctx k) p updates) ∧
      AllSteps update (fun p ctx => ∀ s ∈ p.states, p.Evicts ctx s.names →
        ∀ s' ∈ p.states, s.timestampMs ≤ s'.timestampMs) p updates := by
  obtain ⟨hsound, hempty⟩ := init_spec h
  refine ⟨(hsound.reached updates).distinct, ?_, fun deviceId pointId s => ?_,
    hsound.few_points hempty, hsound.oldest_first updates⟩
  · rw [← run_capacity (p := p) updates]
    exact (run update p updates).fits
  · rw [get_eq_some_iff (hsound.reached updates).distinct, hsound.mem_run_iff hempty]

def stamped (deviceId pointId : CStr) (timestampMs : Nat) : TcmContext :=
  { TcmContext.zero with
    deviceId := .copy 32 deviceId
    pointId := .copy 32 pointId
    timestampMs := timestampMs }

/-- Three points of two devices, the first one updated again before the last update. -/
def boilerUpdates : List TcmContext :=
  [stamped "boiler".toList "temp".toList 5, stamped "boiler".toList "flow".toList 6,
    stamped "pump".toList "temp".toList 7, stamped "boiler".toList "temp".toList 8,
    stamped "pump".toList "temp".toList 9]

theorem last_value_map_boiler :
    tcmStatePoolGet "boiler".toList "temp".toList (run update (.empty 1000) boilerUpdates) =
        some (stamped "boiler".toList "temp".toList 8) ∧
      tcmStatePoolGet "pump".toList "flow".toList (run update (.empty 1000) boilerUpdates) =
        none := by
  obtain ⟨-, -, hget, -⟩ := last_value_map (show tcmStatePoolInit true true = some (.empty 1000)
    from rfl) boilerUpdates
  refine ⟨(hget _ _ _).2 ⟨⟨boilerUpdates.take 3, boilerUpdates.drop 4, rfl, ?_⟩, by decide⟩, ?_⟩
  · refine ⟨⟨by decide, ?_⟩, trivial⟩
    unfold Evicts
    decide +kernel
  · rw [Option.eq_none_iff_forall_not_mem]
    intro s hs
    obtain ⟨⟨earlier, later, hsplit, -⟩, hnames⟩ := (hget _ _ s).1 hs
    have hmem : s.names ∈ boilerUpdates.map TcmContext.names :=
      List.mem_map_of_mem (hsplit ▸ List.mem_append_right _ List.mem_cons_self)
    rw [hnames] at hmem
    exact absurd hmem (by decide)

end StatePool

end McpGateway.Tcm
