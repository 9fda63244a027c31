import McpGateway.Amm.Store
import McpGateway.Scheduler.Pipeline

/-!
# Fair polling

`modbus_poll_task` selects, of the mappings whose interval is over, the one
polled longest ago; the priority only breaks ties. An interval is never 0, so a
mapping that is polled while another one waits ends with a later poll time than
the waiting one and is not selected again before it: `polling_fair`.
-/

namespace McpGateway.Scheduler

open McpGateway.Lib McpGateway.Tcm McpGateway.Amm McpGateway.Modbus

theorem effectiveInterval_pos {dflt : UInt32} (h : dflt ≠ 0) (e : AmmMappingEntry) :
    0 < (effectiveInterval dflt e).toNat := by
  have hne : effectiveInterval dflt e ≠ 0 := by
    unfold effectiveInterval
    split
    · assumption
    · exact h
  exact Nat.pos_of_ne_zero fun hzero => hne (UInt32.toNat_inj.1 hzero)

/-! ## Oldest first -/

section Select

variable {dflt : UInt32} {now : Int} {last : Nat → Int} {es : List AmmMappingEntry} {i : Nat}
  {selected : Option (Nat × AmmMappingEntry)}

def IntervalOver (dflt : UInt32) (now : Int) (last : Nat → Int) (i : Nat) (e : AmmMappingEntry) :
    Prop :=
  ((effectiveInterval dflt e).toNat : Int) ≤ now - last i

/-- An entry that is not preferred was polled later than the selected one, or as late. -/
theorem last_le_of_not_preferred {k : Nat} {e s : AmmMappingEntry}
    (h : preferred last i e (some (k, s)) = false) : last k ≤ last i := by
  unfold preferred at h
  simp only [Bool.or_eq_false_iff, decide_eq_false_iff_not, not_lt] at h
  exact h.1

theorem last_le_of_preferred {k : Nat} {e s : AmmMappingEntry}
    (h : preferred last i e (some (k, s)) = true) : last i ≤ last k := by
  unfold preferred at h
  rw [Bool.or_eq_true, decide_eq_true_iff, Bool.and_eq_true, decide_eq_true_iff] at h
  rcases h with hlt | ⟨heq, -⟩
  · exact hlt.le
  · exact heq.le

theorem selectLoop_of_selected {k : Nat} {s : AmmMappingEntry} :
    ∃ r, selectLoop dflt now last es i (some (k, s)) = some r ∧ last r.1 ≤ last k := by
  induction es generalizing i k s with
  | nil => exact ⟨(k, s), rfl, le_refl _⟩
  | cons e es ih =>
    rw [selectLoop]
    split
    · exact ih
    · split
      · rename_i hpreferred
        obtain ⟨r, hr, hle⟩ := @ih (i + 1) i e
        exact ⟨r, hr, hle.trans (last_le_of_preferred hpreferred)⟩
      · exact ih

/-- **Oldest first**: no due mapping was polled before the selected one. -/
theorem selectLoop_oldest (selected : Option (Nat × AmmMappingEntry)) {j : Nat}
    {e : AmmMappingEntry} (hj : es[j]? = some e) (hover : IntervalOver dflt now last (i + j) e) :
    ∃ r, selectLoop dflt now last es i selected = some r ∧ last r.1 ≤ last (i + j) := by
  induction es generalizing i j selected with
  | nil =>
    rw [List.getElem?_nil] at hj
    cases hj
  | cons x es ih =>
    rw [selectLoop]
    cases j with
    | zero =>
      obtain rfl := Option.some.inj hj
      have hdue : ¬ now - last i < ((effectiveInterval dflt x).toNat : Int) := not_lt.2 hover
      rw [if_neg hdue]
      split
      · exact selectLoop_of_selected
      · rename_i hnot
        cases selected with
        | none => exact absurd rfl hnot
        | some s =>
          obtain ⟨r, hr, hle⟩ := @selectLoop_of_selected dflt now last es (i + 1) s.1 s.2
          exact ⟨r, hr, hle.trans (last_le_of_not_preferred (Bool.eq_false_of_not_eq_true hnot))⟩
    | succ j =>
      rw [List.getElem?_cons_succ] at hj
      have hshift : i + (j + 1) = i + 1 + j := by omega
      rw [hshift] at hover ⊢
      split
      · exact ih _ hj hover
      · split
        · exact ih _ hj hover
        · exact ih _ hj hover

theorem selectLoop_lt {r : Nat × AmmMappingEntry}
    (h : selectLoop dflt now last es i selected = some r) :
    r.1 < i + es.length ∨ selected = some r := by
  induction es generalizing i selected with
  | nil => exact .inr h
  | cons e es ih =>
    rw [selectLoop] at h
    rw [List.length_cons]
    split at h
    · exact (ih h).imp_left fun hlt => by omega
    · split at h
      · rcases ih h with hlt | heq
        · exact .inl (by omega)
        · obtain rfl := Option.some.inj heq
          exact .inl (by show i < _; omega)
      · exact (ih h).imp_left fun hlt => by omega

end Select

/-! ## Runs over a fixed table -/

/-- The step does not change the table. -/
def PipelineStep.Fixed : PipelineStep → Prop
  | .mutate _ => False
  | _ => True

def loopTimes (steps : List PipelineStep) : List Int :=
  steps.filterMap fun
    | .select nowMs => some nowMs
    | _ => none

namespace Pipeline

def polled (s : Pipeline) : PipelineStep → Option Nat
  | .select nowMs => (s.selection nowMs).map Prod.fst
  | _ => none

def loops (s : Pipeline) : PipelineStep → Nat
  | .select _ => match s.poll with
    | .copied _ => 1
    | _ => 0
  | _ => 0

/-- Mapping `j` is due at a time. -/
def Due (s : Pipeline) (t : Int) (j : Nat) : Prop :=
  ∃ e, s.amm.entries[j]? = some e ∧ IntervalOver s.amm.defaultPollMs t (refreshedLast s) j e

/-- The loop works on a copy of the present table. -/
def Fresh (s : Pipeline) : Prop := ∀ mappings, s.poll = .copied mappings → mappings = s.amm.entries

/-- Mapping `i` was polled later than mapping `j`. -/
def Later (j : Nat) (s : Pipeline) (i : Nat) : Prop := refreshedLast s j < refreshedLast s i

section Step

variable {s : Pipeline} {a : PipelineStep} {j : Nat} {t : Int}

/-- What a step over a fixed table keeps. -/
structure Kept (s s' : Pipeline) : Prop where
  amm : s'.amm = s.amm
  last : refreshedLast s' = refreshedLast s

theorem refreshedLast_congr {s' : Pipeline} (hamm : s'.amm = s.amm)
    (hlast : s'.lastPollMs = s.lastPollMs) (hobserved : s'.observedVersion = s.observedVersion) :
    refreshedLast s' = refreshedLast s := by
  rw [refreshedLast, refreshedLast, hamm, hlast, hobserved]

/-- A step that polls nothing keeps the poll times. -/
theorem step_kept (hfixed : a.Fixed) (h : s.polled a = none) :
    Kept s (s.step a) ∧ (s.Fresh → (s.step a).Fresh) := by
  have hmove : ∀ {s' : Pipeline}, s'.amm = s.amm → s'.lastPollMs = s.lastPollMs →
      s'.observedVersion = s.observedVersion →
      (s'.poll = s.poll ∨ ∀ m, s'.poll = .copied m → m = s.amm.entries) →
      Kept s s' ∧ (s.Fresh → s'.Fresh) := by
    intro s' hamm hlast hobserved hpoll
    refine ⟨⟨hamm, refreshedLast_congr hamm hlast hobserved⟩, fun hfresh m hm => ?_⟩
    rw [hamm]
    rcases hpoll with hsame | hnew
    · exact hfresh m (hsame ▸ hm)
    · exact hnew m hm
  cases a with
  | mutate op => exact hfixed.elim
  | copy =>
    show Kept s s.copy ∧ (s.Fresh → s.copy.Fresh)
    unfold Pipeline.copy
    split
    · exact hmove rfl rfl rfl (.inr fun m hm => (PollTask.copied.inj hm).symm)
    · exact hmove rfl rfl rfl (.inl rfl)
  | select nowMs =>
    show Kept s (s.select nowMs) ∧ (s.Fresh → (s.select nowMs).Fresh)
    have hnone : s.selection nowMs = none := Option.map_eq_none_iff.1 h
    unfold Pipeline.select
    split
    · rw [hnone]
      refine ⟨⟨rfl, ?_⟩, fun _ m hm => by cases hm⟩
      exact if_neg (not_not.2 rfl)
    · exact hmove rfl rfl rfl (.inl rfl)
  | answer reply net =>
    show Kept s (s.answer reply net) ∧ (s.Fresh → (s.answer reply net).Fresh)
    unfold Pipeline.answer
    split
    · exact hmove rfl rfl rfl (.inr fun m hm => by cases hm)
    · exact hmove rfl rfl rfl (.inl rfl)
  | send =>
    show Kept s s.send ∧ (s.Fresh → s.send.Fresh)
    unfold Pipeline.send
    split
    · exact hmove rfl rfl rfl (.inr fun m hm => by cases hm)
    · exact hmove rfl rfl rfl (.inl rfl)
  | receive =>
    show Kept s s.receive ∧ (s.Fresh → s.receive.Fresh)
    unfold Pipeline.receive
    split <;> exact hmove rfl rfl rfl (.inl rfl)
  | build env net =>
    show Kept s (s.buildStep env net) ∧ (s.Fresh → (s.buildStep env net).Fresh)
    unfold Pipeline.buildStep
    split
    · split <;> exact hmove rfl rfl rfl (.inl rfl)
    · exact hmove rfl rfl rfl (.inl rfl)
  | store =>
    show Kept s s.store ∧ (s.Fresh → s.store.Fresh)
    unfold Pipeline.store
    split <;> exact hmove rfl rfl rfl (.inl rfl)
  | push =>
    show Kept s s.push ∧ (s.Fresh → s.push.Fresh)
    unfold Pipeline.push
    split <;> exact hmove rfl rfl rfl (.inl rfl)
  | publish => exact hmove rfl rfl rfl (.inl rfl)

/-- A step that polls mapping `i` is a loop, and sets the poll time of `i`. -/
theorem step_polled {i : Nat} (h : s.polled a = some i) :
    ∃ nowMs mappings e, a = .select nowMs ∧ s.poll = .copied mappings ∧
      selectLoop s.amm.defaultPollMs nowMs (refreshedLast s) mappings 0 none = some (i, e) ∧
        (s.step a).amm = s.amm ∧ (s.step a).Fresh ∧
          refreshedLast (s.step a) = Function.update (refreshedLast s) i nowMs := by
  cases a with
  | select nowMs =>
    obtain ⟨r, hselection, hr⟩ := Option.map_eq_some_iff.1 h
    obtain rfl : r.1 = i := hr
    have hselect := hselection
    unfold Pipeline.selection at hselection
    split at hselection
    · rename_i mappings hpoll
      refine ⟨nowMs, mappings, r.2, rfl, hpoll, hselection, ?_⟩
      have hstep : s.step (.select nowMs) = { s with
          poll := .selected r.2 nowMs
          lastPollMs := Function.update (refreshedLast s) r.1 nowMs
          observedVersion := s.amm.modelVersion } := by
        show s.select nowMs = _
        simp only [Pipeline.select, hpoll, hselect]
      rw [hstep]
      refine ⟨rfl, fun m hm => (by cases hm), ?_⟩
      exact if_neg (not_not.2 rfl)
    · cases hselection
  | _ => cases h

theorem not_later_of_polled {i : Nat} {nowMs : Int} (hfresh : s.Fresh)
    (hdue : s.Due nowMs j) (h : s.polled (.select nowMs) = some i) : ¬ Later j s i := by
  obtain ⟨now, mappings, e, heq, hpoll, hloop, -⟩ := step_polled h
  obtain rfl := PipelineStep.select.inj heq
  obtain ⟨x, hx, hover⟩ := hdue
  rw [hfresh mappings hpoll] at hloop
  rw [← Nat.zero_add j] at hover
  obtain ⟨r, hr, hle⟩ := selectLoop_oldest none hx hover
  rw [hloop] at hr
  obtain rfl := Option.some.inj hr
  rw [Nat.zero_add] at hle
  exact not_lt.2 hle

end Step

/-! ## While a mapping waits -/

/-- Mapping `j` is due, and stays so until it is polled. -/
structure Waiting (j : Nat) (s : Pipeline) (steps : List PipelineStep) : Prop where
  range : PollRange s.amm
  fresh : s.Fresh
  fixed : ∀ a ∈ steps, a.Fixed
  due : ∃ t, s.Due t j ∧ (t :: loopTimes steps).Pairwise (· ≤ ·)

section Waiting

variable {s : Pipeline} {a : PipelineStep} {steps : List PipelineStep} {j : Nat}

theorem Due.mono {t u : Int} (h : s.Due t j) (hle : t ≤ u) : s.Due u j := by
  obtain ⟨e, he, hover⟩ := h
  refine ⟨e, he, ?_⟩
  unfold IntervalOver at hover ⊢
  omega

theorem Due.last_lt {t : Int} (h : s.Due t j) (hrange : PollRange s.amm) :
    refreshedLast s j < t := by
  obtain ⟨e, -, hover⟩ := h
  have hpos := effectiveInterval_pos hrange.ne_zero e
  unfold IntervalOver at hover
  omega

theorem Due.congr {s' : Pipeline} {t : Int} (hamm : s'.amm = s.amm)
    (hlast : refreshedLast s' j = refreshedLast s j) (h : s.Due t j) : s'.Due t j := by
  obtain ⟨e, he, hover⟩ := h
  refine ⟨e, hamm ▸ he, ?_⟩
  unfold IntervalOver at hover ⊢
  rw [hamm, hlast]
  exact hover

theorem loopTimes_cons (a : PipelineStep) (steps : List PipelineStep) :
    loopTimes (a :: steps) = loopTimes [a] ++ loopTimes steps := by
  rw [loopTimes, ← List.singleton_append, List.filterMap_append]
  rfl

theorem Waiting.due_now {nowMs : Int} (h : Waiting j s (.select nowMs :: steps)) :
    s.Due nowMs j := by
  obtain ⟨t, hdue, htimes⟩ := h.due
  exact hdue.mono (List.rel_of_pairwise_cons htimes List.mem_cons_self)

theorem Waiting.later {nowMs : Int} (h : Waiting j s (.select nowMs :: steps)) :
    refreshedLast s j < nowMs := h.due_now.last_lt h.range

/-- **One step of the wait**: the mapping stays due, and what was polled later
than it stays so. -/
theorem Waiting.step (h : Waiting j s (a :: steps)) (hj : j ∉ s.polled a) :
    Waiting j (s.step a) steps ∧ ∀ v, Later j s v → Later j (s.step a) v := by
  have hfixed : ∀ b ∈ steps, b.Fixed := fun b hb => h.fixed b (List.mem_cons_of_mem a hb)
  obtain ⟨t, hdue, htimes⟩ := h.due
  rw [loopTimes_cons] at htimes
  have hrest : (t :: loopTimes steps).Pairwise (· ≤ ·) :=
    htimes.sublist ((List.sublist_append_right _ _).cons_cons t)
  cases hpolled : s.polled a with
  | none =>
    obtain ⟨hkept, hfresh⟩ := step_kept (h.fixed a List.mem_cons_self) hpolled
    refine ⟨⟨hkept.amm ▸ h.range, hfresh h.fresh, hfixed, t, ?_, hrest⟩, fun v hv => ?_⟩
    · exact hdue.congr hkept.amm (by rw [hkept.last])
    · rw [Later, hkept.last]
      exact hv
  | some i =>
    obtain ⟨nowMs, mappings, e, rfl, -, -, hamm, hfresh, hlast⟩ := step_polled hpolled
    have hne : j ≠ i := fun heq => hj (heq ▸ hpolled)
    have hsame : refreshedLast (s.step (.select nowMs)) j = refreshedLast s j := by
      rw [hlast, Function.update_of_ne hne]
    refine ⟨⟨hamm ▸ h.range, hfresh, hfixed, t, hdue.congr hamm hsame, hrest⟩, fun v hv => ?_⟩
    rw [Later, hsame, hlast]
    by_cases hv' : v = i
    · rw [hv', Function.update_self]
      exact h.later
    · rw [Function.update_of_ne hv']
      exact hv

/-- **One poll of the wait**: the polled mapping was not polled later before, and is now. -/
theorem Waiting.picks {i : Nat} (h : Waiting j s (a :: steps)) (hi : i ∈ s.polled a)
    (hne : i ≠ j) : ¬ Later j s i ∧ Later j (s.step a) i := by
  obtain ⟨nowMs, mappings, e, rfl, -, -, -, -, hlast⟩ := step_polled hi
  refine ⟨not_later_of_polled h.fresh h.due_now hi, ?_⟩
  rw [Later, hlast, Function.update_self, Function.update_of_ne (Ne.symm hne)]
  exact h.later

theorem Waiting.loop (h : Waiting j s (a :: steps)) :
    (s.polled a).toList.length = s.loops a := by
  cases a with
  | select nowMs =>
    obtain ⟨x, hx, hover⟩ := h.due_now
    cases hpoll : s.poll with
    | copied mappings =>
      rw [← Nat.zero_add j] at hover
      obtain ⟨r, hr, -⟩ := selectLoop_oldest none hx hover
      have hselection : s.selection nowMs = some r := by
        rw [selection, hpoll, h.fresh mappings hpoll]
        exact hr
      have hpolled : s.polled (.select nowMs) = some r.1 := by
        rw [polled, hselection]
        rfl
      rw [hpolled]
      simp only [loops, hpoll]
      rfl
    | _ => simp [polled, selection, loops, hpoll]
  | _ => rfl

theorem polled_lt (hfresh : s.Fresh) {i : Nat} (h : i ∈ s.polled a) : i < s.amm.entries.length := by
  obtain ⟨nowMs, mappings, e, rfl, hpoll, hloop, -⟩ := step_polled h
  rw [hfresh mappings hpoll] at hloop
  rcases selectLoop_lt hloop with hlt | hnone
  · exact (Nat.zero_add s.amm.entries.length) ▸ hlt
  · cases hnone

theorem step_fixed (hfixed : a.Fixed) (hfresh : s.Fresh) :
    (s.step a).Fresh ∧ (s.step a).amm = s.amm := by
  cases hpolled : s.polled a with
  | none =>
    obtain ⟨hkept, hkeeps⟩ := step_kept hfixed hpolled
    exact ⟨hkeeps hfresh, hkept.amm⟩
  | some i =>
    obtain ⟨-, -, -, -, -, -, hamm, hfresh', -⟩ := step_polled hpolled
    exact ⟨hfresh', hamm⟩

theorem pollRange_run (h : PollRange s.amm) (steps : List PipelineStep) :
    PollRange (run Pipeline.step s steps).amm := by
  induction steps generalizing s with
  | nil => exact h
  | cons a steps ih =>
    refine ih ?_
    by_cases hfixed : a.Fixed
    · cases hpolled : s.polled a with
      | none => exact (step_kept hfixed hpolled).1.amm ▸ h
      | some i =>
        obtain ⟨-, -, -, -, -, -, hamm, -⟩ := step_polled hpolled
        exact hamm ▸ h
    · cases a with
      | mutate op => exact h.apply op
      | _ => exact absurd trivial hfixed

end Waiting

/-- The device after `amm_load_from_nvs`, before its first loop. -/
def boot (f : NvsCalls) (n : AmmNvs) (capacity : Nat) (pool : StatePool) : Pipeline :=
  .start (ammLoadFromNvs f n (.empty capacity)).2 pool

end Pipeline

open Pipeline

/-- **Polling is fair**: from the moment mapping `j` is due, each other mapping
is polled at most once before it, so at most all the others are; and a loop that
does not poll it polls one of these. -/
theorem polling_fair (f : NvsCalls) (n : AmmNvs) (capacity : Nat) (pool : StatePool)
    (history : List PipelineStep) {s : Pipeline}
    (hs : s = run Pipeline.step (boot f n capacity pool) history) (hfresh : s.Fresh)
    {steps : List PipelineStep} (hfixed : ∀ a ∈ steps, a.Fixed) {t : Int} {j : Nat}
    (hdue : s.Due t j) (htimes : (t :: loopTimes steps).Pairwise (· ≤ ·)) :
    ((outputs Pipeline.step polled s steps).takeWhile (· ≠ j)).Nodup ∧
      ((outputs Pipeline.step polled s steps).takeWhile (· ≠ j)).length ≤
        s.amm.entries.length - 1 ∧
      (j ∉ outputs Pipeline.step polled s steps →
        total Pipeline.step loops s steps ≤ s.amm.entries.length - 1) := by
  have hrange : PollRange s.amm := by
    rw [hs]
    exact pollRange_run ((pollRange_empty capacity).load f n) history
  have hwaiting : Waiting j s steps := ⟨hrange, hfresh, hfixed, t, hdue, htimes⟩
  obtain ⟨hnodup, -⟩ := nodup_before j (Waiting j) (Later j)
    (fun s a as h hj => h.step hj) (fun s a as h v hv hne => h.picks hv hne) hwaiting
  have hlt : ∀ v ∈ outputs Pipeline.step polled s steps, v < s.amm.entries.length := by
    have hkeep : ∀ (x : Pipeline) a, x.Fresh ∧ x.amm = s.amm → a.Fixed →
        (x.step a).Fresh ∧ (x.step a).amm = s.amm := by
      intro x a hx ha
      obtain ⟨hfresh', hamm⟩ := step_fixed ha hx.1
      exact ⟨hfresh', hamm.trans hx.2⟩
    refine outputs_forall (allSteps_of_inv hkeep (fun x a hx _ v hv => ?_) ⟨hfresh, rfl⟩
      (allSteps_of_forall hfixed s))
    rw [← hx.2]
    exact polled_lt hx.1 hv
  have hj : j < s.amm.entries.length := by
    obtain ⟨e, he, -⟩ := hdue
    exact (List.getElem?_eq_some_iff.1 he).1
  have hlength : ((outputs Pipeline.step polled s steps).takeWhile (· ≠ j)).length ≤
      s.amm.entries.length - 1 := by
    rw [← List.toFinset_card_of_nodup hnodup]
    have hsub : ((outputs Pipeline.step polled s steps).takeWhile (· ≠ j)).toFinset ⊆
        (Finset.range s.amm.entries.length).erase j := by
      intro v hv
      rw [List.mem_toFinset] at hv
      have hne : v ≠ j := by simpa using List.all_eq_true.1 List.all_takeWhile v hv
      have hmem := (List.takeWhile_sublist _).subset hv
      exact Finset.mem_erase.2 ⟨hne, Finset.mem_range.2 (hlt v hmem)⟩
    have hcard := Finset.card_le_card hsub
    rwa [Finset.card_erase_of_mem (Finset.mem_range.2 hj), Finset.card_range] at hcard
  refine ⟨hnodup, hlength, fun hnever => ?_⟩
  rw [← length_outputs_of_rounds j (Waiting j) (fun s a as h hj => (h.step hj).1)
    (fun s a as h => h.loop) hwaiting hnever]
  have hall : (outputs Pipeline.step polled s steps).takeWhile (· ≠ j) =
      outputs Pipeline.step polled s steps := by
    have hne : ∀ v ∈ outputs Pipeline.step polled s steps, decide (v ≠ j) = true := fun v hv =>
      decide_eq_true fun heq => hnever (heq ▸ hv)
    simpa using (List.takeWhile_append_of_pos hne : (_ ++ []).takeWhile _ = _ ++ [].takeWhile _)
  rw [hall] at hlength
  exact hlength

def slaveEntry (slaveId priority : UInt8) : AmmMappingEntry :=
  { AmmMappingEntry.zero with slaveId := slaveId, functionCode := 3, priority := priority }

/-- Two mappings are added, of which the first has the lower priority. -/
def addTwo : List PipelineStep :=
  [.mutate (.add .ok (slaveEntry 1 0)), .mutate (.add .ok (slaveEntry 2 9))]

/-- Two loops at 5 s, with a failing read between them. -/
def twoLoops : List PipelineStep :=
  [.copy, .select 5000, .answer (fun _ => none) .online, .send, .copy, .select 5000]

def twoMappings : Pipeline := run Pipeline.step (boot .ok .empty 64 (.empty 64)) addTwo

/-- The first mapping waits for one poll of the second. -/
theorem twoLoops_fair :
    ((outputs Pipeline.step polled twoMappings twoLoops).takeWhile (· ≠ 0)).Nodup ∧
      ((outputs Pipeline.step polled twoMappings twoLoops).takeWhile (· ≠ 0)).length ≤
        twoMappings.amm.entries.length - 1 ∧
      (0 ∉ outputs Pipeline.step polled twoMappings twoLoops →
        total Pipeline.step loops twoMappings twoLoops ≤ twoMappings.amm.entries.length - 1) := by
  have hidle : twoMappings.poll = .idle := rfl
  have hfresh : twoMappings.Fresh := by
    intro m hm
    rw [hidle] at hm
    cases hm
  have hfixed : ∀ a ∈ twoLoops, a.Fixed := by simp [twoLoops, PipelineStep.Fixed]
  have hdue : twoMappings.Due 5000 0 := by
    have hentry : ∃ e, twoMappings.amm.entries[0]? = some e ∧
        ((effectiveInterval twoMappings.amm.defaultPollMs e).toNat : Int) ≤
          5000 - refreshedLast twoMappings 0 := ⟨_, rfl, by decide +kernel⟩
    exact hentry
  have htimes : (5000 :: loopTimes twoLoops).Pairwise (· ≤ ·) := by decide +kernel
  exact polling_fair .ok .empty 64 (.empty 64) addTwo rfl hfresh hfixed hdue htimes

end McpGateway.Scheduler
