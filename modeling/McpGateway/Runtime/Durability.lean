import McpGateway.Lib.Run
import McpGateway.Runtime.Slots

/-!
# The configuration across reboots

A device saves and resets its configuration, its NVS calls fail, it is rebooted
and loses power inside a save. `durable_iff` says along which runs a failed call
leaves the configuration alone and every reboot finds the last one saved.
-/

namespace McpGateway.Runtime

open McpGateway.Lib
open McpGateway.Amm (NvsFault NvsCalls)

inductive ConfigCall
  | set (config : RuntimeConfig)
  | reset

def ConfigCall.wanted : ConfigCall → RuntimeConfig
  | .set config => config
  | .reset => loadDefaults

/-- An operation with the answers of its NVS calls, a reboot, or a power loss
inside an operation after `k` NVS calls, and the reboot that follows it. -/
inductive ConfigStep
  | call (call : ConfigCall) (f : NvsCalls)
  | reboot
  | powerLoss (call : ConfigCall) (f : NvsCalls) (k : Nat)

namespace ConfigStore

def perform (s : ConfigStore) (call : ConfigCall) (f : NvsCalls) : EspErr × ConfigStore :=
  match call with
  | .set config => runtimeConfigSet f config s
  | .reset => runtimeConfigReset f s

/-- The store as `save_locked` finds it. -/
def asking (s : ConfigStore) (call : ConfigCall) : ConfigStore :=
  { s with ram := { s.ram with config := call.wanted } }

/-- The partition after the first `k` NVS calls of an operation, which all
succeed; an operation that refuses its argument makes none. -/
def cut (s : ConfigStore) (call : ConfigCall) (f : NvsCalls) (k : Nat) : ConfigNvs :=
  if ValidConfig call.wanted then upTo k (saveCalls f (s.asking call).ram s.nvs) s.nvs else s.nvs

def step (s : ConfigStore) : ConfigStep → ConfigStore
  | .call call f => (s.perform call f).2
  | .reboot => (runtimeConfigInit .ok s.nvs).2
  | .powerLoss call f k => (runtimeConfigInit .ok (s.cut call f k)).2

/-- A reboot succeeds and loads the configuration. -/
def Loads (n : ConfigNvs) (config : RuntimeConfig) : Prop :=
  (runtimeConfigInit .ok n).1 = .ok ∧ (runtimeConfigInit .ok n).2.ram.config = config

/-- A call that succeeds has the wanted configuration in memory, one that fails
the old one; a reboot loads what is in memory; after a power loss inside a call
it loads that or what the call wanted. -/
def Keeps (s : ConfigStore) : ConfigStep → Prop
  | .call call f =>
    (s.perform call f).2.ram.config =
      if (s.perform call f).1 = .ok then call.wanted else s.ram.config
  | .reboot => Loads s.nvs s.ram.config
  | .powerLoss call f k =>
    Loads (s.cut call f k) s.ram.config ∨ Loads (s.cut call f k) call.wanted

/-- The run keeps the configuration, also when it is broken off by a reboot. -/
def Durable (s : ConfigStore) (steps : List ConfigStep) : Prop :=
  ∀ before after, steps = before ++ after → AllSteps step Keeps s (before ++ [.reboot])

/-! ## When a run is durable -/

/-- A reboot prefers the copy that the call writes to the one in the other slot. -/
def NewWins (s : ConfigStore) (call : ConfigCall) (f : NvsCalls) : Prop :=
  ∀ y, validSlots s.nvs.slot (saveTarget f s.nvs).other = some y →
    (saveTarget f s.nvs).Prefers StoredConfig.generation (s.asking call).ram.stored y

/-- The slot that the call does not write holds the configuration. -/
def OtherHolds (s : ConfigStore) (f : NvsCalls) (config : RuntimeConfig) : Prop :=
  ∃ y, validSlots s.nvs.slot (saveTarget f s.nvs).other = some y ∧ y.config = config

/-- A failed `runtime_config_set` puts the old configuration back, a failed
`runtime_config_reset` leaves the defaults in memory. -/
def PutsBack (s : ConfigStore) : ConfigCall → Prop
  | .set _ => True
  | .reset => s.ram.config = loadDefaults

/-- A call that fails puts the old configuration back, and fails before it wrote
its slot, unless that slot or the other one has the old configuration for the
next reboot. A call that succeeds, or loses power once its slot is written, wins
against the other slot, unless that has a right configuration too. -/
def SavesSafely (s : ConfigStore) : ConfigStep → Prop
  | .call call f => ValidConfig call.wanted →
    if StopsEarly f then s.PutsBack call
    else if StopsLate f then
      s.PutsBack call ∧
        (s.NewWins call f ∧ call.wanted = s.ram.config ∨
          ¬ s.NewWins call f ∧ s.OtherHolds f s.ram.config)
    else s.NewWins call f ∨ s.OtherHolds f call.wanted
  | .reboot => True
  | .powerLoss call f k => ValidConfig call.wanted → 2 < k →
    s.NewWins call f ∨ s.OtherHolds f s.ram.config ∨ s.OtherHolds f call.wanted

/-! ## What a reboot takes -/

theorem readSlots_ok (n : ConfigNvs) : readSlots .ok n = n.slot := by
  funext t
  cases t <;> rfl

theorem init_eq {n : ConfigNvs} {x : StoredConfig RuntimeConfig} (h : selected n.slot = some x) :
    runtimeConfigInit .ok n = (.ok, ⟨⟨x.config, x.generation⟩, n⟩) := by
  have hopen : NvsCalls.ok 0 = none := rfl
  simp only [runtimeConfigInit, hopen, readSlots_ok, h]

theorem loads_iff {n : ConfigNvs} {x : StoredConfig RuntimeConfig} (h : selected n.slot = some x)
    (config : RuntimeConfig) : Loads n config ↔ x.config = config := by
  rw [Loads, init_eq h]
  exact and_iff_right rfl

theorem validSlots_write {slot : Side → Option ConfigBlob} {stored : StoredConfig RuntimeConfig}
    (h : storedConfigValid stored = true) (t : Side) :
    validSlots (Function.update slot t (some (.current stored))) =
      Function.update (validSlots slot) t (some stored) := by
  funext u
  by_cases hu : u = t
  · subst hu
    rw [Function.update_self, validSlots, Function.update_self]
    exact if_pos h
  · rw [Function.update_of_ne hu, validSlots, Function.update_of_ne hu]
    rfl

/-- The device runs on the copy that a reboot would take. -/
def Booted (s : ConfigStore) : Prop := ∃ x, selected s.nvs.slot = some x ∧ x.config = s.ram.config

theorem booted_iff {s : ConfigStore} {x : StoredConfig RuntimeConfig}
    (h : selected s.nvs.slot = some x) : Booted s ↔ Loads s.nvs s.ram.config := by
  rw [loads_iff h]
  constructor
  · rintro ⟨y, hy, hconfig⟩
    rwa [Option.some.inj (h.symm.trans hy)]
  · exact fun hconfig => ⟨x, h, hconfig⟩

theorem Booted.loads {s : ConfigStore} (h : Booted s) : Loads s.nvs s.ram.config := by
  obtain ⟨x, hselected, hconfig⟩ := h
  exact (loads_iff hselected _).2 hconfig

section Written

variable {s : ConfigStore} {call : ConfigCall} {f : NvsCalls}

theorem selected_written (hvalid : ValidConfig call.wanted) : ∃ x,
    selected ((s.asking call).written f) = some x ∧
      (s.NewWins call f ∧ x = (s.asking call).ram.stored ∨
        ¬ s.NewWins call f ∧ s.OtherHolds f x.config) := by
  have hslots : validSlots ((s.asking call).written f) =
      Function.update (validSlots s.nvs.slot) (saveTarget f s.nvs)
        (some (s.asking call).ram.stored) :=
    validSlots_write (storedConfigValid_stored hvalid) _
  rw [selected, hslots, newest_write]
  cases hother : validSlots s.nvs.slot (saveTarget f s.nvs).other with
  | none =>
    refine ⟨_, rfl, .inl ⟨fun y hy => ?_, rfl⟩⟩
    rw [hother] at hy
    cases hy
  | some y =>
    by_cases hwins : (saveTarget f s.nvs).Prefers StoredConfig.generation
        (s.asking call).ram.stored y
    · simp only [if_pos hwins]
      refine ⟨_, rfl, .inl ⟨fun z hz => ?_, rfl⟩⟩
      rw [hother] at hz
      rwa [← Option.some.inj hz]
    · simp only [if_neg hwins]
      exact ⟨y, rfl, .inr ⟨fun hall => hwins (hall y hother), y, hother, rfl⟩⟩

theorem OtherHolds.unique {c c' : RuntimeConfig} (h : s.OtherHolds f c) (h' : s.OtherHolds f c') :
    c = c' := by
  obtain ⟨y, hy, rfl⟩ := h
  obtain ⟨z, hz, rfl⟩ := h'
  rw [Option.some.inj (hy.symm.trans hz)]

theorem loads_written_iff (hvalid : ValidConfig call.wanted) {n : ConfigNvs}
    (hn : n.slot = (s.asking call).written f) (config : RuntimeConfig) :
    Loads n config ↔ s.NewWins call f ∧ call.wanted = config ∨
      ¬ s.NewWins call f ∧ s.OtherHolds f config := by
  obtain ⟨x, hselected, hx⟩ := selected_written (f := f) hvalid
  rw [loads_iff (hn ▸ hselected)]
  rcases hx with ⟨hwins, rfl⟩ | ⟨hloses, hother⟩
  · exact ⟨fun h => .inl ⟨hwins, h⟩, fun h => (h.resolve_right fun h => h.1 hwins).2⟩
  · refine ⟨fun h => .inr ⟨hloses, h ▸ hother⟩, fun h => ?_⟩
    exact hother.unique (h.resolve_left fun h => hloses h.1).2

/-! ## How a call ends -/

def left (s : ConfigStore) : ConfigCall → RuntimeConfig
  | .set _ => s.ram.config
  | .reset => loadDefaults

theorem putsBack_iff : s.PutsBack call ↔ s.left call = s.ram.config := by
  cases call with
  | set config => exact iff_of_true trivial rfl
  | reset => exact eq_comm

theorem perform_refused (h : ¬ ValidConfig call.wanted) :
    (s.perform call f).1 ≠ .ok ∧ (s.perform call f).2 = s := by
  cases call with
  | set config =>
    have hset : s.perform (.set config) f = ((runtimeConfigValidate config).1, s) := if_pos h
    rw [hset]
    exact ⟨h, rfl⟩
  | reset => exact absurd loadDefaults_valid h

theorem perform_error (hvalid : ValidConfig call.wanted) (h : StopsEarly f ∨ StopsLate f) :
    ∃ e n, e ≠ .ok ∧ s.perform call f = (e, ⟨{ s.ram with config := s.left call }, n⟩) ∧
      n.slot = if StopsEarly f then s.nvs.slot else (s.asking call).written f := by
  obtain ⟨e, n, he, hsave, hn⟩ := save_error (s := s.asking call) hvalid h
  refine ⟨e, n, he, ?_, hn⟩
  cases call with
  | set config =>
    have hset : ¬ (runtimeConfigValidate config).1 ≠ .ok := not_not.2 hvalid
    have hsave' : saveLocked f { s with ram := { s.ram with config := config } } =
        (e, { s.asking (.set config) with nvs := n }) := hsave
    simp only [perform, runtimeConfigSet, if_neg hset, hsave', if_pos he]
    rfl
  | reset => exact hsave

theorem perform_ok (hvalid : ValidConfig call.wanted) (hearly : ¬ StopsEarly f)
    (hlate : ¬ StopsLate f) :
    ∃ n, s.perform call f = (.ok, ⟨⟨call.wanted, nextGeneration s.ram.generation⟩, n⟩) ∧
      n.slot = (s.asking call).written f := by
  obtain ⟨n, hsave, hn⟩ := save_ok (s := s.asking call) hvalid hearly hlate
  refine ⟨n, ?_, hn⟩
  cases call with
  | set config =>
    have hset : ¬ (runtimeConfigValidate config).1 ≠ .ok := not_not.2 hvalid
    have hsave' : saveLocked f { s with ram := { s.ram with config := config } } =
        (.ok, ⟨⟨config, nextGeneration s.ram.generation⟩, n⟩) := hsave
    have hok : ¬ EspErr.ok ≠ .ok := not_not.2 rfl
    simp only [perform, runtimeConfigSet, if_neg hset, hsave', if_neg hok]
    rfl
  | reset => exact hsave

theorem cut_slots (hvalid : ValidConfig call.wanted) (k : Nat) :
    (s.cut call f k).slot = if k ≤ 2 then s.nvs.slot else (s.asking call).written f := by
  rw [cut, if_pos hvalid]
  exact upTo_saveCalls f (s.asking call) k

end Written

/-! ## One step -/

section Steps

variable {s : ConfigStore}

theorem Booted.cut_selects (h : Booted s) (call : ConfigCall) (f : NvsCalls) (k : Nat) :
    ∃ x, selected (s.cut call f k).slot = some x := by
  obtain ⟨x, hx, -⟩ := h
  by_cases hvalid : ValidConfig call.wanted
  · rw [cut_slots hvalid]
    by_cases hk : k ≤ 2
    · rw [if_pos hk]
      exact ⟨x, hx⟩
    · rw [if_neg hk]
      obtain ⟨y, hy, -⟩ := selected_written (s := s) (f := f) hvalid
      exact ⟨y, hy⟩
  · rw [cut, if_neg hvalid]
    exact ⟨x, hx⟩

theorem Booted.call_selects (h : Booted s) (call : ConfigCall) (f : NvsCalls) :
    ∃ x, selected (s.perform call f).2.nvs.slot = some x := by
  obtain ⟨x, hx, -⟩ := h
  by_cases hvalid : ValidConfig call.wanted
  · obtain ⟨y, hy, -⟩ := selected_written (s := s) (f := f) hvalid
    by_cases hfails : StopsEarly f ∨ StopsLate f
    · obtain ⟨e, n, -, hperform, hn⟩ := perform_error (s := s) hvalid hfails
      rw [hperform]
      show ∃ x, selected n.slot = some x
      rw [hn]
      by_cases hearly : StopsEarly f
      · rw [if_pos hearly]
        exact ⟨x, hx⟩
      · rw [if_neg hearly]
        exact ⟨y, hy⟩
    · obtain ⟨hearly, hlate⟩ := not_or.1 hfails
      obtain ⟨n, hperform, hn⟩ := perform_ok (s := s) hvalid hearly hlate
      rw [hperform]
      exact ⟨y, hn ▸ hy⟩
  · rw [(perform_refused hvalid).2]
    exact ⟨x, hx⟩

theorem Booted.selects (h : Booted s) (st : ConfigStep) :
    ∃ x, selected (s.step st).nvs.slot = some x := by
  have hinit : ∀ n x, selected n.slot = some x →
      ∃ x, selected (runtimeConfigInit .ok n).2.nvs.slot = some x := by
    intro n x hx
    rw [init_eq hx]
    exact ⟨x, hx⟩
  cases st with
  | call call f => exact h.call_selects call f
  | reboot =>
    obtain ⟨x, hx, -⟩ := h
    exact hinit _ x hx
  | powerLoss call f k =>
    obtain ⟨x, hx⟩ := h.cut_selects call f k
    exact hinit _ x hx

/-- A reboot right after a call loads what the call left, just when the call saves safely. -/
theorem call_keeps_iff (h : Booted s) (call : ConfigCall) (f : NvsCalls) :
    s.Keeps (.call call f) ∧ (s.step (.call call f)).Keeps .reboot ↔
      s.SavesSafely (.call call f) := by
  show (s.perform call f).2.ram.config = _ ∧
    Loads (s.perform call f).2.nvs (s.perform call f).2.ram.config ↔ (_ → _)
  by_cases hvalid : ValidConfig call.wanted
  · rw [imp_iff_right hvalid]
    by_cases hfails : StopsEarly f ∨ StopsLate f
    · obtain ⟨e, n, he, hperform, hn⟩ := perform_error (s := s) hvalid hfails
      rw [hperform]
      show s.left call = (if e = .ok then call.wanted else s.ram.config) ∧
        Loads n (s.left call) ↔ _
      rw [if_neg he, ← putsBack_iff]
      by_cases hearly : StopsEarly f
      · rw [if_pos hearly] at hn ⊢
        refine and_iff_left_of_imp fun hback => ?_
        obtain ⟨x, hx, hconfig⟩ := h
        rw [loads_iff (hn ▸ hx), putsBack_iff.1 hback]
        exact hconfig
      · rw [if_neg hearly] at hn ⊢
        rw [if_pos (hfails.resolve_left hearly)]
        refine and_congr_right fun hback => ?_
        rw [loads_written_iff hvalid hn, putsBack_iff.1 hback]
    · obtain ⟨hearly, hlate⟩ := not_or.1 hfails
      obtain ⟨n, hperform, hn⟩ := perform_ok (s := s) hvalid hearly hlate
      rw [hperform, if_neg hearly, if_neg hlate]
      show call.wanted = (if EspErr.ok = .ok then call.wanted else s.ram.config) ∧
        Loads n call.wanted ↔ _
      rw [if_pos rfl, loads_written_iff hvalid hn]
      refine (and_iff_right rfl).trans ⟨?_, ?_⟩
      · rintro (⟨hwins, -⟩ | ⟨-, hother⟩)
        · exact .inl hwins
        · exact .inr hother
      · intro hsafe
        by_cases hwins : s.NewWins call f
        · exact .inl ⟨hwins, rfl⟩
        · exact .inr ⟨hwins, hsafe.resolve_left hwins⟩
  · obtain ⟨he, hsame⟩ := perform_refused (s := s) (f := f) hvalid
    rw [hsame, if_neg he]
    exact iff_of_true ⟨rfl, h.loads⟩ fun h => absurd h hvalid

theorem powerLoss_keeps_iff (h : Booted s) (call : ConfigCall) (f : NvsCalls) (k : Nat) :
    s.Keeps (.powerLoss call f k) ↔ s.SavesSafely (.powerLoss call f k) := by
  obtain ⟨x, hx, hconfig⟩ := h
  show Loads (s.cut call f k) _ ∨ Loads (s.cut call f k) _ ↔ (_ → _ → _)
  by_cases hvalid : ValidConfig call.wanted
  · have hcut := cut_slots (s := s) (f := f) hvalid k
    rw [imp_iff_right hvalid]
    by_cases hk : k ≤ 2
    · rw [if_pos hk] at hcut
      refine iff_of_true (.inl ?_) fun hlt => absurd hk (Nat.not_le.2 hlt)
      exact (loads_iff (hcut ▸ hx) _).2 hconfig
    · rw [if_neg hk] at hcut
      rw [imp_iff_right (Nat.lt_of_not_le hk), loads_written_iff hvalid hcut,
        loads_written_iff hvalid hcut]
      by_cases hwins : s.NewWins call f
      · exact iff_of_true (.inr (.inl ⟨hwins, rfl⟩)) (.inl hwins)
      · simp only [hwins, false_and, false_or, not_false_eq_true, true_and]
  · rw [cut, if_neg hvalid]
    exact iff_of_true (.inl ((loads_iff hx _).2 hconfig)) fun h => absurd h hvalid

theorem reboot_keeps {n : ConfigNvs} {x : StoredConfig RuntimeConfig}
    (h : selected n.slot = some x) : (runtimeConfigInit .ok n).2.Keeps .reboot := by
  rw [init_eq h]
  exact (loads_iff h x.config).2 rfl

/-- A step is good and a reboot after it is, just when the step saves safely. -/
theorem keeps_iff (h : Booted s) (st : ConfigStep) :
    s.Keeps st ∧ (s.step st).Keeps .reboot ↔ s.SavesSafely st := by
  cases st with
  | call call f => exact call_keeps_iff h call f
  | reboot =>
    have hloads := h.loads
    obtain ⟨x, hx, -⟩ := h
    exact iff_of_true ⟨hloads, reboot_keeps hx⟩ trivial
  | powerLoss call f k =>
    obtain ⟨x, hx⟩ := h.cut_selects call f k
    exact (and_iff_left (reboot_keeps hx)).trans (powerLoss_keeps_iff h call f k)

theorem Booted.step (h : Booted s) {st : ConfigStep} (hkeeps : (s.step st).Keeps .reboot) :
    Booted (s.step st) := by
  obtain ⟨x, hx⟩ := h.selects st
  exact (booted_iff hx).2 hkeeps

end Steps

/-! ## Booting -/

/-- Memory is the copy that a reboot would take, with its generation. -/
def Current (s : ConfigStore) : Prop :=
  ∃ x, selected s.nvs.slot = some x ∧ s.ram = ⟨x.config, x.generation⟩

theorem Current.booted {s : ConfigStore} (h : Current s) : Booted s := by
  obtain ⟨x, hx, hram⟩ := h
  exact ⟨x, hx, by rw [hram]⟩

theorem current_of_selected {n : ConfigNvs} {x : StoredConfig RuntimeConfig}
    (h : selected n.slot = some x) : Current (runtimeConfigInit .ok n).2 := by
  rw [init_eq h]
  exact ⟨x, h, rfl⟩

theorem current_init {n : ConfigNvs} (h : (runtimeConfigInit .ok n).1 = .ok) :
    Current (runtimeConfigInit .ok n).2 := by
  cases hselected : selected n.slot with
  | some x => exact current_of_selected hselected
  | none =>
    have hopen : NvsCalls.ok 0 = none := rfl
    have hquiet : ¬ StopsEarly (fun i => NvsCalls.ok (i + 4)) ∧
        ¬ StopsLate (fun i => NvsCalls.ok (i + 4)) := by decide
    have hempty : ∀ t, validSlots n.slot t = none := by
      intro t
      by_contra hsome
      obtain ⟨x, hx⟩ := Option.ne_none_iff_exists'.1 hsome
      obtain ⟨y, hy⟩ : ∃ y, selected n.slot = some y := newest_isSome hx
      exact absurd (hselected.symm.trans hy) nofun
    simp only [runtimeConfigInit, hopen, readSlots_ok, hselected] at h ⊢
    have hvalid := save_valid h
    obtain ⟨m, hsave, hm⟩ := save_ok hvalid hquiet.1 hquiet.2
    rw [hsave]
    refine ⟨(migratedRam .ok n.slot n.legacy).stored, ?_, rfl⟩
    show selected m.slot = _
    rw [hm, ConfigStore.written, selected,
      validSlots_write (storedConfigValid_stored hvalid), newest_write, hempty]

/-- **Durability.** From any boot on, a run keeps the configuration, also when a
reboot breaks it off, just as long as each step saves safely. -/
theorem durable_iff {n : ConfigNvs} (hboot : (runtimeConfigInit .ok n).1 = .ok)
    (steps : List ConfigStep) :
    Durable (runtimeConfigInit .ok n).2 steps ↔
      AllSteps step SavesSafely (runtimeConfigInit .ok n).2 steps := by
  have hbooted := (current_init hboot).booted
  have hnow : (runtimeConfigInit .ok n).2.Keeps .reboot := hbooted.loads
  rw [Durable, allSteps_probe, and_iff_right hnow]
  exact allSteps_iff (K := fun s _ => Booted s) (fun s st _ h hkeeps => h.step hkeeps.2)
    (fun s st _ h => keeps_iff h st) hbooted

/-! ## Quiet runs -/

/-- No call fails once its slot is written, a failed reset finds the defaults in
memory, and no slot is written at the last generation. -/
def Quiet (s : ConfigStore) : ConfigStep → Prop
  | .call call f => ValidConfig call.wanted →
    if StopsEarly f then s.PutsBack call else ¬ StopsLate f ∧ s.ram.generation ≠ 0xFFFFFFFF
  | .reboot => True
  | .powerLoss call _ k => ValidConfig call.wanted → 2 < k → s.ram.generation ≠ 0xFFFFFFFF

section Quiet

variable {s : ConfigStore}

theorem lt_nextGeneration {g : SeqId} (h : g ≠ 0xFFFFFFFF) : g < nextGeneration g := by
  have hmax : ((0xFFFFFFFF : SeqId) : Nat) = 2 ^ 32 - 1 := rfl
  have hone : ((1 : SeqId) : Nat) = 1 := rfl
  have hne : (g : Nat) ≠ 2 ^ 32 - 1 := fun heq => h (Fin.ext (heq.trans hmax.symm))
  have hlt := g.isLt
  rw [nextGeneration, if_neg h, Fin.lt_def, Fin.val_add, hone]
  omega

theorem Current.newWins (h : Current s) (hgeneration : s.ram.generation ≠ 0xFFFFFFFF)
    (call : ConfigCall) (f : NvsCalls) : s.NewWins call f := by
  obtain ⟨x, hx, hram⟩ := h
  intro y hy
  have hage : y.generation ≤ s.ram.generation := by
    rw [hram]
    exact age_le_newest hx hy
  exact Side.prefers_of_lt _ (lt_of_le_of_lt hage (lt_nextGeneration hgeneration))

theorem Quiet.safe (h : Current s) {st : ConfigStep} (hquiet : s.Quiet st) :
    s.SavesSafely st := by
  cases st with
  | call call f =>
    intro hvalid
    have hcall := hquiet hvalid
    by_cases hearly : StopsEarly f
    · rw [if_pos hearly] at hcall ⊢
      exact hcall
    · rw [if_neg hearly] at hcall ⊢
      rw [if_neg hcall.1]
      exact .inl (h.newWins hcall.2 call f)
  | reboot => trivial
  | powerLoss call f k => exact fun hvalid hk => .inl (h.newWins (hquiet hvalid hk) call f)

theorem Current.step (h : Current s) {st : ConfigStep} (hquiet : s.Quiet st) :
    Current (s.step st) := by
  cases st with
  | call call f =>
    show Current (s.perform call f).2
    by_cases hvalid : ValidConfig call.wanted
    · have hcall := hquiet hvalid
      by_cases hearly : StopsEarly f
      · obtain ⟨e, n, -, hperform, hn⟩ := perform_error (s := s) hvalid (.inl hearly)
        obtain ⟨x, hx, hram⟩ := h
        rw [if_pos hearly] at hcall hn
        rw [hperform, putsBack_iff.1 hcall]
        exact ⟨x, hn ▸ hx, hram⟩
      · rw [if_neg hearly] at hcall
        obtain ⟨n, hperform, hn⟩ := perform_ok (s := s) hvalid hearly hcall.1
        obtain ⟨x, hx, hwritten⟩ := selected_written (s := s) (f := f) hvalid
        have hwins := h.newWins hcall.2 call f
        obtain ⟨-, rfl⟩ := hwritten.resolve_right fun hloses => hloses.1 hwins
        rw [hperform]
        exact ⟨_, hn ▸ hx, rfl⟩
    · rwa [(perform_refused hvalid).2]
  | reboot =>
    obtain ⟨x, hx, -⟩ := h
    exact current_of_selected hx
  | powerLoss call f k =>
    obtain ⟨x, hx⟩ := h.booted.cut_selects call f k
    exact current_of_selected hx

end Quiet

theorem quiet_run_safe {n : ConfigNvs} (hboot : (runtimeConfigInit .ok n).1 = .ok)
    {steps : List ConfigStep} (hquiet : AllSteps step Quiet (runtimeConfigInit .ok n).2 steps) :
    AllSteps step SavesSafely (runtimeConfigInit .ok n).2 steps :=
  allSteps_of_inv (fun _ _ h hquiet => h.step hquiet) (fun _ _ h hquiet => hquiet.safe h)
    (current_init hboot) hquiet

/-! ## A new device -/

theorem init_empty : runtimeConfigInit .ok .empty =
    (.ok, ⟨⟨loadDefaults, 1⟩, (ConfigNvs.empty.setSlot .b
      (.current (ConfigRam.mk loadDefaults 0).stored)).setActive 1⟩) := by
  have hopen : NvsCalls.ok 0 = none := rfl
  have hnone : selected ConfigNvs.empty.slot = none := rfl
  have hmigrated : migratedRam .ok ConfigNvs.empty.slot none = ⟨loadDefaults, 0⟩ := rfl
  have hanswers : ∀ i, saveAnswers (fun i => NvsCalls.ok (i + 4)) i = none := by
    intro i
    by_cases hi : i = 1
    · rw [hi]
      rfl
    · exact (saveAnswers_eq_none_iff hi).2 rfl
  have hlegacy : ConfigNvs.empty.legacy = none := rfl
  simp only [runtimeConfigInit, hopen, readSlots_ok, hnone, hlegacy, hmigrated]
  rw [save_eq loadDefaults_valid, attempt_of_none hanswers]
  rfl

def plantConfig : RuntimeConfig := { loadDefaults with gatewayId := .copy 48 "plant".toList }

theorem plantConfig_valid : ValidConfig plantConfig := by decide +kernel

theorem boots_empty : (runtimeConfigInit .ok .empty).1 = .ok := congrArg Prod.fst init_empty

theorem empty_newWins (call : ConfigCall) (f : NvsCalls) :
    (runtimeConfigInit .ok .empty).2.NewWins call f := by
  refine (current_init boots_empty).newWins ?_ call f
  rw [init_empty]
  decide

theorem sample_set_durable :
    Durable (runtimeConfigInit .ok .empty).2 [.call (.set plantConfig) .ok, .reboot] := by
  have hearly : ¬ StopsEarly .ok := by decide
  have hlate : ¬ StopsLate .ok := by decide
  refine (durable_iff boots_empty [.call (.set plantConfig) .ok, .reboot]).2
    ⟨fun _ => ?_, trivial, trivial⟩
  rw [if_neg hearly, if_neg hlate]
  exact .inl (empty_newWins _ _)

def lastCommitFails : NvsCalls := fun i => if i = 6 then some NvsFault.fail else none

/-- The save returns an error, and the next boot loads what it was to save. -/
theorem failed_set_loaded :
    ¬ Durable (runtimeConfigInit .ok .empty).2 [.call (.set plantConfig) lastCommitFails] := by
  intro h
  have hearly : ¬ StopsEarly lastCommitFails := by decide
  have hlate : StopsLate lastCommitFails := by decide
  have hram : (runtimeConfigInit .ok .empty).2.ram.config = loadDefaults := by rw [init_empty]
  obtain ⟨hcall, hreboot, -⟩ := h [.call (.set plantConfig) lastCommitFails] [] rfl
  have hsafe := (keeps_iff (current_init boots_empty).booted _).1 ⟨hcall, hreboot⟩ plantConfig_valid
  rw [if_neg hearly, if_pos hlate, hram] at hsafe
  rcases hsafe.2 with ⟨-, hsame⟩ | ⟨hloses, -⟩
  · revert hsame
    decide +kernel
  · exact hloses (empty_newWins _ _)

end ConfigStore

end McpGateway.Runtime
