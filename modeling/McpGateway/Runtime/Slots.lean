import McpGateway.Amm.Nvs
import McpGateway.Lib.TwoSlots
import McpGateway.Runtime.Settings

/-!
# The two slots of the configuration

The namespace `gateway` and the functions of `runtime_config.c` that load and
save the configuration. The NVS calls behave as those of the AMM do: a write
takes effect at once or fails, opening a handle and committing can only fail.
Buffers are always allocated.
-/

namespace McpGateway.Runtime

open McpGateway.Lib
open McpGateway.Amm (NvsFault NvsCalls)

def configMagic : UInt32 := 0x47435731

/-- `stored_config_t`, with the settings of some schema. -/
structure StoredConfig (C : Type) where
  magic : UInt32
  generation : SeqId
  crc32 : UInt32
  config : C
  deriving DecidableEq

/-- `stored_config_v1_t`. -/
structure StoredConfigV1 where
  magic : UInt32
  crc32 : UInt32
  config : RuntimeConfigV1

inductive ConfigBlob
  | current (stored : StoredConfig RuntimeConfig)
  | v3 (stored : StoredConfig RuntimeConfigV3)
  | v2 (stored : StoredConfig RuntimeConfigV2)
  | other

/-- `runtime_a`, `runtime_b`, `runtime_active` and `runtime`; a legacy blob of
another size is as good as none. -/
structure ConfigNvs where
  slot : Side → Option ConfigBlob
  active : Option UInt8
  legacy : Option StoredConfigV1

def ConfigNvs.empty : ConfigNvs := ⟨fun _ => none, none, none⟩

def ConfigNvs.setSlot (t : Side) (blob : ConfigBlob) (n : ConfigNvs) : ConfigNvs :=
  { n with slot := Function.update n.slot t (some blob) }

def ConfigNvs.setActive (active : UInt8) (n : ConfigNvs) : ConfigNvs :=
  { n with active := some active }

/-- `s_config` and `s_generation`. -/
structure ConfigRam where
  config : RuntimeConfig
  generation : SeqId

structure ConfigStore where
  ram : ConfigRam
  nvs : ConfigNvs

/-- `stored_config_valid`, for a blob of the current size. -/
def storedConfigValid (stored : StoredConfig RuntimeConfig) : Bool :=
  decide (stored.magic = configMagic) &&
    decide (stored.config.schemaVersion = runtimeConfigSchemaVersion) &&
    decide (stored.crc32 = crc32Bytes stored.config.bytes) &&
    decide ((runtimeConfigValidate stored.config).1 = .ok)

/-! ## Saving -/

/-- The generation after `generation`. -/
def nextGeneration (generation : SeqId) : SeqId :=
  if generation = 0xFFFFFFFF then 1 else generation + 1

/-- What `save_locked` stores. -/
def ConfigRam.stored (ram : ConfigRam) : StoredConfig RuntimeConfig where
  magic := configMagic
  generation := nextGeneration ram.generation
  crc32 := crc32Bytes ram.config.bytes
  config := ram.config

/-- The active slot as `save_locked` reads it: 0 when the read fails. -/
def readActive (f : NvsCalls) (n : ConfigNvs) : UInt8 :=
  match f 1 with
  | none => n.active.getD 0
  | some _ => 0

def saveTarget (f : NvsCalls) (n : ConfigNvs) : Side := if readActive f n = 0 then .b else .a

/-- What `save_locked` makes of the blob it reads back. -/
def verifyCode (stored : StoredConfig RuntimeConfig) : Option ConfigBlob → Option EspErr
  | some (.current verify) =>
    if storedConfigValid verify = false ∨ verify.generation ≠ stored.generation ∨
        verify.config ≠ stored.config then some .invalidCrc
    else none
  | some _ => some .invalidCrc
  | none => some .nvsNotFound

/-- The NVS calls of `save_locked`: opening, reading the active slot, writing the
other one, committing, reading it back, making it the active one, committing. -/
def saveCalls (f : NvsCalls) (ram : ConfigRam) (n : ConfigNvs) : List (ConfigNvs → ConfigNvs) :=
  [id, id, .setSlot (saveTarget f n) (.current ram.stored), id, id,
    .setActive (if readActive f n = 0 then 1 else 0), id]

/-- The answers that end `save_locked`: the read of the active slot does not,
and what is read back can be wrong. -/
def saveAnswer (f : NvsCalls) (verified : Option EspErr) : Nat → Option EspErr
  | 1 => none
  | 4 => ((f 4).map NvsFault.code).or verified
  | i => (f i).map NvsFault.code

def saveLocked (f : NvsCalls) (s : ConfigStore) : EspErr × ConfigStore :=
  let readBack := (s.nvs.setSlot (saveTarget f s.nvs) (.current s.ram.stored)).slot
    (saveTarget f s.nvs)
  match attempt (saveAnswer f (verifyCode s.ram.stored readBack)) 0
      (saveCalls f s.ram s.nvs) s.nvs with
  | (none, n) => (.ok, ⟨{ s.ram with generation := nextGeneration s.ram.generation }, n⟩)
  | (some e, n) => (e, { s with nvs := n })

def runtimeConfigSet (f : NvsCalls) (config : RuntimeConfig) (s : ConfigStore) :
    EspErr × ConfigStore :=
  if (runtimeConfigValidate config).1 ≠ .ok then ((runtimeConfigValidate config).1, s)
  else
    let r := saveLocked f { s with ram := { s.ram with config := config } }
    if r.1 ≠ .ok then (r.1, { r.2 with ram := { r.2.ram with config := s.ram.config } }) else r

def runtimeConfigReset (f : NvsCalls) (s : ConfigStore) : EspErr × ConfigStore :=
  saveLocked f { s with ram := { s.ram with config := loadDefaults } }

/-! ## Loading -/

/-- A slot as it is read; `none` when the read fails. -/
def readSlot (answer : Option NvsFault) (blob : Option ConfigBlob) : Option ConfigBlob :=
  match answer with
  | none => blob
  | some _ => none

def validBlob : ConfigBlob → Option (StoredConfig RuntimeConfig)
  | .current stored => if storedConfigValid stored then some stored else none
  | _ => none

def validV2 : ConfigBlob → Option (StoredConfig RuntimeConfigV2)
  | .v2 stored =>
    if stored.magic = configMagic ∧ stored.config.schemaVersion = 2 ∧
        stored.crc32 = crc32Bytes stored.config.bytes then some stored
    else none
  | _ => none

/-- A blob of schema 3 without the report mode. -/
def validV3 : ConfigBlob → Option (StoredConfig RuntimeConfigV3)
  | .v3 stored =>
    if stored.magic = configMagic ∧ stored.config.schemaVersion = 3 ∧
        stored.crc32 = crc32Bytes stored.config.bytes then some stored
    else none
  | _ => none

def validLegacy (legacy : StoredConfigV1) : Bool :=
  decide (legacy.magic = configMagic) && decide (legacy.crc32 = crc32Bytes legacy.config.bytes) &&
    decide (legacy.config.schemaVersion = 1)

def validSlots (slot : Side → Option ConfigBlob) (t : Side) : Option (StoredConfig RuntimeConfig) :=
  (slot t).bind validBlob

/-- The first of the slots, A before B, that `valid` accepts. -/
def firstSlot {C : Type} (valid : ConfigBlob → Option (StoredConfig C))
    (slot : Side → Option ConfigBlob) : Option (StoredConfig C) :=
  ((slot .a).bind valid).or ((slot .b).bind valid)

/-- What `runtime_config_init` starts with when it finds no slot of the current
schema, before it saves that. -/
def migratedRam (f : NvsCalls) (slot : Side → Option ConfigBlob) (legacy : Option StoredConfigV1) :
    ConfigRam :=
  match firstSlot validV2 slot, firstSlot validV3 slot, f 3, legacy with
  | some v2, _, _, _ => ⟨migrateV2ToV3 v2.config, v2.generation⟩
  | none, some v3, _, _ => ⟨migrateV3ToCurrent v3.config, v3.generation⟩
  | none, none, none, some legacy =>
    if validLegacy legacy then ⟨migrateLegacy legacy.config, 0⟩ else ⟨loadDefaults, 0⟩
  | none, none, _, _ => ⟨loadDefaults, 0⟩

/-- The slots as `runtime_config_init` reads them. -/
def readSlots (f : NvsCalls) (n : ConfigNvs) : Side → Option ConfigBlob
  | .a => readSlot (f 1) (n.slot .a)
  | .b => readSlot (f 2) (n.slot .b)

/-- The slot it selects, B only if its generation is the greater one. -/
def selected (slot : Side → Option ConfigBlob) : Option (StoredConfig RuntimeConfig) :=
  newest StoredConfig.generation (validSlots slot)

/-- `runtime_config_init`; its own calls come before those of its save. -/
def runtimeConfigInit (f : NvsCalls) (n : ConfigNvs) : EspErr × ConfigStore :=
  match f 0 with
  | some _ => saveLocked (fun i => f (i + 4)) ⟨⟨loadDefaults, 0⟩, n⟩
  | none =>
    match selected (readSlots f n) with
    | some stored => (.ok, ⟨⟨stored.config, stored.generation⟩, n⟩)
    | none => saveLocked (fun i => f (i + 4)) ⟨migratedRam f (readSlots f n) n.legacy, n⟩

/-! ## How a save ends -/

section Save

variable {f : NvsCalls} {s : ConfigStore}

/-- A save that ends before it has written its slot. -/
def StopsEarly (f : NvsCalls) : Prop := f 0 ≠ none ∨ f 2 ≠ none

/-- A call that fails after the slot is written. -/
def StopsLate (f : NvsCalls) : Prop := f 3 ≠ none ∨ f 4 ≠ none ∨ f 5 ≠ none ∨ f 6 ≠ none

instance (f : NvsCalls) : Decidable (StopsEarly f) :=
  inferInstanceAs (Decidable (_ ∨ _))

instance (f : NvsCalls) : Decidable (StopsLate f) :=
  inferInstanceAs (Decidable (_ ∨ _ ∨ _ ∨ _))

def ConfigStore.written (s : ConfigStore) (f : NvsCalls) : Side → Option ConfigBlob :=
  Function.update s.nvs.slot (saveTarget f s.nvs) (some (.current s.ram.stored))

theorem upTo_saveCalls (f : NvsCalls) (s : ConfigStore) (k : Nat) :
    (upTo k (saveCalls f s.ram s.nvs) s.nvs).slot =
      if k ≤ 2 then s.nvs.slot else s.written f := by
  rcases Nat.lt_or_ge k 3 with hk | hk
  · rw [if_pos (by omega)]
    obtain rfl | rfl | rfl : k = 0 ∨ k = 1 ∨ k = 2 := by omega
    · rfl
    · rfl
    · rfl
  · obtain ⟨j, rfl⟩ := Nat.exists_eq_add_of_le' hk
    rw [if_neg (by omega), saveCalls, upTo_succ, upTo_succ, upTo_succ]
    refine upTo_induction (P := fun n : ConfigNvs => n.slot = s.written f) rfl ?_ j
    simp only [List.forall_mem_cons]
    exact ⟨fun n h => h, fun n h => h, fun n h => h, fun n h => h,
      fun g hg => absurd hg List.not_mem_nil⟩

theorem storedConfigValid_stored {ram : ConfigRam} (h : ValidConfig ram.config) :
    storedConfigValid ram.stored = true := by
  have hschema : ram.config.schemaVersion = runtimeConfigSchemaVersion := by
    by_contra hne
    unfold ValidConfig runtimeConfigValidate runtimeConfigError at h
    rw [if_pos hne] at h
    cases h
  simp only [storedConfigValid, ConfigRam.stored, hschema, decide_true, Bool.true_and]
  exact decide_eq_true h

theorem verifyCode_stored {ram : ConfigRam} (h : ValidConfig ram.config) :
    verifyCode ram.stored (some (.current ram.stored)) = none := by
  simp [verifyCode, storedConfigValid_stored h]

theorem saveAnswer_ne_ok {verified : Option EspErr} (hverified : verified ≠ some .ok) {i : Nat}
    {e : EspErr} (h : saveAnswer f verified i = some e) : e ≠ .ok := by
  have hcode : ∀ j, (f j).map NvsFault.code = some e → e ≠ .ok := by
    intro j hj
    obtain ⟨fault, -, rfl⟩ := Option.map_eq_some_iff.1 hj
    exact fault.fails.1
  unfold saveAnswer at h
  split at h
  · cases h
  · rcases Option.or_eq_some_iff.1 h with h4 | ⟨-, hv⟩
    · exact hcode 4 h4
    · rintro rfl
      exact hverified hv
  · exact hcode i h

theorem save_valid (h : (saveLocked f s).1 = .ok) : ValidConfig s.ram.config := by
  have hback : (s.nvs.setSlot (saveTarget f s.nvs) (.current s.ram.stored)).slot
      (saveTarget f s.nvs) = some (.current s.ram.stored) := Function.update_self ..
  have hverified : verifyCode s.ram.stored (some (.current s.ram.stored)) ≠ some .ok := by
    unfold verifyCode
    simp only
    split <;> nofun
  unfold saveLocked at h
  simp only [hback] at h
  split at h
  · rename_i n hresult
    have hall := (attempt_fst_iff _ _ _ _).1 (congrArg Prod.fst hresult) 4 (by show 4 < 7; decide)
    have hverify := (Option.or_eq_none_iff.1 hall).2
    have hstored : storedConfigValid s.ram.stored = true := by
      by_contra hnot
      have hfails : verifyCode s.ram.stored (some (.current s.ram.stored)) = some .invalidCrc :=
        if_pos (.inl (Bool.eq_false_of_not_eq_true hnot))
      exact absurd (hverify.symm.trans hfails) nofun
    exact of_decide_eq_true (Bool.and_eq_true_iff.1 hstored).2
  · rename_i e n hresult
    obtain ⟨k, hk⟩ := attempt_fst_some (congrArg Prod.fst hresult)
    exact absurd h (saveAnswer_ne_ok hverified hk)

def saveAnswers (f : NvsCalls) : Nat → Option EspErr := saveAnswer f none

theorem saveAnswers_eq_none_iff {i : Nat} (hi : i ≠ 1) : saveAnswers f i = none ↔ f i = none := by
  unfold saveAnswers saveAnswer
  split
  · exact absurd rfl hi
  · rw [Option.or_none, Option.map_eq_none_iff]
  · rw [Option.map_eq_none_iff]

theorem stopsEarly_iff (f : NvsCalls) : StopsEarly f ↔ answered (saveAnswers f) 0 7 ≤ 2 := by
  have hreach := lt_answered_iff (saveAnswers f) 0 7 2
  rw [← not_lt, hreach]
  have hall : (∀ j ≤ 2, saveAnswers f (0 + j) = none) ↔ f 0 = none ∧ f 2 = none := by
    constructor
    · intro h
      exact ⟨(saveAnswers_eq_none_iff (by decide)).1 (h 0 (by decide)),
        (saveAnswers_eq_none_iff (by decide)).1 (h 2 (by decide))⟩
    · rintro ⟨h0, h2⟩ j hj
      obtain rfl | rfl | rfl : j = 0 ∨ j = 1 ∨ j = 2 := by omega
      · exact (saveAnswers_eq_none_iff (by decide)).2 h0
      · rfl
      · exact (saveAnswers_eq_none_iff (by decide)).2 h2
  rw [hall, StopsEarly]
  simp only [show (2 < 7) from by decide, true_and, not_and_or, ne_eq]

theorem saves_iff (f : NvsCalls) :
    (∀ k < 7, saveAnswers f (0 + k) = none) ↔ ¬ StopsEarly f ∧ ¬ StopsLate f := by
  unfold StopsEarly StopsLate
  simp only [not_or, ne_eq, not_not]
  constructor
  · intro h
    have hnone : ∀ k < 7, k ≠ 1 → f k = none := fun k hk hne =>
      (saveAnswers_eq_none_iff hne).1 (by simpa using h k hk)
    exact ⟨⟨hnone 0 (by decide) (by decide), hnone 2 (by decide) (by decide)⟩,
      hnone 3 (by decide) (by decide), hnone 4 (by decide) (by decide),
      hnone 5 (by decide) (by decide), hnone 6 (by decide) (by decide)⟩
  · rintro ⟨⟨h0, h2⟩, h3, h4, h5, h6⟩ k hk
    rw [Nat.zero_add]
    by_cases hone : k = 1
    · rw [hone]
      rfl
    · rw [saveAnswers_eq_none_iff hone]
      obtain rfl | rfl | rfl | rfl | rfl | rfl :
          k = 0 ∨ k = 2 ∨ k = 3 ∨ k = 4 ∨ k = 5 ∨ k = 6 := by omega
      all_goals assumption

theorem save_eq (hvalid : ValidConfig s.ram.config) : saveLocked f s =
    match attempt (saveAnswers f) 0 (saveCalls f s.ram s.nvs) s.nvs with
    | (none, n) => (.ok, ⟨{ s.ram with generation := nextGeneration s.ram.generation }, n⟩)
    | (some e, n) => (e, { s with nvs := n }) := by
  have hback : (s.nvs.setSlot (saveTarget f s.nvs) (.current s.ram.stored)).slot
      (saveTarget f s.nvs) = some (.current s.ram.stored) := Function.update_self ..
  unfold saveLocked
  simp only [hback, verifyCode_stored hvalid]
  rfl

theorem attempt_slots (f : NvsCalls) (s : ConfigStore) :
    (attempt (saveAnswers f) 0 (saveCalls f s.ram s.nvs) s.nvs).2.slot =
      if StopsEarly f then s.nvs.slot else s.written f := by
  rw [attempt_snd, upTo_saveCalls]
  exact if_congr (stopsEarly_iff f).symm rfl rfl

/-- **Saving.** A save ends with an error and its slot as before or as written,
or it has made all its calls. -/
theorem save_error (hvalid : ValidConfig s.ram.config) (h : StopsEarly f ∨ StopsLate f) :
    ∃ e n, e ≠ .ok ∧ saveLocked f s = (e, { s with nvs := n }) ∧
      n.slot = if StopsEarly f then s.nvs.slot else s.written f := by
  have hslots := attempt_slots f s
  have hfails := mt (attempt_fst_iff (saveAnswers f) 0 (saveCalls f s.ram s.nvs) s.nvs).1
    (mt (saves_iff f).1 (by tauto))
  rw [save_eq hvalid]
  cases hresult : attempt (saveAnswers f) 0 (saveCalls f s.ram s.nvs) s.nvs with
  | mk r n =>
    rw [hresult] at hfails hslots
    cases r with
    | none => exact absurd rfl hfails
    | some e =>
      obtain ⟨k, hk⟩ := attempt_fst_some (congrArg Prod.fst hresult)
      have hnone : (none : Option EspErr) ≠ some .ok := nofun
      exact ⟨e, n, saveAnswer_ne_ok hnone hk, rfl, hslots⟩

theorem save_ok (hvalid : ValidConfig s.ram.config) (hearly : ¬ StopsEarly f)
    (hlate : ¬ StopsLate f) :
    ∃ n, saveLocked f s =
        (.ok, ⟨{ s.ram with generation := nextGeneration s.ram.generation }, n⟩) ∧
      n.slot = s.written f := by
  have hslots := attempt_slots f s
  have hdone := (attempt_fst_iff (saveAnswers f) 0 (saveCalls f s.ram s.nvs) s.nvs).2
    ((saves_iff f).2 ⟨hearly, hlate⟩)
  rw [save_eq hvalid]
  cases hresult : attempt (saveAnswers f) 0 (saveCalls f s.ram s.nvs) s.nvs with
  | mk r n =>
    rw [hresult] at hdone hslots
    cases hdone
    rw [if_neg hearly] at hslots
    exact ⟨n, rfl, hslots⟩

end Save

end McpGateway.Runtime
