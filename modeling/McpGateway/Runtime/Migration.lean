import McpGateway.Runtime.Slots

/-!
# Starting from an older schema

`runtime_config_init` where no slot is valid in the current schema. It looks for
schema 2 in both slots, then for schema 3 without the report mode, slot A first
each time, and takes the first one it finds. `migration_newest_iff` says when
that one is the newest.
-/

namespace McpGateway.Runtime

open McpGateway.Lib
open McpGateway.Amm (NvsFault NvsCalls)

/-! ## Older configurations -/

/-- A configuration of an older schema as a slot holds it. -/
inductive OldConfig
  | v2 (stored : StoredConfig RuntimeConfigV2)
  | v3 (stored : StoredConfig RuntimeConfigV3)

def inV2 (c : RuntimeConfig) : RuntimeConfigV2 :=
  { c with schemaVersion := 2, mqtt := c.mqtt.toRuntimeMqttConfigV2 }

/-- The settings that schema 3 had before the report mode. -/
def inV3 (c : RuntimeConfig) : RuntimeConfigV3 :=
  { c with schemaVersion := 3, mqtt := c.mqtt.toRuntimeMqttConfigV3 }

namespace OldConfig

def generation : OldConfig → SeqId
  | .v2 stored => stored.generation
  | .v3 stored => stored.generation

def migrated : OldConfig → RuntimeConfig
  | .v2 stored => migrateV2ToV3 stored.config
  | .v3 stored => migrateV3ToCurrent stored.config

/-- Every setting that both schemas have has the old value. -/
def SharedBy (c : RuntimeConfig) : OldConfig → Prop
  | .v2 stored => inV2 c = stored.config
  | .v3 stored => inV3 c = stored.config

/-- `x` in slot A is tried after `y` in slot B. -/
def after : OldConfig → OldConfig → Bool
  | .v3 _, .v2 _ => true
  | _, _ => false

end OldConfig

def validOld (blob : ConfigBlob) : Option OldConfig :=
  ((validV2 blob).map .v2).or ((validV3 blob).map .v3)

def oldSlots (slot : Side → Option ConfigBlob) (t : Side) : Option OldConfig :=
  (slot t).bind validOld

/-- A start that finds a slot of an older schema takes one with the highest
generation: it has its settings, and its generation, or the next one if it is
saved in the current schema. -/
def AdoptsNewest (slot : Side → Option ConfigBlob) (r : EspErr × ConfigStore) : Prop :=
  (∃ t y, oldSlots slot t = some y) →
    ∃ t x, oldSlots slot t = some x ∧
      (∀ u y, oldSlots slot u = some y → y.generation ≤ x.generation) ∧
      x.SharedBy r.2.ram.config ∧
      r.2.ram.generation = if r.1 = .ok then nextGeneration x.generation else x.generation

/-- Where both slots hold an older schema, the one tried first is no older: slot
B if only it holds schema 2, else slot A. -/
def InMigrationOrder (slot : Side → Option ConfigBlob) : Prop :=
  ∀ x y, oldSlots slot .a = some x → oldSlots slot .b = some y →
    if x.after y then x.generation ≤ y.generation else y.generation ≤ x.generation

/-! ## What is taken -/

theorem inV2_migrate {c : RuntimeConfigV2} (hschema : c.schemaVersion = 2) :
    inV2 (migrateV2ToV3 c) = c := by
  have hfields : inV2 (migrateV2ToV3 c) = { c with schemaVersion := 2 } := rfl
  rw [hfields, ← hschema]

theorem inV3_migrate {c : RuntimeConfigV3} (hschema : c.schemaVersion = 3) :
    inV3 (migrateV3ToCurrent c) = c := by
  have hfields : inV3 (migrateV3ToCurrent c) = { c with schemaVersion := 3 } := rfl
  rw [hfields, ← hschema]

theorem validV2_schema {blob : ConfigBlob} {stored : StoredConfig RuntimeConfigV2}
    (h : validV2 blob = some stored) : stored.config.schemaVersion = 2 := by
  unfold validV2 at h
  split at h
  · split at h
    · rename_i hvalid
      cases h
      exact hvalid.2.1
    · cases h
  · cases h

theorem validV3_schema {blob : ConfigBlob} {stored : StoredConfig RuntimeConfigV3}
    (h : validV3 blob = some stored) : stored.config.schemaVersion = 3 := by
  unfold validV3 at h
  split at h
  · split at h
    · rename_i hvalid
      cases h
      exact hvalid.2.1
    · cases h
  · cases h

section Taken

variable {f : NvsCalls} {slot : Side → Option ConfigBlob} {legacy : Option StoredConfigV1}
  {x : OldConfig}

theorem sharedBy_migrated {t : Side} (h : oldSlots slot t = some x) : x.SharedBy x.migrated := by
  obtain ⟨blob, -, hblob⟩ := Option.bind_eq_some_iff.1 h
  rcases Option.or_eq_some_iff.1 hblob with hold | ⟨-, hold⟩
  · obtain ⟨stored, hstored, rfl⟩ := Option.map_eq_some_iff.1 hold
    exact inV2_migrate (validV2_schema hstored)
  · obtain ⟨stored, hstored, rfl⟩ := Option.map_eq_some_iff.1 hold
    exact inV3_migrate (validV3_schema hstored)

theorem oldSlots_eq (slot : Side → Option ConfigBlob) (t : Side) :
    oldSlots slot t =
      (((slot t).bind validV2).map .v2).or (((slot t).bind validV3).map .v3) := by
  unfold oldSlots
  cases slot t <;> rfl

/-- The slot that is taken: A unless only B is valid, or only B holds schema 2. -/
def takenOld (slot : Side → Option ConfigBlob) : Option OldConfig :=
  match oldSlots slot .a, oldSlots slot .b with
  | none, y => y
  | some x, none => some x
  | some x, some y => if x.after y then some y else some x

theorem takenOld_eq (slot : Side → Option ConfigBlob) :
    takenOld slot =
      ((firstSlot validV2 slot).map .v2).or ((firstSlot validV3 slot).map .v3) := by
  unfold takenOld firstSlot
  rw [oldSlots_eq, oldSlots_eq]
  generalize (slot .a).bind validV2 = a2
  generalize (slot .a).bind validV3 = a3
  generalize (slot .b).bind validV2 = b2
  generalize (slot .b).bind validV3 = b3
  cases a2 <;> cases a3 <;> cases b2 <;> cases b3 <;> rfl

theorem migratedRam_old (h : takenOld slot = some x) :
    migratedRam f slot legacy = ⟨x.migrated, x.generation⟩ := by
  rw [takenOld_eq] at h
  unfold migratedRam
  cases hv2 : firstSlot validV2 slot with
  | some v2 =>
    rw [hv2] at h
    cases h
    rfl
  | none =>
    cases hv3 : firstSlot validV3 slot with
    | some v3 =>
      rw [hv2, hv3] at h
      cases h
      rfl
    | none =>
      rw [hv2, hv3] at h
      cases h

theorem le_of_none {o : Option OldConfig} {g : SeqId} (h : o = none) :
    ∀ y, o = some y → y.generation ≤ g := by
  intro y hy
  cases h.symm.trans hy

theorem le_of_some {o : Option OldConfig} {g : SeqId} (h : o = some x) (hle : x.generation ≤ g) :
    ∀ y, o = some y → y.generation ≤ g := by
  intro y hy
  cases h.symm.trans hy
  exact hle

theorem le_of_sides {g : SeqId} (ha : ∀ y, oldSlots slot .a = some y → y.generation ≤ g)
    (hb : ∀ y, oldSlots slot .b = some y → y.generation ≤ g) :
    ∀ u y, oldSlots slot u = some y → y.generation ≤ g := by
  intro u
  cases u with
  | a => exact ha
  | b => exact hb

theorem takenOld_newest (hsome : ∃ t y, oldSlots slot t = some y) (horder : InMigrationOrder slot) :
    ∃ t x, takenOld slot = some x ∧ oldSlots slot t = some x ∧
      ∀ u y, oldSlots slot u = some y → y.generation ≤ x.generation := by
  unfold takenOld
  cases ha : oldSlots slot .a with
  | none =>
    cases hb : oldSlots slot .b with
    | none =>
      obtain ⟨t, y, hy⟩ := hsome
      cases t with
      | a => cases ha.symm.trans hy
      | b => cases hb.symm.trans hy
    | some y =>
      exact ⟨.b, y, rfl, hb, le_of_sides (le_of_none ha) (le_of_some hb (le_refl _))⟩
  | some x =>
    cases hb : oldSlots slot .b with
    | none => exact ⟨.a, x, rfl, ha, le_of_sides (le_of_some ha (le_refl _)) (le_of_none hb)⟩
    | some y =>
      have hright := horder x y ha hb
      simp only
      split at hright
      · rename_i hafter
        rw [if_pos hafter]
        exact ⟨.b, y, rfl, hb, le_of_sides (le_of_some ha hright) (le_of_some hb (le_refl _))⟩
      · rename_i hfirst
        rw [if_neg hfirst]
        exact ⟨.a, x, rfl, ha, le_of_sides (le_of_some ha (le_refl _)) (le_of_some hb hright)⟩

theorem inMigrationOrder_of_newest (h : takenOld slot = some x)
    (hnewest : ∀ u y, oldSlots slot u = some y → y.generation ≤ x.generation) :
    InMigrationOrder slot := by
  intro y z hy hz
  unfold takenOld at h
  rw [hy, hz] at h
  simp only at h
  split at h
  · rename_i hafter
    rw [if_pos hafter]
    cases h
    exact hnewest .a y hy
  · rename_i hfirst
    rw [if_neg hfirst]
    cases h
    exact hnewest .b z hz

end Taken

/-! ## The start -/

section Start

variable {f : NvsCalls} {n : ConfigNvs}

theorem verifyCode_ne_ok (stored : StoredConfig RuntimeConfig) (blob : Option ConfigBlob) :
    verifyCode stored blob ≠ some .ok := by
  unfold verifyCode
  split
  · split <;> exact fun h => by cases h
  · exact fun h => by cases h
  · exact fun h => by cases h

/-- A save keeps the settings in memory, and takes the next generation if it succeeds. -/
theorem saveLocked_ram (f : NvsCalls) (s : ConfigStore) :
    (saveLocked f s).2.ram.config = s.ram.config ∧
      (saveLocked f s).2.ram.generation =
        if (saveLocked f s).1 = .ok then nextGeneration s.ram.generation
        else s.ram.generation := by
  cases hsave : saveLocked f s with
  | mk code t =>
    unfold saveLocked at hsave
    simp only at hsave
    split at hsave
    · cases hsave
      exact ⟨rfl, rfl⟩
    · rename_i e n hresult
      obtain ⟨k, hk⟩ := attempt_fst_some (congrArg Prod.fst hresult)
      have hfails := saveAnswer_ne_ok (verifyCode_ne_ok _ _) hk
      cases hsave
      exact ⟨rfl, (if_neg hfails).symm⟩

theorem saveLocked_denied (s : ConfigStore) (hdenied : f 0 ≠ none) :
    (saveLocked f s).1 ≠ .ok := by
  intro hok
  unfold saveLocked at hok
  simp only at hok
  split at hok
  · rename_i n hresult
    have hall := (attempt_fst_iff _ _ _ _).1 (congrArg Prod.fst hresult) 0 (Nat.succ_pos 6)
    exact hdenied (Option.map_eq_none_iff.1 hall)
  · rename_i e n hresult
    obtain ⟨k, hk⟩ := attempt_fst_some (congrArg Prod.fst hresult)
    exact saveAnswer_ne_ok (verifyCode_ne_ok _ _) hk hok

theorem readSlots_of_ok (ha : f 1 = none) (hb : f 2 = none) : readSlots f n = n.slot := by
  funext t
  cases t with
  | a => rw [readSlots, ha, readSlot]
  | b => rw [readSlots, hb, readSlot]

theorem oldSlots_read {t : Side} {x : OldConfig} (h : oldSlots (readSlots f n) t = some x) :
    oldSlots n.slot t = some x := by
  cases t with
  | a =>
    unfold oldSlots readSlots readSlot at h
    simp only at h
    split at h
    · exact h
    · cases h
  | b =>
    unfold oldSlots readSlots readSlot at h
    simp only at h
    split at h
    · exact h
    · cases h

theorem selected_read (h : selected n.slot = none) : selected (readSlots f n) = none := by
  have hslot : ∀ t, validSlots n.slot t = none := by
    intro t
    by_contra hsome
    obtain ⟨x, hx⟩ := Option.ne_none_iff_exists'.1 hsome
    obtain ⟨y, hy⟩ := @newest_isSome _ _ _ StoredConfig.generation (validSlots n.slot) x t hx
    exact Option.some_ne_none y (hy.symm.trans h)
  have hread : ∀ t, validSlots (readSlots f n) t = none := by
    intro t
    unfold validSlots readSlots readSlot
    cases t with
    | a =>
      simp only
      split
      · exact hslot .a
      · rfl
    | b =>
      simp only
      split
      · exact hslot .b
      · rfl
  unfold selected newest
  rw [hread .a, hread .b]

/-- Without a slot of the current schema the start saves what it takes from an older one. -/
theorem runtimeConfigInit_old {x : OldConfig} (hopen : f 0 = none)
    (hnone : selected n.slot = none) (htaken : takenOld (readSlots f n) = some x) :
    runtimeConfigInit f n =
      saveLocked (fun i => f (i + 4)) ⟨⟨x.migrated, x.generation⟩, n⟩ := by
  unfold runtimeConfigInit
  rw [hopen]
  simp only
  rw [selected_read hnone]
  simp only
  rw [migratedRam_old htaken]

theorem InMigrationOrder.read (h : InMigrationOrder n.slot) : InMigrationOrder (readSlots f n) :=
  fun x y hx hy => h x y (oldSlots_read hx) (oldSlots_read hy)

theorem adoptsNewest_of_order (hnone : selected n.slot = none) (horder : InMigrationOrder n.slot)
    (hopen : f 0 = none) : AdoptsNewest (readSlots f n) (runtimeConfigInit f n) := by
  intro hsome
  obtain ⟨t, x, htaken, hx, hnewest⟩ := takenOld_newest hsome horder.read
  rw [runtimeConfigInit_old hopen hnone htaken]
  obtain ⟨hconfig, hgeneration⟩ :=
    saveLocked_ram (fun i => f (i + 4)) ⟨⟨x.migrated, x.generation⟩, n⟩
  refine ⟨t, x, hx, hnewest, ?_, hgeneration⟩
  rw [hconfig]
  exact sharedBy_migrated hx

def saveDenied : NvsCalls := fun i => if i = 4 then some .fail else none

/-- A start that does not save shows which slot it took. -/
theorem order_of_adoptsNewest (hnone : selected n.slot = none)
    (hadopts : AdoptsNewest (readSlots saveDenied n) (runtimeConfigInit saveDenied n)) :
    InMigrationOrder n.slot := by
  have hread : readSlots saveDenied n = n.slot := readSlots_of_ok rfl rfl
  rw [hread] at hadopts
  intro y z hy hz
  obtain ⟨x, htaken⟩ : ∃ x, takenOld n.slot = some x := by
    unfold takenOld
    rw [hy, hz]
    simp only
    split
    · exact ⟨z, rfl⟩
    · exact ⟨y, rfl⟩
  have htaken' : takenOld (readSlots saveDenied n) = some x := by rw [hread, htaken]
  rw [runtimeConfigInit_old rfl hnone htaken'] at hadopts
  obtain ⟨t, w, hw, hnewest, -, hgeneration⟩ := hadopts ⟨.a, y, hy⟩
  have hdenied := saveLocked_denied (f := fun i => saveDenied (i + 4))
    ⟨⟨x.migrated, x.generation⟩, n⟩ (fun h => by cases h)
  have hsame : w.generation = x.generation := by
    have htook := (saveLocked_ram (fun i => saveDenied (i + 4))
      ⟨⟨x.migrated, x.generation⟩, n⟩).2
    rw [if_neg hdenied] at hgeneration htook
    exact hgeneration.symm.trans htook
  refine inMigrationOrder_of_newest htaken (fun u v hv => ?_) y z hy hz
  rw [← hsame]
  exact hnewest u v hv

end Start

/-- **Migration.** Where no slot is valid in the current schema, every start that
opens its namespace adopts the newest of the older slots it can read, with all
their settings, if and only if the slots are in the order it tries them in. -/
theorem migration_newest_iff {n : ConfigNvs} (hnone : selected n.slot = none) :
    (∀ f : NvsCalls, f 0 = none → AdoptsNewest (readSlots f n) (runtimeConfigInit f n)) ↔
      InMigrationOrder n.slot :=
  ⟨fun h => order_of_adoptsNewest hnone (h saveDenied rfl),
    fun horder _ hopen => adoptsNewest_of_order hnone horder hopen⟩

/-! ## Two slots of schema 3 -/

def storedV3 (generation : SeqId) (c : RuntimeConfigV3) : StoredConfig RuntimeConfigV3 :=
  ⟨configMagic, generation, crc32Bytes c.bytes, c⟩

/-- The defaults in slot A, another gateway identifier in slot B. -/
def twoOld (generationA generationB : SeqId) : ConfigNvs where
  slot
    | .a => some (.v3 (storedV3 generationA (inV3 loadDefaults)))
    | .b => some (.v3 (storedV3 generationB
        (inV3 { loadDefaults with gatewayId := .copy 48 "plant".toList })))
  active := some 1
  legacy := none

theorem twoOld_slots (g h : SeqId) : selected (twoOld g h).slot = none ∧
    oldSlots (twoOld g h).slot .a = some (.v3 (storedV3 g (inV3 loadDefaults))) ∧
    oldSlots (twoOld g h).slot .b = some (.v3 (storedV3 h
      (inV3 { loadDefaults with gatewayId := .copy 48 "plant".toList }))) := by
  have hvalid : ∀ (g : SeqId) (c : RuntimeConfigV3), c.schemaVersion = 3 →
      validOld (.v3 (storedV3 g c)) = some (.v3 (storedV3 g c)) := by
    intro g c hschema
    have hv3 : validV3 (.v3 (storedV3 g c)) = some (storedV3 g c) := if_pos ⟨rfl, hschema, rfl⟩
    have hv2 : validV2 (.v3 (storedV3 g c)) = none := rfl
    rw [validOld, hv2, hv3, Option.map_none, Option.none_or, Option.map_some]
  have ha : (twoOld g h).slot .a = some (.v3 (storedV3 g (inV3 loadDefaults))) := rfl
  have hb : (twoOld g h).slot .b = some (.v3 (storedV3 h
      (inV3 { loadDefaults with gatewayId := .copy 48 "plant".toList }))) := rfl
  unfold oldSlots
  rw [ha, hb, Option.bind_some, Option.bind_some]
  exact ⟨rfl, hvalid g _ rfl, hvalid h _ rfl⟩

theorem migration_newest_iff_older_b :
    AdoptsNewest (readSlots .ok (twoOld 2 1)) (runtimeConfigInit .ok (twoOld 2 1)) := by
  obtain ⟨hnone, ha, hb⟩ := twoOld_slots 2 1
  refine (migration_newest_iff hnone).2 ?_ .ok rfl
  intro x y hx hy
  rw [ha] at hx
  rw [hb] at hy
  cases hx
  cases hy
  decide

/-- The last edit went to slot B; the start takes the settings from before it. -/
theorem older_slot_adopted :
    selected (twoOld 1 2).slot = none ∧
      (runtimeConfigInit .ok (twoOld 1 2)).2.ram.config.gatewayId = .copy 48 mqttClientId ∧
      ¬ ∀ f : NvsCalls, f 0 = none →
        AdoptsNewest (readSlots f (twoOld 1 2)) (runtimeConfigInit f (twoOld 1 2)) := by
  obtain ⟨hnone, ha, hb⟩ := twoOld_slots 1 2
  refine ⟨hnone, ?_, fun h => ?_⟩
  · have htaken : takenOld (readSlots .ok (twoOld 1 2)) =
        some (.v3 (storedV3 1 (inV3 loadDefaults))) := by
      rw [readSlots_of_ok rfl rfl, takenOld, ha, hb]
      rfl
    rw [runtimeConfigInit_old rfl hnone htaken, (saveLocked_ram _ _).1]
    rfl
  · have horder := order_of_adoptsNewest hnone (h saveDenied rfl) _ _ ha hb
    exact absurd horder (by decide)

end McpGateway.Runtime
