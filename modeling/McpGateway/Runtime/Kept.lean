import McpGateway.Runtime.Durability

/-!
# What every configuration keeps

A property that the defaults have and that each configuration handed to
`runtime_config_set` has, provided it is valid, holds of the configuration in
memory and of both slots, whichever NVS calls fail and wherever power is lost.
-/

namespace McpGateway.Runtime

open McpGateway.Lib
open McpGateway.Amm (NvsFault NvsCalls)

/-- The configurations in the slots have the property; nothing is left to migrate. -/
structure KeptNvs (P : RuntimeConfig → Prop) (n : ConfigNvs) : Prop where
  slots : ∀ t x, validSlots n.slot t = some x → P x.config
  noV2 : ∀ t, (n.slot t).bind validV2 = none
  noV3 : ∀ t, (n.slot t).bind validV3 = none
  noLegacy : n.legacy = none

/-- The configuration in memory has it as well. -/
structure KeptIn (P : RuntimeConfig → Prop) (s : ConfigStore) : Prop where
  ram : P s.ram.config
  nvs : KeptNvs P s.nvs

section Kept

variable {P : RuntimeConfig → Prop} {n : ConfigNvs} {s : ConfigStore}

theorem keptNvs_empty : KeptNvs P .empty where
  slots := fun _ _ h => nomatch h
  noV2 := fun _ => rfl
  noV3 := fun _ => rfl
  noLegacy := rfl

theorem KeptNvs.setSlot (h : KeptNvs P n) (t : Side) {stored : StoredConfig RuntimeConfig}
    (hstored : P stored.config) : KeptNvs P (n.setSlot t (.current stored)) := by
  have hslot (u : Side) : (n.setSlot t (.current stored)).slot u =
      if u = t then some (.current stored) else n.slot u := Function.update_apply ..
  refine ⟨fun u x hx => ?_, fun u => ?_, fun u => ?_, h.noLegacy⟩
  · rw [validSlots, hslot] at hx
    split at hx
    · rw [Option.bind_some, validBlob] at hx
      split at hx
      · cases hx
        exact hstored
      · cases hx
    · exact h.slots u x hx
  · rw [hslot]
    split
    · rfl
    · exact h.noV2 u
  · rw [hslot]
    split
    · rfl
    · exact h.noV3 u

theorem KeptNvs.upTo (h : KeptNvs P n) {ram : ConfigRam} (hram : P ram.config) (f : NvsCalls)
    (k : Nat) : KeptNvs P (upTo k (saveCalls f ram n) n) := by
  refine upTo_induction h ?_ k
  simp only [saveCalls, List.forall_mem_cons]
  exact ⟨fun _ h => h, fun _ h => h, fun _ h => h.setSlot _ hram, fun _ h => h, fun _ h => h,
    fun _ h => ⟨h.slots, h.noV2, h.noV3, h.noLegacy⟩, fun _ h => h,
    fun g hg => absurd hg List.not_mem_nil⟩

theorem KeptIn.saveLocked (h : KeptIn P s) (f : NvsCalls) : KeptIn P (saveLocked f s).2 := by
  have hcalls (answer : Nat → Option EspErr) :
      KeptNvs P (attempt answer 0 (saveCalls f s.ram s.nvs) s.nvs).2 := by
    rw [attempt_snd]
    exact h.nvs.upTo h.ram f _
  unfold Runtime.saveLocked
  dsimp only
  split <;> rename_i n hattempt
  · exact ⟨h.ram, (congrArg (fun r => KeptNvs P r.2) hattempt).mp (hcalls _)⟩
  · exact ⟨h.ram, (congrArg (fun r => KeptNvs P r.2) hattempt).mp (hcalls _)⟩

theorem KeptIn.set (h : KeptIn P s) {config : RuntimeConfig} (hconfig : ValidConfig config → P config)
    (f : NvsCalls) : KeptIn P (runtimeConfigSet f config s).2 := by
  unfold runtimeConfigSet
  split
  · exact h
  · rename_i hvalid
    have hasking : KeptIn P { s with ram := { s.ram with config := config } } :=
      ⟨hconfig (not_not.1 hvalid), h.nvs⟩
    have hsaved := hasking.saveLocked f
    dsimp only
    split
    · exact ⟨h.ram, hsaved.nvs⟩
    · exact hsaved

theorem KeptIn.cut (h : KeptIn P s) {call : ConfigCall} (hcall : ValidConfig call.wanted → P call.wanted)
    (f : NvsCalls) (k : Nat) : KeptNvs P (s.cut call f k) := by
  unfold ConfigStore.cut
  split
  · rename_i hvalid
    have hwanted : P (s.asking call).ram.config := hcall hvalid
    exact h.nvs.upTo hwanted f k
  · exact h.nvs

theorem readSlots_eq (f : NvsCalls) (n : ConfigNvs) (t : Side) :
    readSlots f n t = n.slot t ∨ readSlots f n t = none := by
  cases t with
  | a =>
    show readSlot (f 1) _ = _ ∨ readSlot (f 1) _ = _
    cases f 1 with
    | none => exact .inl rfl
    | some e => exact .inr rfl
  | b =>
    show readSlot (f 2) _ = _ ∨ readSlot (f 2) _ = _
    cases f 2 with
    | none => exact .inl rfl
    | some e => exact .inr rfl

/-- With no old schema to migrate, a start without a valid slot takes the defaults. -/
theorem KeptNvs.migrated (h : KeptNvs P n) (f : NvsCalls) :
    (migratedRam f (readSlots f n) n.legacy).config = loadDefaults := by
  have hnone {C : Type} {valid : ConfigBlob → Option (StoredConfig C)}
      (hslot : ∀ t, (n.slot t).bind valid = none) (t : Side) :
      (readSlots f n t).bind valid = none := by
    rcases readSlots_eq f n t with hread | hread
    · rw [hread, hslot t]
    · rw [hread]
      rfl
  unfold migratedRam firstSlot
  rw [hnone h.noV2, hnone h.noV2, hnone h.noV3, hnone h.noV3, h.noLegacy]
  cases f 3 with
  | none => rfl
  | some e => rfl

theorem KeptNvs.init (h : KeptNvs P n) (hdefaults : P loadDefaults) (f : NvsCalls) :
    KeptIn P (runtimeConfigInit f n).2 := by
  unfold runtimeConfigInit
  split
  · have hasking : KeptIn P ⟨⟨loadDefaults, 0⟩, n⟩ := ⟨hdefaults, h⟩
    exact hasking.saveLocked _
  · split
    · rename_i stored hselected
      obtain ⟨t, hstored⟩ := newest_mem hselected
      refine ⟨h.slots t stored ?_, h⟩
      unfold validSlots at hstored ⊢
      rcases readSlots_eq f n t with hread | hread
      · rwa [hread] at hstored
      · rw [hread] at hstored
        cases hstored
    · have hasking : KeptIn P ⟨migratedRam f (readSlots f n) n.legacy, n⟩ :=
        ⟨(h.migrated f).symm ▸ hdefaults, h⟩
      exact hasking.saveLocked _

end Kept

end McpGateway.Runtime
