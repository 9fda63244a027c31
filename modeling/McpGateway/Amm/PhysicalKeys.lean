import McpGateway.Amm.Identity

/-!
# Physical keys

Every lookup takes the first active entry with a physical key, so no two should
share one. Adding and importing look the key up first; `keys_distinct_run` says
what an update and a load must not do.
-/

namespace McpGateway.Amm

open McpGateway.Lib McpGateway.Tcm

section Keys

variable {a : AmmTable}

/-- Where `amm_add_mapping` writes: over the active entry with the key, or
elsewhere when no active entry has it. -/
theorem addTarget_cases {e : AmmMappingEntry} {i : Nat} (h : addTarget e a = some i) :
    (∃ x, a.table[i]? = some x ∧ x.active = true ∧ x.key = e.key) ∨
      ∀ x ∈ a.table, x.active = true → x.key ≠ e.key := by
  unfold addTarget at h
  split at h
  · rename_i j hj
    obtain rfl := Option.some.inj h
    obtain ⟨hlt, hp, -⟩ := List.findIdx?_eq_some_iff_getElem.1 hj
    simp only [Bool.and_eq_true, ammSamePhysicalPoint, decide_eq_true_eq] at hp
    exact .inl ⟨_, List.getElem?_eq_getElem hlt, hp⟩
  · rename_i hnone
    right
    intro x hx hactive hkey
    have hx' := List.findIdx?_eq_none_iff.1 hnone x hx
    simp [hactive, ammSamePhysicalPoint, hkey] at hx'

theorem addTarget_slot {e x : AmmMappingEntry} {i : Nat} (h : addTarget e a = some i)
    (hx : a.table[i]? = some x) (hactive : x.active = true) : x.key = e.key := by
  unfold addTarget at h
  split at h
  · rename_i j hj
    obtain rfl := Option.some.inj h
    obtain ⟨hlt, hp, -⟩ := List.findIdx?_eq_some_iff_getElem.1 hj
    obtain ⟨hlt', hx'⟩ := List.getElem?_eq_some_iff.1 hx
    rw [← hx']
    exact of_decide_eq_true (Bool.and_eq_true_iff.1 hp).2
  · split at h
    · rename_i j hj
      obtain rfl := Option.some.inj h
      obtain ⟨hlt, hp, -⟩ := List.findIdx?_eq_some_iff_getElem.1 hj
      obtain ⟨hlt', hx'⟩ := List.getElem?_eq_some_iff.1 hx
      rw [hx', hactive] at hp
      cases hp
    · split at h
      · cases h
      · obtain ⟨hlt, -⟩ := List.getElem?_eq_some_iff.1 hx
        have hend := Option.some.inj h
        omega

theorem addTarget_free (h : IdsDistinct AmmMappingEntry.key a.table) {e : AmmMappingEntry} {i : Nat}
    (hi : addTarget e a = some i) : FreeFor AmmMappingEntry.key a.table i e := by
  intro j b hj hb hlive hkey
  rcases addTarget_cases hi with ⟨x, hx, hactive, hx'⟩ | hnew
  · exact hj (h.eq_index hb hx hlive hactive (hkey.trans hx'.symm))
  · exact hnew b (List.mem_of_getElem? hb) hlive hkey

theorem importedEntries_keys (h : IdsDistinct AmmMappingEntry.key a.table)
    (entries : List AmmMappingEntry) (replaceDevices : Bool) :
    ((importedEntries a entries replaceDevices).map AmmMappingEntry.key).Nodup := by
  have hperm := foldl_putKeyed_perm AmmMappingEntry.key
    (stagedEntries a a.modelVersion entries) (keptEntries a entries replaceDevices)
  rw [stagedEntries_key] at hperm
  exact (hperm.map _).nodup_iff.1 (foldl_putKeyed_nodup (keptEntries_ids h entries replaceDevices))

end Keys

namespace AmmStore

/-- An update that is carried out takes the key of no other active slot, and a
load that succeeds reads slots with distinct keys. -/
def KeepsKeys (s : AmmStore) : AmmStep → Prop
  | .call (.update index e) f => ∀ next save, s.CarriesOut (.update index e) f next save →
      FreeFor AmmMappingEntry.key s.ram.table index.toNat e
  | .call _ _ => True
  | .load f => (s.load f).1 = .ok → StoredDistinct AmmMappingEntry.key s.nvs
  | .reboot f => (s.reboot f).1 = .ok → StoredDistinct AmmMappingEntry.key s.nvs

/-- After the step no two active entries have the same physical key. -/
def KeysDistinctAfter (s : AmmStore) (st : AmmStep) : Prop :=
  ((s.step st).ram.entries.map AmmMappingEntry.key).Nodup

/-- Adding and importing always meet their conditions. -/
theorem keepsIds_iff_keepsKeys {s : AmmStore}
    (h : TableInv (IdsDistinct AmmMappingEntry.key) s) (st : AmmStep) :
    KeepsIds AmmMappingEntry.key s st ↔ s.KeepsKeys st := by
  cases st with
  | load f => rfl
  | reboot f => rfl
  | call call f =>
    cases call with
    | add e => exact iff_of_true (fun _ _ _ _ hi => addTarget_free h.ram hi) trivial
    | «import» entries replaceDevices =>
      exact iff_of_true (fun _ _ _ => importedEntries_keys h.ram entries replaceDevices) trivial
    | remove | removeForChannel | clear | update | setPollIntervalAll | rollback => rfl

/-- **Key uniqueness.** Along a run of a new device no two active entries ever
have the same physical key, exactly when no update that is carried out takes the
key of another active slot and no successful load reads two slots with the same key. -/
theorem keys_distinct_run (capacity : Nat) (steps : List AmmStep) :
    AllSteps AmmStore.step KeysDistinctAfter (.fresh capacity) steps ↔
      AllSteps AmmStore.step KeepsKeys (.fresh capacity) steps :=
  allSteps_iff (K := fun s _ => TableInv (IdsDistinct AmmMappingEntry.key) s)
    (fun _ _ _ h hafter => h.step hafter)
    (fun _ st _ h => (ids_step_iff key_isIdentity (fun _ _ => rfl) h st).trans
      (keepsIds_iff_keepsKeys h st))
    (tableInv_fresh distinct_nil capacity)

/-- Two points are added, and the second is updated to the address of the first. -/
def duplicateSteps : List AmmStep :=
  [.call (.add samplePoint) .ok,
    .call (.add (holdingPoint 1 "meter".toList "voltage".toList)) .ok,
    .call (.update 1 (holdingPoint 0 "meter".toList "voltage".toList)) .ok]

/-- The update makes a second active entry with the key of the first. -/
theorem update_duplicates_key :
    ¬ AllSteps AmmStore.step KeysDistinctAfter (.fresh 1000) duplicateSteps := by
  intro h
  have hlast := (allSteps_iff_split _ _).1 h (duplicateSteps.take 2) _ [] rfl
  revert hlast
  unfold KeysDistinctAfter
  decide +kernel

end AmmStore

end McpGateway.Amm
