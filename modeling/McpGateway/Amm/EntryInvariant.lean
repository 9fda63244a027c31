import McpGateway.Amm.Identity

/-!
# Invariants of the entries

A property `Q` of single entries that has to hold of every active slot.
`entries_step_iff` says when a step keeps it, by what is stored, staged or
loaded; a rollback brings back entries that had it.
-/

namespace McpGateway.Amm

open McpGateway.Lib McpGateway.Tcm

/-- What the table functions write into active slots does not touch `Q`. -/
structure Stable (Q : AmmMappingEntry → Prop) : Prop where
  version : ∀ e v, Q { e with mappingVersion := v } ↔ Q e
  interval : ∀ e (ms : UInt32), 100 ≤ ms → Q e → Q { e with pollIntervalMs := ms }

/-- Every active slot has the property. -/
def AllActive (Q : AmmMappingEntry → Prop) (table : List AmmMappingEntry) : Prop :=
  ∀ e ∈ table, e.active = true → Q e

section Entries

variable (Q : AmmMappingEntry → Prop)

/-- The active slots below the stored count, as a load makes entries of them, have the property. -/
def StoredAll (f : NvsCalls) (dflt : UInt32) (n : AmmNvs) : Prop :=
  ∀ count, n.count = some count → ∀ (i : Nat) (blob : Blob) (e : AmmMappingEntry),
    (i : Int) < count → n.entry i = some blob → loadBlob (loadedSchema f n) blob = .ok e →
      e.active = true → Q (loadedEntry dflt e)

/-- What keeps the property: an entry has it as it is stored or staged, and the
slots of a load that succeeds have it. -/
def KeepsEntries (s : AmmStore) : AmmStep → Prop
  | .call (.add e) f => ∀ next save, s.CarriesOut (.add e) f next save → Q (s.ram.stored e)
  | .call (.update index e) f =>
      ∀ next save, s.CarriesOut (.update index e) f next save → Q (s.ram.stored e)
  | .call (.import entries replaceDevices) f =>
      ∀ next save, s.CarriesOut (.import entries replaceDevices) f next save →
        ∀ x ∈ lasts AmmMappingEntry.key (stagedEntries s.ram s.ram.modelVersion entries), Q x
  | .call _ _ => True
  | .load f =>
      (s.load f).1 = .ok → StoredAll Q f (loadedPollMs f s.nvs s.ram.defaultPollMs) s.nvs
  | .reboot f => (s.reboot f).1 = .ok → StoredAll Q f (loadedPollMs f s.nvs pollIntervalMs) s.nvs

/-- The table and the snapshot hold only active entries with the property. -/
structure EntryInv (s : AmmStore) : Prop where
  ram : AllActive Q s.ram.table
  snapshot : SnapshotHas (AllActive Q) s.nvs

variable {Q}

theorem allActive_nil : AllActive Q [] := fun _ h => absurd h List.not_mem_nil

theorem AllActive.append_zero (table : List AmmMappingEntry) (k : Nat) (h : AllActive Q table) :
    AllActive Q (table ++ List.replicate k .zero) := by
  intro e he hactive
  rcases List.mem_append.1 he with he | he
  · exact h e he hactive
  · rw [List.eq_of_mem_replicate he] at hactive
    cases hactive

theorem AllActive.map {table : List AmmMappingEntry} (h : AllActive Q table)
    {g : AmmMappingEntry → AmmMappingEntry} (hactive : ∀ e, (g e).active = true → e.active = true)
    (hg : ∀ e, e.active = true → Q e → Q (g e)) : AllActive Q (table.map g) := by
  intro x hx hlive
  obtain ⟨e, he, rfl⟩ := List.mem_map.1 hx
  exact hg e (hactive e hlive) (h e he (hactive e hlive))

variable {a : AmmTable}

theorem mem_put {i : Nat} {e x : AmmMappingEntry} (hx : x ∈ (a.put i e).table) :
    x ∈ a.table ∨ x = a.stored e := by
  unfold AmmTable.put at hx
  split at hx
  · exact List.mem_or_eq_of_mem_set hx
  · rcases List.mem_append.1 hx with hx | hx
    · exact .inl hx
    · exact .inr (List.mem_singleton.1 hx)

theorem put_all_iff (h : AllActive Q a.table) (i : Nat)
    (e : AmmMappingEntry) : AllActive Q (a.put i e).table ↔ Q (a.stored e) := by
  constructor
  · intro hall
    refine hall (a.stored e) ?_ (stored_active a e)
    unfold AmmTable.put
    split
    · rename_i hlt
      exact List.mem_set hlt (a.stored e)
    · exact List.mem_append_right _ List.mem_cons_self
  · intro hQ x hx hactive
    rcases mem_put hx with hx | rfl
    · exact h x hx hactive
    · exact hQ

theorem mem_deactivate {i : Nat} {x : AmmMappingEntry} (hx : x ∈ (a.deactivate i).table) :
    x ∈ a.table ∨ ∃ e ∈ a.table, x = { e with active := false } := by
  obtain ⟨j, hj⟩ := List.mem_iff_getElem?.1 hx
  simp only [AmmTable.deactivate, List.getElem?_modify, Option.map_eq_map,
    Option.map_eq_some_iff] at hj
  obtain ⟨e, he, rfl⟩ := hj
  by_cases hij : i = j
  · rw [if_pos hij]
    exact .inr ⟨e, List.mem_of_getElem? he, rfl⟩
  · rw [if_neg hij]
    exact .inl (List.mem_of_getElem? he)

theorem deactivate_all (h : AllActive Q a.table) (i : Nat) :
    AllActive Q (a.deactivate i).table := by
  intro x hx hactive
  rcases mem_deactivate hx with hx | ⟨e, -, rfl⟩
  · exact h x hx hactive
  · cases hactive

theorem withPollMs_all (hQ : Stable Q) (h : AllActive Q a.table) {ms : UInt32} (hms : 100 ≤ ms) :
    AllActive Q (a.withPollMs ms).table := by
  refine h.map (fun e hlive => ?_) fun e hlive he => ?_
  · split at hlive
    · assumption
    · exact hlive
  · rw [if_pos hlive]
    exact (hQ.version { e with pollIntervalMs := ms } _).2 (hQ.interval e ms hms he)

theorem restored_all (hQ : Stable Q) {snapshot : List AmmMappingEntry}
    (h : AllActive Q snapshot) : AllActive Q (a.restored snapshot).table :=
  h.map (fun _ hlive => hlive) fun e _ he => (hQ.version e _).2 he

theorem imported_all_iff (h : AllActive Q a.table) {entries : List AmmMappingEntry}
    {replaceDevices : Bool} {kept : List AmmMappingEntry} {st : Staging}
    (hkept : stageKept a entries replaceDevices = some kept)
    (hloop : importLoop a entries ⟨kept, a.modelVersion, 0⟩ = .ok st) :
    AllActive Q st.table ↔
      ∀ x ∈ lasts AmmMappingEntry.key (stagedEntries a a.modelVersion entries), Q x := by
  have hmem : ∀ x, x ∈ st.table ↔ x ∈ importedEntries a entries replaceDevices :=
    fun x => (importLoop_perm hkept hloop).mem_iff
  constructor
  · intro hall x hx
    have hx' := (hmem x).2 (List.mem_append_right _ hx)
    exact hall x hx' (stagedEntries_active (lasts_subset hx))
  · intro hQ x hx hactive
    rcases List.mem_append.1 ((hmem x).1 hx) with hx | hx
    · have hold := (dropFirsts_sublist _ _).subset hx
      exact h x (List.mem_filter.1 hold).1 hactive
    · exact hQ x hx

theorem loaded_all_iff {f : NvsCalls} {n : AmmNvs} {count : Int} (hcount : n.count = some count)
    {entries : List AmmMappingEntry}
    (hslots : loadSlots f (loadedSchema f n) n 0 count.toNat = .ok entries) (dflt : UInt32) :
    AllActive Q (entries.map (loadedEntry dflt)) ↔ StoredAll Q f dflt n := by
  obtain ⟨hlen, hslot⟩ := loadSlots_ok hslots
  constructor
  · intro hall c hc i blob e hi hblob hload hactive
    obtain rfl := Option.some.inj (hcount.symm.trans hc)
    have hlt : i < entries.length := by omega
    obtain ⟨blob', hblob', hload'⟩ := loadSlot_ok (hslot i _ (List.getElem?_eq_getElem hlt))
    rw [Nat.zero_add] at hblob'
    obtain rfl := Option.some.inj (hblob.symm.trans hblob')
    obtain rfl := Except.ok.inj (hload.symm.trans hload')
    refine hall _ (List.mem_map_of_mem (List.getElem_mem hlt)) ?_
    rwa [loadedEntry_active]
  · intro hall x hx hactive
    obtain ⟨e, he, rfl⟩ := List.mem_map.1 hx
    rw [loadedEntry_active] at hactive
    obtain ⟨i, hi⟩ := List.mem_iff_getElem?.1 he
    obtain ⟨blob, hblob, hload⟩ := loadSlot_ok (hslot i e hi)
    rw [Nat.zero_add] at hblob
    have hlt := (List.getElem?_eq_some_iff.1 hi).1
    exact hall count hcount i blob e (by omega) hblob hload hactive

end Entries

/-! ## Staged entries -/

section Staged

def userEntry (table : List AmmMappingEntry) (e : AmmMappingEntry) : Option AmmMappingEntry :=
  table.find? fun x => x.active && decide (x.semanticSource = .user) && ammSamePhysicalPoint x e

variable {table : List AmmMappingEntry} {e u : AmmMappingEntry}

theorem overlayUser_of_none (h : userEntry table e = none) : overlayUser table e = e := by
  rw [overlayUser, ← userEntry, h]

theorem overlayUser_of_some (h : userEntry table e = some u) :
    overlayUser table e = ammOverlayUserSemantics u e := by
  rw [overlayUser, ← userEntry, h]

theorem userEntry_active (h : userEntry table e = some u) : u ∈ table ∧ u.active = true := by
  have hu := List.find?_some h
  simp only [Bool.and_eq_true] at hu
  exact ⟨List.mem_of_find?_eq_some h, hu.1.1⟩

/-- Staging leaves the physical key alone, and so the user's entry. -/
theorem userEntry_importEntry (table : List AmmMappingEntry) (dflt : UInt32) (v : SeqId)
    (e : AmmMappingEntry) : userEntry table (importEntry dflt v e) = userEntry table e := by
  unfold userEntry ammSamePhysicalPoint
  rw [key_isIdentity.importEntry]
  rfl

theorem stringLength_isIdentity : IsIdentity AmmMappingEntry.stringLength := by
  constructor <;> intros <;> rfl

theorem lasts_staged_map {β : Type*} {g g' : AmmMappingEntry → β} {a : AmmTable}
    (h : ∀ v e, g (overlayUser a.table (importEntry a.defaultPollMs v e)) = g' e) (v : SeqId)
    (es : List AmmMappingEntry) :
    (lasts AmmMappingEntry.key (stagedEntries a v es)).map g =
      (lasts AmmMappingEntry.key es).map g' := by
  induction es generalizing v with
  | nil => rfl
  | cons e es ih =>
    have hkey : (overlayUser a.table (importEntry a.defaultPollMs (v + 1) e)).key = e.key := by
      rw [overlayUser_key, key_isIdentity.importEntry]
      rfl
    rw [stagedEntries, lasts, lasts, hkey, stagedEntries_key]
    split
    · exact ih (v + 1)
    · rw [List.map_cons, List.map_cons, h, ih (v + 1)]

theorem forall_lasts_staged {P P' : AmmMappingEntry → Prop} {a : AmmTable}
    (h : ∀ v e, P (overlayUser a.table (importEntry a.defaultPollMs v e)) ↔ P' e) (v : SeqId)
    (es : List AmmMappingEntry) :
    (∀ x ∈ lasts AmmMappingEntry.key (stagedEntries a v es), P x) ↔
      ∀ e ∈ lasts AmmMappingEntry.key es, P' e := by
  have hsame := lasts_staged_map (fun v e => propext (h v e)) v es
  have hall : ∀ (l : List AmmMappingEntry) (P : AmmMappingEntry → Prop),
      (∀ x ∈ l, P x) ↔ ∀ p ∈ l.map P, p := by
    intro l P
    constructor
    · intro hP p hp
      obtain ⟨x, hx, rfl⟩ := List.mem_map.1 hp
      exact hP x hx
    · exact fun hP x hx => hP _ (List.mem_map_of_mem hx)
  rw [hall, hsame, ← hall]

/-- The import puts a batch entry in place of the kept one, the first at its address. -/
def Replaced (a : AmmTable) (entries : List AmmMappingEntry) (replaceDevices : Bool)
    (x : AmmMappingEntry) : Prop :=
  x.key ∈ entries.map AmmMappingEntry.key ∧
    (keptEntries a entries replaceDevices).find? (fun y => decide (y.key = x.key)) = some x

/-- An import leaves distinct identities if the batch entries have them, among each other and
against the entries that are not replaced. -/
theorem imported_ids_iff {κ : Type*} {key key' : AmmMappingEntry → κ} {a : AmmTable}
    (hstaged : ∀ v e, key (overlayUser a.table (importEntry a.defaultPollMs v e)) = key' e)
    (hids : IdsDistinct key a.table) (entries : List AmmMappingEntry) (replaceDevices : Bool) :
    ((importedEntries a entries replaceDevices).map key).Nodup ↔
      (lasts AmmMappingEntry.key entries).Pairwise (fun e e' => key' e ≠ key' e') ∧
        ∀ x ∈ keptEntries a entries replaceDevices, ¬ Replaced a entries replaceDevices x →
          ∀ e ∈ lasts AmmMappingEntry.key entries, key x ≠ key' e := by
  have hkept := keptEntries_ids hids entries replaceDevices
  have hrest : ((dropFirsts AmmMappingEntry.key (entries.map AmmMappingEntry.key)
      (keptEntries a entries replaceDevices)).map key).Nodup :=
    ((dropFirsts_sublist _ _).map key).nodup hkept
  rw [importedEntries, List.map_append, lasts_staged_map hstaged, List.nodup_append,
    and_iff_right hrest]
  refine and_congr List.pairwise_map ?_
  constructor
  · intro hapart x hx hstays e he
    refine hapart _ (List.mem_map_of_mem ?_) _ (List.mem_map_of_mem he)
    exact (mem_dropFirsts_iff hkept.of_map).2 ⟨hx, hstays⟩
  · intro hapart k hk k' hk'
    obtain ⟨x, hx, rfl⟩ := List.mem_map.1 hk
    obtain ⟨e, he, rfl⟩ := List.mem_map.1 hk'
    obtain ⟨hmem, hstays⟩ := (mem_dropFirsts_iff hkept.of_map).1 hx
    exact hapart x hmem hstays e he

end Staged

/-! ## Steps -/

section Steps

variable {Q : AmmMappingEntry → Prop}

theorem keepsEntries_of_no_change {s : AmmStore} {call : AmmCall} {f : AmmFaults}
    (hnone : ∀ next save, ¬ s.CarriesOut call f next save) : KeepsEntries Q s (.call call f) := by
  cases call with
  | add | update | «import» => exact fun next save hout => absurd hout (hnone next save)
  | remove | removeForChannel | clear | setPollIntervalAll | rollback => exact trivial

/-- A change that is carried out keeps the property exactly on its condition. -/
theorem entries_of_change (hQ : Stable Q) {s : AmmStore} (h : EntryInv Q s) {call : AmmCall}
    {f : AmmFaults} {next : AmmTable} {save : SaveKind} (hout : s.CarriesOut call f next save) :
    AllActive Q next.table ↔ KeepsEntries Q s (.call call f) := by
  have hplan := hout.1
  cases call with
  | add e =>
    obtain ⟨i, -, rfl, -⟩ := planAdd_change hplan
    rw [put_all_iff h.ram i]
    exact ⟨fun hstored _ _ _ => hstored, fun hkeeps => hkeeps _ _ hout⟩
  | remove slaveId regAddr =>
    obtain ⟨i, -, rfl, -⟩ := planRemove_change hplan
    exact iff_of_true (deactivate_all h.ram i) trivial
  | removeForChannel protocol channelId slaveId regAddr =>
    obtain ⟨i, -, rfl, -⟩ := planRemove_change hplan
    exact iff_of_true (deactivate_all h.ram i) trivial
  | clear =>
    cases hplan
    exact iff_of_true allActive_nil trivial
  | update index e =>
    obtain ⟨old, hold, -, rfl, -⟩ := planUpdate_change hplan
    have hlt := (List.getElem?_eq_some_iff.1 hold).1
    have hput := put_all_iff h.ram index.toNat e
    rw [AmmTable.put, if_pos hlt] at hput
    rw [hput]
    exact ⟨fun hstored _ _ _ => hstored, fun hkeeps => hkeeps _ _ hout⟩
  | setPollIntervalAll ms =>
    obtain ⟨hlow, -, rfl, -⟩ := planSetPollIntervalAll_change hplan
    exact iff_of_true (withPollMs_all hQ h.ram hlow) trivial
  | «import» entries replaceDevices =>
    obtain ⟨-, kept, st, hkept, hloop, rfl, -⟩ := planImport_change hplan
    rw [imported_all_iff h.ram hkept hloop]
    exact ⟨fun hstaged _ _ _ => hstaged, fun hkeeps => hkeeps _ _ hout⟩
  | rollback =>
    obtain ⟨snapshot, hread, -, -, rfl, -⟩ := planRollback_change hplan
    have hsnap := h.snapshot.readRollback AllActive.append_zero hread
    exact iff_of_true (restored_all hQ hsnap) trivial

/-- Under the invariant a step keeps the property exactly on its condition. -/
theorem entries_step_iff (hQ : Stable Q) {s : AmmStore} (h : EntryInv Q s) (st : AmmStep) :
    TableAfter (AllActive Q) s st ↔ KeepsEntries Q s st := by
  cases st with
  | call call f =>
    exact perform_iff h.ram (fun _ _ hout => entries_of_change hQ h hout)
      keepsEntries_of_no_change
  | load f =>
    exact SnapshotInv.load_iff h.ram allActive_nil fun count entries hcount hslots =>
      loaded_all_iff hcount hslots _
  | reboot f =>
    exact SnapshotInv.load_iff (a := .empty s.ram.capacity) allActive_nil allActive_nil
      fun count entries hcount hslots => loaded_all_iff hcount hslots _

theorem EntryInv.step {s : AmmStore} (h : EntryInv Q s) {st : AmmStep}
    (hafter : TableAfter (AllActive Q) s st) : EntryInv Q (s.step st) := by
  refine ⟨hafter, ?_⟩
  cases st with
  | call call f => exact h.snapshot.perform h.ram call f
  | load f => exact h.snapshot
  | reboot f => exact h.snapshot

end Steps

end McpGateway.Amm
