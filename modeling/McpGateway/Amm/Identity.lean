import McpGateway.Amm.TableInvariant

/-!
# Identities of entries

An identity of an entry is what storing, staging, restoring and loading leave
alone: its physical key, its two names. `ids_step_iff` says which steps keep the
identities of the active entries distinct.
-/

namespace McpGateway.Amm

open McpGateway.Lib McpGateway.Tcm

/-- What the table functions write into an entry of their own is not part of `key`. -/
structure IsIdentity {κ : Type*} (key : AmmMappingEntry → κ) : Prop where
  topicMode : ∀ e m, key { e with mqttTopicMode := m } = key e
  objectType : ∀ e t, key { e with objectType := t } = key e
  retries : ∀ e r b c,
    key { e with retryCount := r, retryBackoffMs := b, semanticConfidence := c } = key e
  window : ∀ e s c i,
    key { e with readStartAddress := s, readRegisterCount := c, valueRegisterIndex := i } = key e
  interval : ∀ e ms, key { e with pollIntervalMs := ms } = key e
  version : ∀ e v, key { e with mappingVersion := v } = key e
  scale : ∀ e q, key { e with scaleFactor := q } = key e

theorem key_isIdentity : IsIdentity AmmMappingEntry.key := by
  constructor <;> intros <;> rfl

theorem names_isIdentity : IsIdentity AmmMappingEntry.names := by
  constructor <;> intros <;> rfl

theorem active_isIdentity : IsIdentity AmmMappingEntry.active := by
  constructor <;> intros <;> rfl

section Entries

variable {κ : Type*} {key : AmmMappingEntry → κ} (hkey : IsIdentity key)
include hkey

theorem IsIdentity.normalize (e : AmmMappingEntry) : key (ammNormalizeReadWindow e) = key e :=
  normalize_keeps key hkey.topicMode hkey.objectType hkey.retries hkey.window e

theorem IsIdentity.withPollInterval (dflt : UInt32) (e : AmmMappingEntry) :
    key (withPollInterval dflt e) = key e := by
  unfold Amm.withPollInterval
  split
  · exact hkey.interval e dflt
  · rfl

theorem IsIdentity.withScale (e : AmmMappingEntry) :
    key (if e.scaleFactor = .fin 0 then { e with scaleFactor := .fin 1 } else e) = key e := by
  split
  · exact hkey.scale e _
  · rfl

theorem IsIdentity.loadedEntry (dflt : UInt32) (e : AmmMappingEntry) :
    key (loadedEntry dflt e) = key e := by
  rw [Amm.loadedEntry, hkey.normalize, hkey.withScale, hkey.withPollInterval]

theorem IsIdentity.stored (a : AmmTable) (e : AmmMappingEntry) :
    key (a.stored e) = key { e with active := true } := by
  rw [AmmTable.stored, hkey.withPollInterval, hkey.version, hkey.normalize]

theorem IsIdentity.importEntry (dflt : UInt32) (version : SeqId) (e : AmmMappingEntry) :
    key (importEntry dflt version e) = key { e with active := true } := by
  rw [Amm.importEntry, hkey.normalize, hkey.withScale, hkey.withPollInterval]
  exact hkey.version { e with active := true } version

end Entries

@[simp] theorem stored_active (a : AmmTable) (e : AmmMappingEntry) :
    (a.stored e).active = true := active_isIdentity.stored a e

@[simp] theorem importEntry_active (dflt : UInt32) (version : SeqId) (e : AmmMappingEntry) :
    (importEntry dflt version e).active = true := active_isIdentity.importEntry dflt version e

@[simp] theorem loadedEntry_active (dflt : UInt32) (e : AmmMappingEntry) :
    (loadedEntry dflt e).active = e.active := active_isIdentity.loadedEntry dflt e

@[simp] theorem overlayUser_key (table : List AmmMappingEntry) (e : AmmMappingEntry) :
    (overlayUser table e).key = e.key := by
  unfold overlayUser
  split <;> rfl

@[simp] theorem overlayUser_active (table : List AmmMappingEntry) (e : AmmMappingEntry) :
    (overlayUser table e).active = e.active := by
  unfold overlayUser
  split <;> rfl

/-! ## Import as a batch of replacements -/

def keptEntries (a : AmmTable) (entries : List AmmMappingEntry) (replaceDevices : Bool) :
    List AmmMappingEntry :=
  a.table.filter fun x => x.active && !(replaceDevices && ammImportContainsDevice entries x)

/-- The entries of an import as they are staged, the versions counted from `v`. -/
def stagedEntries (a : AmmTable) : SeqId → List AmmMappingEntry → List AmmMappingEntry
  | _, [] => []
  | v, e :: es =>
    overlayUser a.table (importEntry a.defaultPollMs (v + 1) e) :: stagedEntries a (v + 1) es

section Import

variable {a : AmmTable} {entries : List AmmMappingEntry} {replaceDevices : Bool}

theorem stageKept_eq {kept : List AmmMappingEntry}
    (h : stageKept a entries replaceDevices = some kept) :
    kept = keptEntries a entries replaceDevices := by
  unfold stageKept at h
  simp only at h
  split at h
  · cases h
  · exact (Option.some.inj h).symm

theorem keptEntries_active {x : AmmMappingEntry} (h : x ∈ keptEntries a entries replaceDevices) :
    x.active = true :=
  (Bool.and_eq_true_iff.1 (List.mem_filter.1 h).2).1

theorem stagedEntries_key (v : SeqId) (es : List AmmMappingEntry) :
    (stagedEntries a v es).map AmmMappingEntry.key = es.map AmmMappingEntry.key := by
  induction es generalizing v with
  | nil => rfl
  | cons e es ih =>
    rw [stagedEntries, List.map_cons, List.map_cons, ih, overlayUser_key, key_isIdentity.importEntry]
    rfl

theorem stagedEntries_active {v : SeqId} {es : List AmmMappingEntry} {x : AmmMappingEntry}
    (h : x ∈ stagedEntries a v es) : x.active = true := by
  induction es generalizing v with
  | nil => cases h
  | cons e es ih =>
    rcases List.mem_cons.1 h with rfl | h
    · rw [overlayUser_active, importEntry_active]
    · exact ih h

theorem stageEntry_eq {capacity : Nat} {table table' : List AmmMappingEntry} {e : AmmMappingEntry}
    (h : stageEntry capacity table e = some table') :
    table' = putKeyed AmmMappingEntry.key e table := by
  unfold stageEntry ammSamePhysicalPoint at h
  split at h
  · rename_i i hi
    rw [putKeyed_of_some hi]
    exact (Option.some.inj h).symm
  · rename_i hnone
    rw [putKeyed_of_none hnone]
    split at h
    · exact (Option.some.inj h).symm
    · cases h

/-- A loop that ends without error put every staged entry in its place. -/
theorem importLoop_ok {st st' : Staging} (h : importLoop a entries st = .ok st') :
    st'.table = (stagedEntries a st.modelVersion entries).foldl
        (fun l x => putKeyed AmmMappingEntry.key x l) st.table ∧
      (st'.modelVersion : Nat) = (st.modelVersion + entries.length) % 2 ^ 32 := by
  induction entries generalizing st with
  | nil =>
    cases h
    exact ⟨rfl, (Nat.mod_eq_of_lt st'.modelVersion.isLt).symm⟩
  | cons e es ih =>
    rw [importLoop] at h
    split at h
    · cases h
    · simp only at h
      split at h
      · cases h
      · rename_i table htable
        obtain ⟨htab, hver⟩ := ih h
        rw [stageEntry_eq htable] at htab
        refine ⟨htab, ?_⟩
        have hone : ((1 : SeqId) : Nat) = 1 := rfl
        rw [hver, List.length_cons]
        simp only [Fin.val_add, hone]
        omega

/-- What an import leaves: the kept entries it does not replace, and the last
staged entry for each key. -/
def importedEntries (a : AmmTable) (entries : List AmmMappingEntry) (replaceDevices : Bool) :
    List AmmMappingEntry :=
  dropFirsts AmmMappingEntry.key (entries.map AmmMappingEntry.key)
      (keptEntries a entries replaceDevices) ++
    lasts AmmMappingEntry.key (stagedEntries a a.modelVersion entries)

theorem importLoop_perm {kept : List AmmMappingEntry} {st : Staging}
    (hkept : stageKept a entries replaceDevices = some kept)
    (hloop : importLoop a entries ⟨kept, a.modelVersion, 0⟩ = .ok st) :
    st.table.Perm (importedEntries a entries replaceDevices) := by
  rw [(importLoop_ok hloop).1, stageKept_eq hkept]
  have hperm := foldl_putKeyed_perm AmmMappingEntry.key
    (stagedEntries a a.modelVersion entries) (keptEntries a entries replaceDevices)
  rwa [stagedEntries_key] at hperm

theorem importedEntries_active {x : AmmMappingEntry}
    (h : x ∈ importedEntries a entries replaceDevices) : x.active = true := by
  rcases List.mem_append.1 h with h | h
  · exact keptEntries_active ((dropFirsts_sublist _ _).subset h)
  · exact stagedEntries_active (lasts_subset h)

end Import

/-! ## Distinct identities -/

section Distinct

variable {κ : Type*} (key : AmmMappingEntry → κ)

/-- No two active entries of the slots share the identity. -/
abbrev IdsDistinct (table : List AmmMappingEntry) : Prop := Distinct AmmMappingEntry.active key table

/-- No active slot but `i` has the identity of `e`. -/
def FreeFor (table : List AmmMappingEntry) (i : Nat) (e : AmmMappingEntry) : Prop :=
  ∀ (j : Nat) (b : AmmMappingEntry), j ≠ i → table[j]? = some b → b.active = true → key b ≠ key e

/-- No two slots below the stored count hold active entries with the same identity. -/
def StoredDistinct (n : AmmNvs) : Prop :=
  ∀ count, n.count = some count → ∀ (i j : Nat) (e e' : AmmMappingEntry), i < j →
    (j : Int) < count → n.entry i = some (.current e) → n.entry j = some (.current e') →
      e.active = true → e'.active = true → key e ≠ key e'

/-- What keeps the identities distinct: an entry that is added or updated gets
one that is free, an import leaves distinct ones, and a load that succeeds reads
distinct ones. -/
def KeepsIds (s : AmmStore) : AmmStep → Prop
  | .call (.add e) f => ∀ next save, s.CarriesOut (.add e) f next save →
      ∀ i, addTarget e s.ram = some i → FreeFor key s.ram.table i e
  | .call (.update index e) f => ∀ next save, s.CarriesOut (.update index e) f next save →
      FreeFor key s.ram.table index.toNat e
  | .call (.import entries replaceDevices) f =>
      ∀ next save, s.CarriesOut (.import entries replaceDevices) f next save →
        ((importedEntries s.ram entries replaceDevices).map key).Nodup
  | .call _ _ => True
  | .load f => (s.load f).1 = .ok → StoredDistinct key s.nvs
  | .reboot f => (s.reboot f).1 = .ok → StoredDistinct key s.nvs

variable {key} {a : AmmTable}

theorem addTarget_le {e : AmmMappingEntry} {i : Nat} (h : addTarget e a = some i) :
    i ≤ a.table.length := by
  unfold addTarget at h
  split at h
  · rename_i j hj
    rw [← Option.some.inj h]
    exact Nat.le_of_lt (List.findIdx?_eq_some_iff_getElem.1 hj).1
  · split at h
    · rename_i j hj
      rw [← Option.some.inj h]
      exact Nat.le_of_lt (List.findIdx?_eq_some_iff_getElem.1 hj).1
    · split at h
      · cases h
      · exact Nat.le_of_eq (Option.some.inj h).symm

theorem put_getElem? {i : Nat} (hi : i ≤ a.table.length) (e : AmmMappingEntry) :
    (a.put i e).table[i]? = some (a.stored e) := by
  unfold AmmTable.put
  split
  · rename_i hlt
    exact List.getElem?_set_self hlt
  · rename_i hlt
    obtain rfl : i = a.table.length := by omega
    exact List.getElem?_concat_length

theorem put_getElem?_ne {i j : Nat} (hij : j ≠ i) {x : AmmMappingEntry} (hx : a.table[j]? = some x)
    (e : AmmMappingEntry) : (a.put i e).table[j]? = some x := by
  unfold AmmTable.put
  split
  · exact (List.getElem?_set_ne hij.symm).trans hx
  · have hlt := (List.getElem?_eq_some_iff.1 hx).1
    exact (List.getElem?_append_left hlt).trans hx

theorem deactivate_ids (h : IdsDistinct key a.table) (i : Nat) :
    IdsDistinct key (a.deactivate i).table :=
  h.modify i fun _ => rfl

theorem ids_of_perm {l m : List AmmMappingEntry} (hperm : l.Perm m)
    (hactive : ∀ x ∈ m, x.active = true) : IdsDistinct key l ↔ (m.map key).Nodup := by
  have hall : l.filter AmmMappingEntry.active = l :=
    List.filter_eq_self.2 fun x hx => hactive x (hperm.subset hx)
  rw [IdsDistinct, Distinct, hall]
  exact (hperm.map key).nodup_iff

theorem keptEntries_ids (h : IdsDistinct key a.table) (entries : List AmmMappingEntry)
    (replaceDevices : Bool) : ((keptEntries a entries replaceDevices).map key).Nodup := by
  have hsub : (keptEntries a entries replaceDevices).Sublist (a.table.filter (·.active)) :=
    List.monotone_filter_right _ fun x hx => (Bool.and_eq_true_iff.1 hx).1
  exact (hsub.map _).nodup h

theorem ids_append_zero (table : List AmmMappingEntry) (k : Nat) (h : IdsDistinct key table) :
    IdsDistinct key (table ++ List.replicate k .zero) := by
  have hzero : (List.replicate k AmmMappingEntry.zero).filter AmmMappingEntry.active = [] := by
    rw [List.filter_eq_nil_iff]
    intro x hx
    rw [(List.mem_replicate.1 hx).2]
    exact Bool.false_ne_true
  unfold IdsDistinct Distinct
  rw [List.filter_append, hzero, List.append_nil]
  exact h

theorem keepsIds_of_no_change {s : AmmStore} {call : AmmCall} {f : AmmFaults}
    (h : ∀ next save, ¬ s.CarriesOut call f next save) : KeepsIds key s (.call call f) := by
  cases call <;> first | trivial | exact fun next save hout => absurd hout (h next save)

end Distinct

section Run

variable {κ : Type*} {key : AmmMappingEntry → κ} (hkey : IsIdentity key)
  (hlive : ∀ e b, key { e with active := b } = key e)
include hkey

theorem withPollMs_ids {a : AmmTable} (h : IdsDistinct key a.table) (ms : UInt32) :
    IdsDistinct key (a.withPollMs ms).table := by
  refine h.map (fun x hx => ?_) (fun x => ?_)
  · split at hx <;> exact hx
  · split
    · exact (hkey.version { x with pollIntervalMs := ms } _).trans (hkey.interval x ms)
    · rfl

theorem restored_ids {a : AmmTable} {snapshot : List AmmMappingEntry}
    (h : IdsDistinct key snapshot) : IdsDistinct key (a.restored snapshot).table :=
  h.map (fun _ hx => hx) fun x => hkey.version x _

/-- A load that reads its slots: their identities are the stored ones. -/
theorem loaded_ids_iff {n : AmmNvs} {f : NvsCalls} {schema : Nat} {count : Int}
    {entries : List AmmMappingEntry} (h : SnapshotInv (IdsDistinct key) n)
    (hcount : n.count = some count)
    (hslots : loadSlots f schema n 0 count.toNat = .ok entries) (dflt : UInt32) :
    IdsDistinct key (entries.map (loadedEntry dflt)) ↔ StoredDistinct key n := by
  have hslot := h.loadSlots hslots
  rw [IdsDistinct, distinct_iff]
  constructor
  · intro hids c hc i j e e' hij hj he he' hactive hactive'
    obtain rfl := Option.some.inj (hcount.symm.trans hc)
    have hi : entries[i]? = some e := (hslot i e).2 ⟨by omega, he⟩
    have hj : entries[j]? = some e' := (hslot j e').2 ⟨by omega, he'⟩
    have hids' := hids i j (loadedEntry dflt e) (loadedEntry dflt e') hij
      (by rw [List.getElem?_map, hi]; rfl) (by rw [List.getElem?_map, hj]; rfl)
    rw [loadedEntry_active, loadedEntry_active, hkey.loadedEntry, hkey.loadedEntry] at hids'
    exact hids' hactive hactive'
  · intro hids i j e e' hij he he' hactive hactive'
    rw [List.getElem?_map, Option.map_eq_some_iff] at he he'
    obtain ⟨e, he, rfl⟩ := he
    obtain ⟨e', he', rfl⟩ := he'
    rw [loadedEntry_active] at hactive hactive'
    rw [hkey.loadedEntry, hkey.loadedEntry]
    obtain ⟨hi, he⟩ := (hslot i e).1 he
    obtain ⟨hj, he'⟩ := (hslot j e').1 he'
    exact hids count hcount i j e e' hij (by omega) he he' hactive hactive'

include hlive

/-- Writing a slot, or a new one, keeps the identities distinct if no other
active slot has the one that is written. -/
theorem put_ids_iff {a : AmmTable} (h : IdsDistinct key a.table) {i : Nat}
    (hi : i ≤ a.table.length) (e : AmmMappingEntry) :
    IdsDistinct key (a.put i e).table ↔ FreeFor key a.table i e := by
  have hstored : key (a.stored e) = key e := (hkey.stored a e).trans (hlive e true)
  unfold AmmTable.put
  by_cases hlt : i < a.table.length
  · rw [if_pos hlt]
    have hset := distinct_set_iff (x := a.stored e) h hlt
    rw [stored_active, hstored] at hset
    simp only [forall_const] at hset
    exact hset
  · rw [if_neg hlt]
    refine (distinct_concat_iff h).trans ?_
    rw [stored_active, hstored]
    constructor
    · intro hfree j b _ hb
      exact hfree rfl b (List.mem_of_getElem? hb)
    · intro hfree _ b hb
      obtain ⟨j, hj⟩ := List.mem_iff_getElem?.1 hb
      have hjlt := (List.getElem?_eq_some_iff.1 hj).1
      exact hfree j b (by omega) hj

/-- A change that is carried out keeps the identities distinct exactly on its condition. -/
theorem ids_of_change {s : AmmStore} (h : TableInv (IdsDistinct key) s) {call : AmmCall}
    {f : AmmFaults} {next : AmmTable} {save : SaveKind} (hout : s.CarriesOut call f next save) :
    IdsDistinct key next.table ↔ KeepsIds key s (.call call f) := by
  have hplan := hout.1
  cases call with
  | add e =>
    obtain ⟨i, hi, rfl, -⟩ := planAdd_change hplan
    rw [put_ids_iff hkey hlive h.ram (addTarget_le hi)]
    constructor
    · intro hfree _ _ _ j hj
      rwa [← Option.some.inj (hi.symm.trans hj)]
    · exact fun hkeeps => hkeeps _ _ hout i hi
  | remove slaveId regAddr =>
    obtain ⟨i, -, rfl, -⟩ := planRemove_change hplan
    exact iff_of_true (deactivate_ids h.ram i) trivial
  | removeForChannel protocol channelId slaveId regAddr =>
    obtain ⟨i, -, rfl, -⟩ := planRemove_change hplan
    exact iff_of_true (deactivate_ids h.ram i) trivial
  | clear =>
    cases hplan
    exact iff_of_true distinct_nil trivial
  | update index e =>
    obtain ⟨old, hold, -, rfl, -⟩ := planUpdate_change hplan
    have hlt := (List.getElem?_eq_some_iff.1 hold).1
    have hput := put_ids_iff hkey hlive h.ram (Nat.le_of_lt hlt) e
    rw [AmmTable.put, if_pos hlt] at hput
    rw [hput]
    exact ⟨fun hfree _ _ _ => hfree, fun hkeeps => hkeeps _ _ hout⟩
  | setPollIntervalAll ms =>
    obtain ⟨-, -, rfl, -⟩ := planSetPollIntervalAll_change hplan
    exact iff_of_true (withPollMs_ids hkey h.ram ms) trivial
  | «import» entries replaceDevices =>
    obtain ⟨-, kept, st, hkept, hloop, rfl, -⟩ := planImport_change hplan
    rw [ids_of_perm (importLoop_perm hkept hloop) fun x => importedEntries_active]
    exact ⟨fun hnodup _ _ _ => hnodup, fun hkeeps => hkeeps _ _ hout⟩
  | rollback =>
    obtain ⟨snapshot, hread, -, -, rfl, -⟩ := planRollback_change hplan
    exact iff_of_true (restored_ids hkey (h.nvs.snapshot.readRollback ids_append_zero hread)) trivial

/-- Under the invariant a step keeps the identities distinct exactly on its condition. -/
theorem ids_step_iff {s : AmmStore} (h : TableInv (IdsDistinct key) s) (st : AmmStep) :
    TableAfter (IdsDistinct key) s st ↔ KeepsIds key s st := by
  cases st with
  | call call f =>
    exact perform_iff h.ram (fun _ _ hout => ids_of_change hkey hlive h hout) keepsIds_of_no_change
  | load f =>
    exact SnapshotInv.load_iff h.ram distinct_nil fun count entries hcount hslots =>
      loaded_ids_iff hkey h.nvs hcount hslots _
  | reboot f =>
    exact SnapshotInv.load_iff (a := .empty s.ram.capacity) distinct_nil distinct_nil
      fun count entries hcount hslots => loaded_ids_iff hkey h.nvs hcount hslots _

end Run

end McpGateway.Amm
