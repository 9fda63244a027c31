import Mathlib.Data.List.Pairwise
import McpGateway.Amm.EntryInvariant

/-!
# Point names

Commands, automation and the state pool name a point by its `(device_id,
point_id)`, the table finds entries by address. `point_names_run` says along
which runs a pair of names belongs to one active entry: adding, updating and
importing do not look at the names the table has already.
-/

namespace McpGateway.Amm

open McpGateway.Lib McpGateway.Tcm

/-- The first active entry under two names is the only one. -/
theorem find_by_point {a : AmmTable} (h : IdsDistinct AmmMappingEntry.names a.table)
    {e : AmmMappingEntry} (he : e ∈ a.entries) :
    ammFindMappingByPoint e.deviceId.str e.pointId.str a = some e :=
  h.find? he fun _ => decide_eq_true_iff

/-! ## What an import names -/

/-- The names that an import gives an entry: the user's at its address, or its own. -/
def importNames (table : List AmmMappingEntry) (e : AmmMappingEntry) : CStr × CStr :=
  match userEntry table e with
  | some u => u.names
  | none => e.names

/-- The names that an import brings in are in use nowhere else. -/
structure ImportNamesFree (a : AmmTable) (entries : List AmmMappingEntry)
    (replaceDevices : Bool) : Prop where
  -- the check of the batch does not see the names that the user gave
  batch : ∀ e ∈ entries, ∀ u, userEntry a.table e = some u →
    ∀ e' ∈ entries, e'.key ≠ e.key → importNames a.table e' ≠ u.names
  kept : ∀ e ∈ entries, ∀ x ∈ keptEntries a entries replaceDevices,
    x.names = importNames a.table e → Replaced a entries replaceDevices x

section Import

variable {a : AmmTable} {entries : List AmmMappingEntry} {replaceDevices : Bool}
  {e e' : AmmMappingEntry}

theorem names_staged (table : List AmmMappingEntry) (dflt : UInt32) (v : SeqId)
    (e : AmmMappingEntry) :
    (overlayUser table (importEntry dflt v e)).names = importNames table e := by
  have hsame := userEntry_importEntry table dflt v e
  unfold importNames
  cases huser : userEntry table e with
  | none =>
    rw [overlayUser_of_none (hsame.trans huser)]
    exact names_isIdentity.importEntry dflt v e
  | some u =>
    rw [overlayUser_of_some (hsame.trans huser)]
    rfl

/-- In a batch without conflicts the address decides the names, and the other way around. -/
theorem profile_names_iff (h : profileConflicts entries = false) (he : e ∈ entries)
    (he' : e' ∈ entries) : e.key = e'.key ↔ e.names = e'.names := by
  have hagree : entries.Pairwise fun e e' => e.key = e'.key ↔ e.names = e'.names := by
    clear he he'
    induction entries with
    | nil => exact List.Pairwise.nil
    | cons x xs ih =>
      rw [profileConflicts, Bool.or_eq_false_iff, List.any_eq_false] at h
      refine List.Pairwise.cons (fun y hy => ?_) (ih h.2)
      have hpair := h.1 y hy
      rw [profileConflict, ammSamePhysicalPoint, bne_iff_ne, not_not, decide_eq_decide] at hpair
      exact hpair
  have : Std.Symm fun e e' : AmmMappingEntry => e.key = e'.key ↔ e.names = e'.names :=
    ⟨fun _ _ hxy => eq_comm.trans (hxy.trans eq_comm)⟩
  exact List.Pairwise.forall_of_forall (R := fun e e' => e.key = e'.key ↔ e.names = e'.names)
    (fun _ _ => iff_of_true rfl rfl) hagree he he'

theorem importNames_congr (h : profileConflicts entries = false) (he : e ∈ entries)
    (he' : e' ∈ entries) (hkey : e.key = e'.key) :
    importNames a.table e = importNames a.table e' := by
  have huser : userEntry a.table e = userEntry a.table e' := by
    unfold userEntry ammSamePhysicalPoint
    rw [hkey]
  unfold importNames
  rw [huser, (profile_names_iff h he he').1 hkey]

/-- The batch check leaves the pairs in which the user named one of the two. -/
theorem batch_names_iff (h : profileConflicts entries = false) :
    (∀ e ∈ entries, ∀ e' ∈ entries, e'.key ≠ e.key →
        importNames a.table e' ≠ importNames a.table e) ↔
      ∀ e ∈ entries, ∀ u, userEntry a.table e = some u →
        ∀ e' ∈ entries, e'.key ≠ e.key → importNames a.table e' ≠ u.names := by
  have hnamed : ∀ {e u}, userEntry a.table e = some u → importNames a.table e = u.names := by
    intro e u hu
    rw [importNames, hu]
  constructor
  · intro hall e he u hu e' he' hkey
    rw [← hnamed hu]
    exact hall e he e' he' hkey
  · intro hall e he e' he' hkey
    cases hu : userEntry a.table e with
    | some u =>
      rw [hnamed hu]
      exact hall e he u hu e' he' hkey
    | none =>
      cases hu' : userEntry a.table e' with
      | some u =>
        rw [hnamed hu']
        exact (hall e' he' u hu' e he (Ne.symm hkey)).symm
      | none =>
        rw [importNames, importNames, hu, hu']
        exact fun hnames => hkey ((profile_names_iff h he' he).2 hnames)

/-- An import that passes its batch check leaves distinct names exactly on its condition. -/
theorem imported_names_iff (hids : IdsDistinct AmmMappingEntry.names a.table)
    (hbatch : profileConflicts entries = false) :
    ((importedEntries a entries replaceDevices).map AmmMappingEntry.names).Nodup ↔
      ImportNamesFree a entries replaceDevices := by
  rw [imported_ids_iff (fun v e => names_staged a.table _ v e) hids]
  have hkeys : ((lasts AmmMappingEntry.key entries).map AmmMappingEntry.key).Nodup :=
    lasts_keys_nodup entries
  rw [List.Nodup, List.pairwise_map] at hkeys
  constructor
  · rintro ⟨hlasts, hkept⟩
    have : Std.Symm fun e e' : AmmMappingEntry =>
        e.key ≠ e'.key → importNames a.table e ≠ importNames a.table e' :=
      ⟨fun _ _ hxy hkey => (hxy hkey.symm).symm⟩
    have hpairs : (lasts AmmMappingEntry.key entries).Pairwise fun e e' =>
        e.key ≠ e'.key → importNames a.table e ≠ importNames a.table e' :=
      hlasts.imp fun {e e'} hxy (_ : e.key ≠ e'.key) => hxy
    have hall := List.Pairwise.forall_of_forall
      (R := fun e e' => e.key ≠ e'.key → importNames a.table e ≠ importNames a.table e')
      (fun _ _ hkey => absurd rfl hkey) hpairs
    have hlast : ∀ e ∈ entries, ∃ l ∈ lasts AmmMappingEntry.key entries, l.key = e.key :=
      fun e he => exists_mem_lasts he
    refine ⟨(batch_names_iff hbatch).1 fun e he e' he' hkey => ?_, fun e he x hx hnames => ?_⟩
    · obtain ⟨l, hl, hlkey⟩ := hlast e he
      obtain ⟨l', hl', hlkey'⟩ := hlast e' he'
      rw [importNames_congr hbatch he (lasts_subset hl) hlkey.symm,
        importNames_congr hbatch he' (lasts_subset hl') hlkey'.symm]
      exact hall hl' hl (by rwa [hlkey, hlkey'])
    · obtain ⟨l, hl, hlkey⟩ := hlast e he
      by_contra hstays
      refine hkept x hx hstays l hl (hnames.trans ?_)
      exact importNames_congr hbatch he (lasts_subset hl) hlkey.symm
  · rintro ⟨hnamed, hkept⟩
    have hall := (batch_names_iff hbatch).2 hnamed
    refine ⟨hkeys.imp_of_mem fun he he' hne => ?_, fun x hx hstays e he hsame => ?_⟩
    · exact hall _ (lasts_subset he') _ (lasts_subset he) hne
    · exact hstays (hkept e (lasts_subset he) x hx hsame)

end Import

namespace AmmStore

/-- After the step each pair of names belongs to one active entry, which the
lookup by names finds. -/
def NamesDesignateAfter (s : AmmStore) (st : AmmStep) : Prop :=
  ((s.step st).ram.entries.map AmmMappingEntry.names).Nodup ∧
    ∀ e ∈ (s.step st).ram.entries,
      ammFindMappingByPoint e.deviceId.str e.pointId.str (s.step st).ram = some e

/-- The names of an added or updated entry are free, those that an import brings in are in use
nowhere else, and a load that succeeds reads slots with distinct names. -/
def KeepsNames (s : AmmStore) : AmmStep → Prop
  | .call (.add e) f => ∀ next save, s.CarriesOut (.add e) f next save →
      ∀ i, addTarget e s.ram = some i → FreeFor AmmMappingEntry.names s.ram.table i e
  | .call (.update index e) f => ∀ next save, s.CarriesOut (.update index e) f next save →
      FreeFor AmmMappingEntry.names s.ram.table index.toNat e
  | .call (.import entries replaceDevices) f =>
      ∀ next save, s.CarriesOut (.import entries replaceDevices) f next save →
        ImportNamesFree s.ram entries replaceDevices
  | .call _ _ => True
  | .load f => (s.load f).1 = .ok → StoredDistinct AmmMappingEntry.names s.nvs
  | .reboot f => (s.reboot f).1 = .ok → StoredDistinct AmmMappingEntry.names s.nvs

theorem namesDesignateAfter_iff (s : AmmStore) (st : AmmStep) :
    s.NamesDesignateAfter st ↔ TableAfter (IdsDistinct AmmMappingEntry.names) s st :=
  ⟨fun h => h.1, fun h => ⟨h, fun _ he => find_by_point h he⟩⟩

theorem keepsIds_iff_keepsNames {s : AmmStore}
    (h : TableInv (IdsDistinct AmmMappingEntry.names) s) (st : AmmStep) :
    KeepsIds AmmMappingEntry.names s st ↔ s.KeepsNames st := by
  cases st with
  | load f => rfl
  | reboot f => rfl
  | call call f =>
    cases call with
    | «import» entries replaceDevices =>
      exact forall₃_congr fun _ _ hout =>
        imported_names_iff h.ram (planImport_change hout.1).1
    | add | remove | removeForChannel | clear | update | setPollIntervalAll | rollback => rfl

/-- **Semantic identity.** Along a run of a new device every pair of names
belongs to at most one active entry exactly when every step meets its condition. -/
theorem point_names_run (capacity : Nat) (steps : List AmmStep) :
    AllSteps AmmStore.step NamesDesignateAfter (.fresh capacity) steps ↔
      AllSteps AmmStore.step KeepsNames (.fresh capacity) steps := by
  have hstep : ∀ s st, TableAfter (IdsDistinct AmmMappingEntry.names) s st ↔
      s.NamesDesignateAfter st := fun s st => (s.namesDesignateAfter_iff st).symm
  refine allSteps_iff (K := fun s _ => TableInv (IdsDistinct AmmMappingEntry.names) s)
    (fun _ _ _ h hafter => h.step ((hstep _ _).2 hafter)) (fun s st _ h => ?_)
    (tableInv_fresh distinct_nil capacity)
  rw [← hstep, ids_step_iff names_isIdentity (fun _ _ => rfl) h st, keepsIds_iff_keepsNames h st]

/-- A point is added, and a profile with its names at another address is imported. -/
def renamedSteps : List AmmStep :=
  [.call (.add samplePoint) .ok,
    .call (.import [holdingPoint 1 "meter".toList "power".toList] false) .ok]

/-- The import leaves two active entries with the same names. -/
theorem import_duplicates_names :
    ¬ AllSteps AmmStore.step NamesDesignateAfter (.fresh 1000) renamedSteps := by
  intro h
  have hlast := (allSteps_iff_split _ _).1 h (renamedSteps.take 1) _ [] rfl
  have hnodup := hlast.1
  revert hnodup
  decide +kernel

end AmmStore

end McpGateway.Amm
