import McpGateway.Amm.PhysicalKeys
import McpGateway.Web.MappingApi

/-!
# Editing a mapping

A request to `POST /api/mappings` with the `old_` fields of a mapping adds the
posted one and then removes the first active one at the old protocol, channel,
slave and address. The function code, which is part of the key of a mapping, is
in none of them.
-/

namespace McpGateway.Web

open McpGateway.Lib McpGateway.Tcm McpGateway.Amm McpGateway.Thingscloud

/-- The edit of `old` puts the posted entry in its place and touches no other entry. -/
structure EditsOnly (a : AmmTable) (old posted : AmmMappingEntry) (a' : AmmTable) : Prop where
  entries : a'.entries.Perm (a.stored posted :: a.entries.erase old)
  newKey : a'.entries.filter (fun x => x.key = posted.key) = [a.stored posted]

section Table

variable {a : AmmTable} {e x : AmmMappingEntry} {i : Nat}

/-- Two entries of a list are one if the list without either is the same. -/
theorem erase_perm_iff {l : List AmmMappingEntry} {y : AmmMappingEntry} (hx : x ∈ l) (hy : y ∈ l) :
    (l.erase x).Perm (l.erase y) ↔ x = y := by
  constructor
  · intro h
    have hcons : (x :: l.erase y).Perm (y :: l.erase y) :=
      (h.symm.cons x).trans ((List.perm_cons_erase hx).symm.trans (List.perm_cons_erase hy))
    rw [← Multiset.coe_eq_coe, ← Multiset.cons_coe, ← Multiset.cons_coe,
      Multiset.cons_inj_left] at hcons
    exact hcons
  · rintro rfl
    exact .refl _

/-- An entry with a new key takes a slot that holds no active one. -/
theorem put_new (hi : addTarget e a = some i) (hnew : ∀ x ∈ a.entries, x.key ≠ e.key) :
    (a.put i e).entries.Perm (a.stored e :: a.entries) ∧
      ∀ p : AmmMappingEntry → Bool, p (a.stored e) = false →
        (a.put i e).entries.find? p = a.entries.find? p := by
  have hfree : ∀ y, a.table[i]? = some y → y.active = false := by
    intro y hy
    cases hactive : y.active with
    | false => rfl
    | true =>
      have hmem : y ∈ a.entries := List.mem_filter.2 ⟨List.mem_of_getElem? hy, hactive⟩
      exact absurd (addTarget_slot hi hy hactive) (hnew y hmem)
  unfold AmmTable.put AmmTable.entries
  split
  · rename_i hlt
    have hy := List.getElem?_eq_getElem hlt
    refine ⟨filter_set_free hy (hfree _ hy) (stored_active a e), fun p hp => ?_⟩
    rw [List.find?_filter, List.find?_filter]
    refine find?_set_free hy ?_ ?_
    · simp [hfree _ hy]
    · simp [hp]
  · refine ⟨?_, fun p hp => ?_⟩
    · show ((a.table ++ [a.stored e]).filter AmmMappingEntry.active).Perm _
      rw [List.filter_append, List.filter_cons_of_pos (stored_active a e), List.filter_nil]
      exact List.perm_append_singleton _ _
    · show ((a.table ++ [a.stored e]).filter AmmMappingEntry.active).find? p = _
      rw [List.filter_append, List.find?_append, List.filter_cons_of_pos (stored_active a e),
        List.filter_nil, List.find?_singleton, hp]
      exact Option.or_none

/-- What is left when the entry `y` is taken out after the posted one was added. -/
theorem editsOnly_of_removed {a' : AmmTable} {old y : AmmMappingEntry}
    (hposted : (a.stored e).key = e.key) (hnew : ∀ x ∈ a.entries, x.key ≠ e.key)
    (hold : old ∈ a.entries) (hy : y ∈ a.entries)
    (hleft : (y :: a'.entries).Perm (a.stored e :: a.entries)) : EditsOnly a old e a' ↔ y = old := by
  have hentries : a'.entries.Perm (a.stored e :: a.entries.erase y) := by
    have hswap : (y :: a'.entries).Perm (y :: a.stored e :: a.entries.erase y) :=
      hleft.trans (((List.perm_cons_erase hy).cons _).trans (.swap _ _ _))
    exact hswap.cons_inv
  constructor
  · intro h
    have herase : (a.entries.erase y).Perm (a.entries.erase old) :=
      (hentries.symm.trans h.entries).cons_inv
    exact (erase_perm_iff hy hold).1 herase
  · rintro rfl
    refine ⟨hentries, ?_⟩
    have hfilter := hentries.filter fun x => decide (x.key = e.key)
    have hothers : (a.entries.erase y).filter (fun x => decide (x.key = e.key)) = [] := by
      refine List.filter_eq_nil_iff.2 fun x hx => ?_
      rw [decide_eq_true_eq]
      exact hnew x (List.mem_of_mem_erase hx)
    rw [List.filter_cons_of_pos (by simpa using hposted), hothers] at hfilter
    exact List.perm_singleton.1 hfilter

end Table

/-! ## Removing at a place -/

def firstAt (a : AmmTable) (place : Place) : Option AmmMappingEntry :=
  ammFindMappingForChannel place.protocol place.channelId place.slaveId place.registerAddress a

def removeAt (place : Place) : AmmCall :=
  .removeForChannel place.protocol place.channelId place.slaveId place.registerAddress

section Remove

variable {s : AmmStore} {place : Place} {g : AmmFaults} {x y : AmmMappingEntry}

theorem firstAt_eq (a : AmmTable) (place : Place) :
    firstAt a place = a.entries.find? fun x => decide (placeOf x = place) := by
  unfold firstAt ammFindMappingForChannel
  congr 1
  funext x
  cases place
  simp [placeOf, Bool.and_assoc]

theorem firstAt_isSome (hx : x ∈ s.ram.entries) (hplace : placeOf x = place) :
    ∃ y, firstAt s.ram place = some y ∧ y ∈ s.ram.entries := by
  obtain ⟨y, hy⟩ := Option.isSome_iff_exists.1
    (List.find?_isSome.2 ⟨x, hx, decide_eq_true hplace⟩ :
      (s.ram.entries.find? fun x => decide (placeOf x = place)).isSome)
  exact ⟨y, (firstAt_eq _ _).trans hy, List.mem_of_find?_eq_some hy⟩

/-- The removal takes the first entry at the place, if its snapshot permits it. -/
theorem removeAt_perform (hy : firstAt s.ram place = some y) :
    (ammSnapshotPermitsMutation (s.snapshot g).1 = true ∧
        (y :: (s.perform (removeAt place) g).2.ram.entries).Perm s.ram.entries) ∨
      ammSnapshotPermitsMutation (s.snapshot g).1 = false ∧
        (s.perform (removeAt place) g).2.ram = s.ram := by
  obtain ⟨i, hi⟩ : ∃ i, s.ram.table.findIdx? (fun x => x.active &&
      (decide (x.sourceProtocol = place.protocol) && decide (x.channelId = place.channelId) &&
        decide (x.slaveId = place.slaveId) &&
        decide (x.registerAddress = place.registerAddress))) = some i := by
    refine Option.isSome_iff_exists.1 (List.findIdx?_isSome.trans ?_)
    rw [List.any_eq_true]
    obtain ⟨hmem, hactive⟩ := List.mem_filter.1 (List.mem_of_find?_eq_some hy)
    have hmeets := hy
    unfold firstAt ammFindMappingForChannel at hmeets
    exact ⟨y, hmem, Bool.and_eq_true_iff.2 ⟨hactive, (List.find?_some hmeets :)⟩⟩
  have hplan : s.plan (removeAt place) g = .change (s.ram.deactivate i) (.entry i) := by
    show planRemove _ s.ram = _
    rw [planRemove, hi]
  obtain ⟨first, hfirst, hperm⟩ :=
    filter_modify_first (g := fun x : AmmMappingEntry => { x with active := false })
      (fun _ => rfl) hi
  obtain rfl := Option.some.inj (hfirst.symm.trans hy)
  cases hpermits : ammSnapshotPermitsMutation (s.snapshot g).1 with
  | true =>
    have hout : s.CarriesOut (removeAt place) g (s.ram.deactivate i) (.entry i) :=
      ⟨hplan, hpermits, fun hfirst => by cases hfirst⟩
    rw [hout.perform]
    exact .inl ⟨rfl, hperm⟩
  | false =>
    have hdenied : ammSnapshotPermitsMutation (s.snapped g (.entry i)).1 = false := hpermits
    refine .inr ⟨rfl, ?_⟩
    simp only [AmmStore.perform, hplan, if_pos hdenied]

end Remove

/-! ## The request -/

theorem postRefusal_ne_ok {a : AmmTable} {e : AmmMappingEntry} {refusal : Response}
    (h : postRefusal a e = some refusal) : refusal ≠ okResponse := by
  unfold postRefusal at h
  split at h
  · obtain rfl := Option.some.inj h
    decide
  · split at h
    · obtain rfl := Option.some.inj h
      decide
    · split at h
      · obtain rfl := Option.some.inj h
        decide
      · cases h

theorem post_ok_cases {lib : JsonLib} {text : CStr} {f g : AmmFaults} {s : AmmStore} {root : Json}
    (hroot : parseRequestJson lib requestLimit text = some root)
    (hok : (mappingsPostHandler lib text f g s).1 = okResponse) :
    (s.perform (.add (readPosted s.ram.defaultPollMs root)) f).1 = .ok ∧
      (mappingsPostHandler lib text f g s).2 =
        if movedFrom (readOldPlace root) (readPosted s.ram.defaultPollMs root) then
          ((s.perform (.add (readPosted s.ram.defaultPollMs root)) f).2.perform
            (removeAt (readOldPlace root)) g).2
        else (s.perform (.add (readPosted s.ram.defaultPollMs root)) f).2 := by
  unfold mappingsPostHandler at hok ⊢
  simp only [hroot] at hok ⊢
  cases hrefusal : postRefusal s.ram (readPosted s.ram.defaultPollMs root) with
  | some refusal =>
    rw [hrefusal] at hok
    exact absurd hok (postRefusal_ne_ok hrefusal)
  | none =>
    rw [hrefusal] at hok
    simp only at hok ⊢
    by_cases hadded : (s.perform (.add (readPosted s.ram.defaultPollMs root)) f).1 = .ok
    · refine ⟨hadded, ?_⟩
      rw [if_neg (not_not.2 hadded)]
      split <;> rfl
    · rw [if_pos hadded] at hok
      have hother : reasonResponse 200 "table full or invalid args" ≠ okResponse := by decide
      exact absurd hok hother

/-- **An edit touches only its mapping exactly when** it names the first active entry at the
old place, moves it to another place, and the removal's snapshot permits it. -/
theorem edit_only_iff {lib : JsonLib} {text : CStr} {f g : AmmFaults} {s : AmmStore} {root : Json}
    {old : AmmMappingEntry} (hroot : parseRequestJson lib requestLimit text = some root)
    (hok : (mappingsPostHandler lib text f g s).1 = okResponse) (hold : old ∈ s.ram.entries)
    (hplace : placeOf old = readOldPlace root)
    (hnew : ∀ x ∈ s.ram.entries, x.key ≠ (readPosted s.ram.defaultPollMs root).key) :
    EditsOnly s.ram old (readPosted s.ram.defaultPollMs root)
        (mappingsPostHandler lib text f g s).2.ram ↔
      old.slaveId ≠ 0 ∧ placeOf (readPosted s.ram.defaultPollMs root) ≠ placeOf old ∧
        firstAt s.ram (placeOf old) = some old ∧
        ammSnapshotPermitsMutation
          ((s.perform (.add (readPosted s.ram.defaultPollMs root)) f).2.snapshot g).1 = true := by
  obtain ⟨hadded, hafter⟩ := post_ok_cases hroot hok
  rw [hafter]
  generalize readPosted s.ram.defaultPollMs root = e at hadded hnew ⊢
  obtain ⟨next, save, hout, -⟩ := perform_ok hadded
  obtain ⟨i, hi, rfl, rfl⟩ := planAdd_change hout.1
  have hram : (s.perform (.add e) f).2.ram = s.ram.put i e := by
    rw [hout.perform]
  obtain ⟨hput, hfind⟩ := put_new hi hnew
  rw [← hram] at hput hfind
  generalize (s.perform (.add e) f).2 = s₁ at hram hput hfind ⊢
  rw [← hplace]
  have hposted : (s.ram.stored e).key = e.key := key_isIdentity.stored s.ram e
  -- Without a removal there is one entry too many.
  have hkept : ¬ EditsOnly s.ram old e s₁.ram := by
    intro h
    have hlength := (hput.symm.trans h.entries).length_eq
    rw [List.length_cons, List.length_cons, List.length_erase_of_mem hold] at hlength
    have hpos := List.length_pos_of_mem hold
    omega
  have hmoved : movedFrom (placeOf old) e = true ↔ old.slaveId ≠ 0 ∧ placeOf e ≠ placeOf old := by
    rw [movedFrom, Bool.and_eq_true, decide_eq_true_eq, decide_eq_true_eq]
    exact and_congr_right fun _ => ne_comm
  rw [← and_assoc, ← hmoved]
  by_cases hmove : movedFrom (placeOf old) e = true
  · rw [if_pos hmove]
    have hapart : placeOf (s.ram.stored e) ≠ placeOf old := by
      rw [place_isIdentity.stored]
      exact (hmoved.1 hmove).2
    have hsame : firstAt s₁.ram (placeOf old) = firstAt s.ram (placeOf old) := by
      rw [firstAt_eq, firstAt_eq]
      exact hfind _ (decide_eq_false hapart)
    obtain ⟨y, hy, hmem⟩ := firstAt_isSome hold rfl
    rcases removeAt_perform (g := g) (hsame.trans hy) with ⟨hpermits, hremoved⟩ | ⟨hdenied, hsame⟩
    · have hedit : EditsOnly s.ram old e (s₁.perform (removeAt (placeOf old)) g).2.ram ↔ y = old :=
        editsOnly_of_removed hposted hnew hold hmem (hremoved.trans hput)
      rw [hedit, hy, hpermits]
      simp [hmove]
    · rw [hsame, hdenied]
      exact iff_of_false hkept fun h => by cases h.2.2
  · rw [if_neg hmove]
    exact iff_of_false hkept fun h => hmove h.1

/-- A holding register and the input register of the same address. -/
def spacesStore : AmmStore :=
  run AmmStore.step (.fresh 64) [.call (.add samplePoint) .ok, .call (.add inputPoint) .ok]

def storedAs (e : AmmMappingEntry) (v : SeqId) : AmmMappingEntry :=
  { (AmmTable.empty 64).stored e with mappingVersion := v }

/-- A request that moves the point at register 0 to register 5, with a new name. -/
def moveRequest (functionCode : Nat) : Json :=
  .obj [("old_slave_id".toList, jsonNat 1), ("slave_id".toList, jsonNat 1),
    ("function_code".toList, jsonNat functionCode), ("register_address".toList, jsonNat 5),
    ("device_id".toList, .str "meter".toList), ("point_id".toList, .str "moved".toList)]

def moveLib (functionCode : Nat) : JsonLib := .knowing [moveRequest functionCode]

/-- The holding register, which stands first, is moved. -/
theorem edit_only_holding :
    EditsOnly spacesStore.ram (storedAs samplePoint 1)
        (readPosted spacesStore.ram.defaultPollMs (moveRequest 3).nullify)
        (mappingsPostHandler (moveLib 3) (moveRequest 3).render .ok .ok spacesStore).2.ram ↔
      (storedAs samplePoint 1).slaveId ≠ 0 ∧
        placeOf (readPosted spacesStore.ram.defaultPollMs (moveRequest 3).nullify) ≠
          placeOf (storedAs samplePoint 1) ∧
        firstAt spacesStore.ram (placeOf (storedAs samplePoint 1)) =
          some (storedAs samplePoint 1) ∧
        ammSnapshotPermitsMutation
          ((spacesStore.perform (.add (readPosted spacesStore.ram.defaultPollMs
            (moveRequest 3).nullify)) .ok).2.snapshot .ok).1 = true :=
  have hsize : ¬ ((moveRequest 3).render = [] ∨ (moveRequest 3).render.length > requestLimit) := by
    decide +kernel
  have hroot : parseRequestJson (moveLib 3) requestLimit (moveRequest 3).render =
      some (moveRequest 3).nullify := (if_neg hsize).trans (knowing_parse _)
  have hok : (mappingsPostHandler (moveLib 3) (moveRequest 3).render .ok .ok spacesStore).1 =
      okResponse := by decide +kernel
  edit_only_iff hroot hok (by decide +kernel) (by decide +kernel) (by decide +kernel)

/-- The same request for the input register removes the holding register. -/
theorem edit_removes_other :
    (mappingsPostHandler (moveLib 4) (moveRequest 4).render .ok .ok spacesStore).1 = okResponse ∧
      storedAs inputPoint 2 ∈ spacesStore.ram.entries ∧
      placeOf (storedAs inputPoint 2) = readOldPlace (moveRequest 4).nullify ∧
      (∀ x ∈ spacesStore.ram.entries,
        x.key ≠ (readPosted spacesStore.ram.defaultPollMs (moveRequest 4).nullify).key) ∧
      storedAs inputPoint 2 ∈
        (mappingsPostHandler (moveLib 4) (moveRequest 4).render .ok .ok spacesStore).2.ram.entries ∧
      storedAs samplePoint 1 ∉
        (mappingsPostHandler (moveLib 4) (moveRequest 4).render .ok .ok spacesStore).2.ram.entries ∧
      ¬ EditsOnly spacesStore.ram (storedAs inputPoint 2)
        (readPosted spacesStore.ram.defaultPollMs (moveRequest 4).nullify)
        (mappingsPostHandler (moveLib 4) (moveRequest 4).render .ok .ok spacesStore).2.ram := by
  have hlost : storedAs samplePoint 1 ∉
      (mappingsPostHandler (moveLib 4) (moveRequest 4).render .ok .ok spacesStore).2.ram.entries := by
    decide +kernel
  refine ⟨by decide +kernel, by decide +kernel, by decide +kernel, by decide +kernel,
    by decide +kernel, hlost, fun h => hlost (h.entries.symm.subset ?_)⟩
  have hother : storedAs samplePoint 1 ∈ spacesStore.ram.entries.erase (storedAs inputPoint 2) := by
    decide +kernel
  exact List.mem_cons_of_mem _ hother

end McpGateway.Web
