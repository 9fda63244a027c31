import McpGateway.Thingscloud.PropertyKeys
import McpGateway.Web.Accepted

/-!
# The gateway's attribute keys

In gateway mode every point is an attribute of the gateway, under its custom key
or the generated one. A posted mapping is checked against the keys at other
places, an imported one against none. `attribute_keys_run` says along which
requests no two mappings share a key.
-/

namespace McpGateway.Web

open McpGateway.Lib McpGateway.Tcm McpGateway.Amm McpGateway.Thingscloud

/-! ## Keys of entries -/

/-- The key of a mapping among the attributes; empty if it has none. -/
def attributeKey (e : AmmMappingEntry) : CStr := mappingEffectiveGwKey e 64

/-- The two mappings do not share a key. -/
def KeysApart (x y : AmmMappingEntry) : Prop :=
  attributeKey x = [] ∨ attributeKey x ≠ attributeKey y

instance (x y : AmmMappingEntry) : Decidable (KeysApart x y) :=
  inferInstanceAs (Decidable (_ ∨ _))

/-- No two active mappings have the same key, and no two points report under one. -/
structure AttributesApart (a : AmmTable) : Prop where
  keys : a.entries.Pairwise KeysApart
  reports : a.entries.Pairwise fun x y => ∀ (ctx ctx' : TcmContext) (key : CStr),
    ctx.slaveId = x.slaveId → ctx'.slaveId = y.slaveId →
      gatewayKey (enrichWith x ctx) = .ok key → gatewayKey (enrichWith y ctx') ≠ .ok key

/-- The key as an identity: an entry without a key has its address. -/
def attributeId (e : AmmMappingEntry) : CStr × Option PhysicalKey :=
  (attributeKey e, if attributeKey e = [] then some e.key else none)

theorem attributeId_isIdentity : IsIdentity attributeId := by
  constructor <;> intros <;> rfl

section Keys

variable {x y e : AmmMappingEntry} {table : List AmmMappingEntry}

/-- At different addresses the identities tell whether the keys are apart. -/
theorem attributeId_ne_iff (h : x.key ≠ y.key) : attributeId x ≠ attributeId y ↔ KeysApart x y := by
  unfold attributeId KeysApart
  by_cases hx : attributeKey x = []
  · refine iff_of_true (fun heq => h ?_) (.inl hx)
    obtain ⟨hkey, haddress⟩ := Prod.mk.inj heq
    rw [if_pos hx, if_pos (hkey ▸ hx)] at haddress
    exact Option.some.inj haddress
  · rw [or_iff_right hx]
    constructor
    · intro hne hkey
      refine hne (Prod.ext hkey ?_)
      rw [if_neg hx, if_neg (hkey ▸ hx)]
    · exact fun hne heq => hne (Prod.mk.inj heq).1

theorem nodup_attributeId_iff {l : List AmmMappingEntry} (h : (l.map AmmMappingEntry.key).Nodup) :
    (l.map attributeId).Nodup ↔ l.Pairwise KeysApart := by
  rw [List.Nodup, List.pairwise_map] at h ⊢
  constructor
  · exact fun hids => (h.and hids).imp fun hxy => (attributeId_ne_iff hxy.1).1 hxy.2
  · exact fun hkeys => (h.and hkeys).imp fun hxy => (attributeId_ne_iff hxy.1).2 hxy.2

theorem gatewayKey_enriched {ctx : TcmContext} {key : CStr} (hslave : ctx.slaveId = e.slaveId)
    (h : gatewayKey (enrichWith e ctx) = .ok key) : attributeKey e = key ∧ key ≠ [] := by
  unfold gatewayKey at h
  unfold attributeKey mappingEffectiveGwKey
  by_cases hcustom : e.gatewayPropertyKey.str ≠ []
  · rw [if_pos (show (enrichWith e ctx).gatewayPropertyKey.str ≠ [] from hcustom)] at h
    rw [if_pos hcustom, strlcpy_of_lt e.gatewayPropertyKey.lt]
    split at h
    · obtain rfl : e.gatewayPropertyKey.str = key := Except.ok.inj h
      exact ⟨rfl, hcustom⟩
    · cases h
  · rw [if_neg (show ¬ (enrichWith e ctx).gatewayPropertyKey.str ≠ [] from hcustom)] at h
    rw [if_neg hcustom]
    have hbuild : buildGatewayPropertyKey (e.channelId + 1) e.slaveId e.pointId.str 64 = .ok key := by
      rw [← hslave]
      exact h
    obtain ⟨-, rfl, -⟩ := buildGatewayPropertyKey_ok hbuild
    rw [hbuild]
    exact ⟨rfl, List.cons_ne_nil _ _⟩

theorem attributesApart_iff {a : AmmTable} : AttributesApart a ↔ a.entries.Pairwise KeysApart := by
  refine ⟨AttributesApart.keys, fun hkeys => ⟨hkeys, hkeys.imp ?_⟩⟩
  intro x y hapart ctx ctx' key hx hy hkey hkey'
  obtain ⟨hkeyx, hne⟩ := gatewayKey_enriched hx hkey
  obtain ⟨hkeyy, -⟩ := gatewayKey_enriched hy hkey'
  rcases hapart with hnone | hapart
  · exact hne (hkeyx ▸ hnone)
  · exact hapart (hkeyx.trans hkeyy.symm)

theorem distinct_attributeId_iff {a : AmmTable} (h : IdsDistinct AmmMappingEntry.key a.table) :
    IdsDistinct attributeId a.table ↔ AttributesApart a :=
  (nodup_attributeId_iff h).trans attributesApart_iff.symm

end Keys

/-! ## What an import leaves -/

/-- The last batch entries, with the user's names, share no key among themselves nor with a
kept entry at another address. -/
structure ImportLeavesApart (a : AmmTable) (entries : List AmmMappingEntry)
    (replaceDevices : Bool) : Prop where
  batch : (lasts AmmMappingEntry.key entries).Pairwise fun e e' =>
    KeysApart (overlayUser a.table e) (overlayUser a.table e')
  kept : ∀ x ∈ keptEntries a entries replaceDevices, x.key ∉ entries.map AmmMappingEntry.key →
    ∀ e ∈ lasts AmmMappingEntry.key entries, KeysApart x (overlayUser a.table e)

section Import

variable {a : AmmTable} {entries : List AmmMappingEntry} {replaceDevices : Bool}

theorem attributeId_staged (table : List AmmMappingEntry) (dflt : UInt32) (v : SeqId)
    (e : AmmMappingEntry) :
    attributeId (overlayUser table (importEntry dflt v e)) = attributeId (overlayUser table e) := by
  have hsame := userEntry_importEntry table dflt v e
  cases huser : userEntry table e with
  | none =>
    rw [overlayUser_of_none (hsame.trans huser), overlayUser_of_none huser]
    exact attributeId_isIdentity.importEntry dflt v e
  | some user =>
    have hoverlay : IsIdentity fun e => attributeId (ammOverlayUserSemantics user e) := by
      constructor <;> intros <;> rfl
    rw [overlayUser_of_some (hsame.trans huser), overlayUser_of_some huser]
    exact hoverlay.importEntry dflt v e

/-- At distinct addresses an import replaces every kept entry at an address of the batch. -/
theorem replaced_iff (hkeys : IdsDistinct AmmMappingEntry.key a.table) {x : AmmMappingEntry}
    (hx : x ∈ keptEntries a entries replaceDevices) :
    Replaced a entries replaceDevices x ↔ x.key ∈ entries.map AmmMappingEntry.key := by
  refine and_iff_left ?_
  have hfirst : ∃ y, (keptEntries a entries replaceDevices).find?
      (fun y => decide (y.key = x.key)) = some y :=
    Option.isSome_iff_exists.1 (List.find?_isSome.2 ⟨x, hx, decide_eq_true rfl⟩)
  obtain ⟨y, hy⟩ := hfirst
  have hfound := List.find?_some hy
  have hkey : y.key = x.key := of_decide_eq_true hfound
  rw [hy, List.inj_on_of_nodup_map (keptEntries_ids hkeys entries replaceDevices)
    (List.mem_of_find?_eq_some hy) hx hkey]

theorem imported_attributes_iff (hkeys : IdsDistinct AmmMappingEntry.key a.table)
    (hids : IdsDistinct attributeId a.table) :
    ((importedEntries a entries replaceDevices).map attributeId).Nodup ↔
      ImportLeavesApart a entries replaceDevices := by
  rw [imported_ids_iff (fun v e => attributeId_staged a.table _ v e) hids]
  have hlasts : ((lasts AmmMappingEntry.key entries).map AmmMappingEntry.key).Nodup :=
    lasts_keys_nodup entries
  rw [List.Nodup, List.pairwise_map] at hlasts
  have hbatch : ∀ {e e' : AmmMappingEntry}, e.key ≠ e'.key →
      (attributeId (overlayUser a.table e) ≠ attributeId (overlayUser a.table e') ↔
        KeysApart (overlayUser a.table e) (overlayUser a.table e')) :=
    fun hne => attributeId_ne_iff (by rwa [overlayUser_key, overlayUser_key])
  have hkept : ∀ {x e : AmmMappingEntry}, x.key ∉ entries.map AmmMappingEntry.key →
      e ∈ lasts AmmMappingEntry.key entries →
        (attributeId x ≠ attributeId (overlayUser a.table e) ↔
          KeysApart x (overlayUser a.table e)) := by
    intro x e hx he
    refine attributeId_ne_iff fun hkey => hx ?_
    rw [hkey, overlayUser_key]
    exact List.mem_map_of_mem (lasts_subset he)
  constructor
  · rintro ⟨hpairs, hrest⟩
    refine ⟨(hlasts.and hpairs).imp fun h => (hbatch h.1).1 h.2, fun x hx hout e he => ?_⟩
    exact (hkept hout he).1 (hrest x hx (fun h => hout ((replaced_iff hkeys hx).1 h)) e he)
  · rintro ⟨hpairs, hrest⟩
    refine ⟨(hlasts.and hpairs).imp fun h => (hbatch h.1).2 h.2, fun x hx hstays e he => ?_⟩
    have hout := fun h => hstays ((replaced_iff hkeys hx).2 h)
    exact (hkept hout he).2 (hrest x hx hout e he)

end Import

/-! ## What a posted mapping leaves -/

/-- No mapping with another function code at the same place has the key of the entry. -/
def OwnAttribute (a : AmmTable) (e : AmmMappingEntry) : Prop :=
  ∀ x ∈ a.entries, placeOf x = placeOf e → x.functionCode ≠ e.functionCode → KeysApart x e

section Post

variable {a : AmmTable} {e x : AmmMappingEntry}

theorem key_eq_iff : x.key = e.key ↔ placeOf x = placeOf e ∧ x.functionCode = e.functionCode := by
  unfold AmmMappingEntry.key placeOf
  simp only [PhysicalKey.mk.injEq, Place.mk.injEq]
  tauto

/-- The check of a posted mapping covers the other places. -/
theorem keysApart_elsewhere (h : postRefusal a e = none) (hx : x ∈ a.entries)
    (hplace : placeOf x ≠ placeOf e) : KeysApart x e := by
  unfold postRefusal at h
  split at h
  · cases h
  · split at h
    · cases h
    · split at h
      · cases h
      · rename_i hconflict
        by_contra happart
        rw [KeysApart, not_or, not_not] at happart
        obtain ⟨hset, hsame⟩ := happart
        refine hconflict ?_
        have hkey : mappingEffectiveGwKey e 64 ≠ [] := fun hnone => hset (hsame.trans hnone)
        rw [gatewayKeyConflicts, Bool.and_eq_true, decide_eq_true_eq, List.any_eq_true]
        refine ⟨hkey, x, hx, ?_⟩
        rw [decide_eq_true hplace, decide_eq_true (show mappingEffectiveGwKey x 64 ≠ [] from hset),
          decide_eq_true (show mappingEffectiveGwKey x 64 = mappingEffectiveGwKey e 64 from hsame)]
        rfl

/-- Where the entry goes, its key is free exactly if no other function code has it. -/
theorem free_attribute_iff (hkeys : IdsDistinct AmmMappingEntry.key a.table)
    (hchecked : postRefusal a e = none) {i : Nat} (hi : addTarget e a = some i) :
    FreeFor attributeId a.table i e ↔ OwnAttribute a e := by
  constructor
  · intro hfree x hx hplace hcode
    obtain ⟨hmem, hactive⟩ := List.mem_filter.1 hx
    obtain ⟨j, hj⟩ := List.mem_iff_getElem?.1 hmem
    have hne : x.key ≠ e.key := fun hkey => hcode (key_eq_iff.1 hkey).2
    have hother : j ≠ i := fun heq => hne (addTarget_slot hi (heq ▸ hj) hactive)
    exact (attributeId_ne_iff hne).1 (hfree j x hother hj hactive)
  · intro hown j x hj hx hactive
    have hmem : x ∈ a.entries := List.mem_filter.2 ⟨List.mem_of_getElem? hx, hactive⟩
    have hne : x.key ≠ e.key := addTarget_free hkeys hi j x hj hx hactive
    rw [attributeId_ne_iff hne]
    by_cases hplace : placeOf x = placeOf e
    · exact hown x hmem hplace fun hcode => hne (key_eq_iff.2 ⟨hplace, hcode⟩)
    · exact keysApart_elsewhere hchecked hmem hplace

/-- The removal of the mapping that moved leaves the other places alone. -/
theorem removeForChannel_get {s : AmmStore} {i : Nat} (hx : s.ram.table[i]? = some x) {old : Place}
    (hplace : placeOf x ≠ old) (f : AmmFaults) :
    (s.perform (.removeForChannel old.protocol old.channelId old.slaveId old.registerAddress)
      f).2.ram.table[i]? = some x := by
  rcases perform_cases s (.removeForChannel old.protocol old.channelId old.slaveId
    old.registerAddress) f with hram | ⟨next, save, hout⟩
  · rwa [hram]
  · have hplan := hout.1
    rw [hout.perform]
    simp only [AmmStore.plan, AmmCall.plan, planRemove] at hplan
    split at hplan
    · cases hplan
    · rename_i k hk
      cases hplan
      obtain ⟨hlt, hsought, -⟩ := List.findIdx?_eq_some_iff_getElem.1 hk
      simp only [Bool.and_eq_true, decide_eq_true_eq] at hsought
      have hne : k ≠ i := by
        rintro rfl
        obtain ⟨hlt', hx'⟩ := List.getElem?_eq_some_iff.1 hx
        rw [hx'] at hsought
        obtain ⟨-, ⟨⟨hprotocol, hchannel⟩, hslave⟩, hregister⟩ := hsought
        refine hplace ?_
        rw [placeOf, hprotocol, hchannel, hslave, hregister]
      show (s.ram.table.modify k _)[i]? = some x
      rw [List.getElem?_modify_ne _ _ hne, hx]

end Post

/-! ## Requests -/

/-- An import that is carried out leaves the keys apart. -/
def ImportApart (s : AmmStore) (entries : List AmmMappingEntry) (replaceDevices : Bool)
    (f : AmmFaults) : Prop :=
  ∀ next save, s.CarriesOut (.import entries replaceDevices) f next save →
    ImportLeavesApart s.ram entries replaceDevices

/-- What keeps the keys apart: a posted mapping that gets into the table leaves its key to no
other function code at its place, and an import brings in keys that are in use nowhere else. -/
def KeepsAttributes (lib : JsonLib) (s : AmmStore) : MappingRequest → Prop
  | .post text f _ => ∀ root, parseRequestJson lib requestLimit text = some root →
      postRefusal s.ram (readPosted s.ram.defaultPollMs root) = none →
        ∀ next save, s.CarriesOut (.add (readPosted s.ram.defaultPollMs root)) f next save →
          OwnAttribute s.ram (readPosted s.ram.defaultPollMs root)
  | .importPost text f => ∀ root entries, ReadsProfile lib s text root entries →
      ImportApart s entries (Json.isTrue (root.getObjectItem "replace_devices".toList)) f
  | .rollback _ => True
  | .discoverApply found f => ImportApart s (found.map DiscoveredMapping.entry) true f

/-- After the request no two mappings share a key. -/
def ApartAfter (lib : JsonLib) (s : AmmStore) (request : MappingRequest) : Prop :=
  AttributesApart (request.step lib s).ram

/-- What holds between requests that keep the keys apart. -/
structure AttributeInv (capacity : Nat) (s : AmmStore) : Prop extends RequestInv capacity s where
  attributes : TableInv (IdsDistinct attributeId) s

section Requests

variable {lib : JsonLib} {capacity : Nat} {s : AmmStore}

theorem AttributeInv.call_iff (h : AttributeInv capacity s) (call : AmmCall) (f : AmmFaults) :
    IdsDistinct attributeId (s.perform call f).2.ram.table ↔
      KeepsIds attributeId s (.call call f) :=
  ids_step_iff attributeId_isIdentity (fun _ _ => rfl) h.attributes (.call call f)

theorem AttributeInv.import_iff (h : AttributeInv capacity s) {entries : List AmmMappingEntry}
    {replaceDevices : Bool} {f : AmmFaults} :
    IdsDistinct attributeId (s.perform (.import entries replaceDevices) f).2.ram.table ↔
      ImportApart s entries replaceDevices f := by
  rw [h.call_iff]
  exact forall₃_congr fun _ _ _ => imported_attributes_iff h.keys.ram h.attributes.ram

theorem AttributeInv.add_iff (h : AttributeInv capacity s) {e : AmmMappingEntry} {f : AmmFaults}
    (hchecked : postRefusal s.ram e = none) :
    IdsDistinct attributeId (s.perform (.add e) f).2.ram.table ↔
      ∀ next save, s.CarriesOut (.add e) f next save → OwnAttribute s.ram e := by
  rw [h.call_iff]
  refine forall₃_congr fun next save hout => ?_
  obtain ⟨i, hi, -, -⟩ := planAdd_change hout.1
  have hfree := free_attribute_iff h.keys.ram hchecked hi
  constructor
  · exact fun hall => hfree.1 (hall i hi)
  · intro hown j hj
    obtain rfl := Option.some.inj (hi.symm.trans hj)
    exact hfree.2 hown

/-- Removing the mapping that moved does not part keys that the new one shares. -/
theorem AttributeInv.moved_iff (h : AttributeInv capacity s) {e : AmmMappingEntry}
    {old : Place} (hchecked : postRefusal s.ram e = none) (hmoved : old ≠ placeOf e)
    (f g : AmmFaults) :
    IdsDistinct attributeId ((s.perform (.add e) f).2.perform
        (.removeForChannel old.protocol old.channelId old.slaveId old.registerAddress)
        g).2.ram.table ↔
      IdsDistinct attributeId (s.perform (.add e) f).2.ram.table := by
  constructor
  · intro hafter
    rw [h.add_iff hchecked]
    intro next save hout x hx hplace hcode
    obtain ⟨i, hi, hnext, -⟩ := planAdd_change hout.1
    obtain ⟨hmem, hactive⟩ := List.mem_filter.1 hx
    obtain ⟨j, hj⟩ := List.mem_iff_getElem?.1 hmem
    have hne : x.key ≠ e.key := fun hkey => hcode (key_eq_iff.1 hkey).2
    have hother : j ≠ i := fun heq => hne (addTarget_slot hi (heq ▸ hj) hactive)
    have htable : (s.perform (.add e) f).2.ram = s.ram.put i e := by rw [hout.perform, hnext]
    have hnew : (s.perform (.add e) f).2.ram.table[i]? = some (s.ram.stored e) := by
      rw [htable]
      exact put_getElem? (addTarget_le hi) e
    have hold : (s.perform (.add e) f).2.ram.table[j]? = some x := by
      rw [htable]
      exact put_getElem?_ne hother hj e
    have hstored : placeOf (s.ram.stored e) = placeOf e := place_isIdentity.stored s.ram e
    have hnew' := removeForChannel_get hnew (show placeOf _ ≠ old from hstored ▸ hmoved.symm) g
    have hold' := removeForChannel_get hold (show placeOf _ ≠ old from hplace ▸ hmoved.symm) g
    refine (attributeId_ne_iff hne).1 fun hsame => hother ?_
    refine hafter.eq_index hold' hnew' hactive (stored_active _ _) (hsame.trans ?_)
    exact (attributeId_isIdentity.stored s.ram e).symm
  · intro hadded
    have hinv : TableInv (IdsDistinct attributeId) (s.perform (.add e) f).2 :=
      h.attributes.step (show TableAfter _ s (.call (.add e) f) from hadded)
    exact (ids_step_iff attributeId_isIdentity (fun _ _ => rfl) hinv
      (.call (.removeForChannel _ _ _ _) g)).2 trivial

theorem movedFrom_place {old : Place} {e : AmmMappingEntry} (h : movedFrom old e = true) :
    old ≠ placeOf e := of_decide_eq_true (Bool.and_eq_true_iff.1 h).2

theorem AttributeInv.apart_iff (h : AttributeInv capacity s) (request : MappingRequest) :
    ApartAfter lib s request ↔ IdsDistinct attributeId (request.step lib s).ram.table :=
  (distinct_attributeId_iff (h.toRequestInv.step request).keys.ram).symm

theorem AttributeInv.request_iff (h : AttributeInv capacity s) (request : MappingRequest) :
    ApartAfter lib s request ↔ KeepsAttributes lib s request := by
  rw [h.apart_iff]
  cases request with
  | post text f g =>
    show IdsDistinct attributeId (mappingsPostHandler lib text f g s).2.ram.table ↔ _
    rcases post_cases lib text f g s with ⟨hkept, hrefused⟩ | ⟨root, hroot, hchecked, hadded⟩
    · rw [hkept]
      exact iff_of_true h.attributes.ram fun root hroot hchecked =>
        absurd hchecked (hrefused root hroot)
    · have hadd := h.add_iff (f := f) hchecked
      have hkeeps : KeepsAttributes lib s (.post text f g) ↔
          ∀ next save, s.CarriesOut (.add (readPosted s.ram.defaultPollMs root)) f next save →
            OwnAttribute s.ram (readPosted s.ram.defaultPollMs root) := by
        constructor
        · exact fun hall => hall root hroot hchecked
        · intro hown root' hroot' _
          obtain rfl := Option.some.inj (hroot.symm.trans hroot')
          exact hown
      rw [hkeeps, ← hadd]
      rcases hadded with hadded | ⟨-, hmoved, call, rfl, hremoved⟩
      · rw [hadded]
      · rw [hremoved]
        exact h.moved_iff hchecked (movedFrom_place hmoved) f g
  | importPost text f =>
    show IdsDistinct attributeId (mappingsImportPostHandler lib text f s).2.ram.table ↔ _
    by_cases hprofile : ∃ root entries, ReadsProfile lib s text root entries
    · obtain ⟨root, entries, hread⟩ := hprofile
      rw [(hread.handler f).2, profileCall, h.import_iff]
      constructor
      · intro hapart root' entries' hread'
        obtain ⟨rfl, rfl⟩ := hread.unique hread'
        exact hapart
      · exact fun hall => hall root entries hread
    · rw [((importPost_cases lib text f s).resolve_left hprofile).2]
      exact iff_of_true h.attributes.ram fun root entries hread =>
        absurd ⟨root, entries, hread⟩ hprofile
  | rollback f => exact iff_of_true ((h.call_iff .rollback f).2 trivial) trivial
  | discoverApply found f => exact h.import_iff

theorem AttributeInv.step (h : AttributeInv capacity s) {request : MappingRequest}
    (hafter : ApartAfter lib s request) : AttributeInv capacity (request.step lib s) := by
  refine { h.toRequestInv.step request with attributes := ?_ }
  rw [h.apart_iff] at hafter
  have hcall : ∀ call f, IdsDistinct attributeId (s.perform call f).2.ram.table →
      TableInv (IdsDistinct attributeId) (s.perform call f).2 := fun call f hdone =>
    h.attributes.step (show TableAfter _ s (.call call f) from hdone)
  cases request with
  | post text f g =>
    show TableInv _ (mappingsPostHandler lib text f g s).2
    rw [MappingRequest.step] at hafter
    rcases post_cases lib text f g s with ⟨hkept, -⟩ | ⟨root, -, hchecked, hadded⟩
    · rw [hkept]
      exact h.attributes
    · rcases hadded with hadded | ⟨-, hmoved, call, rfl, hremoved⟩
      · rw [hadded] at hafter ⊢
        exact hcall _ f hafter
      · rw [hremoved] at hafter ⊢
        have hadd := (h.moved_iff hchecked (movedFrom_place hmoved) f g).1 hafter
        exact (hcall _ f hadd).step
          (show TableAfter _ _ (.call (.removeForChannel _ _ _ _) g) from hafter)
  | importPost text f =>
    show TableInv _ (mappingsImportPostHandler lib text f s).2
    rw [MappingRequest.step] at hafter
    rcases importPost_cases lib text f s with ⟨root, entries, hread⟩ | ⟨-, hkept⟩
    · rw [(hread.handler f).2] at hafter ⊢
      exact hcall _ f hafter
    · rw [hkept]
      exact h.attributes
  | rollback f => exact hcall .rollback f hafter
  | discoverApply found f => exact hcall _ f hafter

end Requests

/-- **Attribute keys.** Along requests to a new device no two mappings share a key of the
gateway's attributes, exactly when every request meets its condition. -/
theorem attribute_keys_run (lib : JsonLib) (capacity : Nat) (requests : List MappingRequest) :
    AllSteps (MappingRequest.step lib) (ApartAfter lib) (.fresh capacity) requests ↔
      AllSteps (MappingRequest.step lib) (KeepsAttributes lib) (.fresh capacity) requests :=
  allSteps_iff (K := fun s _ => AttributeInv capacity s) (fun _ _ _ h hafter => h.step hafter)
    (fun _ request _ h => h.request_iff request)
    { requestInv_fresh capacity with attributes := tableInv_fresh distinct_nil capacity }

/-- The same point posted as a holding and as an input register. -/
def pointRoot (functionCode : Nat) : Json :=
  .obj [("slave_id".toList, jsonNat 1), ("function_code".toList, jsonNat functionCode),
    ("device_id".toList, .str "meter".toList), ("point_id".toList, .str "power".toList)]

/-- Both are taken, under one key. -/
theorem posts_share_key :
    ¬ AllSteps (MappingRequest.step (.knowing [pointRoot 3, pointRoot 4]))
      (ApartAfter (.knowing [pointRoot 3, pointRoot 4])) (.fresh 64)
      [.post (pointRoot 3).render .ok .ok, .post (pointRoot 4).render .ok .ok] := by
  rintro ⟨-, hsecond, -⟩
  exact absurd hsecond.keys (by decide +kernel)

end McpGateway.Web
