import McpGateway.Amm.Reimport
import McpGateway.Modbus.DiscoveredOnce
import McpGateway.Web.DiscoverApply

/-!
# What applying the discovered devices leaves

Both imports replace the mappings of the devices in their batch and keep those of
all others. Since the listed devices stand at different places, applying them
works place by place: `devices_applied`. The editor changes what is listed, and
what a mapping says, but not which points are mapped: `edits_keep_points`.
-/

namespace McpGateway.Web

open McpGateway.Lib McpGateway.Tcm McpGateway.Amm McpGateway.Modbus

def entriesAt (a : AmmTable) (p : BusPlace) : List AmmMappingEntry :=
  a.entries.filter fun e => decide (busPlace e = p)

def pointKey (e : AmmMappingEntry) : UInt8 × UInt16 := (e.functionCode, e.registerAddress)

def pointsAt (a : AmmTable) (p : BusPlace) : List (UInt8 × UInt16) := (entriesAt a p).map pointKey

theorem key_eq_iff_place {e x : AmmMappingEntry} :
    e.key = x.key ↔ busPlace e = busPlace x ∧ pointKey e = pointKey x := by
  constructor
  · intro h
    cases e
    cases x
    cases h
    exact ⟨rfl, rfl⟩
  · intro h
    simp only [busPlace, pointKey, Prod.mk.injEq] at h
    simp only [AmmMappingEntry.key, PhysicalKey.mk.injEq]
    tauto

theorem mem_pointsAt {a : AmmTable} {p : BusPlace} {k : UInt8 × UInt16} :
    k ∈ pointsAt a p ↔ ∃ e ∈ a.entries, busPlace e = p ∧ pointKey e = k := by
  simp [pointsAt, entriesAt, and_assoc]

/-! ## Importing for some places -/

section Import

variable {s : AmmStore} {batch : List AmmMappingEntry} {f : AmmFaults} {p : BusPlace}

theorem import_failed (h : (s.perform (.import batch true) f).1 ≠ .ok) :
    (s.perform (.import batch true) f).2.ram = s.ram := by
  rcases perform_cases s (.import batch true) f with hsame | ⟨next, save, hout⟩
  · exact hsame
  · obtain ⟨-, kept, st, -, -, -, rfl⟩ := planImport_change hout.1
    rw [hout.perform] at h
    exact absurd (hout.2.2 rfl) h

theorem import_entries (h : (s.perform (.import batch true) f).1 = .ok) :
    (s.perform (.import batch true) f).2.ram.entries =
      keptEntries s.ram batch true ++ addedEntries s.ram batch true := by
  obtain ⟨next, save, hout, -⟩ := perform_ok h
  obtain ⟨-, kept, st, hkept, hloop, rfl, rfl⟩ := planImport_change hout.1
  rw [hout.perform, ← importResult_replacing]
  show st.table.filter AmmMappingEntry.active = _
  rw [importLoop_table hkept hloop, List.filter_eq_self]
  exact fun x hx => importResult_active hx

theorem containsDevice_iff {x : AmmMappingEntry} :
    ammImportContainsDevice batch x = true ↔ busPlace x ∈ batch.map busPlace := by
  rw [ammImportContainsDevice, List.any_eq_true, List.mem_map]
  refine exists_congr fun e => and_congr_right fun _ => ?_
  simp [busPlace, and_assoc]

theorem import_at (h : (s.perform (.import batch true) f).1 = .ok)
    (hp : p ∈ batch.map busPlace) (k : UInt8 × UInt16) :
    k ∈ pointsAt (s.perform (.import batch true) f).2.ram p ↔
      ∃ e ∈ batch, busPlace e = p ∧ pointKey e = k := by
  rw [mem_pointsAt, import_entries h]
  constructor
  · rintro ⟨x, hx, rfl, rfl⟩
    rcases List.mem_append.1 hx with hx | hx
    · have hnot := (Bool.and_eq_true_iff.1 (List.mem_filter.1 hx).2).2
      rw [containsDevice_iff.2 hp] at hnot
      cases hnot
    · obtain ⟨e, he, hkey⟩ := List.mem_map.1 (addedEntries_key hx)
      exact ⟨e, he, key_eq_iff_place.1 hkey⟩
  · rintro ⟨e, he, rfl, rfl⟩
    have hbatch : e.key ∈ (importedBatch s.ram batch).map AmmMappingEntry.key := by
      rw [stagedEntries_key]
      exact List.mem_map_of_mem he
    obtain ⟨x, hx, hkey⟩ := lastWith_isSome hbatch
    exact ⟨x, List.mem_append_right _ (mem_addedEntries he hx), key_eq_iff_place.1 hkey⟩

/-- At another place the entries stay as they are. -/
theorem import_elsewhere (h : (s.perform (.import batch true) f).1 = .ok)
    (hp : p ∉ batch.map busPlace) :
    entriesAt (s.perform (.import batch true) f).2.ram p = entriesAt s.ram p := by
  have hadded : (addedEntries s.ram batch true).filter (fun e => decide (busPlace e = p)) = [] := by
    rw [List.filter_eq_nil_iff]
    intro x hx hat
    obtain ⟨e, he, hkey⟩ := List.mem_map.1 (addedEntries_key hx)
    rw [← of_decide_eq_true hat, ← (key_eq_iff_place.1 hkey).1] at hp
    exact hp (List.mem_map_of_mem he)
  rw [entriesAt, import_entries h, List.filter_append, hadded, List.append_nil, keptEntries,
    List.filter_filter, entriesAt, AmmTable.entries, List.filter_filter]
  refine List.filter_congr fun x _ => ?_
  by_cases hat : busPlace x = p
  · have hout : ammImportContainsDevice batch x = false :=
      Bool.eq_false_iff.2 fun hin => hp (hat ▸ containsDevice_iff.1 hin)
    simp [hout]
  · simp [hat]

end Import

/-! ## The devices that the profile knows -/

def declaredKeys (root profileDevice : Json) (dev : ListedDevice) : List (UInt8 × UInt16) :=
  (profileMappings root profileDevice dev).map fun m => pointKey m.entry

theorem profileMappings_place {root profileDevice : Json} {dev : ListedDevice}
    {m : DiscoveredMapping} (h : m ∈ profileMappings root profileDevice dev) :
    busPlace m.entry = dev.place := by
  unfold profileMappings at h
  split at h
  · obtain ⟨reg, -, hm⟩ := List.mem_filterMap.1 h
    obtain ⟨address, -, rfl⟩ := Option.map_eq_some_iff.1 hm
    rfl
  · cases h

theorem profileMappings_ne_nil {root profileDevice : Json} {dflt : Option CStr}
    {dev : ListedDevice} (h : profileMatches profileDevice dflt dev = true) :
    profileMappings root profileDevice dev ≠ [] := by
  unfold profileMatches at h
  split at h
  · rename_i items hitems
    have hcount : 2 ≤ items.countP (registerFound dev) :=
      of_decide_eq_true (Bool.and_eq_true_iff.1 h).2
    have hpos : 0 < items.countP (registerFound dev) := by omega
    obtain ⟨reg, hreg, hfound⟩ := List.countP_pos_iff.1 hpos
    unfold registerFound at hfound
    split at hfound
    · cases hfound
    · rename_i address haddress
      unfold profileMappings
      rw [hitems]
      exact List.ne_nil_of_mem (List.mem_filterMap.2
        ⟨reg, hreg, congrArg (Option.map _) haddress⟩)
  · cases h

section Match

variable (capacity : Nat) (root : Json) (items : List Json) (dflt : Option CStr)

/-- What the profile makes of a known device: the declared points of the first profile device
that matches it, as many of them as there is room for. -/
structure KnownDevice (room : Prop) (dev : ListedDevice) (keys : List (UInt8 × UInt16)) : Prop where
  active : dev.active = true
  declared : ∃ profileDevice, items.find? (fun p => profileMatches p dflt dev) =
    some profileDevice ∧ keys <+: declaredKeys root profileDevice dev ∧ keys ≠ [] ∧
      (room → keys = declaredKeys root profileDevice dev)

/-- The mappings that the loop adds for the devices, and which of them are known. -/
structure Matched (devs : List ListedDevice) (found : List DiscoveredMapping)
    (r : List DiscoveredMapping × List Bool) (added : List DiscoveredMapping) : Prop where
  result : r.1 = found ++ added
  fits : r.1.length ≤ capacity
  marks : r.2.length = devs.length
  places : ∀ m ∈ added, ∃ dev, (dev, true) ∈ devs.zip r.2 ∧ busPlace m.entry = dev.place
  known : (devs.map ListedDevice.place).Nodup → ∀ dev, (dev, true) ∈ devs.zip r.2 →
    KnownDevice root items dflt (r.1.length < capacity) dev
      ((added.filter fun m => decide (busPlace m.entry = dev.place)).map fun m => pointKey m.entry)

variable {capacity root items dflt}

theorem Matched.skip {devs : List ListedDevice} {found added : List DiscoveredMapping}
    {r : List DiscoveredMapping × List Bool}
    (h : Matched capacity root items dflt devs found r added) (dev : ListedDevice) :
    Matched capacity root items dflt (dev :: devs) found (r.1, false :: r.2) added where
  result := h.result
  fits := h.fits
  marks := congrArg Nat.succ h.marks
  places m hm := by
    obtain ⟨x, hx, hplace⟩ := h.places m hm
    exact ⟨x, List.mem_cons_of_mem _ hx, hplace⟩
  known hnodup x hx := by
    rcases List.mem_cons.1 hx with heq | hx
    · cases heq
    · exact h.known (List.nodup_cons.1 hnodup).2 x hx

theorem Matched.elsewhere {devs : List ListedDevice} {found added : List DiscoveredMapping}
    {r : List DiscoveredMapping × List Bool}
    (h : Matched capacity root items dflt devs found r added) {dev : ListedDevice}
    (hdev : dev.place ∉ devs.map ListedDevice.place) :
    added.filter (fun m => decide (busPlace m.entry = dev.place)) = [] := by
  rw [List.filter_eq_nil_iff]
  intro m hm hat
  obtain ⟨x, hx, hplace⟩ := h.places m hm
  rw [← of_decide_eq_true hat, hplace] at hdev
  exact hdev (List.mem_map_of_mem (List.of_mem_zip hx).1)

theorem Matched.next {devs : List ListedDevice} {dev : ListedDevice} {profileDevice : Json}
    {found added : List DiscoveredMapping} {r : List DiscoveredMapping × List Bool}
    (hactive : dev.active = true) (hroom : found.length < capacity)
    (hfind : items.find? (fun p => profileMatches p dflt dev) = some profileDevice)
    (h : Matched capacity root items dflt devs
      ((found ++ profileMappings root profileDevice dev).take capacity) r added) :
    Matched capacity root items dflt (dev :: devs) found (r.1, true :: r.2)
      ((profileMappings root profileDevice dev).take (capacity - found.length) ++ added) where
  result := by
    rw [h.result, List.take_append, List.take_of_length_le (Nat.le_of_lt hroom),
      List.append_assoc]
  fits := h.fits
  marks := congrArg Nat.succ h.marks
  places m hm := by
    rcases List.mem_append.1 hm with hm | hm
    · exact ⟨dev, List.mem_cons_self, profileMappings_place (List.mem_of_mem_take hm)⟩
    · obtain ⟨x, hx, hplace⟩ := h.places m hm
      exact ⟨x, List.mem_cons_of_mem _ hx, hplace⟩
  known hnodup x hx := by
    obtain ⟨hnew, hrest⟩ := List.nodup_cons.1 hnodup
    let own := (profileMappings root profileDevice dev).take (capacity - found.length)
    have hown : ∀ m ∈ own, busPlace m.entry = dev.place := fun m hm =>
      profileMappings_place (List.mem_of_mem_take hm)
    rcases List.mem_cons.1 hx with heq | hx
    · obtain ⟨rfl, -⟩ := Prod.mk.inj heq
      have hfilter : (own ++ added).filter (fun m => decide (busPlace m.entry = x.place)) = own := by
        rw [List.filter_append, h.elsewhere hnew, List.append_nil, List.filter_eq_self]
        exact fun m hm => decide_eq_true (hown m hm)
      show KnownDevice root items dflt _ x
        (((own ++ added).filter fun m => decide (busPlace m.entry = x.place)).map
          fun m => pointKey m.entry)
      rw [hfilter]
      refine ⟨hactive, profileDevice, hfind, ?_, ?_, fun hfree => ?_⟩
      · exact (List.take_prefix _ _).map _
      · have hmatch : profileMatches profileDevice dflt x = true :=
          List.find?_some (p := fun p => profileMatches p dflt x) hfind
        intro hnil
        rcases List.take_eq_nil_iff.1 (List.map_eq_nil_iff.1 hnil) with hzero | hnone
        · omega
        · exact profileMappings_ne_nil hmatch hnone
      · -- a full buffer would leave no room
        have hlength := congrArg List.length h.result
        have hall : (profileMappings root profileDevice x).length ≤ capacity - found.length := by
          rw [List.length_append, List.length_take, List.length_append] at hlength
          have hfree' : r.1.length < capacity := hfree
          omega
        show own.map _ = _
        rw [show own = profileMappings root profileDevice x from List.take_of_length_le hall]
        rfl
    · have hother : x.place ≠ dev.place := fun heq =>
        hnew (heq ▸ List.mem_map_of_mem (List.of_mem_zip hx).1)
      have hfilter : (own ++ added).filter (fun m => decide (busPlace m.entry = x.place)) =
          added.filter fun m => decide (busPlace m.entry = x.place) := by
        rw [List.filter_append, List.filter_eq_nil_iff.2 fun m hm hat => ?_, List.nil_append]
        exact hother ((of_decide_eq_true hat).symm.trans (hown m hm))
      show KnownDevice root items dflt _ x
        (((own ++ added).filter fun m => decide (busPlace m.entry = x.place)).map
          fun m => pointKey m.entry)
      rw [hfilter]
      exact h.known hrest x hx

variable (capacity root items dflt) in
theorem matchDevices_matched (devs : List ListedDevice) (found : List DiscoveredMapping)
    (hfound : found.length ≤ capacity) : ∃ added, Matched capacity root items dflt devs found
      (matchDevices capacity root items dflt devs found) added := by
  induction devs generalizing found with
  | nil =>
    exact ⟨[], (List.append_nil _).symm, hfound, rfl, fun m hm => absurd hm List.not_mem_nil,
      fun _ dev hdev => absurd hdev List.not_mem_nil⟩
  | cons dev devs ih =>
    rw [matchDevices]
    split
    · obtain ⟨added, h⟩ := ih found hfound
      exact ⟨added, h.skip dev⟩
    · rename_i profileDevice hsome
      split at hsome
      · rename_i hroom
        obtain ⟨added, h⟩ := ih ((found ++ profileMappings root profileDevice dev).take capacity)
          (List.length_take_le _ _)
        exact ⟨_, h.next hroom.2 hroom.1 hsome⟩
      · cases hsome

end Match

/-! ## The other devices -/

def ListedDevice.validKeys (dev : ListedDevice) : List (UInt8 × UInt16) :=
  dev.points.map fun reg => reg.key

theorem rawMappings_place {dev : ListedDevice} {m : DiscoveredMapping} (h : m ∈ dev.rawMappings) :
    busPlace m.entry = dev.place := by
  obtain ⟨reg, -, rfl⟩ := List.mem_map.1 h
  rfl

theorem rawMappings_keys (dev : ListedDevice) :
    dev.rawMappings.map (fun m => pointKey m.entry) = dev.validKeys := by
  rw [ListedDevice.rawMappings, List.map_map]
  rfl

theorem admitted_sublist (room used : Nat) (devs : List ListedDevice) :
    (admitted room used devs).Sublist devs := by
  induction devs generalizing used with
  | nil => exact .slnil
  | cons dev devs ih =>
    unfold admitted
    split
    · exact (ih used).cons dev
    · exact (ih _).cons_cons dev

def rawMapped (a : AmmTable) (unknown : List ListedDevice) : List ListedDevice :=
  (admitted (rawCapacity a unknown) 0 unknown).filter fun dev => decide (dev.points ≠ [])

/-- The devices whose mappings the raw import replaces: none if it fails. -/
def rawApplied (unknown : List ListedDevice) (g : AmmFaults) (s : AmmStore) :
    List ListedDevice :=
  if (s.perform (.import (rawBatch s.ram unknown) true) g).1 = .ok then rawMapped s.ram unknown
  else []

section Raw

variable {unknown : List ListedDevice} {g : AmmFaults} {s : AmmStore}

theorem mem_rawBatch_place {a : AmmTable} {p : BusPlace} :
    p ∈ (rawBatch a unknown).map busPlace ↔ ∃ dev ∈ rawMapped a unknown, dev.place = p := by
  simp only [rawBatch, rawMapped, List.map_map, List.mem_map, List.mem_flatMap, List.mem_filter]
  constructor
  · rintro ⟨m, ⟨dev, hdev, hm⟩, rfl⟩
    obtain ⟨reg, hreg, -⟩ := List.mem_map.1 hm
    exact ⟨dev, ⟨hdev, decide_eq_true (List.ne_nil_of_mem hreg)⟩, (rawMappings_place hm).symm⟩
  · rintro ⟨dev, ⟨hdev, hpoints⟩, rfl⟩
    obtain ⟨reg, hreg⟩ := List.exists_mem_of_ne_nil _ (of_decide_eq_true hpoints)
    have hm := List.mem_map_of_mem (f := buildRawMapping dev
      (semanticInferenceIdentify dev dev.signatures)) hreg
    exact ⟨_, ⟨dev, hdev, hm⟩, rawMappings_place hm⟩

theorem batch_ne_nil {batch : List AmmMappingEntry}
    (h : (s.perform (.import batch true) g).1 = .ok) : batch ≠ [] := by
  rintro rfl
  obtain ⟨next, save, hout, -⟩ := perform_ok h
  have hplan : planImport [] true s.ram = .change next save := hout.1
  rw [planImport, if_pos rfl] at hplan
  cases hplan

theorem applyRaw_applied (h : (s.perform (.import (rawBatch s.ram unknown) true) g).1 = .ok) :
    applyRaw unknown g s = ((rawBatch s.ram unknown).length,
      (s.perform (.import (rawBatch s.ram unknown) true) g).2) := by
  unfold applyRaw
  simp only [if_neg (batch_ne_nil h), h, if_true]

theorem applyRaw_failed (h : (s.perform (.import (rawBatch s.ram unknown) true) g).1 ≠ .ok) :
    (applyRaw unknown g s).1 = 0 ∧ (applyRaw unknown g s).2.ram = s.ram := by
  unfold applyRaw
  dsimp only
  rw [if_neg h]
  split
  · exact ⟨rfl, rfl⟩
  · exact ⟨rfl, import_failed h⟩

theorem rawBatch_at {a : AmmTable} (hapart : (unknown.map ListedDevice.place).Nodup)
    {dev : ListedDevice} (hdev : dev ∈ rawMapped a unknown) (k : UInt8 × UInt16) :
    (∃ e ∈ rawBatch a unknown, busPlace e = dev.place ∧ pointKey e = k) ↔ k ∈ dev.validKeys := by
  have hin : dev ∈ admitted (rawCapacity a unknown) 0 unknown := (List.mem_filter.1 hdev).1
  rw [← rawMappings_keys, List.mem_map]
  simp only [rawBatch, List.mem_map, List.mem_flatMap]
  constructor
  · rintro ⟨e, ⟨m, ⟨x, hx, hm⟩, rfl⟩, hplace, rfl⟩
    rw [rawMappings_place hm] at hplace
    have hsub := admitted_sublist (rawCapacity a unknown) 0 unknown
    obtain rfl : x = dev :=
      List.inj_on_of_nodup_map hapart (hsub.subset hx) (hsub.subset hin) hplace
    exact ⟨m, hm, rfl⟩
  · rintro ⟨m, hm, rfl⟩
    exact ⟨m.entry, ⟨m, ⟨dev, hin, hm⟩, rfl⟩, rawMappings_place hm, rfl⟩

theorem rawBatch_length (a : AmmTable) (unknown : List ListedDevice) :
    (rawBatch a unknown).length = ((rawMapped a unknown).map fun dev => dev.points.length).sum := by
  rw [rawBatch, rawMapped, List.length_map, List.length_flatMap]
  induction admitted (rawCapacity a unknown) 0 unknown with
  | nil => rfl
  | cons dev devs ih =>
    have hlength : dev.rawMappings.length = dev.points.length := List.length_map ..
    rw [List.map_cons, List.sum_cons, ih, hlength, List.filter_cons]
    split
    · rw [List.map_cons, List.sum_cons]
    · rename_i hnone
      have hpoints : dev.points = [] := by simpa using hnone
      rw [hpoints, List.length_nil, Nat.zero_add]

/-- What the second part leaves. -/
structure RawApplied (unknown : List ListedDevice) (s : AmmStore) (mapped : List ListedDevice)
    (r : Nat × AmmStore) : Prop where
  points : ∀ dev ∈ mapped, ∀ k, k ∈ pointsAt r.2.ram dev.place ↔ k ∈ dev.validKeys
  elsewhere : ∀ p, (∀ dev ∈ mapped, dev.place ≠ p) → entriesAt r.2.ram p = entriesAt s.ram p
  counted : r.1 = (mapped.map fun dev => dev.points.length).sum
  listed : ∀ dev ∈ mapped, dev ∈ unknown

theorem raw_applied (hapart : (unknown.map ListedDevice.place).Nodup) (g : AmmFaults)
    (s : AmmStore) :
    RawApplied unknown s (rawApplied unknown g s) (applyRaw unknown g s) := by
  unfold rawApplied
  by_cases hok : (s.perform (.import (rawBatch s.ram unknown) true) g).1 = .ok
  · rw [if_pos hok, applyRaw_applied hok]
    refine ⟨fun dev hdev k => ?_, fun p hp => ?_, rawBatch_length s.ram unknown, fun dev hdev => ?_⟩
    · rw [import_at hok (mem_rawBatch_place.2 ⟨dev, hdev, rfl⟩), rawBatch_at hapart hdev]
    · refine import_elsewhere hok fun hmem => ?_
      obtain ⟨dev, hdev, hplace⟩ := mem_rawBatch_place.1 hmem
      exact hp dev hdev hplace
    · exact (admitted_sublist _ _ _).subset (List.mem_filter.1 hdev).1
  · rw [if_neg hok]
    obtain ⟨hzero, hram⟩ := applyRaw_failed hok
    exact ⟨fun dev hdev => absurd hdev List.not_mem_nil, fun p _ => by rw [hram], hzero,
      fun dev hdev => absurd hdev List.not_mem_nil⟩

end Raw

/-! ## Applying the devices -/

section Apply

variable {profile : Option Json} {devs : List ListedDevice} {f : AmmFaults} {s : AmmStore}

/-- What the first part leaves. -/
structure ProfileApplied (profile : Option Json) (devs : List ListedDevice) (s : AmmStore)
    (r : List Bool × Nat × AmmStore) : Prop where
  marks : r.1.length = devs.length
  points : (devs.map ListedDevice.place).Nodup → ∀ dev, (dev, true) ∈ devs.zip r.1 →
    ∃ root items dflt keys, profile = some root ∧ profileDevices profile = some (items, dflt) ∧
      KnownDevice root items dflt (r.2.1 < s.ram.capacity) dev keys ∧
      ∀ k, k ∈ pointsAt r.2.2.ram dev.place ↔ k ∈ keys
  elsewhere : ∀ p, (∀ dev, (dev, true) ∈ devs.zip r.1 → dev.place ≠ p) →
    entriesAt r.2.2.ram p = entriesAt s.ram p

theorem ProfileApplied.none {t : AmmStore} (h : t.ram = s.ram) :
    ProfileApplied profile devs s (devs.map fun _ => false, 0, t) where
  marks := List.length_map _
  points _ dev hdev := by
    rw [List.zip_map_right] at hdev
    obtain ⟨x, -, hx⟩ := List.mem_map.1 hdev
    cases hx
  elsewhere p _ := by rw [h]

theorem profile_applied (profile : Option Json) (devs : List ListedDevice) (f : AmmFaults)
    (s : AmmStore) :
    ProfileApplied profile devs s (applyEmbeddedSemanticProfile profile devs f s) := by
  unfold applyEmbeddedSemanticProfile
  dsimp only
  split
  · rename_i root items dflt hitems
    obtain ⟨added, h⟩ := matchDevices_matched s.ram.capacity root items dflt devs []
      (Nat.zero_le _)
    have hresult := h.result
    rw [List.nil_append] at hresult
    split
    · exact .none rfl
    · split
      · rename_i hok
        have hplaces : ∀ p, p ∈ ((matchDevices s.ram.capacity root items dflt devs []).1.map
            DiscoveredMapping.entry).map busPlace ↔
              ∃ m ∈ added, busPlace m.entry = p := by
          intro p
          rw [hresult, List.map_map, List.mem_map]
          rfl
        refine ⟨h.marks, fun hapart dev hdev => ?_, fun p hp => ?_⟩
        · have hknown := h.known hapart dev hdev
          refine ⟨root, items, dflt, _, rfl, hitems, hknown, fun k => ?_⟩
          obtain ⟨-, p, -, -, hsome, -⟩ := hknown
          obtain ⟨m, hm⟩ := List.exists_mem_of_ne_nil _ (mt (congrArg (List.map _)) hsome)
          obtain ⟨hm, hat⟩ := List.mem_filter.1 hm
          rw [import_at hok ((hplaces _).2 ⟨m, hm, of_decide_eq_true hat⟩), hresult]
          simp [and_assoc]
        · refine import_elsewhere hok fun hmem => ?_
          obtain ⟨m, hm, rfl⟩ := (hplaces p).1 hmem
          obtain ⟨dev, hdev, hplace⟩ := h.places m hm
          exact hp dev hdev hplace.symm
      · rename_i hfailed
        exact .none (import_failed hfailed)
  · exact .none rfl

theorem mem_unknown_iff {known : List Bool} {dev : ListedDevice} :
    dev ∈ unknownDevices devs known ↔ (dev, false) ∈ devs.zip known ∧ dev.active = true := by
  simp [unknownDevices, and_comm]

theorem unknown_sublist {known : List Bool} (h : known.length = devs.length) :
    (unknownDevices devs known).Sublist devs := by
  have hzip : (devs.zip known).map Prod.fst = devs := List.map_fst_zip (Nat.le_of_eq h.symm)
  have hsub := ((devs.zip known).filter_sublist (p := fun d => d.1.active && !d.2)).map Prod.fst
  rwa [hzip] at hsub

theorem marked_once {known : List Bool} (hapart : (devs.map ListedDevice.place).Nodup)
    {dev x : ListedDevice} {b c : Bool} (hdev : (dev, b) ∈ devs.zip known)
    (hx : (x, c) ∈ devs.zip known) (hplace : dev.place = x.place) : b = c := by
  obtain ⟨i, hi⟩ := List.mem_iff_getElem?.1 hdev
  obtain ⟨j, hj⟩ := List.mem_iff_getElem?.1 hx
  rw [List.getElem?_zip_eq_some] at hi hj
  have hij : i = j := by
    have hlt := (List.getElem?_eq_some_iff.1 hi.1).1
    refine (List.getElem?_inj (by rwa [List.length_map]) hapart).1 ?_
    rw [List.getElem?_map, List.getElem?_map, hi.1, hj.1, Option.map_some, Option.map_some, hplace]
  rw [← hij] at hj
  exact Option.some.inj (hi.2.symm.trans hj.2)

theorem known_add_unknown {known : List Bool} (h : known.length = devs.length)
    (hactive : ∀ dev, (dev, true) ∈ devs.zip known → dev.active = true) :
    known.count true + (unknownDevices devs known).length =
      devs.countP ListedDevice.active := by
  induction devs generalizing known with
  | nil =>
    obtain rfl := List.length_eq_zero_iff.1 h
    rfl
  | cons dev devs ih =>
    cases known with
    | nil => cases h
    | cons b known =>
      have hrest := ih (Nat.succ.inj h) fun x hx => hactive x (List.mem_cons_of_mem _ hx)
      have hhead : b = true → dev.active = true := by
        rintro rfl
        exact hactive dev List.mem_cons_self
      unfold unknownDevices at hrest ⊢
      rw [List.count_cons, List.zip_cons_cons, List.filter_cons, List.countP_cons]
      cases b <;> cases hdev : dev.active <;> simp_all <;> omega

end Apply

/-- What applying the listed devices leaves, place by place: the known ones have their declared
points, the mapped ones of the others their valid registers, and every other place is as before. -/
structure Applied (profile : Option Json) (devs : List ListedDevice) (s : AmmStore)
    (marks : List Bool) (raw : List ListedDevice) (r : ApplyResult × AmmStore) : Prop where
  known : ∀ dev, (dev, true) ∈ devs.zip marks →
    ∃ root items dflt keys, profile = some root ∧ profileDevices profile = some (items, dflt) ∧
      KnownDevice root items dflt (r.1.semanticMappings < s.ram.capacity) dev keys ∧
      ∀ k, k ∈ pointsAt r.2.ram dev.place ↔ k ∈ keys
  others : ∀ dev ∈ raw, (dev, false) ∈ devs.zip marks ∧ dev.active = true ∧
    ∀ k, k ∈ pointsAt r.2.ram dev.place ↔ k ∈ dev.validKeys
  elsewhere : ∀ p, (∀ dev, (dev, true) ∈ devs.zip marks → dev.place ≠ p) →
    (∀ dev ∈ raw, dev.place ≠ p) → entriesAt r.2.ram p = entriesAt s.ram p
  devices : r.1.profileDevices + r.1.unresolvedDevices = devs.countP ListedDevice.active
  mappings : r.1.rawMappings = (raw.map fun dev => dev.points.length).sum

/-- **Discovered devices are mapped place by place.** For every list of devices, every profile
and all failures of flash, the points mapped at the place of a device that the profile knows are
the declared ones, at the place of another device that is mapped its valid registers, and nothing
changes at any other place. -/
theorem devices_applied (l : DeviceList) (profile : Option Json) (f g : AmmFaults) (s : AmmStore) :
    Applied profile l.devices s (applyEmbeddedSemanticProfile profile l.devices f s).1
      (rawApplied (unknownDevices l.devices (applyEmbeddedSemanticProfile profile l.devices f s).1)
        g (applyEmbeddedSemanticProfile profile l.devices f s).2.2)
      (modbusDiscoverApplyMappings profile l.devices f g s) := by
  have hp := profile_applied profile l.devices f s
  unfold modbusDiscoverApplyMappings
  dsimp only
  generalize applyEmbeddedSemanticProfile profile l.devices f s = p at hp ⊢
  have hsub := unknown_sublist hp.marks
  have hr := raw_applied ((hsub.map ListedDevice.place).nodup l.apart) g p.2.2
  generalize rawApplied (unknownDevices l.devices p.1) g p.2.2 = raw at hr ⊢
  generalize applyRaw (unknownDevices l.devices p.1) g p.2.2 = r at hr ⊢
  have hother : ∀ x ∈ raw, (x, false) ∈ l.devices.zip p.1 ∧ x.active = true := fun x hx =>
    mem_unknown_iff.1 (hr.listed x hx)
  refine ⟨fun dev hdev => ?_, fun dev hdev => ?_, fun place hknown hraw => ?_, ?_, hr.counted⟩
  · obtain ⟨root, items, dflt, keys, hprofile, hitems, hdevice, hkeys⟩ := hp.points l.apart dev hdev
    refine ⟨root, items, dflt, keys, hprofile, hitems, hdevice, fun k => ?_⟩
    have hkept : entriesAt r.2.ram dev.place = entriesAt p.2.2.ram dev.place := by
      refine hr.elsewhere dev.place fun x hx hplace => ?_
      cases marked_once l.apart (hother x hx).1 hdev hplace
    rw [← hkeys k, pointsAt, hkept]
    rfl
  · exact ⟨(hother dev hdev).1, (hother dev hdev).2, hr.points dev hdev⟩
  · rw [hr.elsewhere place hraw, hp.elsewhere place hknown]
  · refine known_add_unknown hp.marks fun dev hdev => ?_
    obtain ⟨_, _, _, _, -, -, hdevice, -⟩ := hp.points l.apart dev hdev
    exact hdevice.active

/-! ## After a scan -/

section Scan

variable {slaves : Slaves} {params : DiscoverScanParams} {profile : Option Json} {d : Discovery}

/-- Turns at active places keep the devices apart. -/
theorem scanRun_inv {places : List Nat} (hinv : ScanInv params d) (hplaces : places.Nodup)
    (hactive : ∀ i ∈ places, ∃ dev, d.devices[i]? = some dev ∧ dev.active = true) :
    ScanInv params (run (scanNext slaves profile params) d places) := by
  induction places generalizing d with
  | nil => exact hinv
  | cons i places ih =>
    obtain ⟨hi, hplaces⟩ := List.nodup_cons.1 hplaces
    obtain ⟨dev, hdev, hdevActive⟩ := hactive i List.mem_cons_self
    refine ih (hinv.next hdev hdevActive) hplaces fun j hj => ?_
    rw [scanNext_other hinv hdev hdevActive fun heq => hi (heq ▸ hj)]
    exact hactive j (List.mem_cons_of_mem i hj)

theorem fullScan_apart {capacity : Nat} {req : Option DiscoverScanParams}
    (h : modbusDiscoverFullScan slaves capacity profile req = .ok d) :
    (d.devices.map fun dev => (ListedDevice.ofScan dev).place).Nodup := by
  unfold modbusDiscoverFullScan at h
  split at h
  · cases h
  · split at h
    · cases h
    · rename_i params hparams
      unfold fullScanSync at h
      split at h
      · cases h
      · rename_i start hstart
        cases h
        obtain ⟨next, hbus, -, hactive⟩ := scanBus_inv hstart
        have hinv : ScanInv params (run (scanNext slaves profile params) start
            (List.range start.devices.length)) := by
          refine scanRun_inv hbus List.nodup_range fun i hi => ?_
          have hlt := List.mem_range.1 hi
          exact ⟨_, List.getElem?_eq_getElem hlt, hactive _ (List.getElem_mem hlt)⟩
        refine List.Nodup.map_on (fun a ha b hb hplace => ?_)
          ((List.Nodup.of_map _ hinv.apart).filter _)
        exact List.inj_on_of_nodup_map hinv.apart (List.mem_filter.1 ha).1 (List.mem_filter.1 hb).1
          (congrArg (fun p : BusPlace => p.2.2) hplace)

def DeviceList.ofScan {capacity : Nat} {req : Option DiscoverScanParams} {d : Discovery}
    (h : modbusDiscoverFullScan slaves capacity profile req = .ok d) : DeviceList where
  devices := d.devices.map ListedDevice.ofScan
  apart := by
    rw [List.map_map]
    exact fullScan_apart h

end Scan

/-! ## Editing -/

section Edit

theorem map_key_set {l : List AmmMappingEntry} {i : Nat} {x y : AmmMappingEntry}
    (hx : l[i]? = some x) (hactive : x.active = y.active) (hkey : x.key = y.key) :
    ((l.set i y).filter AmmMappingEntry.active).map AmmMappingEntry.key =
      (l.filter AmmMappingEntry.active).map AmmMappingEntry.key := by
  induction l generalizing i with
  | nil => rfl
  | cons z l ih =>
    cases i with
    | zero =>
      obtain rfl : z = x := Option.some.inj hx
      rw [List.set_cons_zero, List.filter_cons, List.filter_cons, hactive]
      split
      · rw [List.map_cons, List.map_cons, hkey]
      · rfl
    | succ i =>
      rw [List.set_cons_succ, List.filter_cons, List.filter_cons]
      split
      · rw [List.map_cons, List.map_cons, ih hx]
      · exact ih hx

theorem add_again_keys {s : AmmStore} {e x : AmmMappingEntry} {f : AmmFaults}
    (hx : x ∈ s.ram.entries) (hkey : x.key = e.key) :
    (s.perform (.add e) f).2.ram.entries.map AmmMappingEntry.key =
      s.ram.entries.map AmmMappingEntry.key := by
  rcases perform_cases s (.add e) f with hsame | ⟨next, save, hout⟩
  · rw [hsame]
  · obtain ⟨i, hi, rfl, -⟩ := planAdd_change hout.1
    rw [hout.perform]
    obtain ⟨hmem, hactive⟩ := List.mem_filter.1 hx
    rcases addTarget_cases hi with ⟨y, hy, hyActive, hyKey⟩ | hnone
    · have hlt := (List.getElem?_eq_some_iff.1 hy).1
      show ((s.ram.put i e).table.filter AmmMappingEntry.active).map AmmMappingEntry.key = _
      rw [AmmTable.put, if_pos hlt]
      refine map_key_set hy (hyActive.trans (stored_active s.ram e).symm) ?_
      rw [hyKey, key_isIdentity.stored]
      rfl
    · exact absurd hkey (hnone x hmem hactive)

theorem writeThrough_keys (key : PhysicalKey) (r : RegisterEdit) (f : AmmFaults) (s : AmmStore) :
    (writeThrough key r f s).ram.entries.map AmmMappingEntry.key =
      s.ram.entries.map AmmMappingEntry.key := by
  unfold writeThrough
  split
  · rfl
  · rename_i e he
    exact add_again_keys (List.mem_of_find?_eq_some he) rfl

/-- An editing call changes neither the mapped points nor the places. -/
theorem edit_keeps (d : Discovered) (edit : DiscoverEdit) :
    (d.edit edit).amm.ram.entries.map AmmMappingEntry.key =
        d.amm.ram.entries.map AmmMappingEntry.key ∧
      (d.edit edit).list.devices.map ListedDevice.place =
        d.list.devices.map ListedDevice.place := by
  unfold Discovered.edit
  cases edit with
  | updateDevice slaveId deviceId =>
    dsimp only
    split
    · exact ⟨rfl, rfl⟩
    · exact ⟨rfl, modify_places ..⟩
  | updateRegister slaveId regAddr r f =>
    dsimp only
    split
    · exact ⟨rfl, rfl⟩
    · exact ⟨writeThrough_keys .., modify_places ..⟩
  | toggleRegister slaveId regAddr =>
    dsimp only
    split
    · exact ⟨rfl, rfl⟩
    · exact ⟨rfl, modify_places ..⟩
  | deleteRegister slaveId regAddr =>
    dsimp only
    split
    · exact ⟨rfl, rfl⟩
    · exact ⟨rfl, modify_places ..⟩

/-- **Editing keeps the points.** In every run of editing calls, whatever flash answers, the
mapped points stay the same, in their order, and the devices stay in their places. -/
theorem edits_keep_points (d : Discovered) (edits : List DiscoverEdit) :
    (run Discovered.edit d edits).amm.ram.entries.map AmmMappingEntry.key =
        d.amm.ram.entries.map AmmMappingEntry.key ∧
      (run Discovered.edit d edits).list.devices.map ListedDevice.place =
        d.list.devices.map ListedDevice.place := by
  induction edits generalizing d with
  | nil => exact ⟨rfl, rfl⟩
  | cons edit edits ih =>
    obtain ⟨hpoints, hplaces⟩ := edit_keeps d edit
    rw [run_cons, (ih _).1, (ih _).2]
    exact ⟨hpoints, hplaces⟩

end Edit

end McpGateway.Web
