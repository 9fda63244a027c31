import McpGateway.Web.MappingApi

/-!
# What the requests accept

Every request checks the entries it hands to the table, and the table fills in
what is missing. `RequestInv.run` says what this makes of the table between the
requests of a new device.
-/

namespace McpGateway.Web

open McpGateway.Lib McpGateway.Tcm McpGateway.Amm McpGateway.Thingscloud

/-! ## Accepted entries -/

/-- What the requests and the discovery make sure of in an entry. -/
structure Accepted (e : AmmMappingEntry) : Prop where
  customKey : customKeyOk e = true
  customTopic : customTopicOk e = true
  topicMode : e.mqttTopicMode = .auto ∨ e.mqttTopicMode = .custom
  byteOrder : ByteOrder.ofCode e.byteOrder.code = e.byteOrder
  scale : toFloat e.scaleFactor = e.scaleFactor
  offset : toFloat e.offset = e.offset
  rangeMin : toFloat e.constraint.validRangeMin = e.constraint.validRangeMin
  rangeMax : toFloat e.constraint.validRangeMax = e.constraint.validRangeMax

structure Served (e : AmmMappingEntry) : Prop extends Accepted e where
  interval : e.pollIntervalMs ≠ 0
  retryCount : e.retryCount ≠ 0
  retryBackoff : e.retryBackoffMs ≠ 0

@[simp] theorem code_ofCode (n : Nat) : (ByteOrder.ofCode n).code = n := by
  unfold ByteOrder.ofCode
  split <;> rfl

/-! ## What the table makes of them -/

section Keep

variable {e x : AmmMappingEntry}

theorem normalizeTopicMode_of (h : e.mqttTopicMode = .auto ∨ e.mqttTopicMode = .custom) :
    normalizeTopicMode e = e := by
  unfold normalizeTopicMode
  split
  · rename_i hmode
    rw [← h.resolve_right hmode]
  · rfl

theorem Accepted.of_fields (h : Accepted e) (hkey : x.gatewayPropertyKey = e.gatewayPropertyKey)
    (htopic : x.mqttTopic = e.mqttTopic) (hmode : x.mqttTopicMode = e.mqttTopicMode)
    (horder : x.byteOrder = e.byteOrder) (hscale : x.scaleFactor = e.scaleFactor)
    (hoffset : x.offset = e.offset) (hconstraint : x.constraint = e.constraint) : Accepted x where
  customKey := by
    rw [customKeyOk, hkey]
    exact h.customKey
  customTopic := by
    rw [customTopicOk, hmode, htopic]
    exact h.customTopic
  topicMode := by
    rw [hmode]
    exact h.topicMode
  byteOrder := by
    rw [horder]
    exact h.byteOrder
  scale := by
    rw [hscale]
    exact h.scale
  offset := by
    rw [hoffset]
    exact h.offset
  rangeMin := by
    rw [hconstraint]
    exact h.rangeMin
  rangeMax := by
    rw [hconstraint]
    exact h.rangeMax

theorem Accepted.normalize (h : Accepted e) : Accepted (ammNormalizeReadWindow e) := by
  rw [ammNormalizeReadWindow, normalizeTopicMode_of h.topicMode, normalizeObjectType_eq,
    normalizeWindow]
  split <;> exact h.of_fields rfl rfl rfl rfl rfl rfl rfl

theorem Accepted.served (h : Accepted (ammNormalizeReadWindow e)) (hinterval : e.pollIntervalMs ≠ 0) :
    Served (ammNormalizeReadWindow e) :=
  { h with
    interval := by rwa [normalize_pollIntervalMs]
    retryCount := (normal_normalize e).retryCount
    retryBackoff := (normal_normalize e).retryBackoff }

theorem withPollInterval_ne_zero {dflt : UInt32} (h : dflt ≠ 0) (e : AmmMappingEntry) :
    (withPollInterval dflt e).pollIntervalMs ≠ 0 := by
  unfold withPollInterval
  split
  · exact h
  · assumption

theorem Accepted.withPollInterval (h : Accepted e) (dflt : UInt32) :
    Accepted (withPollInterval dflt e) := by
  unfold Amm.withPollInterval
  split
  · exact h.of_fields rfl rfl rfl rfl rfl rfl rfl
  · exact h

theorem served_stored (h : Accepted e) {a : AmmTable} (hpoll : a.defaultPollMs ≠ 0) :
    Served (a.stored e) := by
  have hactive : Accepted { e with active := true } := h.of_fields rfl rfl rfl rfl rfl rfl rfl
  have hnormal := normal_normalize { e with active := true }
  have hversion : Accepted { ammNormalizeReadWindow { e with active := true } with
      mappingVersion := a.modelVersion + 1 } :=
    hactive.normalize.of_fields rfl rfl rfl rfl rfl rfl rfl
  refine
    { hversion.withPollInterval a.defaultPollMs with
      interval := withPollInterval_ne_zero hpoll _
      retryCount := ?_
      retryBackoff := ?_ }
  · unfold AmmTable.stored withPollInterval
    split <;> exact hnormal.retryCount
  · unfold AmmTable.stored withPollInterval
    split <;> exact hnormal.retryBackoff

theorem toFloat_one : toFloat (.fin 1) = .fin 1 := by decide +kernel

theorem served_importEntry (h : Accepted e) {dflt : UInt32} (hdflt : dflt ≠ 0) (v : SeqId) :
    Served (importEntry dflt v e) := by
  have hactive : Accepted { e with active := true, mappingVersion := v } :=
    h.of_fields rfl rfl rfl rfl rfl rfl rfl
  have hinterval := withPollInterval_ne_zero hdflt { e with active := true, mappingVersion := v }
  have haccepted := hactive.withPollInterval dflt
  unfold importEntry
  simp only
  split
  · refine Accepted.served (Accepted.normalize ?_) hinterval
    exact { haccepted with scale := toFloat_one }
  · exact Accepted.served haccepted.normalize hinterval

/-- An overlaid entry keeps its own key and retries. -/
theorem Served.overlay (h : Served e) (hx : Served x) : Served (ammOverlayUserSemantics x e) where
  customKey := h.customKey
  customTopic := hx.customTopic
  topicMode := hx.topicMode
  byteOrder := hx.byteOrder
  scale := hx.scale
  offset := hx.offset
  rangeMin := hx.rangeMin
  rangeMax := hx.rangeMax
  interval := hx.interval
  retryCount := h.retryCount
  retryBackoff := h.retryBackoff

theorem served_overlayUser (h : Served e) {table : List AmmMappingEntry}
    (htable : AllActive Served table) : Served (overlayUser table e) := by
  cases huser : userEntry table e with
  | none => rwa [overlayUser_of_none huser]
  | some user =>
    obtain ⟨hmem, hactive⟩ := userEntry_active huser
    rw [overlayUser_of_some huser]
    exact h.overlay (htable user hmem hactive)

theorem Served.version (h : Served e) (v : SeqId) : Served { e with mappingVersion := v } :=
  { h.toAccepted.of_fields rfl rfl rfl rfl rfl rfl rfl with
    interval := h.interval
    retryCount := h.retryCount
    retryBackoff := h.retryBackoff }

theorem stable_served : Stable Served where
  version e v := ⟨fun h => h.version e.mappingVersion, fun h => h.version v⟩
  interval e ms hms h :=
    { h.toAccepted.of_fields rfl rfl rfl rfl rfl rfl rfl with
      interval := fun hzero => by
        rw [show ms = 0 from hzero] at hms
        exact absurd hms (by decide)
      retryCount := h.retryCount
      retryBackoff := h.retryBackoff }

end Keep

/-! ## What the requests accept -/

section Accept

variable {root : Json} {dflt : UInt32} {e : AmmMappingEntry}

theorem readNumber_induction {α : Type*} {P : α → Prop} {old : α} (hold : P old)
    {conv : CFloat → α} (hconv : ∀ x, P (conv x)) (root : Json) (name : String) :
    P (readNumber root name old conv) := by
  unfold readNumber
  split
  · exact hconv _
  · exact hold

theorem readText_induction {α : Type*} {P : α → Prop} {old : α} (hold : P old)
    {conv : CStr → α} (hconv : ∀ t, P (conv t)) (root : Json) (name : String) :
    P (readText root name old conv) := by
  unfold readText
  split
  · exact hconv _
  · exact hold

theorem readNumber_toFloat {old : CFloat} (hold : toFloat old = old) (root : Json) (name : String) :
    toFloat (readNumber root name old toFloat) = readNumber root name old toFloat :=
  readNumber_induction (P := fun x => toFloat x = x) hold toFloat_toFloat root name

theorem readText_topicMode (root : Json) (name : String) :
    readText root name .auto parseTopicMode = .auto ∨
      readText root name .auto parseTopicMode = .custom := by
  refine readText_induction (P := fun mode : MqttTopicMode => mode = .auto ∨ mode = .custom)
    (.inl rfl) (fun t => ?_) root name
  unfold parseTopicMode
  split
  · exact .inr rfl
  · exact .inl rfl

theorem readNumber_byteOrder (root : Json) (name : String) :
    ByteOrder.ofCode (readNumber root name .abcd intByteOrder).code =
      readNumber root name .abcd intByteOrder := by
  refine readNumber_induction (P := fun t : ByteOrder => ByteOrder.ofCode t.code = t) rfl
    (fun x => ?_) root name
  rw [intByteOrder, code_ofCode]

theorem accepted_posted {a : AmmTable} (h : postRefusal a (readPosted dflt root) = none) :
    Accepted (readPosted dflt root) := by
  unfold postRefusal at h
  split at h
  · cases h
  · rename_i htopic
    split at h
    · cases h
    · rename_i hkey
      exact
        { customKey := by simpa using hkey
          customTopic := by simpa using htopic
          topicMode := readText_topicMode root _
          byteOrder := readNumber_byteOrder root _
          scale := readNumber_toFloat toFloat_one root _
          offset := readNumber_toFloat toFloat_zero root _
          rangeMin := readNumber_toFloat toFloat_zero root _
          rangeMax := readNumber_toFloat toFloat_zero root _ }

theorem accepted_imported (h : mappingEntryFromJson dflt root = some e) : Accepted e := by
  unfold mappingEntryFromJson at h
  split at h
  · simp only at h
    split at h
    · cases h
    · rename_i hkey
      split at h
      · cases h
      · rename_i htopic
        split at h
        · cases h
        · rw [← Option.some.inj h]
          exact
            { customKey := by simpa using hkey
              customTopic := by simpa using htopic
              topicMode := readText_topicMode _ _
              byteOrder := readNumber_byteOrder _ _
              scale := readNumber_toFloat toFloat_one _ _
              offset := readNumber_toFloat toFloat_zero _ _
              rangeMin := readNumber_toFloat toFloat_zero _ _
              rangeMax := readNumber_toFloat toFloat_zero _ _ }
  · cases h

theorem parseByteOrder_code (name : Option CStr) :
    ByteOrder.ofCode (parseByteOrder name).code = parseByteOrder name := by
  cases name with
  | none => rfl
  | some name =>
    cases hfind : (([.cdab, .badc, .dcba] : List ByteOrder).map fun t =>
        (byteOrderString t, t)).find? fun n => n.1 = name with
    | none =>
      rw [parseByteOrder, parseName, hfind]
      rfl
    | some found =>
      have hmem := List.mem_of_find?_eq_some hfind
      rw [parseByteOrder, parseName, hfind]
      simp only [List.map_cons, List.map_nil, List.mem_cons, List.not_mem_nil, or_false] at hmem
      rcases hmem with rfl | rfl | rfl <;> rfl

theorem accepted_discovered (d : DiscoveredMapping) : Accepted d.entry where
  customKey := rfl
  customTopic := rfl
  topicMode := .inl rfl
  byteOrder := parseByteOrder_code _
  scale := toFloat_toFloat _
  offset := toFloat_toFloat _
  rangeMin := toFloat_toFloat _
  rangeMax := toFloat_toFloat _

end Accept

/-! ## Runs of requests -/

structure RequestInv (capacity : Nat) (s : AmmStore) : Prop where
  fits : Fits capacity s.ram
  interval : PollRange s.ram
  keys : TableInv (IdsDistinct AmmMappingEntry.key) s
  entries : EntryInv Served s

section Requests

variable {capacity : Nat} {s : AmmStore} {lib : JsonLib}

theorem requestInv_fresh (capacity : Nat) : RequestInv capacity (.fresh capacity) where
  fits := ⟨rfl, Nat.zero_le _⟩
  interval := pollRange_empty capacity
  keys := tableInv_fresh distinct_nil capacity
  entries := ⟨allActive_nil, fun _ h => by cases h⟩

theorem RequestInv.perform (h : RequestInv capacity s) {call : AmmCall} {f : AmmFaults}
    (hkeys : s.KeepsKeys (.call call f)) (hentries : KeepsEntries Served s (.call call f)) :
    RequestInv capacity (s.perform call f).2 where
  fits := h.fits.perform call f
  interval := h.interval.perform call f
  keys := by
    have hids := (AmmStore.keepsIds_iff_keepsKeys h.keys (.call call f)).2 hkeys
    exact h.keys.step ((ids_step_iff key_isIdentity (fun _ _ => rfl) h.keys _).2 hids)
  entries := h.entries.step ((entries_step_iff stable_served h.entries _).2 hentries)

theorem RequestInv.add (h : RequestInv capacity s) {e : AmmMappingEntry} (he : Accepted e)
    (f : AmmFaults) : RequestInv capacity (s.perform (.add e) f).2 :=
  h.perform trivial fun _ _ _ => served_stored he h.interval.ne_zero

theorem served_staged (h : RequestInv capacity s) {v : SeqId} {entries : List AmmMappingEntry}
    (hentries : ∀ e ∈ entries, Accepted e) : ∀ x ∈ stagedEntries s.ram v entries, Served x := by
  induction entries generalizing v with
  | nil => exact fun x hx => absurd hx List.not_mem_nil
  | cons e es ih =>
    obtain ⟨he, hes⟩ := List.forall_mem_cons.1 hentries
    rw [stagedEntries, List.forall_mem_cons]
    exact ⟨served_overlayUser (served_importEntry he h.interval.ne_zero _) h.entries.ram, ih hes⟩

theorem RequestInv.import (h : RequestInv capacity s) {entries : List AmmMappingEntry}
    (hentries : ∀ e ∈ entries, Accepted e) (replaceDevices : Bool) (f : AmmFaults) :
    RequestInv capacity (s.perform (.import entries replaceDevices) f).2 :=
  h.perform trivial fun _ _ _ x hx => served_staged h hentries x (lasts_subset hx)

theorem RequestInv.step (h : RequestInv capacity s) (request : MappingRequest) :
    RequestInv capacity (request.step lib s) := by
  cases request with
  | post text f g =>
    show RequestInv capacity (mappingsPostHandler lib text f g s).2
    rcases post_cases lib text f g s with ⟨hkept, -⟩ | ⟨root, -, hrefusal, hadded⟩
    · rwa [hkept]
    · have hadd := h.add (accepted_posted hrefusal) f
      rcases hadded with hadded | ⟨-, -, call, rfl, hmoved⟩
      · rwa [hadded]
      · rw [hmoved]
        exact hadd.perform trivial trivial
  | importPost text f =>
    show RequestInv capacity (mappingsImportPostHandler lib text f s).2
    rcases importPost_cases lib text f s with ⟨root, entries, hread⟩ | ⟨-, hkept⟩
    · rw [(hread.handler f).2]
      refine h.import (fun e he => ?_) _ f
      obtain ⟨item, -, hitem⟩ := mem_of_mapM hread.read he
      exact accepted_imported hitem
    · rwa [hkept]
  | rollback f =>
    show RequestInv capacity (s.perform .rollback f).2
    exact h.perform trivial trivial
  | discoverApply found f =>
    refine h.import (fun e he => ?_) true f
    obtain ⟨d, -, rfl⟩ := List.mem_map.1 he
    exact accepted_discovered d

theorem RequestInv.run (h : RequestInv capacity s) (requests : List MappingRequest) :
    RequestInv capacity (Lib.run (MappingRequest.step lib) s requests) := by
  induction requests generalizing s with
  | nil => exact h
  | cons request requests ih => exact ih (h.step request)

end Requests

end McpGateway.Web
