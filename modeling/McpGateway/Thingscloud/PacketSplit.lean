import McpGateway.Lib.Split
import McpGateway.Thingscloud.Aggregation
import McpGateway.Thingscloud.PayloadLimit

/-!
# What the packets of a publish hold

The two aggregated publishers, with the clock and the client read anew for each
message: the limiter lets one message through in 30 seconds, so a publish that
cuts its properties succeeds only if that much time passes on the way. At a cut
a property is taken out of its packet by name, upper and lower case apart, and
may be taken for another one. `packets_complete_iff` says when none is lost.
-/

namespace McpGateway.Thingscloud

open McpGateway.Lib McpGateway.Tcm

/-! ## Publishing while time passes -/

section Timed

variable (lib : JsonLib) (links : ℕ → LinkEnv)

/-- The loop of `publish_gw_attr_chunked`; its message `k` finds the surroundings `links k`. -/
def gwAttrLoopTimed : List CloudProperty → ℕ → Pack Json → ℕ × Pack Json
  | [], k, st => (k, st)
  | p :: props, k, st =>
    if p.propertyKey.str = [] then gwAttrLoopTimed props k st
    else
      let root := addProperty st.root p
      if (lib.printUnformatted (.obj root)).length > maxPayloadBytes ∧ st.inPack + 1 > 1 then
        let out := tcPublishTelemetry (links k) st.adapter
          ⟨.attributes, .json (.obj (deleteItem root p.propertyKey.str))⟩
        gwAttrLoopTimed props (k + 1)
          { root := addProperty [] p
            inPack := 1
            firstErr := firstError st.firstErr out.err
            adapter := out.adapter
            sent := st.sent ++ out.sent }
      else gwAttrLoopTimed props k { st with root := root, inPack := st.inPack + 1 }

def publishGwAttrChunkedTimed (a : Adapter) (props : List CloudProperty) : Out :=
  let r := gwAttrLoopTimed lib links props 0
    { root := [], inPack := 0, firstErr := .ok, adapter := a, sent := [] }
  gwAttrFinish (links r.1) r.2

/-- The loop of `publish_subdevice_aggregated`. -/
def subdeviceLoopTimed :
    List CloudProperty → ℕ → Pack (List (CStr × Json)) → ℕ × Pack (List (CStr × Json))
  | [], k, st => (k, st)
  | p :: props, k, st =>
    let root := addToDevice st.root p
    if (lib.printUnformatted (devicesJson root)).length ≤ maxPayloadBytes then
      subdeviceLoopTimed props k { st with root := root, inPack := st.inPack + 1 }
    else
      let out := closePack lib (links k) st (dropFromDevice root p)
      if out.err ≠ .ok then
        (k, { st with
          root := dropFromDevice root p
          firstErr := out.err
          adapter := out.adapter
          sent := st.sent ++ out.sent })
      else
        let fresh : Pack (List (CStr × Json)) :=
          { root := addToDevice [] p
            inPack := 1
            firstErr := st.firstErr
            adapter := out.adapter
            sent := st.sent ++ out.sent }
        if (lib.printUnformatted (devicesJson fresh.root)).length > maxPayloadBytes then
          (k, { fresh with firstErr := .invalidSize })
        else subdeviceLoopTimed props (k + 1) fresh

def publishSubdeviceAggregatedTimed (a : Adapter) (props : List CloudProperty) : Out :=
  if props = [] then ⟨.ok, a, []⟩
  else if (links 0).connected = false then ⟨.invalidState, a, []⟩
  else
    let r := subdeviceLoopTimed lib links props 0
      { root := [], inPack := 0, firstErr := .ok, adapter := a, sent := [] }
    subdeviceFinish lib (links r.1) r.2

def publishTimed (mode : ReportMode) (a : Adapter) (props : List CloudProperty) : Out :=
  match mode with
  | .gateway => publishGwAttrChunkedTimed lib links a props
  | .subdevice => publishSubdeviceAggregatedTimed lib links a props

end Timed

section Constant

variable {lib : JsonLib} {env : LinkEnv}

theorem gwAttrLoopTimed_const (props : List CloudProperty) (k : ℕ) (st : Pack Json) :
    (gwAttrLoopTimed lib (fun _ => env) props k st).2 = gwAttrLoop lib env props st := by
  induction props generalizing k st with
  | nil => rfl
  | cons p props ih =>
    rw [gwAttrLoopTimed, gwAttrLoop]
    simp only
    split
    · exact ih k st
    · split
      · exact ih _ _
      · exact ih _ _

theorem subdeviceLoopTimed_const (props : List CloudProperty) (k : ℕ)
    (st : Pack (List (CStr × Json))) :
    (subdeviceLoopTimed lib (fun _ => env) props k st).2 = subdeviceLoop lib env props st := by
  induction props generalizing k st with
  | nil => rfl
  | cons p props ih =>
    rw [subdeviceLoopTimed, subdeviceLoop]
    simp only
    split
    · exact ih _ _
    · split
      · rfl
      · split
        · rfl
        · exact ih _ _

theorem publishTimed_const (a : Adapter) (props : List CloudProperty) :
    publishTimed lib (fun _ => env) .gateway a props = publishGwAttrChunked lib env a props ∧
      publishTimed lib (fun _ => env) .subdevice a props =
        publishSubdeviceAggregated lib env a props := by
  refine ⟨?_, ?_⟩
  · show gwAttrFinish env (gwAttrLoopTimed lib (fun _ => env) props 0 _).2 = _
    rw [gwAttrLoopTimed_const]
    rfl
  · show publishSubdeviceAggregatedTimed lib (fun _ => env) a props = _
    unfold publishSubdeviceAggregatedTimed publishSubdeviceAggregated
    split
    · rfl
    · split
      · rfl
      · simp only [subdeviceLoopTimed_const]
        rfl

end Constant

/-! ## What is sent -/

section Sent

variable {lib : JsonLib} {links : ℕ → LinkEnv} {env : LinkEnv} {a : Adapter}

theorem firstError_eq_ok {e f : EspErr} : firstError e f = .ok ↔ e = .ok ∧ f = .ok := by
  unfold firstError
  by_cases he : e = .ok
  · rw [if_pos he]
    exact ⟨fun hf => ⟨he, hf⟩, And.right⟩
  · rw [if_neg he]
    exact ⟨fun h => absurd h he, And.left⟩

theorem telemetry_ok {m : Publish} (h : (tcPublishTelemetry env a m).err = .ok) :
    (tcPublishTelemetry env a m).sent = [m] := by
  unfold tcPublishTelemetry at h ⊢
  dsimp only at h ⊢
  split_ifs at h ⊢
  rfl

theorem publishJsonObject_ok {doc : Json} {topic : TcTopic}
    (h : (publishJsonObject lib env a doc topic).err = .ok) :
    (publishJsonObject lib env a doc topic).sent = [⟨topic, .json doc⟩] ∧ Fits lib doc := by
  unfold publishJsonObject at h ⊢
  split at h
  · cases h
  · rename_i hshort
    rw [if_neg hshort]
    exact ⟨telemetry_ok h, Nat.not_lt.1 hshort⟩

def messages (topic : TcTopic) (docs : List Json) : List Publish :=
  docs.map fun d => ⟨topic, .json d⟩

theorem gwAttrLoopTimed_ok (props : List CloudProperty) (k : ℕ) (st : Pack Json)
    (h : (gwAttrFinish (links (gwAttrLoopTimed lib links props k st).1)
      (gwAttrLoopTimed lib links props k st).2).err = .ok) :
    st.firstErr = .ok ∧
      (gwAttrFinish (links (gwAttrLoopTimed lib links props k st).1)
        (gwAttrLoopTimed lib links props k st).2).sent =
          st.sent ++ messages .attributes (gwAttrPackets lib props st.root st.inPack) := by
  induction props generalizing k st with
  | nil =>
    rw [gwAttrLoopTimed, gwAttrFinish] at h ⊢
    rw [gwAttrPackets]
    split
    · rename_i hn
      rw [if_pos hn] at h
      obtain ⟨hfirst, hlast⟩ := firstError_eq_ok.1 h
      refine ⟨hfirst, ?_⟩
      simp only
      rw [telemetry_ok hlast]
      rfl
    · rename_i hn
      rw [if_neg hn] at h
      exact ⟨h, (List.append_nil _).symm⟩
  | cons p props ih =>
    rw [gwAttrLoopTimed] at h ⊢
    rw [gwAttrPackets]
    dsimp only at h ⊢
    by_cases hkey : p.propertyKey.str = []
    · rw [if_pos hkey] at h ⊢
      rw [if_pos hkey]
      exact ih k st h
    · rw [if_neg hkey] at h ⊢
      rw [if_neg hkey]
      by_cases hcut : (lib.printUnformatted (.obj (addProperty st.root p))).length >
          maxPayloadBytes ∧ st.inPack + 1 > 1
      · rw [if_pos hcut] at h ⊢
        rw [if_pos hcut]
        obtain ⟨herr, hsent⟩ := ih _ _ h
        obtain ⟨hfirst, hout⟩ := firstError_eq_ok.1 herr
        refine ⟨hfirst, hsent.trans ?_⟩
        show (st.sent ++ _) ++ _ = _
        rw [telemetry_ok hout, List.append_assoc]
        rfl
      · rw [if_neg hcut] at h ⊢
        rw [if_neg hcut]
        exact ih _ _ h

theorem closePack_ok {st : Pack (List (CStr × Json))} {root : DeviceFields}
    (h : (closePack lib env st root).err = .ok) :
    (closePack lib env st root).sent = messages .gatewayAttributes
        (if st.inPack > 0 then [devicesJson root] else []) ∧
      ∀ d ∈ (if st.inPack > 0 then [devicesJson root] else []), Fits lib d := by
  unfold closePack at h ⊢
  split at h
  · rename_i hn
    rw [if_pos hn, if_pos hn]
    obtain ⟨hsent, hfits⟩ := publishJsonObject_ok h
    exact ⟨hsent, List.forall_mem_singleton.2 hfits⟩
  · rename_i hn
    rw [if_neg hn, if_neg hn]
    exact ⟨rfl, List.forall_mem_nil _⟩

/-- A sub-device publish that succeeds sends all its packets, and they fit. -/
theorem subdeviceLoopTimed_ok (props : List CloudProperty) (k : ℕ)
    (st : Pack (List (CStr × Json))) (hok : st.firstErr = .ok)
    (h : (subdeviceFinish lib (links (subdeviceLoopTimed lib links props k st).1)
      (subdeviceLoopTimed lib links props k st).2).err = .ok) :
    (subdevicePackets lib props st.root st.inPack).2 = .ok ∧
      (subdeviceFinish lib (links (subdeviceLoopTimed lib links props k st).1)
        (subdeviceLoopTimed lib links props k st).2).sent =
          st.sent ++
            messages .gatewayAttributes (subdevicePackets lib props st.root st.inPack).1 ∧
      ∀ d ∈ (subdevicePackets lib props st.root st.inPack).1, Fits lib d := by
  induction props generalizing k st with
  | nil =>
    rw [subdeviceLoopTimed, subdeviceFinish] at h ⊢
    rw [subdevicePackets]
    dsimp only at h ⊢
    by_cases hn : st.inPack > 0
    · rw [if_pos ⟨hok, hn⟩] at h ⊢
      rw [if_pos hn]
      obtain ⟨hsent, hfits⟩ := publishJsonObject_ok h
      refine ⟨rfl, ?_, fun d hd => ?_⟩
      · show st.sent ++ _ = _
        rw [hsent]
        rfl
      · rw [List.mem_singleton.1 hd]
        exact hfits
    · rw [if_neg fun hboth => hn hboth.2] at h ⊢
      rw [if_neg hn]
      exact ⟨rfl, (List.append_nil _).symm, fun d hd => absurd hd List.not_mem_nil⟩
  | cons p props ih =>
    rw [subdeviceLoopTimed] at h ⊢
    rw [subdevicePackets]
    dsimp only at h ⊢
    by_cases hfits : (lib.printUnformatted (devicesJson (addToDevice st.root p))).length ≤
        maxPayloadBytes
    · rw [if_pos hfits] at h ⊢
      rw [if_pos hfits]
      exact ih _ _ (by exact hok) h
    · rw [if_neg hfits] at h ⊢
      rw [if_neg hfits]
      by_cases hclosed : (closePack lib (links k) st
          (dropFromDevice (addToDevice st.root p) p)).err = .ok
      · rw [if_neg (not_not.2 hclosed)] at h ⊢
        by_cases hlong : (lib.printUnformatted (devicesJson (addToDevice [] p))).length >
            maxPayloadBytes
        · rw [if_pos hlong, subdeviceFinish, if_neg fun hno => EspErr.noConfusion hno.1] at h
          cases h
        · rw [if_neg hlong] at h ⊢
          rw [if_neg hlong]
          obtain ⟨hrest, hsent, hall⟩ := ih _ _ (by exact hok) h
          obtain ⟨hclosedSent, hclosedFits⟩ := closePack_ok hclosed
          refine ⟨hrest, hsent.trans ?_, fun d hd => ?_⟩
          · show (st.sent ++ _) ++ _ = _
            rw [hclosedSent, messages, messages, messages, List.map_append, List.append_assoc]
          · rcases List.mem_append.1 hd with hd | hd
            · exact hclosedFits d hd
            · exact hall d hd
      · rw [if_pos hclosed, subdeviceFinish, if_neg fun hboth => hclosed hboth.1] at h
        exact absurd h hclosed

end Sent

/-! ## Packets -/

/-- The address, the name and the value of a property in a packet; the gateway's
attributes have no address. -/
abbrev PacketItem := CStr × CStr × Json

def gatewaySplitter (lib : JsonLib) : Splitter CloudProperty (List (CStr × Json)) PacketItem where
  empty := []
  add := addProperty
  cut root p := deleteItem (addProperty root p) p.propertyKey.str
  full root := decide ((lib.printUnformatted (.obj root)).length > maxPayloadBytes)
  content root := root.map fun f => ([], f.1, f.2)
  item p := ([], p.propertyKey.str, valueJson p.value)

def deviceItems (root : DeviceFields) : List PacketItem :=
  root.flatMap fun d => d.2.map fun f => (d.1, f.1, f.2)

def subdeviceSplitter (lib : JsonLib) : Splitter CloudProperty DeviceFields PacketItem where
  empty := []
  add := addToDevice
  cut root p := dropFromDevice (addToDevice root p) p
  full root := decide ((lib.printUnformatted (devicesJson root)).length > maxPayloadBytes)
  content := deviceItems
  item p := (p.deviceAddress.str, p.propertyKey.str, valueJson p.value)

theorem gateway_full_iff (lib : JsonLib) (root : List (CStr × Json)) (p : CloudProperty) (n : ℕ) :
    ((gatewaySplitter lib).full ((gatewaySplitter lib).add root p) && decide (n > 0)) = true ↔
      (lib.printUnformatted (.obj (addProperty root p))).length > maxPayloadBytes ∧ n + 1 > 1 := by
  rw [Bool.and_eq_true, decide_eq_true_eq]
  exact and_congr decide_eq_true_iff Nat.succ_lt_succ_iff.symm

theorem gwAttrPackets_eq (lib : JsonLib) (props : List CloudProperty)
    (hkeys : ∀ p ∈ props, p.propertyKey.str ≠ []) (root : List (CStr × Json)) (n : ℕ) :
    gwAttrPackets lib props root n =
      ((gatewaySplitter lib).packets props root n).map Json.obj := by
  induction props generalizing root n with
  | nil =>
    rw [gwAttrPackets, Splitter.packets]
    split <;> rfl
  | cons p props ih =>
    obtain ⟨hkey, hkeys⟩ := List.forall_mem_cons.1 hkeys
    rw [gwAttrPackets, Splitter.packets, if_neg hkey]
    have hcut := gateway_full_iff lib root p n
    by_cases hfull : (lib.printUnformatted (.obj (addProperty root p))).length >
        maxPayloadBytes ∧ n + 1 > 1
    · rw [if_pos hfull, if_pos (hcut.2 hfull), List.map_cons, ih hkeys]
      rfl
    · rw [if_neg hfull, if_neg fun h => hfull (hcut.1 h), ih hkeys]
      rfl

theorem subdevicePackets_eq (lib : JsonLib) (props : List CloudProperty) (root : DeviceFields)
    (n : ℕ) (hstart : n = 0 → root = []) (hok : (subdevicePackets lib props root n).2 = .ok) :
    (subdevicePackets lib props root n).1 =
      ((subdeviceSplitter lib).packets props root n).map devicesJson := by
  induction props generalizing root n with
  | nil =>
    rw [subdevicePackets, Splitter.packets]
    split <;> rfl
  | cons p props ih =>
    rw [subdevicePackets] at hok ⊢
    rw [Splitter.packets]
    by_cases hfits : (lib.printUnformatted (devicesJson (addToDevice root p))).length ≤
        maxPayloadBytes
    · have hroom : ¬ ((subdeviceSplitter lib).full ((subdeviceSplitter lib).add root p) &&
          decide (n > 0)) = true := by
        rw [Bool.and_eq_true]
        exact fun h => Nat.not_lt.2 hfits (of_decide_eq_true h.1)
      rw [if_pos hfits] at hok ⊢
      rw [if_neg hroom]
      exact ih _ _ (fun hno => absurd hno (Nat.succ_ne_zero n)) hok
    · rw [if_neg hfits] at hok ⊢
      simp only at hok ⊢
      by_cases hlong : (lib.printUnformatted (devicesJson (addToDevice [] p))).length >
          maxPayloadBytes
      · rw [if_pos hlong] at hok
        cases hok
      · have hn : n > 0 := by
          refine Nat.pos_of_ne_zero fun hzero => hlong ?_
          rw [hstart hzero] at hfits
          exact Nat.not_le.1 hfits
        have hfull : ((subdeviceSplitter lib).full ((subdeviceSplitter lib).add root p) &&
            decide (n > 0)) = true := by
          rw [Bool.and_eq_true]
          exact ⟨decide_eq_true (Nat.not_le.1 hfits), decide_eq_true hn⟩
        rw [if_neg hlong] at hok ⊢
        rw [if_pos hfull, if_pos hn, List.map_cons,
          ih _ _ (fun hno => absurd hno Nat.one_ne_zero) hok]
        rfl

/-! ## Taking a property out again -/

/-- No attribute of the packet has the property's name, upper and lower case apart. -/
def GatewayCutOk (root : List (CStr × Json)) (p : CloudProperty) : Prop :=
  findItem root p.propertyKey.str = none

/-- The device that takes the property has its address. -/
def SubdeviceAddOk (root : DeviceFields) (p : CloudProperty) : Prop :=
  ∀ d, findItem root p.deviceAddress.str = some d → d.1 = p.deviceAddress.str

/-- The device that takes the property has no attribute of its name. -/
def SubdeviceCutOk (root : DeviceFields) (p : CloudProperty) : Prop :=
  ∀ d, findItem root p.deviceAddress.str = some d → findItem d.2 p.propertyKey.str = none

section Cuts

variable {lib : JsonLib}

/-- Adding a property and deleting its name: the property goes, or the first one of that name. -/
theorem deleteItem_added (fields : List (CStr × Json)) (p : CloudProperty) :
    (findItem fields p.propertyKey.str = none ∧
        deleteItem (addProperty fields p) p.propertyKey.str = fields) ∨
      ∃ before f after, fields = before ++ f :: after ∧ FirstItem p.propertyKey.str before f ∧
        deleteItem (addProperty fields p) p.propertyKey.str =
          before ++ after ++ [propertyField p] := by
  cases hfind : findItem fields p.propertyKey.str with
  | none =>
    refine .inl ⟨rfl, ?_⟩
    have hdeleted : deleteItem (fields ++ propertyField p :: []) p.propertyKey.str = fields ++ [] :=
      FirstItem.deleteItem (firstItem_concat hfind rfl)
    rw [List.append_nil] at hdeleted
    exact hdeleted
  | some f =>
    obtain ⟨before, after, rfl, hfirst⟩ := findItem_some hfind
    refine .inr ⟨before, f, after, rfl, hfirst, ?_⟩
    have hdeleted : deleteItem (before ++ f :: (after ++ [propertyField p])) p.propertyKey.str =
        before ++ (after ++ [propertyField p]) := hfirst.deleteItem
    rw [← List.append_assoc] at hdeleted
    rw [← hdeleted, addProperty, List.append_assoc, List.cons_append]
    rfl

theorem gateway_strict : (gatewaySplitter lib).Strict (fun _ => True) (fun _ => True)
    (fun _ _ => True) GatewayCutOk where
  empty := trivial
  content_empty := rfl
  add _ _ _ _ := trivial
  first _ := trivial
  content_add root p _ _ _ := by
    show ((addProperty root p).map _).Perm _
    rw [addProperty, List.map_append]
    exact .refl _
  content_cut root p _ _ hcut := by
    rcases deleteItem_added root p with ⟨-, hsame⟩ | ⟨before, f, after, rfl, hfirst, -⟩
    · show ((deleteItem (addProperty root p) p.propertyKey.str).map _).Perm _
      rw [hsame]
      exact .refl _
    · rw [GatewayCutOk, hfirst.findItem] at hcut
      cases hcut
  add_ok _ _ _ _ := trivial
  cut_swaps root p _ _ hcut := by
    rcases deleteItem_added root p with ⟨hnone, -⟩ | ⟨before, f, after, rfl, -, hleft⟩
    · exact absurd hnone hcut
    · refine ⟨([], f.1, f.2), (before ++ after).map fun f => ([], f.1, f.2), ?_, ?_⟩
      · show ((before ++ f :: after).map _).Perm _
        rw [List.map_append, List.map_append, List.map_cons]
        exact List.perm_middle
      · show ((deleteItem (addProperty (before ++ f :: after) p) p.propertyKey.str).map _).Perm _
        rw [hleft, List.map_append]
        exact .refl _

theorem deviceItems_append (before after : DeviceFields) (address : CStr)
    (fields : List (CStr × Json)) : deviceItems (before ++ (address, fields) :: after) =
      deviceItems before ++ (fields.map (fun f => (address, f.1, f.2)) ++ deviceItems after) := by
  unfold deviceItems
  rw [List.flatMap_append, List.flatMap_cons]

/-- A property goes into a new device, or to the end of the first one with its name. -/
theorem addToDevice_cases (root : DeviceFields) (p : CloudProperty) :
    (findItem root p.deviceAddress.str = none ∧
        addToDevice root p = root ++ [(p.deviceAddress.str, [propertyField p])]) ∨
      ∃ before address fields after, root = before ++ (address, fields) :: after ∧
        FirstItem p.deviceAddress.str before (address, fields) ∧
        addToDevice root p = before ++ (address, addProperty fields p) :: after := by
  unfold addToDevice
  cases hfind : findItem root p.deviceAddress.str with
  | none =>
    rw [getItem_eq, hfind]
    exact .inl ⟨rfl, rfl⟩
  | some d =>
    obtain ⟨before, after, rfl, hfirst⟩ := findItem_some hfind
    refine .inr ⟨before, d.1, d.2, after, rfl, hfirst, ?_⟩
    simp only [hfirst.getItem, hfirst.updateItem]

/-- Taking the property's name out of the device that took it. -/
theorem dropFromDevice_eq {p : CloudProperty} {before after : DeviceFields} {address : CStr}
    {fields : List (CStr × Json)} (h : FirstItem p.deviceAddress.str before (address, fields)) :
    dropFromDevice (before ++ (address, fields) :: after) p =
      if deleteItem fields p.propertyKey.str = [] then before ++ after
      else before ++ (address, deleteItem fields p.propertyKey.str) :: after := by
  simp only [dropFromDevice, h.getItem, h.deleteItem, h.updateItem]

/-- The cut of a packet whose devices are not empty: the packet as it was, or the first item of
the property's name gone and the property in its place. -/
theorem subdevice_cut_cases {root : DeviceFields} (hroot : ∀ d ∈ root, d.2 ≠ [])
    (p : CloudProperty) :
    (SubdeviceCutOk root p ∧ dropFromDevice (addToDevice root p) p = root) ∨
      ¬ SubdeviceCutOk root p ∧ ∃ address b m, findItem root p.deviceAddress.str ≠ none ∧
        (∀ d, findItem root p.deviceAddress.str = some d → d.1 = address) ∧
        (deviceItems root).Perm (b :: m) ∧
        (deviceItems (dropFromDevice (addToDevice root p) p)).Perm
          (m ++ [(address, propertyField p)]) := by
  rcases addToDevice_cases root p with
    ⟨hnone, hadded⟩ | ⟨before, address, fields, after, rfl, hfirst, hadded⟩
  · refine .inl ⟨fun d hd => absurd (hd.symm.trans hnone) (Option.some_ne_none d), ?_⟩
    have hlast : FirstItem p.deviceAddress.str root (p.deviceAddress.str, [propertyField p]) :=
      firstItem_concat hnone rfl
    have halone : deleteItem ([] ++ propertyField p :: []) p.propertyKey.str = [] ++ [] :=
      FirstItem.deleteItem (firstItem_concat (findItem_nil _) rfl)
    rw [List.nil_append, List.append_nil] at halone
    rw [hadded, dropFromDevice_eq hlast, if_pos halone, List.append_nil]
  · have htakes : FirstItem p.deviceAddress.str before (address, addProperty fields p) :=
      ⟨hfirst.named, hfirst.first⟩
    rw [hadded, dropFromDevice_eq htakes]
    rcases deleteItem_added fields p with ⟨hnone, hsame⟩ | ⟨front, f, back, rfl, hf, hleft⟩
    · refine .inl ⟨fun d hd => ?_, ?_⟩
      · rw [hfirst.findItem] at hd
        obtain rfl := Option.some.inj hd
        exact hnone
      · have hfields : fields ≠ [] :=
          hroot (address, fields) (List.mem_append_right _ List.mem_cons_self)
        rw [hsame, if_neg hfields]
    · refine .inr ⟨fun hok => ?_, address, (address, f.1, f.2),
        deviceItems before ++ ((front ++ back).map (fun f => (address, f.1, f.2)) ++
          deviceItems after), ?_, fun d hd => ?_, ?_, ?_⟩
      · have hnone := hok _ hfirst.findItem
        rw [hf.findItem] at hnone
        cases hnone
      · rw [hfirst.findItem]
        exact Option.some_ne_none _
      · rw [← Option.some.inj (hfirst.findItem.symm.trans hd)]
      · rw [deviceItems_append]
        have hmiddle := @List.perm_middle _ (address, f.1, f.2)
          (deviceItems before ++ front.map fun f => (address, f.1, f.2))
          ((back.map fun f => (address, f.1, f.2)) ++ deviceItems after)
        simpa using hmiddle
      · rw [hleft, if_neg (List.append_ne_nil_of_right_ne_nil _ (List.cons_ne_nil _ _)),
          deviceItems_append]
        have hback := (@List.perm_append_comm _ [(address, propertyField p)]
          (deviceItems after)).append_left
            (deviceItems before ++ (front ++ back).map fun f => (address, f.1, f.2))
        simpa using hback

/-- No device is empty, and the addresses are of a kind. -/
structure DevicesOf (S : CStr → Prop) (root : DeviceFields) : Prop where
  nonempty : ∀ d ∈ root, d.2 ≠ []
  address : ∀ d ∈ root, S d.1

theorem DevicesOf.add {S : CStr → Prop} {root : DeviceFields} (h : DevicesOf S root)
    {p : CloudProperty} (hp : S p.deviceAddress.str) : DevicesOf S (addToDevice root p) := by
  rcases addToDevice_cases root p with
    ⟨-, hadded⟩ | ⟨before, address, fields, after, rfl, -, hadded⟩
  · rw [hadded]
    refine ⟨fun d hd => ?_, fun d hd => ?_⟩
    · rcases List.mem_append.1 hd with hd | hd
      · exact h.nonempty d hd
      · rw [List.mem_singleton.1 hd]
        exact List.cons_ne_nil _ _
    · rcases List.mem_append.1 hd with hd | hd
      · exact h.address d hd
      · rw [List.mem_singleton.1 hd]
        exact hp
  · rw [hadded]
    have hmem : ∀ d ∈ before ++ (address, addProperty fields p) :: after,
        d = (address, addProperty fields p) ∨ d ∈ before ++ (address, fields) :: after := by
      intro d hd
      rw [List.mem_append, List.mem_cons] at hd ⊢
      tauto
    refine ⟨fun d hd => ?_, fun d hd => ?_⟩
    · rcases hmem d hd with rfl | hd
      · exact List.append_ne_nil_of_right_ne_nil _ (List.cons_ne_nil _ _)
      · exact h.nonempty d hd
    · rcases hmem d hd with rfl | hd
      · exact h.address (address, fields) (List.mem_append_right _ List.mem_cons_self)
      · exact h.address d hd

/-- A property that goes into its own device is in the packet under its address. -/
theorem deviceItems_add {root : DeviceFields} {p : CloudProperty} (hown : SubdeviceAddOk root p) :
    (deviceItems (addToDevice root p)).Perm
      (deviceItems root ++ [(p.deviceAddress.str, propertyField p)]) := by
  rcases addToDevice_cases root p with
    ⟨-, hadded⟩ | ⟨before, address, fields, after, rfl, hfirst, hadded⟩
  · rw [hadded, deviceItems, List.flatMap_append]
    exact .refl _
  · obtain rfl : address = p.deviceAddress.str := hown _ hfirst.findItem
    rw [hadded, deviceItems_append, deviceItems_append, addProperty]
    have hback := (@List.perm_append_comm _ [(p.deviceAddress.str, propertyField p)]
      (deviceItems after)).append_left
        (deviceItems before ++ fields.map fun f => (p.deviceAddress.str, f.1, f.2))
    simpa [propertyField] using hback

theorem subdevice_lawful (S : CStr → Prop) :
    (subdeviceSplitter lib).Lawful (DevicesOf S) (fun p => S p.deviceAddress.str)
      SubdeviceAddOk SubdeviceCutOk where
  empty := ⟨fun _ hd => absurd hd List.not_mem_nil, fun _ hd => absurd hd List.not_mem_nil⟩
  content_empty := rfl
  add _ _ hroot hp := hroot.add hp
  first _ _ hd := absurd hd.symm (Option.some_ne_none _)
  content_add _ _ _ _ hown := deviceItems_add hown
  content_cut root p hroot _ hcut := by
    rcases subdevice_cut_cases hroot.nonempty p with ⟨-, hsame⟩ | ⟨hbad, -⟩
    · show (deviceItems (dropFromDevice (addToDevice root p) p)).Perm (deviceItems root)
      rw [hsame]
    · exact absurd hcut hbad

/-- Where no two addresses differ in upper and lower case alone, every property finds its device. -/
theorem subdevice_strict {S : CStr → Prop}
    (hcase : ∀ x y, S x → S y → Json.toLower x = Json.toLower y → x = y) :
    (subdeviceSplitter lib).Strict (DevicesOf S) (fun p => S p.deviceAddress.str)
      SubdeviceAddOk SubdeviceCutOk :=
  have hown : ∀ root p, DevicesOf S root → S p.deviceAddress.str → SubdeviceAddOk root p := by
    intro root p hroot hp d hd
    obtain ⟨before, after, rfl, hfirst⟩ := findItem_some hd
    exact hcase _ _ (hroot.address d (List.mem_append_right _ List.mem_cons_self)) hp hfirst.named
  { subdevice_lawful S with
    add_ok := hown
    cut_swaps := by
      intro root p hroot hp hcut
      rcases subdevice_cut_cases hroot.nonempty p with
        ⟨hok, -⟩ | ⟨-, address, b, m, hfound, haddress, hcontent, hleft⟩
      · exact absurd hok hcut
      · obtain ⟨d, hd⟩ := Option.ne_none_iff_exists'.1 hfound
        have hsame : address = p.deviceAddress.str :=
          (haddress d hd).symm.trans (hown root p hroot hp d hd)
        rw [hsame] at hleft
        exact ⟨b, m, hcontent, hleft⟩ }

end Cuts

/-! ## Publishing all properties -/

def docFields : Json → List (CStr × Json)
  | .obj fields => fields
  | _ => []

def sentItems (mode : ReportMode) (q : Publish) : List PacketItem :=
  match q.payload, mode with
  | .text _, _ => []
  | .json doc, .gateway => (docFields doc).map fun f => ([], f.1, f.2)
  | .json doc, .subdevice =>
    (docFields doc).flatMap fun d => (docFields d.2).map fun f => (d.1, f.1, f.2)

/-- A property under its own name and device, with its own value. -/
def propertyItem (mode : ReportMode) (p : CloudProperty) : PacketItem :=
  ((bufferedId mode p).1, propertyField p)

/-- Over the messages every property appears once and nothing else does, and they are short enough. -/
structure Complete (lib : JsonLib) (mode : ReportMode) (props : List CloudProperty)
    (sent : List Publish) : Prop where
  once : (sent.flatMap (sentItems mode)).Perm (props.map (propertyItem mode))
  fits : ∀ q ∈ sent, ∀ doc, q.payload = .json doc → Fits lib doc

/-- At every cut the packet has no attribute with the property's name, upper and lower case
apart; in sub-device mode its device has none, and every property goes into its own device. -/
def CutsApart (lib : JsonLib) (props : List CloudProperty) : ReportMode → Prop
  | .gateway => (gatewaySplitter lib).Clean (fun _ _ => True) GatewayCutOk props [] 0
  | .subdevice => (subdeviceSplitter lib).Clean SubdeviceAddOk SubdeviceCutOk props [] 0

/-- No two device addresses differ in upper and lower case alone. -/
def AddressesApart (props : List CloudProperty) : Prop :=
  ∀ p ∈ props, ∀ q ∈ props, Json.toLower p.deviceAddress.str = Json.toLower q.deviceAddress.str →
    p.deviceAddress.str = q.deviceAddress.str

section Publishing

variable {lib : JsonLib} {number : CFloat → CStr} {links : ℕ → LinkEnv} {a : Adapter}
variable {props : List CloudProperty}

theorem gateway_sentItems (packets : List (List (CStr × Json))) :
    (messages .attributes (packets.map Json.obj)).flatMap (sentItems .gateway) =
      packets.flatMap (gatewaySplitter lib).content := by
  rw [messages, List.map_map, List.flatMap_map]
  rfl

theorem subdevice_sentItems (packets : List DeviceFields) :
    (messages .gatewayAttributes (packets.map devicesJson)).flatMap (sentItems .subdevice) =
      packets.flatMap (subdeviceSplitter lib).content := by
  rw [messages, List.map_map, List.flatMap_map]
  refine congrArg (packets.flatMap ·) (funext fun root => ?_)
  show ((root.map fun d => (d.1, Json.obj d.2)).flatMap fun d =>
    (docFields d.2).map fun f => (d.1, f.1, f.2)) = deviceItems root
  rw [List.flatMap_map]
  rfl

theorem propertyItem_nodup {mode : ReportMode} (h : (props.map (bufferedId mode)).Nodup) :
    (props.map (propertyItem mode)).Nodup := by
  rw [List.Nodup, List.pairwise_map] at h ⊢
  refine h.imp fun {p q} hne hsame => hne ?_
  obtain ⟨haddress, hfield⟩ := Prod.mk.inj hsame
  have hkey : p.propertyKey.str = q.propertyKey.str := (Prod.mk.inj hfield).1
  cases mode with
  | gateway =>
    show (([] : CStr), p.propertyKey.str) = ([], q.propertyKey.str)
    rw [hkey]
  | subdevice => exact Prod.ext haddress hkey

theorem cutsFit_of_clean (props : List CloudProperty) (hkeys : ∀ p ∈ props, p.propertyKey.str ≠ [])
    {root : List (CStr × Json)} {n : ℕ}
    (h : (gatewaySplitter lib).Clean (fun _ _ => True) GatewayCutOk props root n) :
    CutsFit lib number props root n := by
  induction props generalizing root n with
  | nil => exact trivial
  | cons p props ih =>
    obtain ⟨hkey, hkeys⟩ := List.forall_mem_cons.1 hkeys
    rw [Splitter.Clean] at h
    rw [CutsFit, if_neg hkey]
    have hcut := gateway_full_iff lib root p n
    by_cases hfull : (lib.printUnformatted (.obj (addProperty root p))).length >
        maxPayloadBytes ∧ n + 1 > 1
    · rw [if_pos (hcut.2 hfull)] at h
      rw [if_pos hfull]
      have hnone : root.find? (sameKey p.propertyKey.str) = none := h.1
      exact ⟨fun f hf => absurd (hf.symm.trans hnone) (Option.some_ne_none f), ih hkeys h.2⟩
    · rw [if_neg fun hno => hfull (hcut.1 hno)] at h
      rw [if_neg hfull]
      exact ih hkeys h.2

/-- What a successful publish sends: all its packets, and those of sub-devices are short enough. -/
theorem publishTimed_gateway (hkeys : ∀ p ∈ props, p.propertyKey.str ≠ [])
    (hok : (publishTimed lib links .gateway a props).err = .ok) :
    (publishTimed lib links .gateway a props).sent =
      messages .attributes (((gatewaySplitter lib).packets props [] 0).map Json.obj) := by
  rw [← gwAttrPackets_eq lib props hkeys]
  exact (gwAttrLoopTimed_ok props 0 _ hok).2

theorem publishTimed_subdevice (hok : (publishTimed lib links .subdevice a props).err = .ok) :
    (publishTimed lib links .subdevice a props).sent =
        messages .gatewayAttributes (((subdeviceSplitter lib).packets props [] 0).map devicesJson) ∧
      ∀ d ∈ ((subdeviceSplitter lib).packets props [] 0).map devicesJson, Fits lib d := by
  have hunfold : publishTimed lib links .subdevice a props =
    publishSubdeviceAggregatedTimed lib links a props := rfl
  rw [hunfold, publishSubdeviceAggregatedTimed] at hok ⊢
  by_cases hprops : props = []
  · rw [if_pos hprops, hprops]
    exact ⟨rfl, fun d hd => absurd hd List.not_mem_nil⟩
  · rw [if_neg hprops] at hok ⊢
    by_cases hdown : (links 0).connected = false
    · rw [if_pos hdown] at hok
      cases hok
    · rw [if_neg hdown] at hok ⊢
      obtain ⟨hlast, hsent, hfits⟩ := subdeviceLoopTimed_ok props 0 _ rfl hok
      have hpackets := subdevicePackets_eq lib props [] 0 (fun _ => rfl) hlast
      rw [hpackets] at hsent hfits
      exact ⟨hsent, hfits⟩

theorem messages_fit {topic : TcTopic} {docs : List Json} (h : ∀ d ∈ docs, Fits lib d) :
    ∀ q ∈ messages topic docs, ∀ doc, q.payload = .json doc → Fits lib doc := by
  intro q hq doc hdoc
  obtain ⟨d, hd, rfl⟩ := List.mem_map.1 hq
  rw [← Payload.json.inj hdoc]
  exact h d hd

theorem complete_of_cutsApart (h : CompactPrinter lib number) {mode : ReportMode}
    (hkeys : ∀ p ∈ props, p.propertyKey.str ≠ [])
    (hok : (publishTimed lib links mode a props).err = .ok) (hclean : CutsApart lib props mode) :
    Complete lib mode props (publishTimed lib links mode a props).sent := by
  cases mode with
  | gateway =>
    have hfits : ∀ d ∈ ((gatewaySplitter lib).packets props [] 0).map Json.obj, Fits lib d := by
      rw [← gwAttrPackets_eq lib props hkeys,
        gwAttrPackets_fit_iff h props (empty_fits h) fun _ => rfl]
      exact cutsFit_of_clean props hkeys hclean
    rw [publishTimed_gateway hkeys hok]
    refine ⟨?_, messages_fit hfits⟩
    rw [gateway_sentItems]
    exact gateway_strict.packets_perm props trivial (fun _ _ => trivial) (fun _ => rfl) hclean
  | subdevice =>
    obtain ⟨hsent, hfits⟩ := publishTimed_subdevice hok
    rw [hsent]
    refine ⟨?_, messages_fit hfits⟩
    rw [subdevice_sentItems]
    have hlawful : (subdeviceSplitter lib).Lawful (DevicesOf fun _ => True) (fun _ => True)
        SubdeviceAddOk SubdeviceCutOk := subdevice_lawful fun _ => True
    exact hlawful.packets_perm props hlawful.empty (fun _ _ => trivial) (fun _ => rfl) hclean

/-- Only with clean cuts is nothing lost, if no two addresses differ in case alone. -/
theorem cutsApart_of_complete {mode : ReportMode} (hkeys : ∀ p ∈ props, p.propertyKey.str ≠ [])
    (hdistinct : (props.map (bufferedId mode)).Nodup)
    (hok : (publishTimed lib links mode a props).err = .ok)
    (hapart : mode = .subdevice → AddressesApart props)
    (hcomplete : Complete lib mode props (publishTimed lib links mode a props).sent) :
    CutsApart lib props mode := by
  have honce := hcomplete.once
  have hnodup := propertyItem_nodup hdistinct
  cases mode with
  | gateway =>
    rw [publishTimed_gateway hkeys hok, gateway_sentItems] at honce
    exact gateway_strict.clean_of_perm props trivial (fun _ _ => trivial) hnodup honce
  | subdevice =>
    rw [(publishTimed_subdevice hok).1, subdevice_sentItems] at honce
    have hcase : ∀ x y, (∃ p ∈ props, p.deviceAddress.str = x) →
        (∃ q ∈ props, q.deviceAddress.str = y) → Json.toLower x = Json.toLower y → x = y := by
      rintro _ _ ⟨p, hp, rfl⟩ ⟨q, hq, rfl⟩
      exact hapart rfl p hp q hq
    have hstrict : (subdeviceSplitter lib).Strict _ _ SubdeviceAddOk SubdeviceCutOk :=
      subdevice_strict hcase
    exact hstrict.clean_of_perm props hstrict.empty (fun p hp => ⟨p, hp, rfl⟩) hnodup honce

/-- **A publish that succeeds sends every property once** if no cut meets a name that differs
in case alone, and, the addresses apart, only then. -/
theorem packets_complete_iff {lib : JsonLib} {number : CFloat → CStr} (h : CompactPrinter lib number)
    {links : ℕ → LinkEnv} {a : Adapter} {mode : ReportMode} {props : List CloudProperty}
    (hkeys : ∀ p ∈ props, p.propertyKey.str ≠ [])
    (hdistinct : (props.map (bufferedId mode)).Nodup)
    (hok : (publishTimed lib links mode a props).err = .ok) :
    (CutsApart lib props mode →
        Complete lib mode props (publishTimed lib links mode a props).sent) ∧
      ((mode = .subdevice → AddressesApart props) →
        (Complete lib mode props (publishTimed lib links mode a props).sent ↔
          CutsApart lib props mode)) :=
  ⟨complete_of_cutsApart h hkeys hok, fun hapart =>
    ⟨cutsApart_of_complete hkeys hdistinct hok hapart, complete_of_cutsApart h hkeys hok⟩⟩

end Publishing

/-! ## A cut that meets another name -/

/-- A link whose messages are 40 seconds apart. -/
def slowLinks (k : ℕ) : LinkEnv := { statusLink with nowMs := 100000 + 40000 * k }

def textProperty (key : CStr) : CloudProperty where
  deviceAddress := .empty
  propertyKey := .copy 64 key
  value := .string (.copy 64 (List.replicate 63 'x'))
  timestampMs := 0
  quality := .good

/-- Fourteen properties fill a packet, and the last one begins the next. -/
def fifteenProperties (last : CStr) : List CloudProperty :=
  ("Temp".toList :: (List.range 13).map (fun i => 'p' :: printDecimal i) ++ [last]).map textProperty

def publishFifteen (last : CStr) : Out :=
  publishTimed (.compactPrinting shortNumber) slowLinks .gateway .boot (fifteenProperties last)

theorem packets_complete_flow :
    (CutsApart (.compactPrinting shortNumber) (fifteenProperties "flow".toList) .gateway →
        Complete (.compactPrinting shortNumber) .gateway (fifteenProperties "flow".toList)
          (publishFifteen "flow".toList).sent) ∧
      ((ReportMode.gateway = .subdevice → AddressesApart (fifteenProperties "flow".toList)) →
        (Complete (.compactPrinting shortNumber) .gateway (fifteenProperties "flow".toList)
            (publishFifteen "flow".toList).sent ↔
          CutsApart (.compactPrinting shortNumber) (fifteenProperties "flow".toList) .gateway)) :=
  have hkeys : ∀ p ∈ fifteenProperties "flow".toList, p.propertyKey.str ≠ [] := by decide +kernel
  have hdistinct : ((fifteenProperties "flow".toList).map (bufferedId .gateway)).Nodup := by
    decide +kernel
  have hok : (publishFifteen "flow".toList).err = .ok := by decide +kernel
  packets_complete_iff shortNumber_printer hkeys hdistinct hok

/-- The cut before `temp` deletes `Temp`, which is in no packet then. -/
theorem property_lost_at_cut :
    (publishFifteen "temp".toList).err = .ok ∧
      (∀ p ∈ fifteenProperties "temp".toList, gatewayKeyValid p.propertyKey.str = true) ∧
      ((fifteenProperties "temp".toList).map (bufferedId .gateway)).Nodup ∧
      ¬ Complete (.compactPrinting shortNumber) .gateway (fifteenProperties "temp".toList)
        (publishFifteen "temp".toList).sent := by
  refine ⟨by decide +kernel, by decide +kernel, by decide +kernel, fun h => ?_⟩
  have hnames := (h.once.map fun i : PacketItem => i.2.1).mem_iff (a := "Temp".toList)
  have hlisted : "Temp".toList ∈ ((fifteenProperties "temp".toList).map
      (propertyItem .gateway)).map fun i : PacketItem => i.2.1 := by decide +kernel
  have hlost : "Temp".toList ∉ ((publishFifteen "temp".toList).sent.flatMap
      (sentItems .gateway)).map fun i : PacketItem => i.2.1 := by decide +kernel
  exact hlost (hnames.2 hlisted)

end McpGateway.Thingscloud
