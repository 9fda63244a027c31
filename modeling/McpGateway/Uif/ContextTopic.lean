import McpGateway.Lib.Keyed
import McpGateway.Uif.RecordSize
import McpGateway.Web.MappingJson

/-!
# The topic of a context

`amm_enrich_context` finds a context's entry under the full physical key. The
topic that `publish_task` and `uif_cache_record` use is that of the first active
entry at the same protocol, channel, slave and address, whatever its function
code.
-/

namespace McpGateway.Uif

open McpGateway.Lib McpGateway.Storage McpGateway.Tcm McpGateway.Amm McpGateway.Web

/-- `amm_copy_mqtt_topic` into a buffer of `n` bytes. -/
def ammCopyMqttTopic (cfg : TopicConfig) (a : AmmTable) (protocol : SourceProtocol)
    (channelId slaveId : UInt8) (regAddr : UInt16) (n : Nat) : Except EspErr CStr :=
  match ammFindMappingForChannel protocol channelId slaveId regAddr a with
  | none => .error .notFound
  | some e => ammResolveMqttTopic cfg e n

/-- What the two callers ask for a context, with buffers of 128 bytes. -/
def mappedTopic (cfg : TopicConfig) (a : AmmTable) (ctx : TcmContext) : Option CStr :=
  (ammCopyMqttTopic cfg a ctx.sourceProtocol ctx.channelId ctx.slaveId ctx.registerAddress
    128).toOption

/-- `publish_task` on the custom platform while the broker is connected. -/
def publishTask (lib : JsonLib) (cfg : TopicConfig) (a : AmmTable) (outRoom cacheRoom : Bool)
    (ctx : TcmContext) : Published :=
  publishCustom lib ⟨mappedTopic cfg a ctx, cfg.dataPrefix, outRoom, cacheRoom⟩ ctx

/-- The topic that `uif_cache_record` stores the record of a context under. -/
def cacheTopic (cfg : TopicConfig) (a : AmmTable) (ctx : TcmContext) : CStr :=
  recordTopic (mappedTopic cfg a ctx) cfg.dataPrefix ctx

/-- `uif_cache_record` with the topic lookup. -/
def cacheContext (lib : JsonLib) (cfg : TopicConfig) (a : AmmTable) (st : Store)
    (ctx : TcmContext) (env : PutEnv) : EspErr × Store :=
  uifCacheRecord lib st ctx (cacheTopic cfg a ctx) env

/-- Both paths of a context use the topic. -/
structure SentUnder (cfg : TopicConfig) (a : AmmTable) (ctx : TcmContext) (topic : CStr) :
    Prop where
  published : ∀ lib outRoom cacheRoom used payload id,
    publishTask lib cfg a outRoom cacheRoom ctx = .queued used payload id → used = topic
  cached : ∀ lib st env,
    cacheContext lib cfg a st ctx env = uifCacheRecord lib st ctx topic env
  cacheTopic : cacheTopic cfg a ctx = topic

/-- The entry has the topic, or has none and the default topic of the context is the same. -/
def SharesTopic (cfg : TopicConfig) (ctx : TcmContext) (topic : CStr) (e : AmmMappingEntry) : Prop :=
  ammResolveMqttTopic cfg e 128 = .ok topic ∨
    (∃ err, ammResolveMqttTopic cfg e 128 = .error err) ∧
      recordTopic none cfg.dataPrefix ctx = topic

variable {cfg : TopicConfig} {a : AmmTable} {ctx : TcmContext} {e : AmmMappingEntry} {topic : CStr}

theorem resolve_length {n : Nat} (h : ammResolveMqttTopic cfg e n = .ok topic) :
    topic.length < n := by
  unfold ammResolveMqttTopic at h
  split at h
  · split at h
    · cases h
    · split at h
      · rename_i hfits
        cases h
        exact hfits
      · cases h
  · simp only at h
    split at h
    · rename_i hfits
      cases h
      omega
    · cases h

theorem publishTask_topic {lib : JsonLib} {outRoom cacheRoom : Bool} {used payload : CStr}
    {id : SeqId} (h : publishTask lib cfg a outRoom cacheRoom ctx = .queued used payload id) :
    used = cacheTopic cfg a ctx := by
  unfold publishTask publishCustom at h
  split at h
  · cases h
  · split at h
    · cases h
    · split at h
      · cases h
        rfl
      · split at h <;> cases h

theorem sentUnder_iff : SentUnder cfg a ctx topic ↔ cacheTopic cfg a ctx = topic := by
  constructor
  · exact fun h => h.cacheTopic
  · rintro rfl
    exact ⟨fun _ _ _ _ _ _ h => publishTask_topic h, fun _ _ _ => rfl, rfl⟩

/-- With the first entry at its address a context has that entry's topic, or its default one. -/
theorem cacheTopic_eq_iff
    (h : ammFindMappingForChannel ctx.sourceProtocol ctx.channelId ctx.slaveId ctx.registerAddress
      a = some e) : cacheTopic cfg a ctx = topic ↔ SharesTopic cfg ctx topic e := by
  unfold cacheTopic mappedTopic ammCopyMqttTopic SharesTopic
  simp only [h]
  cases hresolve : ammResolveMqttTopic cfg e 128 with
  | ok own =>
    show strlcpy 128 own = topic ↔ _
    rw [strlcpy_of_lt (resolve_length hresolve)]
    constructor
    · rintro rfl
      exact .inl rfl
    · rintro (hown | ⟨⟨err, herr⟩, -⟩)
      · exact Except.ok.inj hown
      · cases herr
  | error err =>
    show recordTopic none cfg.dataPrefix ctx = topic ↔ _
    constructor
    · exact fun hdefault => .inr ⟨⟨err, rfl⟩, hdefault⟩
    · rintro (hown | ⟨-, hdefault⟩)
      · cases hown
      · exact hdefault

theorem atAddress_of_key {k : PhysicalKey} {x : AmmMappingEntry} (h : x.key = k) :
    (decide (x.sourceProtocol = k.sourceProtocol) && decide (x.channelId = k.channelId) &&
      decide (x.slaveId = k.slaveId) && decide (x.registerAddress = k.registerAddress)) = true := by
  subst h
  simp [AmmMappingEntry.key]

/-- The first entry at the address is the context's own if it has its function code. -/
theorem findForObject_of_channel {k : PhysicalKey} {first : AmmMappingEntry}
    (hfirst : ammFindMappingForChannel k.sourceProtocol k.channelId k.slaveId k.registerAddress a =
      some first) (hcode : first.functionCode = k.functionCode) :
    ammFindMappingForObject k a = some first := by
  have hsame := List.find?_some hfirst
  simp only [Bool.and_eq_true, decide_eq_true_eq] at hsame
  obtain ⟨⟨⟨hprotocol, hchannel⟩, hslave⟩, haddress⟩ := hsame
  refine find?_of_find? hfirst (decide_eq_true ?_) fun x hx => ?_
  · rw [AmmMappingEntry.key, hprotocol, hchannel, hslave, hcode, haddress]
  · exact atAddress_of_key (of_decide_eq_true hx)

/-- The context's own entry is at the address, so there is a first one. -/
theorem findForChannel_isSome {k : PhysicalKey} (h : ammFindMappingForObject k a = some e) :
    ∃ first, ammFindMappingForChannel k.sourceProtocol k.channelId k.slaveId k.registerAddress a =
      some first := by
  refine Option.isSome_iff_exists.1 (List.find?_isSome.2 ⟨e, List.mem_of_find?_eq_some h, ?_⟩)
  exact atAddress_of_key (of_decide_eq_true (List.find?_some h :))

/-- **A context goes out under its own entry's topic exactly when no entry of another
function code stands before it at the address, or when that one has the same topic.** -/
theorem context_topic_iff {cfg : TopicConfig} {a : AmmTable} {ctx enriched : TcmContext}
    {e : AmmMappingEntry} {topic : CStr} (henrich : ammEnrichContext a ctx = (.ok, enriched))
    (hfound : ammFindMappingForObject (contextKey ctx) a = some e)
    (htopic : ammResolveMqttTopic cfg e 128 = .ok topic) :
    SentUnder cfg a enriched topic ↔
      ∀ first, ammFindMappingForChannel ctx.sourceProtocol ctx.channelId ctx.slaveId
          ctx.registerAddress a = some first →
        first.functionCode ≠ ctx.functionCode → SharesTopic cfg enriched topic first := by
  obtain ⟨first, hfirst⟩ := findForChannel_isSome hfound
  have henriched : enriched = enrichWith e ctx := by
    unfold ammEnrichContext at henrich
    rw [hfound] at henrich
    exact (congrArg Prod.snd henrich).symm
  have hkey : e.key = contextKey ctx := of_decide_eq_true (List.find?_some hfound :)
  have haddress : ammFindMappingForChannel enriched.sourceProtocol enriched.channelId
      enriched.slaveId enriched.registerAddress a = some first := by
    have hprotocol : e.sourceProtocol = ctx.sourceProtocol :=
      congrArg PhysicalKey.sourceProtocol hkey
    have hchannel : e.channelId = ctx.channelId := congrArg PhysicalKey.channelId hkey
    rw [henriched]
    show ammFindMappingForChannel e.sourceProtocol e.channelId ctx.slaveId ctx.registerAddress a = _
    rw [hprotocol, hchannel]
    exact hfirst
  rw [sentUnder_iff, cacheTopic_eq_iff haddress]
  constructor
  · intro hshares other hother _
    obtain rfl := Option.some.inj (hfirst.symm.trans hother)
    exact hshares
  · intro hall
    by_cases hcode : first.functionCode = ctx.functionCode
    · have hown : ammFindMappingForObject (contextKey ctx) a = some first :=
        findForObject_of_channel hfirst hcode
      obtain rfl := Option.some.inj (hfound.symm.trans hown)
      exact .inl htopic
    · exact hall first hfirst hcode

/-! ## Two object spaces -/

/-- A holding register and the input register of the same address. -/
def twoSpaces : AmmTable :=
  (ammAddMapping .ok inputPoint (ammAddMapping .ok samplePoint (.empty 64)).2).2

def inputContext : TcmContext :=
  { sampleContext with
    sourceProtocol := .modbusRtu
    channelId := 0
    slaveId := 1
    functionCode := 4
    registerAddress := 0 }

def factoryTopics : TopicConfig := ⟨"factory".toList, "gw".toList⟩

theorem context_topic_iff_input :
    SentUnder factoryTopics twoSpaces (ammEnrichContext twoSpaces inputContext).2
        "factory/gw/meter/input".toList ↔
      ∀ first, ammFindMappingForChannel inputContext.sourceProtocol inputContext.channelId
          inputContext.slaveId inputContext.registerAddress twoSpaces = some first →
        first.functionCode ≠ inputContext.functionCode →
          SharesTopic factoryTopics (ammEnrichContext twoSpaces inputContext).2
            "factory/gw/meter/input".toList first :=
  have henrich : (ammEnrichContext twoSpaces inputContext).1 = .ok := by decide +kernel
  have hfound : ammFindMappingForObject (contextKey inputContext) twoSpaces =
      some { (AmmTable.empty 64).stored inputPoint with mappingVersion := 2 } := by decide +kernel
  have htopic : ammResolveMqttTopic factoryTopics
      { (AmmTable.empty 64).stored inputPoint with mappingVersion := 2 } 128 =
        .ok "factory/gw/meter/input".toList := by decide +kernel
  context_topic_iff (Prod.ext henrich rfl) hfound htopic

/-- The input register goes out under the topic of the holding register. -/
theorem input_under_holding_topic :
    (ammEnrichContext twoSpaces inputContext).1 = .ok ∧
      (ammEnrichContext twoSpaces inputContext).2.pointId.str = "input".toList ∧
      (ammFindMappingForObject (contextKey inputContext) twoSpaces).map
          (ammResolveMqttTopic factoryTopics · 128) = some (.ok "factory/gw/meter/input".toList) ∧
      cacheTopic factoryTopics twoSpaces (ammEnrichContext twoSpaces inputContext).2 =
        "factory/gw/meter/power".toList ∧
      ¬ SentUnder factoryTopics twoSpaces (ammEnrichContext twoSpaces inputContext).2
        "factory/gw/meter/input".toList := by
  refine ⟨by decide +kernel, by decide +kernel, by decide +kernel, by decide +kernel, fun h => ?_⟩
  have hother : cacheTopic factoryTopics twoSpaces (ammEnrichContext twoSpaces inputContext).2 ≠
      "factory/gw/meter/input".toList := by decide +kernel
  exact hother h.cacheTopic

end McpGateway.Uif
