import McpGateway.Storage.OfflineMedium
import McpGateway.Thingscloud.Packets
import McpGateway.Uif.CloudReplay

/-!
# Which response removes a record

A replay goes out on the data topic of the report mode, but the flag it waits
for is the one of the other topic's responses. So its own response is ignored
in both modes; in gateway mode nothing else is published on the other topic,
and in sub-device mode the responses to status reports are what removes the
waiting record. `noEarlyRemoval_run_iff` says exactly when no record goes
before its own publish was accepted or finally rejected.
-/

namespace McpGateway.Uif

open McpGateway.Lib McpGateway.Storage McpGateway.Tcm McpGateway.Thingscloud

/-! ## The topics of the adapter's messages -/

/-- The topic telemetry goes out on. -/
def dataTopic : ReportMode → TcTopic
  | .subdevice => .gatewayAttributes
  | .gateway => .attributes

/-- Every message of the list is on that topic. -/
def AllOn (topic : TcTopic) (sent : List Publish) : Prop := ∀ p ∈ sent, p.topic = topic

theorem AllOn.nil (topic : TcTopic) : AllOn topic [] := fun _ h => by cases h

theorem AllOn.append {topic : TcTopic} {l l' : List Publish} (h : AllOn topic l)
    (h' : AllOn topic l') : AllOn topic (l ++ l') := fun p hp =>
  (List.mem_append.1 hp).elim (h p) (h' p)

theorem AllOn.ne {sent : List Publish} (h : AllOn .attributes sent) :
    ∀ p ∈ sent, p.topic ≠ .gatewayAttributes := by
  intro p hp e
  rw [h p hp] at e
  cases e

section Sent

variable {lib : JsonLib} {env : LinkEnv}

theorem tcPublishTelemetry_sent (a : Adapter) (p : Publish) :
    AllOn p.topic (tcPublishTelemetry env a p).sent := by
  unfold tcPublishTelemetry
  simp only
  split
  · exact AllOn.nil _
  · split
    · intro q hq; rw [List.mem_singleton.1 hq]
    · exact AllOn.nil _

theorem publishes_sent {topic : TcTopic} {a b : Adapter} {sent : List Publish}
    (h : Publishes env topic a b sent) : AllOn topic sent := by
  induction h with
  | nothing a => exact AllOn.nil _
  | more doc _ ih => exact (tcPublishTelemetry_sent _ _).append ih

theorem thingscloudFlush_sent (hold : Bool) (a : Adapter) :
    AllOn (dataTopic env.reportMode) (thingscloudFlush lib env hold a).2 := by
  simp only [thingscloudFlush]
  split
  · exact AllOn.nil _
  · cases env.reportMode with
    | gateway =>
      simp only [dataTopic]
      split
      · exact AllOn.nil _
      · exact publishes_sent (publishGatewayAttributes_publishes _ _)
    | subdevice =>
      simp only [dataTopic]
      split
      · exact AllOn.nil _
      · exact publishes_sent (publishSubdeviceAggregated_publishes _ _)

theorem flushIfFull_sent (hold : Bool) (a : Adapter) :
    AllOn (dataTopic env.reportMode) (flushIfFull lib env hold a).2 := by
  unfold flushIfFull
  split
  · exact thingscloudFlush_sent _ _
  · exact AllOn.nil _

theorem thingscloudPublishContext_sent (hold : Bool) (ctx : TcmContext) (a : Adapter) :
    AllOn (dataTopic env.reportMode) (thingscloudPublishContext lib env hold ctx a).2 := by
  simp only [thingscloudPublishContext]
  split
  · exact AllOn.nil _
  · split
    · exact flushIfFull_sent _ _
    · exact (flushIfFull_sent _ _).append (flushIfFull_sent _ _)

theorem thingscloudReplayContext_sent (ctx : TcmContext) (a : Adapter) :
    AllOn (dataTopic env.reportMode) (thingscloudReplayContext lib env ctx a).sent := by
  simp only [thingscloudReplayContext]
  split
  · exact AllOn.nil _
  · split
    · exact AllOn.nil _
    · split
      · exact AllOn.nil _
      · cases env.reportMode with
        | gateway =>
          simp only [dataTopic]
          split
          · exact AllOn.nil _
          · exact publishes_sent (publishGatewayAttributes_publishes _ _)
        | subdevice =>
          simp only [dataTopic]
          split
          · exact AllOn.nil _
          · exact publishes_sent (publishSubdeviceAggregated_publishes _ _)

theorem publishGatewayStatus_sent (s : GatewayStatus) (a : Adapter) :
    AllOn .attributes (publishGatewayStatus env s a).sent := by
  unfold publishGatewayStatus
  split
  · exact AllOn.nil _
  · exact tcPublishTelemetry_sent _ _

theorem publishGatewaySlaveStatus_sent (slaves : List SlaveStatus) (a : Adapter) :
    AllOn .attributes (publishGatewaySlaveStatus env slaves a).sent := by
  unfold publishGatewaySlaveStatus
  split
  · exact AllOn.nil _
  · split
    · exact AllOn.nil _
    · exact tcPublishTelemetry_sent _ _

end Sent

theorem subdevPublishState_sent {env : LinkEnv} (address : CStr) (online : Bool) :
    ∀ p ∈ subdevPublishState env address online, p.topic ≠ .gatewayAttributes := by
  intro p hp
  simp only [subdevPublishState] at hp
  split at hp
  · cases hp
  · rw [List.mem_singleton.1 hp]
    cases online <;> simp [stateTopic]

theorem reportTransition_sent {env : LinkEnv} (address : CStr) (online : Bool)
    (slaves : List SlaveStatus) (a : Adapter) :
    ∀ p ∈ (reportTransition env address online slaves a).2, p.topic ≠ .gatewayAttributes := by
  unfold reportTransition
  split
  · exact subdevPublishState_sent address online
  · exact (publishGatewaySlaveStatus_sent slaves a).ne

/-! ## What is known about a run -/

/-- The flag of a waiting replay, and the topics of the messages in flight. -/
structure Consistent (site : Site) (w : World) : Prop where
  flag : w.replay.outstanding = true →
    w.replay.gatewayTopic = decide (site.reportMode = .gateway)
  replays : ∀ f ∈ w.inFlight, f.record ≠ none → f.topic = dataTopic site.reportMode
  gateway : site.reportMode = .gateway → ∀ f ∈ w.inFlight, f.topic ≠ .gatewayAttributes

variable {site : Site} {w : World}

/-- Sending keeps the bookkeeping as long as replays go out on the data topic
and, in gateway mode, nothing else does on the other one. -/
theorem Consistent.send (h : Consistent site w) (a : Adapter) {sent : List Publish}
    {record : Option SeqId} (hr : record ≠ none → AllOn (dataTopic site.reportMode) sent)
    (hg : site.reportMode = .gateway → ∀ p ∈ sent, p.topic ≠ .gatewayAttributes) :
    Consistent site (w.send a sent record) where
  flag := h.flag
  replays := by
    intro f hf hrec
    rcases List.mem_append.1 hf with hf | hf
    · exact h.replays f hf hrec
    · obtain ⟨p, hp, rfl⟩ := List.mem_map.1 hf
      exact hr hrec p hp
  gateway := by
    intro hm f hf
    rcases List.mem_append.1 hf with hf | hf
    · exact h.gateway hm f hf
    · obtain ⟨p, hp, rfl⟩ := List.mem_map.1 hf
      exact hg hm p hp

theorem dataTopic_gateway {mode : ReportMode} {sent : List Publish}
    (h : AllOn (dataTopic mode) sent) (hm : mode = .gateway) :
    ∀ p ∈ sent, p.topic ≠ .gatewayAttributes := by
  subst hm
  intro p hp e
  rw [h p hp] at e
  cases e

/-- `uif_replay_all` sends on the data topic and leaves the flag of its mode. -/
theorem uifReplayAll_spec {lib : JsonLib} {env : LinkEnv} (u : Replay) (st : Store) (a : Adapter)
    (hu : u.outstanding = true → u.gatewayTopic = decide (env.reportMode = .gateway)) :
    let r := uifReplayAll lib env u st a
    (r.replay.outstanding = true → r.replay.gatewayTopic = decide (env.reportMode = .gateway)) ∧
      AllOn (dataTopic env.reportMode) r.sent := by
  have hgate : (replayGate env.nowMs u).2.outstanding = true →
      (replayGate env.nowMs u).2.gatewayTopic = decide (env.reportMode = .gateway) := by
    unfold replayGate
    split
    · split
      · exact hu
      · intro h; cases h
    · split <;> exact hu
  simp only [uifReplayAll]
  split
  · exact ⟨hu, AllOn.nil _⟩
  · split
    · exact ⟨hgate, AllOn.nil _⟩
    · split
      · exact ⟨hgate, AllOn.nil _⟩
      · exact ⟨hgate, AllOn.nil _⟩
      · split
        · exact ⟨hgate, AllOn.nil _⟩
        · split
          · exact ⟨fun h => (by cases h), thingscloudReplayContext_sent _ _⟩
          · exact ⟨fun _ => rfl, thingscloudReplayContext_sent _ _⟩

/-! ## Removals -/

/-- A response removes a record only if a publish of that record was accepted
or finally rejected. -/
def NoEarlyRemoval (site : Site) (w : World) : Op → Prop
  | .response i doc => ∀ id, Removed w.store (step site w (.response i doc)).store id →
      id ∈ (step site w (.response i doc)).settled
  | _ => True

/-- Not the response to a status report that is accepted, or rejected for
good, while a replay of an unsettled stored record waits in sub-device mode. -/
def ResponseOk (site : Site) (w : World) : Op → Prop
  | .response i doc => ∀ f, w.inFlight[i]? = some f →
      ¬ (site.reportMode = .subdevice ∧ f.topic = .attributes ∧ settles doc = true ∧
        w.replay.outstanding = true ∧ CanRemove w.store w.replay.sequence ∧
        w.replay.sequence ∉ w.settled)
  | _ => True

theorem uifReplayCloudResponse_store (nowMs : Int) (gatewayTopic accepted : Bool) (code : Int)
    (u : Replay) (st : Store) :
    (uifReplayCloudResponse nowMs gatewayTopic accepted code u st).2 =
      if u.outstanding = true ∧ gatewayTopic = u.gatewayTopic ∧
        (accepted || nonRetryable code) = true then (offlineStoreRemove st u.sequence).2
      else st := by
  unfold uifReplayCloudResponse
  cases u.outstanding <;> by_cases hg : gatewayTopic = u.gatewayTopic <;>
    cases accepted <;> cases nonRetryable code <;> simp [hg, replayAcknowledged]

/-- A response never raises the flag of a replay, nor changes its topic class. -/
theorem uifReplayCloudResponse_flag (nowMs : Int) (gatewayTopic accepted : Bool) (code : Int)
    (u : Replay) (st : Store) :
    let u' := (uifReplayCloudResponse nowMs gatewayTopic accepted code u st).1
    (u'.outstanding = true → u.outstanding = true) ∧ u'.gatewayTopic = u.gatewayTopic := by
  simp only [uifReplayCloudResponse]
  split
  · exact ⟨id, rfl⟩
  · split
    · simp only [replayAcknowledged, if_true]
      exact ⟨fun h => (by cases h), rfl⟩
    · exact ⟨fun h => (by cases h), rfl⟩

theorem respond_inFlight (w : World) (f : InFlight) (doc : Option Json) :
    (respond w f doc).inFlight = w.inFlight := by
  unfold respond
  cases responseClass f.topic with
  | none => rfl
  | some g => cases doc <;> rfl

theorem respond_replay (w : World) (f : InFlight) (doc : Option Json) :
    ((respond w f doc).replay.outstanding = true → w.replay.outstanding = true) ∧
      (respond w f doc).replay.gatewayTopic = w.replay.gatewayTopic := by
  unfold respond
  cases responseClass f.topic with
  | none => exact ⟨id, rfl⟩
  | some g =>
    cases doc with
    | none => exact ⟨id, rfl⟩
    | some root => exact uifReplayCloudResponse_flag _ _ _ _ _ _

theorem step_consistent (h : Consistent site w) (a : Op) : Consistent site (step site w a) := by
  cases a with
  | tick ms => exact ⟨h.flag, h.replays, h.gateway⟩
  | setConnected up => exact ⟨h.flag, h.replays, h.gateway⟩
  | mqttConnected => exact ⟨h.flag, h.replays, h.gateway⟩
  | connectionLost => exact ⟨fun e => (by cases e), h.replays, h.gateway⟩
  | cacheRecord ctx topic env => exact ⟨h.flag, h.replays, h.gateway⟩
  | publishContext ctx accepts =>
    exact h.send _ (fun e => absurd rfl e)
      (fun hm => dataTopic_gateway (thingscloudPublishContext_sent _ _ _) hm)
  | flush accepts =>
    exact h.send _ (fun e => absurd rfl e)
      (fun hm => dataTopic_gateway (thingscloudFlush_sent _ _) hm)
  | checkReplayPending => exact ⟨h.flag, h.replays, h.gateway⟩
  | gatewayStatus status accepts =>
    simp only [step]
    split
    · exact h
    · exact h.send _ (fun e => absurd rfl e) (fun _ => (publishGatewayStatus_sent _ _).ne)
  | slaveStatus slaves accepts =>
    simp only [step]
    split
    · exact h
    · exact h.send _ (fun e => absurd rfl e) (fun _ => (publishGatewaySlaveStatus_sent _ _).ne)
  | transition address online slaves accepts =>
    exact h.send _ (fun e => absurd rfl e) (fun _ => reportTransition_sent _ _ _ _)
  | replayAll accepts =>
    obtain ⟨hflag, hsent⟩ := @uifReplayAll_spec site.lib (w.link site accepts)
      w.replay w.store w.adapter h.flag
    refine Consistent.send (w := { w with replay := _, store := _ }) ⟨hflag, h.replays, h.gateway⟩
      _ (fun _ => hsent) (fun hm => dataTopic_gateway hsent hm)
  | response i doc =>
    simp only [step]
    split
    · exact h
    · rename_i f hf
      obtain ⟨h1, h2⟩ := respond_replay { w with inFlight := w.inFlight.eraseIdx i } f doc
      have hsub : ∀ g ∈ w.inFlight.eraseIdx i, g ∈ w.inFlight :=
        fun g hg => List.mem_of_mem_eraseIdx hg
      refine ⟨fun e => h2.trans (h.flag (h1 e)), fun g hg => ?_, fun hm g hg => ?_⟩
      · rw [respond_inFlight] at hg
        exact h.replays g (hsub g hg)
      · rw [respond_inFlight] at hg
        exact h.gateway hm g (hsub g hg)

/-! ## The run -/

theorem respond_store (w : World) (f : InFlight) (doc : Option Json) :
    (respond w f doc).store =
      if w.replay.outstanding = true ∧ responseClass f.topic = some w.replay.gatewayTopic ∧
        settles doc = true then (offlineStoreRemove w.store w.replay.sequence).2
      else w.store := by
  unfold respond
  cases hc : responseClass f.topic with
  | none => simp
  | some g =>
    cases doc with
    | none => simp [handleAttributesResponse, settles]
    | some root =>
      simp only [handleAttributesResponse, uifReplayCloudResponse_store, settles,
        Option.some.injEq]

theorem respond_settled (w : World) (f : InFlight) (doc : Option Json) (hr : f.record = none) :
    (respond w f doc).settled = w.settled := by
  unfold respond
  rw [hr]
  cases responseClass f.topic with
  | none => rfl
  | some g => cases doc <;> rfl

/-- The flag a replay waits for is only answered for a status report in sub-device mode. -/
theorem Consistent.answered (h : Consistent site w) {f : InFlight} (hf : f ∈ w.inFlight)
    (ho : w.replay.outstanding = true) :
    responseClass f.topic = some w.replay.gatewayTopic ↔
      site.reportMode = .subdevice ∧ f.topic = .attributes := by
  rw [h.flag ho]
  cases hm : site.reportMode with
  | subdevice => cases f.topic <;> simp [responseClass]
  | gateway =>
    have := h.gateway hm f hf
    cases ht : f.topic <;> simp_all [responseClass]

theorem Consistent.status_record (h : Consistent site w) {f : InFlight} (hf : f ∈ w.inFlight)
    (hm : site.reportMode = .subdevice) (ht : f.topic = .attributes) : f.record = none := by
  by_contra hr
  have := h.replays f hf hr
  rw [hm, ht] at this
  cases this

/-- **When a step removes a record too early.** -/
theorem noEarlyRemoval_iff (h : Consistent site w) (a : Op) :
    NoEarlyRemoval site w a ↔ ResponseOk site w a := by
  cases a with
  | response i doc =>
    simp only [NoEarlyRemoval, ResponseOk, step]
    cases hf : w.inFlight[i]? with
    | none => simp [(SameFiles.refl _).not_removed]
    | some f =>
      have hmem : f ∈ w.inFlight := List.mem_of_getElem? hf
      have hstore := respond_store { w with inFlight := w.inFlight.eraseIdx i } f doc
      simp only [Option.some.injEq, forall_eq']
      by_cases hc : w.replay.outstanding = true ∧
          responseClass f.topic = some w.replay.gatewayTopic ∧ settles doc = true
      · obtain ⟨ho, hclass, hs⟩ := hc
        obtain ⟨hm, ht⟩ := (h.answered hmem ho).1 hclass
        have hset := respond_settled { w with inFlight := w.inFlight.eraseIdx i } f doc
          (h.status_record hmem hm ht)
        rw [if_pos ⟨ho, hclass, hs⟩] at hstore
        simp only [hstore, hset, removed_iff]
        constructor
        · rintro hall ⟨-, -, -, -, hcan, hns⟩
          exact hns (hall _ ⟨rfl, hcan⟩)
        · rintro hn id ⟨rfl, hcan⟩
          by_contra hns
          exact hn ⟨hm, ht, hs, ho, hcan, hns⟩
      · rw [if_neg hc] at hstore
        rw [hstore]
        constructor
        · rintro - ⟨hm, ht, hs, ho, -⟩
          exact hc ⟨ho, (h.answered hmem ho).2 ⟨hm, ht⟩, hs⟩
        · intro _ id hr
          exact absurd hr ((SameFiles.refl _).not_removed id)
  | _ => exact Iff.rfl

/-- The world at boot: no replay waits and nothing is in flight. -/
def World.boot (nowMs : Int) (connected : Bool) (store : Store) (adapter : Adapter) : World where
  nowMs := nowMs
  connected := connected
  store := store
  replay :=
    { outstanding := false, sequence := 0, gatewayTopic := false, sentMs := 0, retryAfterMs := 0 }
  adapter := adapter
  replayPending := true
  inFlight := []
  settled := []

theorem boot_consistent (nowMs : Int) (connected : Bool) (store : Store) (adapter : Adapter) :
    Consistent site (World.boot nowMs connected store adapter) :=
  ⟨fun h => (by cases h), fun _ h => (by cases h), fun _ _ h => (by cases h)⟩

/-- **No early removal, over runs.** From boot with any store and adapter
state, no response of the run removes a record before its own publish was
accepted or finally rejected exactly when every response is `ResponseOk`. -/
theorem noEarlyRemoval_run_iff (site : Site) (nowMs : Int) (connected : Bool) (store : Store)
    (adapter : Adapter) (ops : List Op) :
    AllSteps (step site) (NoEarlyRemoval site) (World.boot nowMs connected store adapter) ops ↔
      AllSteps (step site) (ResponseOk site) (World.boot nowMs connected store adapter) ops :=
  allSteps_iff (K := fun w _ => Consistent site w) (fun _ a _ h _ => step_consistent h a)
    (fun _ a _ h => noEarlyRemoval_iff h a) (boot_consistent nowMs connected store adapter)

theorem gateway_responseOk (hm : site.reportMode = .gateway) (w : World) (a : Op) :
    ResponseOk site w a := by
  cases a with
  | response i doc => exact fun f _ hbad => by rw [hm] at hbad; cases hbad.1
  | _ => trivial

/-! ## A status response that removes a record -/

/-- The store after `offline_store_init` on empty media. -/
def freshStore : Store := (offlineStoreInit emptyBoot plainInit).2

def subdeviceSite : Site where
  lib := .knowing [contextJson sampleContext]
  reportMode := .subdevice

def idleStatus : GatewayStatus where
  freeHeap := 100000
  uptimeS := 100
  activeUplink := "wifi".toList
  wifiRssi := -60
  onlineCount := 0
  errorCount := 0
  cacheCount := 0

/-- `result` 1: the cloud took the publish. -/
def acceptingResponse : Option Json := some (.obj [("result".toList, .num (.fin 1))])

/-- The status goes out, the connection drops, a record is cached and replayed
after the reconnect; then the status is answered. -/
def lateStatusRun : List Op :=
  [.checkReplayPending, .gatewayStatus idleStatus fun _ => true, .setConnected false,
    .connectionLost, .cacheRecord sampleContext "t".toList (putWith 1048576), .setConnected true,
    .mqttConnected, .replayAll fun _ => true]

def lateStatusWorld : World :=
  run (step subdeviceSite) (World.boot 100000 true freshStore .boot) lateStatusRun

/-- The replay of record 1 is unanswered when the response to the status removes it. -/
theorem status_response_removes_record :
    lateStatusWorld.inFlight = [⟨.attributes, none⟩, ⟨.gatewayAttributes, some 1⟩] ∧
      lateStatusWorld.settled = [] ∧
      ¬ AllSteps (step subdeviceSite) (NoEarlyRemoval subdeviceSite)
        (World.boot 100000 true freshStore .boot)
        (lateStatusRun ++ [.response 0 acceptingResponse]) := by
  -- One evaluation of the run for all of it.
  obtain ⟨hflight, hunsettled, hstored, hgone, hsettled⟩ :
      lateStatusWorld.inFlight = [⟨.attributes, none⟩, ⟨.gatewayAttributes, some 1⟩] ∧
        lateStatusWorld.settled = [] ∧ (1 : SeqId) ∈ lateStatusWorld.store.flash.dir ∧
        (1 : SeqId) ∉
          (step subdeviceSite lateStatusWorld (.response 0 acceptingResponse)).store.flash.dir ∧
        (step subdeviceSite lateStatusWorld (.response 0 acceptingResponse)).settled = [] := by
    decide +kernel
  refine ⟨hflight, hunsettled, fun h => ?_⟩
  rw [allSteps_append, allSteps_cons, ← lateStatusWorld] at h
  have hmem := h.2.1 1 (Or.inl ⟨hstored, hgone⟩)
  rw [hsettled] at hmem
  cases hmem

end McpGateway.Uif
