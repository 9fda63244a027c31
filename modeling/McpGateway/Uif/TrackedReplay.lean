import McpGateway.Lib.Run
import McpGateway.Mqtt.Tracked
import McpGateway.Storage.OfflineMedium
import McpGateway.Uif.Persistence

/-!
# Replay against a custom MQTT broker

`uif_replay_all` publishes the oldest record with `mqtt_publish_tracked`, and
`MQTT_EVENT_PUBLISHED` removes the record of the first slot with the
acknowledged message id. A slot outlives its publish: a disconnect leaves the
table as it is. `durable_run` shows that this is the only way to lose a
record: nothing goes wrong while no tracked publish is given up and none is
acknowledged before its slot is filled.
-/

namespace McpGateway.Uif

open McpGateway.Lib McpGateway.Storage McpGateway.Mqtt

/-- Where the task that runs `uif_replay_all` is: before the call, about to
publish, or between the publish and its slot. -/
inductive ReplayPc
  | idle
  | publishing (record : OfflineRecord)
  | registering (slot : Tracked)

structure TrackedWorld where
  nowMs : Int
  connected : Bool
  store : Store
  replay : Replay
  client : Client
  slots : List Tracked
  pc : ReplayPc
  /-- The records a publish of which the broker acknowledged. -/
  acked : List SeqId

inductive TrackedOp
  | tick (ms : Nat)
  | put (id : SeqId) (topic payload : CStr) (env : PutEnv)
  | replayStart
  | clientPublish (msgId : Option MsgId)
  | register
  | publish (msgId : Option MsgId)
  | published (msgId : MsgId)
  | expire (gone : Awaiting → Bool)
  | disconnect (gone : Awaiting → Bool)
  | reconnect
  | connectionLost

/-- `uif_replay_all` up to its `mqtt_publish_tracked` call: the record to
publish, or what it returns before. -/
def replayStart (connected : Bool) (nowMs : Int) (u : Replay) (st : Store) :
    Except EspErr OfflineRecord × Replay × Store :=
  if connected = false then (.error .invalidState, u, st)
  else
    let gate := replayGate nowMs u
    match gate.1 with
    | some e => (.error e, gate.2, st)
    | none =>
      let peek := offlineStorePeekOldest st
      match peek.1 with
      | .error .notFound => (.error .ok, gate.2, peek.2)
      | .error e => (.error e, gate.2, peek.2)
      | .ok record =>
        (.ok record, { gate.2 with sequence := record.sequenceId, outstanding := true }, peek.2)

/-- `MQTT_EVENT_PUBLISHED` for that message id. -/
def mqttPublished (w : TrackedWorld) (msgId : MsgId) : TrackedWorld :=
  let taken := takePublished msgId w.slots
  match taken.1 with
  | none => { w with slots := taken.2 }
  | some s =>
    let r := replayAcknowledged w.replay w.store s.token
    { w with slots := taken.2, replay := r.1, store := r.2 }

namespace TrackedWorld

def step (w : TrackedWorld) : TrackedOp → TrackedWorld
  | .tick ms => { w with nowMs := w.nowMs + ms }
  | .put id topic payload env => { w with store := (offlineStorePut w.store id topic payload env).2 }
  | .replayStart =>
    match w.pc with
    | .idle =>
      let r := Uif.replayStart w.connected w.nowMs w.replay w.store
      match r.1 with
      | .error _ => { w with replay := r.2.1, store := r.2.2 }
      | .ok record => { w with replay := r.2.1, store := r.2.2, pc := .publishing record }
    | _ => w
  | .clientPublish msgId =>
    match w.pc with
    | .publishing record =>
      let r := w.client.publish msgId (some record.sequenceId)
      match r.1 with
      | none => { w with replay := { w.replay with outstanding := false }, pc := .idle }
      | some p =>
        { w with client := r.2, pc := .registering ⟨p.msgId, record.sequenceId, true, p.uid⟩ }
    | _ => w
  | .register =>
    match w.pc with
    | .registering t =>
      match Mqtt.register t w.slots with
      | none => { w with replay := { w.replay with outstanding := false }, pc := .idle }
      | some slots => { w with slots := slots, pc := .idle }
    | _ => w
  | .publish msgId => { w with client := (w.client.publish msgId none).2 }
  | .published msgId =>
    -- The client only reports ids of its outbox.
    match w.client.outbox.find? fun p => p.msgId = msgId with
    | none => w
    | some p =>
      mqttPublished { w with
        client := w.client.discard fun q => q.msgId = msgId
        acked := p.record.toList ++ w.acked } msgId
  | .expire gone => { w with client := w.client.discard gone }
  | .disconnect gone => { w with connected := false, client := w.client.discard gone }
  | .reconnect => { w with connected := true }
  | .connectionLost => { w with replay := uifReplayConnectionLost w.replay }

def pending (w : TrackedWorld) : List Tracked :=
  match w.pc with
  | .registering t => [t]
  | _ => []

def tracked (w : TrackedWorld) : List Tracked := activeSlots w.slots ++ w.pending

/-- The publish of a slot can still be acknowledged. -/
def CanAck (w : TrackedWorld) (t : Tracked) : Prop := ∃ p ∈ w.client.outbox, p.uid = t.uid

/-! ## What is claimed of a step, and its condition -/

/-- A record goes only when the broker acknowledged a publish of it (a `put`
may evict one), an acknowledgement matches only a slot whose publish could be
acknowledged, and `ESP_ERR_NO_MEM` is returned only when every slot's can. -/
structure Durable (w : TrackedWorld) (a : TrackedOp) : Prop where
  removed : (∀ id topic payload env, a ≠ .put id topic payload env) →
    ∀ id, Removed w.store (w.step a).store id → id ∈ (w.step a).acked
  matched : ∀ msgId, a = .published msgId → (∃ p ∈ w.client.outbox, p.msgId = msgId) →
    ∀ s, (takePublished msgId w.slots).1 = some s → w.CanAck s
  noMem : ∀ t, a = .register → w.pc = .registering t → Mqtt.register t w.slots = none →
    ∀ s ∈ w.slots, w.CanAck s

/-- The client does not give up a publish that is tracked, and does not report
one as acknowledged before its slot is filled. -/
def KeepsTracked (w : TrackedWorld) : TrackedOp → Prop
  | .expire gone | .disconnect gone => ∀ t ∈ w.tracked, gone t.publish = false
  | .published msgId => ∀ t ∈ w.pending, t.msgId ≠ msgId
  | _ => True

/-! ## The invariant -/

/-- Message ids in the outbox differ, those of the tracked publishes differ,
and each tracked publish is in the outbox. -/
structure Live (w : TrackedWorld) : Prop where
  ids : (w.client.outbox.map Awaiting.msgId).Nodup
  distinct : (w.tracked.map Tracked.msgId).Nodup
  live : ∀ t ∈ w.tracked, t.publish ∈ w.client.outbox
  active : ∀ t ∈ w.pending, t.active = true

variable {w : TrackedWorld}

theorem Live.canAck (h : Live w) {t : Tracked} (ht : t ∈ w.tracked) : w.CanAck t :=
  ⟨t.publish, h.live t ht, rfl⟩

theorem mem_tracked_of_slot {s : Tracked} (h : s ∈ activeSlots w.slots) : s ∈ w.tracked :=
  List.mem_append_left _ h

theorem Live.same_publish (h : Live w) {p q : Awaiting} (hp : p ∈ w.client.outbox)
    (hq : q ∈ w.client.outbox) (hid : p.msgId = q.msgId) : p = q :=
  List.inj_on_of_nodup_map h.ids hp hq hid

theorem Live.discard (h : Live w) {w' : TrackedWorld} (hslots : w'.slots = w.slots)
    (hpc : w'.pc = w.pc) {gone : Awaiting → Bool} (hc : w'.client = w.client.discard gone)
    (hgone : ∀ t ∈ w.tracked, gone t.publish = false) : Live w' := by
  have hpend : w'.pending = w.pending := by simp only [pending, hpc]
  have htracked : w'.tracked = w.tracked := by simp only [tracked, hpend, hslots]
  refine ⟨?_, by rw [htracked]; exact h.distinct, ?_, by rw [hpend]; exact h.active⟩
  · rw [hc]
    exact h.ids.sublist (List.filter_sublist.map _)
  · intro t ht
    rw [htracked] at ht
    rw [hc]
    exact List.mem_filter.2 ⟨h.live t ht, by simp [hgone t ht]⟩

/-- A publish that the client took has a fresh message id. -/
theorem Live.taken (h : Live w) {msgId : Option MsgId} {record : Option SeqId} {p : Awaiting}
    (hp : (w.client.publish msgId record).1 = some p) :
    ((w.client.publish msgId record).2.outbox.map Awaiting.msgId).Nodup ∧
      ∀ t ∈ w.tracked, t.publish ∈ (w.client.publish msgId record).2.outbox ∧
        t.msgId ≠ p.msgId := by
  obtain ⟨hfree, -, -, hout⟩ := Client.publish_some hp
  rw [hout]
  constructor
  · rw [List.map_append, List.nodup_append]
    refine ⟨h.ids, by simp, ?_⟩
    intro a ha b hb
    obtain ⟨q, hq, rfl⟩ := List.mem_map.1 ha
    rw [List.map_singleton, List.mem_singleton] at hb
    rw [hb]
    exact hfree q hq
  · intro t ht
    exact ⟨List.mem_append_left _ (h.live t ht), hfree _ (h.live t ht)⟩

theorem Live.published (h : Live w) {msgId : MsgId} (hpend : ∀ t ∈ w.pending, t.msgId ≠ msgId)
    {rest : List Tracked} (hrest : (takePublished msgId w.slots).2 = rest) :
    ((activeSlots rest ++ w.pending).map Tracked.msgId).Nodup ∧
      ∀ t ∈ activeSlots rest ++ w.pending, t ∈ w.tracked ∧ t.msgId ≠ msgId := by
  subst hrest
  cases htaken : (takePublished msgId w.slots).1 with
  | none =>
    obtain ⟨hsame, hne⟩ := takePublished_none htaken
    rw [hsame]
    refine ⟨h.distinct, fun t ht => ⟨ht, ?_⟩⟩
    rcases List.mem_append.1 ht with hs | hp
    · exact hne t hs
    · exact hpend t hp
  | some s =>
    obtain ⟨hid, hperm⟩ := takePublished_some htaken
    have hall : (w.tracked).Perm
        (s :: (activeSlots (takePublished msgId w.slots).2 ++ w.pending)) :=
      hperm.append_right w.pending
    have hnodup := ((hall.map Tracked.msgId).nodup_iff).1 h.distinct
    rw [List.map_cons, List.nodup_cons, hid] at hnodup
    refine ⟨hnodup.2, fun t ht => ⟨hall.mem_iff.2 (List.mem_cons_of_mem s ht), ?_⟩⟩
    intro e
    have hmem := List.mem_map_of_mem (f := Tracked.msgId) ht
    rw [e] at hmem
    exact hnodup.1 hmem

theorem mqttPublished_frame (w : TrackedWorld) (msgId : MsgId) :
    (mqttPublished w msgId).client = w.client ∧ (mqttPublished w msgId).pc = w.pc ∧
      (mqttPublished w msgId).acked = w.acked ∧
      (mqttPublished w msgId).slots = (takePublished msgId w.slots).2 := by
  unfold mqttPublished
  cases h : (takePublished msgId w.slots).1 <;> simp [h]

/-- A step that leaves the table, the task and the outbox alone. -/
theorem Live.of_eq (h : Live w) {w' : TrackedWorld} (hslots : w'.slots = w.slots)
    (hpc : w'.pc = w.pc) (hc : w'.client = w.client) : Live w' := by
  have hkeep : w'.client = w.client.discard fun _ => false := by
    rw [hc, Client.discard]
    simp
  exact h.discard hslots hpc hkeep fun _ _ => rfl

theorem Live.idle (h : Live w) {w' : TrackedWorld} (hslots : w'.slots = w.slots)
    (hc : w'.client = w.client) (hpend : w'.pending = []) : Live w' := by
  have htracked : w'.tracked = activeSlots w.slots := by
    rw [tracked, hpend, hslots, List.append_nil]
  refine ⟨by rw [hc]; exact h.ids, ?_, ?_, fun t ht => ?_⟩
  · rw [htracked]
    exact h.distinct.sublist ((List.sublist_append_left _ _).map _)
  · intro t ht
    rw [hc]
    exact h.live t (mem_tracked_of_slot (htracked ▸ ht))
  · rw [hpend] at ht
    cases ht

theorem tracked_of_pending_nil (hnone : w.pending = []) : w.tracked = activeSlots w.slots := by
  rw [tracked, hnone, List.append_nil]

/-- The replay's publish gets a message id that no slot has, and waits to be tracked. -/
theorem Live.clientPublish (h : Live w) (msgId : Option MsgId) :
    Live (w.step (.clientPublish msgId)) := by
  simp only [TrackedWorld.step]
  split
  · rename_i record hpc
    have htracked : w.tracked = activeSlots w.slots :=
      tracked_of_pending_nil (by simp only [pending, hpc])
    cases hp : (w.client.publish msgId (some record.sequenceId)).1 with
    | none => exact h.idle rfl rfl rfl
    | some p =>
      obtain ⟨hids, hlive⟩ := h.taken hp
      obtain ⟨-, hrec, -, hout⟩ := Client.publish_some hp
      rw [htracked] at hlive
      refine ⟨hids, ?_, ?_, ?_⟩
      · show ((activeSlots w.slots ++ [_]).map Tracked.msgId).Nodup
        rw [List.map_append, List.nodup_append]
        refine ⟨htracked ▸ h.distinct, by simp, ?_⟩
        intro a ha b hb
        obtain ⟨t, ht, rfl⟩ := List.mem_map.1 ha
        rw [List.map_singleton, List.mem_singleton] at hb
        rw [hb]
        exact (hlive t ht).2
      · intro t ht
        rcases List.mem_append.1 ht with hs | hs
        · exact (hlive t hs).1
        · rw [List.mem_singleton.1 hs]
          show (⟨p.msgId, p.uid, some record.sequenceId⟩ : Awaiting) ∈ _
          rw [hout, ← hrec]
          exact List.mem_append_right _ (List.mem_singleton_self p)
      · intro t ht
        rw [List.mem_singleton.1 ht]
  · exact h

theorem Live.register (h : Live w) : Live (w.step .register) := by
  simp only [TrackedWorld.step]
  split
  · rename_i t hpc
    have hpend : w.pending = [t] := by simp only [pending, hpc]
    cases hr : Mqtt.register t w.slots with
    | none => exact h.idle rfl rfl rfl
    | some slots =>
      have hperm : (activeSlots slots).Perm w.tracked := by
        rw [tracked, hpend]
        exact (register_some (h.active t (by simp [hpend])) hr).trans
          (List.perm_append_singleton t _).symm
      refine ⟨h.ids, ?_, ?_, fun t ht => (by cases ht)⟩
      · show ((activeSlots slots ++ []).map Tracked.msgId).Nodup
        rw [List.append_nil]
        exact ((hperm.map _).nodup_iff).2 h.distinct
      · intro s hs
        refine h.live s (hperm.mem_iff.1 ?_)
        simpa [tracked, pending] using hs
  · exact h

theorem Live.acknowledged (h : Live w) {msgId : MsgId} (hpend : ∀ t ∈ w.pending, t.msgId ≠ msgId) :
    Live (w.step (.published msgId)) := by
  simp only [TrackedWorld.step]
  split
  · exact h
  · rename_i p hfind
    obtain ⟨hc, hpc, -, hslots⟩ := mqttPublished_frame { w with
      client := w.client.discard fun q => q.msgId = msgId
      acked := p.record.toList ++ w.acked } msgId
    obtain ⟨hnodup, hsub⟩ := h.published (w := w) hpend rfl
    set w' := mqttPublished _ msgId with hw'
    have hsame : w'.pending = w.pending := by simp only [pending, hpc]
    have htracked : w'.tracked =
        activeSlots (takePublished msgId w.slots).2 ++ w.pending := by
      simp only [tracked, hsame, hslots]
    refine ⟨?_, htracked ▸ hnodup, ?_, by rw [hsame]; exact h.active⟩
    · rw [hc]
      exact h.ids.sublist (List.filter_sublist.map _)
    · intro t ht
      obtain ⟨hmem, hne⟩ := hsub t (htracked ▸ ht)
      rw [hc]
      exact List.mem_filter.2 ⟨h.live t hmem, by simp [Tracked.publish, hne]⟩

theorem Live.step (h : Live w) {a : TrackedOp} (ha : KeepsTracked w a) : Live (w.step a) := by
  cases a with
  | tick ms => exact h.of_eq rfl rfl rfl
  | put id topic payload env => exact h.of_eq rfl rfl rfl
  | reconnect => exact h.of_eq rfl rfl rfl
  | connectionLost => exact h.of_eq rfl rfl rfl
  | expire gone => exact h.discard rfl rfl rfl ha
  | disconnect gone => exact h.discard rfl rfl rfl ha
  | replayStart =>
    simp only [TrackedWorld.step]
    split
    · split
      · exact h.of_eq rfl rfl rfl
      · exact h.idle rfl rfl rfl
    · exact h
  | publish msgId =>
    cases hp : (w.client.publish msgId none).1 with
    | none => exact h.of_eq rfl rfl (Client.publish_none hp)
    | some p =>
      obtain ⟨hids, hlive⟩ := h.taken hp
      exact ⟨hids, h.distinct, fun t ht => (hlive t ht).1, h.active⟩
  | clientPublish msgId => exact h.clientPublish msgId
  | register => exact h.register
  | published msgId => exact h.acknowledged ha

/-! ## The run -/

theorem replayStart_sameFiles (connected : Bool) (nowMs : Int) (u : Replay) (st : Store) :
    SameFiles st (Uif.replayStart connected nowMs u st).2.2 := by
  have hpeek := offlineStorePeekOldest_sameFiles st
  simp only [Uif.replayStart]
  split
  · exact SameFiles.refl st
  · split
    · exact SameFiles.refl st
    · split <;> exact hpeek

/-- A step other than a `put` or an acknowledgement removes nothing. -/
theorem step_sameFiles {a : TrackedOp} (hput : ∀ id topic payload env, a ≠ .put id topic payload env)
    (hack : ∀ msgId, a ≠ .published msgId) : SameFiles w.store (w.step a).store := by
  cases a with
  | put id topic payload env => exact absurd rfl (hput id topic payload env)
  | published msgId => exact absurd rfl (hack msgId)
  | replayStart =>
    have hstart := replayStart_sameFiles w.connected w.nowMs w.replay w.store
    simp only [TrackedWorld.step]
    split
    · split <;> exact hstart
    · exact SameFiles.refl _
  | clientPublish msgId =>
    simp only [TrackedWorld.step]
    split
    · split <;> exact SameFiles.refl _
    · exact SameFiles.refl _
  | register =>
    simp only [TrackedWorld.step]
    split
    · split <;> exact SameFiles.refl _
    · exact SameFiles.refl _
  | _ => exact SameFiles.refl _

theorem mqttPublished_store (w : TrackedWorld) (msgId : MsgId) :
    (mqttPublished w msgId).store = match (takePublished msgId w.slots).1 with
      | none => w.store
      | some s => (offlineStoreRemove w.store s.token).2 := by
  unfold mqttPublished
  cases h : (takePublished msgId w.slots).1 <;> simp [h, replayAcknowledged]

/-- The slot an acknowledgement matches carries the acknowledged record. -/
theorem Live.acked_token (h : Live w) {msgId : MsgId} {p : Awaiting} {s : Tracked}
    (hp : p ∈ w.client.outbox) (hid : p.msgId = msgId)
    (hs : (takePublished msgId w.slots).1 = some s) : p.record = some s.token := by
  obtain ⟨hsid, hperm⟩ := takePublished_some hs
  have hmem : s ∈ w.tracked := mem_tracked_of_slot (hperm.mem_iff.2 List.mem_cons_self)
  rw [h.same_publish hp (h.live s hmem) (hid.trans hsid.symm)]
  rfl

/-- Under the invariant and the condition a step does what is claimed. -/
theorem Live.durable (h : Live w) (a : TrackedOp) : Durable w a where
  removed := by
    intro hput id hrem
    by_cases hack : ∃ msgId, a = .published msgId
    · obtain ⟨msgId, rfl⟩ := hack
      simp only [TrackedWorld.step] at hrem ⊢
      cases hfind : w.client.outbox.find? fun p => p.msgId = msgId with
      | none =>
        rw [hfind] at hrem
        exact absurd hrem ((SameFiles.refl _).not_removed id)
      | some p =>
        simp only [hfind] at hrem ⊢
        rw [(mqttPublished_frame _ msgId).2.2.1]
        rw [mqttPublished_store] at hrem
        cases htaken : (takePublished msgId w.slots).1 with
        | none =>
          simp only [htaken] at hrem
          exact absurd hrem ((SameFiles.refl _).not_removed id)
        | some s =>
          simp only [htaken] at hrem
          have hrec := h.acked_token (List.mem_of_find?_eq_some hfind)
            (by simpa using List.find?_some hfind) htaken
          rw [(removed_iff.1 hrem).1, hrec]
          exact List.mem_append_left _ (by simp)
    · exact absurd hrem ((step_sameFiles hput fun m e => hack ⟨m, e⟩).not_removed id)
  matched := by
    intro msgId _ _ s hs
    obtain ⟨-, hperm⟩ := takePublished_some hs
    exact h.canAck (mem_tracked_of_slot (hperm.mem_iff.2 List.mem_cons_self))
  noMem := by
    intro t _ _ hnone s hs
    exact h.canAck (mem_tracked_of_slot (mem_activeSlots.2 ⟨hs, register_none hnone s hs⟩))

/-- The world at boot: empty table, empty outbox. -/
def boot (nowMs : Int) (connected : Bool) (store : Store) : TrackedWorld where
  nowMs := nowMs
  connected := connected
  store := store
  replay :=
    { outstanding := false, sequence := 0, gatewayTopic := false, sentMs := 0, retryAfterMs := 0 }
  client := { outbox := [], nextUid := 0 }
  slots := List.replicate mqttMaxTrackedPublishes { msgId := 0, token := 0, active := false, uid := 0 }
  pc := .idle
  acked := []

theorem boot_live (nowMs : Int) (connected : Bool) (store : Store) :
    Live (boot nowMs connected store) := by
  have htracked : (boot nowMs connected store).tracked = [] := by
    show activeSlots (List.replicate _ _) ++ [] = []
    simp [activeSlots]
  refine ⟨List.nodup_nil, by rw [htracked]; exact List.nodup_nil, fun t ht => ?_, fun t ht => ?_⟩
  · rw [htracked] at ht
    cases ht
  · cases ht

/-- **No early removal with a custom broker.** In a run from boot in which the
client gives up no tracked publish and reports none before its slot is filled,
every record removed was acknowledged, no acknowledgement matches a slot whose
publish was gone, and no such slot fills the table. -/
theorem durable_run (nowMs : Int) (connected : Bool) (store : Store) (ops : List TrackedOp)
    (h : AllSteps TrackedWorld.step KeepsTracked (boot nowMs connected store) ops) :
    AllSteps TrackedWorld.step Durable (boot nowMs connected store) ops :=
  allSteps_of_inv (fun _ _ hl ha => Live.step hl ha) (fun _ a hl _ => Live.durable hl a)
    (boot_live nowMs connected store) h

/-! ## A reused message id -/

def storeWithRecord : Store :=
  (offlineStorePut (offlineStoreInit emptyBoot plainInit).2 1 "t".toList "5".toList
    (putWith 1048576)).2

def ackedRun : List TrackedOp :=
  [.replayStart, .clientPublish (some 7), .register, .published 7]

theorem durable_run_ackedRun :
    AllSteps TrackedWorld.step Durable (boot 100000 true storeWithRecord) ackedRun := by
  have hpend : ∀ t ∈ (run TrackedWorld.step (boot 100000 true storeWithRecord)
      [.replayStart, .clientPublish (some 7), .register]).pending, t.msgId ≠ 7 := by
    decide +kernel
  exact durable_run 100000 true storeWithRecord ackedRun ⟨trivial, trivial, trivial, hpend, trivial⟩

/-- The replay of record 1 is lost with the outbox; another publish gets its
message id and is acknowledged. -/
def reusedIdRun : List TrackedOp :=
  [.replayStart, .clientPublish (some 7), .register, .disconnect fun _ => true, .reconnect,
    .publish (some 7)]

/-- The world the acknowledgement of the other publish arrives in. -/
def reusedIdWorld : TrackedWorld :=
  run TrackedWorld.step (boot 100000 true storeWithRecord) reusedIdRun

/-- The acknowledgement of the other publish removes record 1. -/
theorem reused_id_removes_record :
    reusedIdWorld.client.outbox = [⟨7, 1, none⟩] ∧
      (reusedIdWorld.step (.published 7)).acked = [] ∧
      ¬ AllSteps TrackedWorld.step Durable (boot 100000 true storeWithRecord)
        (reusedIdRun ++ [.published 7]) := by
  have hstored : (1 : SeqId) ∈ reusedIdWorld.store.flash.dir := by decide +kernel
  have hgone : (1 : SeqId) ∉ (reusedIdWorld.step (.published 7)).store.flash.dir := by
    decide +kernel
  have hacked : (reusedIdWorld.step (.published 7)).acked = [] := by decide +kernel
  refine ⟨by decide +kernel, hacked, fun h => ?_⟩
  rw [allSteps_append, allSteps_cons, ← reusedIdWorld] at h
  have hmem := h.2.1.removed (fun _ _ _ _ e => by cases e) 1 (Or.inl ⟨hstored, hgone⟩)
  rw [hacked] at hmem
  cases hmem

end TrackedWorld

end McpGateway.Uif
