import McpGateway.Lib.Ledger
import McpGateway.Scheduler.PollOrder
import McpGateway.Scheduler.Telemetry

/-!
# Where every poll goes

`ends` says what becomes of a poll at the step where it leaves the tasks and their
queues. `every_poll_accounted` is the ledger of a run: each poll has ended once or is
in one place, and each counter, with the increments that it missed, says how many ended
in which way.
-/

namespace McpGateway.Scheduler

open McpGateway.Lib McpGateway.Tcm McpGateway.Amm McpGateway.Storage McpGateway.Runtime
  McpGateway.Uif McpGateway.Mqtt McpGateway.Eval

inductive Fate
  /-- The poll failed, or its context was not valid. -/
  | rejected
  /-- The raw queue, the context queue or the cache queue was full, or the record not stored. -/
  | lost
  /-- MQTT is not configured: the state pool has it. -/
  | unconfigured
  /-- The ThingsCloud adapter took it. -/
  | handedOver
  /-- Its document does not fit. -/
  | unserializable
  /-- The broker took its message. -/
  | published
  /-- Its message was refused and put into the store, or failed to be. -/
  | refused (stored : Bool)
  /-- The cache writer stored its record. -/
  | cached
  deriving DecidableEq

namespace Telemetry

def ends (t : Telemetry) : TelemetryStep → Option (Nat × Fate)
  | .pipe .send =>
    match t.pipe.poll with
    | .answered item => if t.pipe.raw.length < queueRawDataSize then none else some (item.poll, .lost)
    | _ => none
  | .pipe .receive =>
    match t.pipe.build, t.pipe.raw with
    | .idle, item :: _ => if item.result.valid then none else some (item.poll, .rejected)
    | _, _ => none
  | .pipe (.build env net) =>
    match t.pipe.build with
    | .received item =>
      if (buildContext env net t.pipe.amm item.result).isSome then none
      else some (item.poll, .rejected)
    | _ => none
  | .pipe .push =>
    match t.pipe.build with
    | .stored _ _ poll =>
      if t.pipe.contexts.length < queueContextSize then none else some (poll, .lost)
    | _ => none
  | .publish env =>
    match t.publish with
    | .taken s =>
      match (t.publishTaken env).publish with
      | .idle =>
        some (s.poll,
          if !(env.runtime.mqtt.enabled && mqttConfigured env.runtime) then .unconfigured
          else if env.runtime.mqtt.platformType = .thingscloud then .handedOver
          else .unserializable)
      | _ => none
    | _ => none
  | .cache =>
    match t.publish with
    | .caching s _ => if t.cache.length < cacheQueueSize then none else some (s.poll, .lost)
    | _ => none
  | .mqttPublish connected accepted =>
    match t.mqttPublish with
    | .taken item => if connected && accepted then some (item.sample.poll, .published) else none
    | _ => none
  | .mqttStore env =>
    match t.mqttPublish with
    | .refused item =>
      let put := offlineStorePut t.store item.msg.sequenceId item.msg.topic item.msg.payload env
      some (item.sample.poll, .refused (put.1 = .ok))
    | _ => none
  | .cacheRecord lib runtime env =>
    match t.writer with
    | .taken s =>
      some (s.poll, if (t.cacheCall lib runtime env s).1 = .ok then .cached else .lost)
    | _ => none
  | _ => none

end Telemetry

/-! ## Where a poll can be -/

def PollTask.polls : PollTask → List Nat
  | .answered item => [item.poll]
  | _ => []

def BuildTask.polls : BuildTask → List Nat
  | .received item => [item.poll]
  | .built _ _ poll | .stored _ _ poll => [poll]
  | .idle => []

def PublishTask.polls : PublishTask → List Nat
  | .taken s | .caching s _ => [s.poll]
  | .sending item => [item.sample.poll]
  | .idle => []

def MqttPublishTask.polls : MqttPublishTask → List Nat
  | .taken item | .refused item => [item.sample.poll]
  | .idle => []

def CacheWriterTask.polls : CacheWriterTask → List Nat
  | .taken s => [s.poll]
  | .idle => []

namespace Telemetry

/-- The polls that the first three tasks and their queues hold, oldest first. -/
def front (t : Telemetry) : List Nat :=
  t.publish.polls ++ t.origins ++ t.pipe.build.polls ++ t.pipe.raw.map RawItem.poll ++
    t.pipe.poll.polls

def outLine (t : Telemetry) : List Nat :=
  t.mqttPublish.polls ++ t.out.map fun item => item.sample.poll

/-- The polls on their way to the offline store. -/
def cacheLine (t : Telemetry) : List Nat := t.writer.polls ++ t.cache.map Sample.poll

def underWay (t : Telemetry) : List Nat := t.cacheLine ++ (t.outLine ++ t.front)

def polled (t : Telemetry) : Nat := t.pipe.log.length

/-! ## One step -/

/-- How a step moves the polls, with the poll that it ends. -/
inductive Moves (t t' : Telemetry) : Option (Nat × Fate) → Prop
  | still (hpolled : t'.polled = t.polled) (hfront : t'.front = t.front)
      (hout : t'.outLine = t.outLine) (hcache : t'.cacheLine = t.cacheLine) : Moves t t' none
  | join (hpolled : t'.polled = t.polled + 1) (hfront : t'.front = t.front ++ [t.polled])
      (hout : t'.outLine = t.outLine) (hcache : t'.cacheLine = t.cacheLine) : Moves t t' none
  | toOut (i : Nat) (hpolled : t'.polled = t.polled) (hfront : t.front = i :: t'.front)
      (hout : t'.outLine = t.outLine ++ [i]) (hcache : t'.cacheLine = t.cacheLine) : Moves t t' none
  | toCache (i : Nat) (hpolled : t'.polled = t.polled) (hfront : t.front = i :: t'.front)
      (hout : t'.outLine = t.outLine) (hcache : t'.cacheLine = t.cacheLine ++ [i]) :
      Moves t t' none
  | handOver (i : Nat) (f : Fate)
      (hf : f = .unconfigured ∨ f = .handedOver ∨ f = .unserializable) (hpolled : t'.polled = t.polled)
      (hfront : t.front = i :: t'.front) (hout : t'.outLine = t.outLine)
      (hcache : t'.cacheLine = t.cacheLine) : Moves t t' (some (i, f))
  | drop (i : Nat) (f : Fate) (before after : List Nat) (hf : f = .rejected ∨ f = .lost)
      (hpolled : t'.polled = t.polled) (hfront : t.front = before ++ i :: after)
      (hfront' : t'.front = before ++ after) (hout : t'.outLine = t.outLine)
      (hcache : t'.cacheLine = t.cacheLine) : Moves t t' (some (i, f))
  | leaveOut (i : Nat) (f : Fate) (hf : f = .published ∨ ∃ stored, f = .refused stored)
      (hpolled : t'.polled = t.polled) (hfront : t'.front = t.front)
      (hout : t.outLine = i :: t'.outLine) (hcache : t'.cacheLine = t.cacheLine) :
      Moves t t' (some (i, f))
  | leaveCache (i : Nat) (f : Fate) (hf : f = .cached ∨ f = .lost) (hpolled : t'.polled = t.polled)
      (hfront : t'.front = t.front) (hout : t'.outLine = t.outLine)
      (hcache : t.cacheLine = i :: t'.cacheLine) : Moves t t' (some (i, f))

section Steps

variable (t : Telemetry)

@[simp] theorem count_pipe (m : Metric) : (t.count m).pipe = t.pipe := rfl

@[simp] theorem count_origins (m : Metric) : (t.count m).origins = t.origins := rfl

@[simp] theorem count_publish (m : Metric) : (t.count m).publish = t.publish := rfl

@[simp] theorem count_out (m : Metric) : (t.count m).out = t.out := rfl

@[simp] theorem count_mqttPublish (m : Metric) : (t.count m).mqttPublish = t.mqttPublish := rfl

@[simp] theorem count_cache (m : Metric) : (t.count m).cache = t.cache := rfl

@[simp] theorem count_writer (m : Metric) : (t.count m).writer = t.writer := rfl

theorem moves_refl : Moves t t none := .still rfl rfl rfl rfl

theorem Moves.count {t t' : Telemetry} {e : Option (Nat × Fate)} (h : Moves t t' e) (m : Metric) :
    Moves t (t'.count m) e := by
  cases h with
  | still hpolled hfront hout hcache => exact .still hpolled hfront hout hcache
  | join hpolled hfront hout hcache => exact .join hpolled hfront hout hcache
  | toOut i hpolled hfront hout hcache => exact .toOut i hpolled hfront hout hcache
  | toCache i hpolled hfront hout hcache => exact .toCache i hpolled hfront hout hcache
  | handOver i f hf hpolled hfront hout hcache =>
    exact .handOver i f hf hpolled hfront hout hcache
  | drop i f before after hf hpolled hfront hfront' hout hcache =>
    exact .drop i f before after hf hpolled hfront hfront' hout hcache
  | leaveOut i f hf hpolled hfront hout hcache => exact .leaveOut i f hf hpolled hfront hout hcache
  | leaveCache i f hf hpolled hfront hout hcache =>
    exact .leaveCache i f hf hpolled hfront hout hcache

theorem moves_answer (reply : Nat → Option (List UInt16)) (net : NetworkState) :
    Moves t (t.answer reply net) none := by
  unfold answer
  split
  · rename_i cfg nowMs hpoll
    apply Moves.count
    apply Moves.count
    refine .join ?_ ?_ rfl rfl
    · simp [polled, Pipeline.answer, hpoll]
    · simp [front, Pipeline.answer, hpoll, PollTask.polls, polled]
  · exact moves_refl t

theorem moves_sendRaw : Moves t t.sendRaw (t.ends (.pipe .send)) := by
  cases hpoll : t.pipe.poll with
  | answered item =>
    simp only [sendRaw, ends, hpoll]
    split_ifs with hroom
    · refine .still ?_ ?_ rfl rfl
      · simp [polled, Pipeline.send, hpoll]
      · simp [front, Pipeline.send, hpoll, PollTask.polls, hroom]
    · apply Moves.count
      refine .drop item.poll .lost (t.publish.polls ++ t.origins ++ t.pipe.build.polls ++
        t.pipe.raw.map RawItem.poll) [] (.inr rfl) ?_ ?_ ?_ rfl rfl
      · simp [polled, Pipeline.send, hpoll]
      · simp [front, hpoll, PollTask.polls]
      · simp [front, Pipeline.send, hpoll, PollTask.polls, hroom]
  | _ => simpa only [sendRaw, ends, hpoll] using moves_refl t

theorem moves_receiveRaw : Moves t t.receiveRaw (t.ends (.pipe .receive)) := by
  unfold receiveRaw
  split
  · rename_i item rest hbuild hraw
    simp only [ends, hbuild, hraw]
    split_ifs with hvalid
    · refine .still ?_ ?_ rfl rfl
      · simp [polled, Pipeline.receive, hbuild, hraw]
      · simp [front, Pipeline.receive, hbuild, hraw, hvalid, BuildTask.polls]
    · apply Moves.count
      refine .drop item.poll .rejected (t.publish.polls ++ t.origins)
        (rest.map RawItem.poll ++ t.pipe.poll.polls) (.inl rfl) ?_ ?_ ?_ rfl rfl
      · simp [polled, Pipeline.receive, hbuild, hraw]
      · simp [front, hbuild, hraw, BuildTask.polls]
      · simp [front, Pipeline.receive, hbuild, hraw, hvalid, BuildTask.polls]
  · rename_i hidle
    have hnone : t.ends (.pipe .receive) = none := by
      unfold ends
      dsimp only
      split
      · rename_i item rest hbuild hraw
        exact absurd hraw (hidle item rest hbuild)
      · rfl
    rw [hnone]
    exact moves_refl t

theorem moves_build (env : BuildEnv) (net : NetworkState) :
    Moves t (t.build env net) (t.ends (.pipe (.build env net))) := by
  cases hbuild : t.pipe.build with
  | received item =>
    have hrejected (hnone : buildContext env net t.pipe.amm item.result = none) :
        Moves t { t with pipe := t.pipe.buildStep env net } (some (item.poll, .rejected)) := by
      refine .drop item.poll .rejected (t.publish.polls ++ t.origins)
        (t.pipe.raw.map RawItem.poll ++ t.pipe.poll.polls) (.inl rfl) ?_ ?_ ?_ rfl rfl
      · simp [polled, Pipeline.buildStep, hbuild, hnone]
      · simp [front, hbuild, BuildTask.polls]
      · simp [front, Pipeline.buildStep, hbuild, hnone, BuildTask.polls]
    simp only [build, ends, hbuild]
    split
    · rename_i hbase
      have hnone : buildContext env net t.pipe.amm item.result = none := by
        unfold buildContext
        rw [hbase]
      rw [hnone]
      exact (hrejected hnone).count _
    · cases hbuilt : buildContext env net t.pipe.amm item.result with
      | none => exact ((hrejected hbuilt).count _).count _
      | some built =>
        simp only [Option.isSome_some, if_true]
        apply Moves.count
        apply Moves.count
        refine .still ?_ ?_ rfl rfl
        · simp [polled, Pipeline.buildStep, hbuild, hbuilt]
        · simp [front, Pipeline.buildStep, hbuild, hbuilt, BuildTask.polls]
  | _ => simpa only [build, ends, hbuild] using moves_refl t

theorem moves_push : Moves t t.push (t.ends (.pipe .push)) := by
  cases hbuild : t.pipe.build with
  | stored ctx enriched poll =>
    simp only [push, ends, hbuild]
    split_ifs with hroom
    · refine .still ?_ ?_ rfl rfl
      · simp [polled, Pipeline.push, hbuild]
      · simp [front, Pipeline.push, hbuild, BuildTask.polls]
    · apply Moves.count
      refine .drop poll .lost (t.publish.polls ++ t.origins)
        (t.pipe.raw.map RawItem.poll ++ t.pipe.poll.polls) (.inr rfl) ?_ ?_ ?_ rfl rfl
      · simp [polled, Pipeline.push, hbuild]
      · simp [front, hbuild, BuildTask.polls]
      · simp [front, Pipeline.push, hbuild, BuildTask.polls]
  | _ => simpa only [push, ends, hbuild] using moves_refl t

theorem moves_pipeStep (a : PipelineStep) : Moves t (t.pipeStep a) (t.ends (.pipe a)) := by
  cases a with
  | mutate op => exact .still rfl rfl rfl rfl
  | copy =>
    refine .still ?_ ?_ rfl rfl
    · simp only [polled, pipeStep, Pipeline.copy]
      split <;> rfl
    · simp only [front, pipeStep, Pipeline.copy]
      split
      · rename_i hpoll
        simp [hpoll, PollTask.polls]
      · rfl
  | select nowMs =>
    refine .still ?_ ?_ rfl rfl
    · simp only [polled, pipeStep, Pipeline.select]
      split
      · split <;> rfl
      · rfl
    · simp only [front, pipeStep, Pipeline.select]
      split
      · rename_i hpoll
        split <;> simp [hpoll, PollTask.polls]
      · rfl
  | answer reply net => exact moves_answer t reply net
  | send => exact moves_sendRaw t
  | receive => exact moves_receiveRaw t
  | build env net => exact moves_build t env net
  | store =>
    refine .still ?_ ?_ rfl rfl
    · simp only [polled, pipeStep, Pipeline.store]
      split <;> rfl
    · simp only [front, pipeStep, Pipeline.store]
      split
      · rename_i hbuild
        simp [hbuild, BuildTask.polls]
      · rfl
  | push => exact moves_push t
  | publish => exact moves_refl t

theorem moves_receive : Moves t t.receive none := by
  unfold receive
  split
  · rename_i ctx contexts poll origins hpublish hcontexts horigins
    refine .still rfl ?_ rfl rfl
    simp [front, Pipeline.step, hpublish, horigins, PublishTask.polls]
  · exact moves_refl t

theorem moves_publishTaken (env : PublishEnv) :
    Moves t (t.publishTaken env) (t.ends (.publish env)) := by
  cases htaken : t.publish with
  | taken s =>
    have hidle (f : Fate) (hf : f = .unconfigured ∨ f = .handedOver ∨ f = .unserializable) :
        Moves t { t with publish := .idle } (some (s.poll, f)) := by
      refine .handOver s.poll f hf rfl ?_ rfl rfl
      simp [front, htaken, PublishTask.polls]
    have hstay (p : PublishTask) (hp : p.polls = [s.poll]) :
        Moves t { t with publish := p } none := by
      refine .still rfl ?_ rfl rfl
      simp only [front, htaken, hp]
      rfl
    simp only [ends, publishTaken, htaken]
    by_cases hoff : (!(env.runtime.mqtt.enabled && mqttConfigured env.runtime)) = true
    · simp only [if_pos hoff]
      exact hidle .unconfigured (.inl rfl)
    · simp only [if_neg hoff]
      by_cases hconnected : env.connected = false
      · simp only [if_pos hconnected]
        exact hstay (.caching s false) rfl
      · simp only [if_neg hconnected]
        by_cases hplatform : env.runtime.mqtt.platformType = .thingscloud
        · simp only [if_pos hplatform]
          by_cases hadapter : env.adapter = .ok
          · simp only [if_pos hadapter]
            exact (hidle .handedOver (.inr (.inl rfl))).count _
          · simp only [if_neg hadapter]
            exact hstay (.caching s true) rfl
        · simp only [if_neg hplatform]
          cases tcmSerializeJson env.lib s.ctx tcmMaxJsonLen with
          | none => exact (hidle .unserializable (.inr (.inr rfl))).count _
          | some payload =>
            by_cases hempty : payload.length = 0
            · simp only [if_pos hempty]
              exact (hidle .unserializable (.inr (.inr rfl))).count _
            · simp only [if_neg hempty]
              exact hstay (.sending ⟨outMessage env t.pipe.amm s.ctx payload, s⟩) rfl
  | _ => simpa only [publishTaken, ends, htaken] using moves_refl t

theorem moves_send : Moves t t.send none := by
  unfold send
  split
  · rename_i item hsending
    split
    · apply Moves.count
      refine .toOut item.sample.poll rfl ?_ ?_ rfl
      · simp [front, hsending, PublishTask.polls]
      · simp [outLine]
    · refine .still rfl ?_ rfl rfl
      simp [front, hsending, PublishTask.polls]
  · exact moves_refl t

theorem moves_cacheSend : Moves t t.cacheSend (t.ends .cache) := by
  cases hcaching : t.publish with
  | caching s failed =>
    simp only [cacheSend, ends, hcaching]
    by_cases hroom : t.cache.length < cacheQueueSize
    · have hsent : Moves t { t with publish := .idle, cache := t.cache ++ [s] } none := by
        refine .toCache s.poll rfl ?_ rfl ?_
        · simp [front, hcaching, PublishTask.polls]
        · simp [cacheLine]
      simp only [if_pos hroom]
      cases failed with
      | true => exact hsent.count _
      | false => exact hsent
    · simp only [if_neg hroom]
      apply Moves.count
      refine .drop s.poll .lost [] (t.origins ++ t.pipe.build.polls ++
        t.pipe.raw.map RawItem.poll ++ t.pipe.poll.polls) (.inr rfl) rfl ?_ ?_ rfl rfl
      · simp [front, hcaching, PublishTask.polls]
      · simp [front, PublishTask.polls]
  | _ => simpa only [cacheSend, ends, hcaching] using moves_refl t

theorem moves_mqttReceive : Moves t t.mqttReceive none := by
  unfold mqttReceive
  split
  · rename_i item rest hidle hout
    refine .still rfl rfl ?_ rfl
    simp [outLine, hidle, hout, MqttPublishTask.polls]
  · exact moves_refl t

theorem moves_mqttSend (connected accepted : Bool) :
    Moves t (t.mqttSend connected accepted) (t.ends (.mqttPublish connected accepted)) := by
  cases htaken : t.mqttPublish with
  | taken item =>
    simp only [mqttSend, ends, htaken]
    split_ifs with haccepted
    · refine .leaveOut item.sample.poll .published (.inl rfl) rfl rfl ?_ rfl
      simp [outLine, htaken, MqttPublishTask.polls]
    · refine .still rfl rfl ?_ rfl
      simp [outLine, htaken, MqttPublishTask.polls]
  | _ => simpa only [mqttSend, ends, htaken] using moves_refl t

theorem moves_mqttStore (env : PutEnv) : Moves t (t.mqttStore env) (t.ends (.mqttStore env)) := by
  cases hrefused : t.mqttPublish with
  | refused item =>
    simp only [mqttStore, ends, hrefused]
    apply Moves.count
    refine .leaveOut item.sample.poll _ (.inr ⟨_, rfl⟩) rfl rfl ?_ rfl
    simp [outLine, hrefused, MqttPublishTask.polls]
  | _ => simpa only [mqttStore, ends, hrefused] using moves_refl t

theorem moves_cacheReceive : Moves t t.cacheReceive none := by
  unfold cacheReceive
  split
  · rename_i s rest hidle hcache
    refine .still rfl rfl rfl ?_
    simp [cacheLine, hidle, hcache, CacheWriterTask.polls]
  · exact moves_refl t

theorem moves_cacheRecord (lib : JsonLib) (runtime : RuntimeConfig) (env : PutEnv) :
    Moves t (t.cacheRecord lib runtime env) (t.ends (.cacheRecord lib runtime env)) := by
  cases htaken : t.writer with
  | taken s =>
    have hleave (f : Fate) (hf : f = .cached ∨ f = .lost) (store : Store) :
        Moves t { t with writer := .idle, store := store } (some (s.poll, f)) := by
      refine .leaveCache s.poll f hf rfl rfl rfl ?_
      simp [cacheLine, htaken, CacheWriterTask.polls]
    simp only [cacheRecord, ends, htaken]
    split_ifs
    · exact (hleave .cached (.inl rfl) _).count _
    · exact (hleave .lost (.inr rfl) _).count _
  | _ => simpa only [cacheRecord, ends, htaken] using moves_refl t

theorem moves_step (a : TelemetryStep) : Moves t (t.step a) (t.ends a) := by
  cases a with
  | pipe a => exact moves_pipeStep t a
  | receive => exact moves_receive t
  | publish env => exact moves_publishTaken t env
  | send => exact moves_send t
  | cache => exact moves_cacheSend t
  | mqttReceive => exact moves_mqttReceive t
  | mqttPublish connected accepted => exact moves_mqttSend t connected accepted
  | mqttStore env => exact moves_mqttStore t env
  | cacheReceive => exact moves_cacheReceive t
  | cacheRecord lib runtime env => exact moves_cacheRecord t lib runtime env
  | replay store => exact .still rfl rfl rfl rfl
  | removeRefused id =>
    show Moves t (t.removeRefused id) none
    unfold removeRefused
    dsimp only
    split
    · exact .still rfl rfl rfl rfl
    · exact .still rfl rfl rfl rfl

end Steps

/-! ## The books -/

section Books

variable {t t' : Telemetry} {e : Option (Nat × Fate)}

theorem numbered_same (h : t'.polled = t.polled) : numbered polled t t' = [] := by
  unfold numbered
  rw [h, Nat.sub_self]
  rfl

theorem Moves.polled_le (h : Moves t t' e) : t.polled ≤ t'.polled := by
  cases h with
  | join hpolled => omega
  | still hpolled => exact hpolled.ge
  | toOut _ hpolled => exact hpolled.ge
  | toCache _ hpolled => exact hpolled.ge
  | handOver _ _ _ hpolled => exact hpolled.ge
  | drop _ _ _ _ _ hpolled => exact hpolled.ge
  | leaveOut _ _ _ hpolled => exact hpolled.ge
  | leaveCache _ _ _ hpolled => exact hpolled.ge

theorem Moves.perm (h : Moves t t' e) : ((e.map Prod.fst).toList ++ t'.underWay).Perm
    (t.underWay ++ numbered polled t t') := by
  unfold underWay
  cases h with
  | join hpolled hfront hout hcache =>
    rw [numbered_succ hpolled, hfront, hout, hcache]
    simp
  | still hpolled hfront hout hcache =>
    rw [numbered_same hpolled, hfront, hout, hcache]
    simp
  | toOut i hpolled hfront hout hcache =>
    rw [numbered_same hpolled, hfront, hout, hcache]
    simp
  | toCache i hpolled hfront hout hcache =>
    rw [numbered_same hpolled, hfront, hout, hcache]
    simp only [Option.map_none, Option.toList_none, List.nil_append, List.append_nil,
      List.append_assoc, List.singleton_append]
    exact List.Perm.append_left _ List.perm_middle.symm
  | handOver i f hf hpolled hfront hout hcache =>
    rw [numbered_same hpolled, hfront, hout, hcache]
    simp only [Option.map_some, Option.toList_some, List.singleton_append, List.append_nil]
    rw [← List.append_assoc, ← List.append_assoc]
    exact List.perm_middle.symm
  | drop i f before after hf hpolled hfront hfront' hout hcache =>
    rw [numbered_same hpolled, hfront, hfront', hout, hcache]
    simp only [Option.map_some, Option.toList_some, List.singleton_append, List.append_nil]
    simp only [← List.append_assoc]
    exact List.perm_middle.symm
  | leaveOut i f hf hpolled hfront hout hcache =>
    rw [numbered_same hpolled, hfront, hout, hcache]
    simp only [Option.map_some, Option.toList_some, List.append_nil, List.cons_append]
    have hmiddle : (t.cacheLine ++ i :: (t'.outLine ++ t.front)).Perm
        (i :: (t.cacheLine ++ (t'.outLine ++ t.front))) := List.perm_middle
    exact hmiddle.symm
  | leaveCache i f hf hpolled hfront hout hcache =>
    rw [numbered_same hpolled, hfront, hout, hcache]
    simp

/-- Where a poll waits that ends in this way, behind the first three tasks. -/
def lineTo : Fate → Telemetry → List Nat
  | .published, t => t.outLine
  | .cached, t => t.cacheLine
  | _, _ => []

/-- The polls on the way to one end stay in order, and the first of them is the next to
end there. -/
theorem Moves.sublist (h : Moves t t' e) {f : Fate}
    (hf : f = .published ∨ f = .cached ∨ f = .handedOver) :
    ((e.bind fun e => if e.2 = f then some e.1 else none).toList ++
        (lineTo f t' ++ t'.front)).Sublist
      (lineTo f t ++ t.front ++ numbered polled t t') := by
  have hline (hout : t'.outLine = t.outLine) (hcache : t'.cacheLine = t.cacheLine) :
      lineTo f t' = lineTo f t := by
    obtain rfl | rfl | rfl := hf
    · exact hout
    · exact hcache
    · rfl
  cases h with
  | still hpolled hfront hout hcache =>
    rw [hline hout hcache, hfront, numbered_same hpolled, List.append_nil]
    exact List.Sublist.refl _
  | join hpolled hfront hout hcache =>
    rw [hline hout hcache, hfront, numbered_succ hpolled, List.append_assoc]
    exact List.Sublist.refl _
  | toOut i hpolled hfront hout hcache =>
    rw [hfront, numbered_same hpolled, List.append_nil]
    obtain rfl | rfl | rfl := hf <;> simp [lineTo, hout, hcache]
  | toCache i hpolled hfront hout hcache =>
    rw [hfront, numbered_same hpolled, List.append_nil]
    obtain rfl | rfl | rfl := hf <;> simp [lineTo, hout, hcache]
  | handOver i f' hf' hpolled hfront hout hcache =>
    rw [hfront, numbered_same hpolled, List.append_nil, hline hout hcache]
    obtain rfl | rfl | rfl := hf <;> obtain rfl | rfl | rfl := hf' <;> simp [lineTo]
  | drop i f' before after hf' hpolled hfront hfront' hout hcache =>
    rw [hfront, hfront', numbered_same hpolled, List.append_nil, hline hout hcache]
    obtain rfl | rfl | rfl := hf <;> obtain rfl | rfl := hf' <;> simp
  | leaveOut i f' hf' hpolled hfront hout hcache =>
    rw [hfront, numbered_same hpolled, List.append_nil]
    obtain rfl | rfl | rfl := hf <;> obtain rfl | ⟨stored, rfl⟩ := hf' <;>
      simp [lineTo, hout, hcache]
  | leaveCache i f' hf' hpolled hfront hout hcache =>
    rw [hfront, numbered_same hpolled, List.append_nil]
    obtain rfl | rfl | rfl := hf <;> obtain rfl | rfl := hf' <;> simp [lineTo, hout, hcache]

end Books

/-! ## The counters -/

def counts : Metric → Fate → Bool
  | .contextsRejected, .rejected => true
  | .dataLossCount, .lost => true
  | .cachedRecords, .cached => true
  | .mqttFailed, .unserializable => true
  | .mqttFailed, .refused _ => true
  | _, _ => false

/-- What a counter counts besides: records that the cloud refuses for good, and samples that
the adapter refuses and the cache takes. -/
def countedBesides (m : Metric) (t : Telemetry) : TelemetryStep → Nat
  | .removeRefused id =>
    if m = .dataLossCount ∧ (offlineStoreRemove t.store id).1 = .ok then 1 else 0
  | .cache =>
    match t.publish with
    | .caching _ true => if m = .mqttFailed ∧ t.cache.length < cacheQueueSize then 1 else 0
    | _ => 0
  | _ => 0

def audited : List Metric := [.contextsRejected, .dataLossCount, .cachedRecords, .mqttFailed]

def tally (m : Metric) (t : Telemetry) : UInt32 := t.metrics m + UInt32.ofNat (t.skipped m)

theorem count_tally (t : Telemetry) {k : Metric} (hk : k.isReading = false) (m : Metric) :
    (t.count k).tally m = t.tally m + if m = k then 1 else 0 := by
  unfold tally count
  cases t.mutex t.increments with
  | true =>
    simp only [if_true]
    rw [evalIncrementMetric_name hk 1 t.metrics m, UInt32.add_assoc, UInt32.add_assoc,
      UInt32.add_comm (if m = k then 1 else 0)]
  | false =>
    simp only [evalIncrementMetric, if_true, Bool.false_eq_true, if_false]
    by_cases hm : m = k
    · subst hm
      rw [Function.update_self, if_pos rfl, UInt32.ofNat_add, UInt32.add_assoc]
      rfl
    · rw [Function.update_of_ne hm, if_neg hm, UInt32.add_zero]

section Counters

variable {m : Metric} (hm : m ∈ audited)

include hm

theorem count_quiet (u : Telemetry) {k : Metric} (hk : k ∉ audited) (hr : k.isReading = false) :
    (u.count k).tally m = u.tally m := by
  rw [count_tally u hr, if_neg fun (heq : m = k) => hk (heq ▸ hm), UInt32.add_zero]

theorem count_ended (u : Telemetry) {k : Metric} (f : Fate) (i : Nat)
    (hf : ∀ m ∈ audited, counts m f = decide (m = k)) (hr : k.isReading = false) :
    (u.count k).tally m =
      u.tally m + UInt32.ofNat (([(i, f)] : List (Nat × Fate)).countP fun e => counts m e.2) := by
  rw [count_tally u hr, List.countP_singleton]
  simp only [hf m hm, decide_eq_true_eq]
  split <;> rfl

theorem not_counted (u : Telemetry) {f : Fate} (i : Nat) (hf : ∀ m ∈ audited, counts m f = false) :
    u.tally m =
      u.tally m + UInt32.ofNat (([(i, f)] : List (Nat × Fate)).countP fun e => counts m e.2) := by
  rw [List.countP_singleton]
  simp only [hf m hm, Bool.false_eq_true, if_false]
  exact (UInt32.add_zero _).symm

variable (t : Telemetry)

theorem tally_pipeStep (a : PipelineStep) : (t.pipeStep a).tally m =
    t.tally m + UInt32.ofNat ((t.ends (.pipe a)).toList.countP fun e => counts m e.2) := by
  cases a with
  | answer reply net =>
    rw [show t.ends (.pipe (.answer reply net)) = none from rfl]
    simp only [pipeStep, answer]
    split
    · rw [count_quiet hm _ (by decide) rfl]
      split
      · exact (count_quiet hm _ (by decide) rfl).trans (UInt32.add_zero _).symm
      · exact (count_quiet hm _ (by decide) rfl).trans (UInt32.add_zero _).symm
    · exact (UInt32.add_zero _).symm
  | send =>
    simp only [pipeStep]
    cases hpoll : t.pipe.poll with
    | answered item =>
      simp only [sendRaw, ends, hpoll]
      split
      · exact (UInt32.add_zero _).symm
      · exact count_ended hm _ .lost item.poll (by decide) rfl
    | _ => simp [sendRaw, ends, hpoll]
  | receive =>
    simp only [pipeStep, receiveRaw]
    split
    · rename_i item rest hbuild hraw
      simp only [ends, hbuild, hraw]
      split
      · exact (UInt32.add_zero _).symm
      · exact count_ended hm _ .rejected item.poll (by decide) rfl
    · rename_i hidle
      have hnone : t.ends (.pipe .receive) = none := by
        unfold ends
        dsimp only
        split
        · rename_i item rest hbuild hraw
          exact absurd hraw (hidle item rest hbuild)
        · rfl
      rw [hnone]
      exact (UInt32.add_zero _).symm
  | build env net =>
    simp only [pipeStep]
    cases hbuild : t.pipe.build with
    | received item =>
      simp only [build, ends, hbuild]
      split
      · rename_i hbase
        have hnone : buildContext env net t.pipe.amm item.result = none := by
          unfold buildContext
          rw [hbase]
        rw [hnone]
        exact count_ended hm _ .rejected item.poll (by decide) rfl
      · cases hbuilt : buildContext env net t.pipe.amm item.result with
        | none =>
          refine (count_ended hm _ .rejected item.poll (by decide) rfl).trans ?_
          rw [count_quiet hm _ (by decide) rfl]
          rfl
        | some built =>
          refine (count_quiet hm _ (by decide) rfl).trans ?_
          exact (count_quiet hm _ (by decide) rfl).trans (UInt32.add_zero _).symm
    | _ => simp [build, ends, hbuild]
  | push =>
    simp only [pipeStep]
    cases hbuild : t.pipe.build with
    | stored ctx enriched poll =>
      simp only [push, ends, hbuild]
      split
      · exact (UInt32.add_zero _).symm
      · exact count_ended hm _ .lost poll (by decide) rfl
    | _ => simp [push, ends, hbuild]
  | _ => exact (UInt32.add_zero _).symm

theorem tally_publishTaken (env : PublishEnv) : (t.publishTaken env).tally m =
    t.tally m + UInt32.ofNat ((t.ends (.publish env)).toList.countP fun e => counts m e.2) := by
  cases htaken : t.publish with
  | taken s =>
    simp only [ends, publishTaken, htaken]
    by_cases hoff : (!(env.runtime.mqtt.enabled && mqttConfigured env.runtime)) = true
    · simp only [if_pos hoff]
      exact not_counted hm { t with publish := .idle } s.poll (by decide)
    · simp only [if_neg hoff]
      by_cases hconnected : env.connected = false
      · simp only [if_pos hconnected]
        exact (UInt32.add_zero _).symm
      · simp only [if_neg hconnected]
        by_cases hplatform : env.runtime.mqtt.platformType = .thingscloud
        · simp only [if_pos hplatform]
          by_cases hadapter : env.adapter = .ok
          · simp only [if_pos hadapter]
            refine (count_quiet hm _ (by decide) rfl).trans ?_
            exact not_counted hm { t with publish := .idle } s.poll (by decide)
          · simp only [if_neg hadapter]
            exact (UInt32.add_zero _).symm
        · simp only [if_neg hplatform]
          cases tcmSerializeJson env.lib s.ctx tcmMaxJsonLen with
          | none => exact count_ended hm _ .unserializable s.poll (by decide) rfl
          | some payload =>
            by_cases hempty : payload.length = 0
            · simp only [if_pos hempty]
              exact count_ended hm _ .unserializable s.poll (by decide) rfl
            · simp only [if_neg hempty]
              exact (UInt32.add_zero _).symm
  | _ => simp [ends, publishTaken, htaken]

theorem tally_cacheSend : t.cacheSend.tally m = t.tally m + UInt32.ofNat
    ((t.ends .cache).toList.countP (fun e => counts m e.2) + countedBesides m t .cache) := by
  cases hcaching : t.publish with
  | caching s failed =>
    simp only [cacheSend, ends, countedBesides, hcaching]
    by_cases hroom : t.cache.length < cacheQueueSize
    · simp only [if_pos hroom]
      cases failed with
      | true =>
        refine (count_tally _ rfl m).trans ?_
        simp only [hroom, and_true]
        split <;> rfl
      | false => exact (UInt32.add_zero _).symm
    · simp only [if_neg hroom]
      refine (count_ended hm _ .lost s.poll (by decide) rfl).trans ?_
      cases failed with
      | true => simp only [hroom, and_false, if_false]; rfl
      | false => rfl
  | _ => simp [ends, cacheSend, countedBesides, hcaching]

theorem tally_mqttSend (connected accepted : Bool) :
    (t.step (.mqttPublish connected accepted)).tally m = t.tally m + UInt32.ofNat
      ((t.ends (.mqttPublish connected accepted)).toList.countP fun e => counts m e.2) := by
  simp only [step]
  cases htaken : t.mqttPublish with
  | taken item =>
    simp only [ends, mqttSend, htaken]
    split
    · exact not_counted hm { t with mqttPublish := .idle } item.sample.poll (by decide)
    · exact (UInt32.add_zero _).symm
  | _ =>
    simp only [ends, mqttSend, htaken]
    exact (UInt32.add_zero _).symm

theorem tally_mqttStore (env : PutEnv) : (t.step (.mqttStore env)).tally m =
    t.tally m + UInt32.ofNat ((t.ends (.mqttStore env)).toList.countP fun e => counts m e.2) := by
  have hstored : ∀ stored, ∀ k ∈ audited, counts k (.refused stored) = decide (k = .mqttFailed) := by
    decide
  simp only [step]
  cases hrefused : t.mqttPublish with
  | refused item =>
    simp only [ends, mqttStore, hrefused]
    exact count_ended hm _ (.refused _) item.sample.poll (hstored _) rfl
  | _ =>
    simp only [ends, mqttStore, hrefused]
    exact (UInt32.add_zero _).symm

theorem tally_cacheRecord (lib : JsonLib) (runtime : RuntimeConfig) (env : PutEnv) :
    (t.step (.cacheRecord lib runtime env)).tally m = t.tally m + UInt32.ofNat
      ((t.ends (.cacheRecord lib runtime env)).toList.countP fun e => counts m e.2) := by
  simp only [step]
  cases htaken : t.writer with
  | taken s =>
    simp only [ends, cacheRecord, htaken]
    split
    · exact count_ended hm _ .cached s.poll (by decide) rfl
    · exact count_ended hm _ .lost s.poll (by decide) rfl
  | _ =>
    simp only [ends, cacheRecord, htaken]
    exact (UInt32.add_zero _).symm

theorem tally_step (a : TelemetryStep) : (t.step a).tally m = t.tally m + UInt32.ofNat
    ((t.ends a).toList.countP (fun e => counts m e.2) + countedBesides m t a) := by
  have hstill : t.tally m = t.tally m + UInt32.ofNat 0 := (UInt32.add_zero _).symm
  cases a with
  | pipe a => exact tally_pipeStep hm t a
  | receive =>
    simp only [step, receive]
    split
    · exact hstill
    · exact hstill
  | publish env => exact tally_publishTaken hm t env
  | send =>
    simp only [step, send]
    split
    · split
      · exact (count_quiet hm _ (by decide) rfl).trans hstill
      · exact hstill
    · exact hstill
  | cache => exact tally_cacheSend hm t
  | mqttReceive =>
    simp only [step, mqttReceive]
    split
    · exact hstill
    · exact hstill
  | mqttPublish connected accepted => exact tally_mqttSend hm t connected accepted
  | mqttStore env => exact tally_mqttStore hm t env
  | cacheReceive =>
    simp only [step, cacheReceive]
    split
    · exact hstill
    · exact hstill
  | cacheRecord lib runtime env => exact tally_cacheRecord hm t lib runtime env
  | replay store => exact hstill
  | removeRefused id =>
    simp only [step, removeRefused, countedBesides]
    split
    · rename_i hok
      refine (count_tally _ rfl m).trans ?_
      simp only [hok, and_true]
      split <;> rfl
    · rename_i hfailed
      simp only [hfailed, and_false, if_false]
      exact hstill

end Counters

end Telemetry

/-! ## What is on its way -/

/-- The sample is a context that was built from its poll. -/
def Sample.Built (log : List Poll) (s : Sample) : Prop :=
  ∃ p env net amm enriched, log[s.poll]? = some p ∧
    buildContext env net amm (pollResult p.entry p.regs) = some (enriched, s.ctx)

/-- The item is the message that a configuration and a table make of its sample. -/
def OutItem.Made (item : OutItem) : Prop :=
  ∃ (env : PublishEnv) (amm : AmmTable) (payload : CStr),
    tcmSerializeJson env.lib item.sample.ctx tcmMaxJsonLen = some payload ∧
      item.msg = Telemetry.outMessage env amm item.sample.ctx payload

theorem Sample.Built.grow {log : List Poll} {s : Sample} (h : s.Built log) (new : List Poll) :
    s.Built (log ++ new) := by
  obtain ⟨p, env, net, amm, enriched, hlog, hbuilt⟩ := h
  refine ⟨p, env, net, amm, enriched, ?_, hbuilt⟩
  rw [List.getElem?_append_left (List.getElem?_eq_some_iff.1 hlog).1]
  exact hlog

/-- The first two tasks and their queues. -/
structure PipeInv (s : Pipeline) (origins : List Nat) : Prop where
  raw : s.raw.length ≤ queueRawDataSize
  contexts : s.contexts.length ≤ queueContextSize
  paired : origins.length = s.contexts.length
  traced : ∀ item ∈ s.items, ∃ p, s.Traced item p
  building : ∀ ctx enriched poll,
    s.build = .built ctx enriched poll ∨ s.build = .stored ctx enriched poll →
      Sample.Built s.log ⟨ctx, poll⟩
  queued : ∀ c ∈ s.contexts.zip origins, Sample.Built s.log ⟨c.1, c.2⟩

section PipeSteps

variable {s : Pipeline} {origins : List Nat}

/-- A step that takes no poll further than it was. -/
theorem PipeInv.keep (h : PipeInv s origins) {s' : Pipeline} (hraw : s'.raw.length ≤ queueRawDataSize)
    (hcontexts : s'.contexts = s.contexts) (hlog : s'.log = s.log)
    (hitems : ∀ item ∈ s'.items, item ∈ s.items)
    (hbuild : ∀ ctx enriched poll,
      s'.build = .built ctx enriched poll ∨ s'.build = .stored ctx enriched poll →
        Sample.Built s.log ⟨ctx, poll⟩) : PipeInv s' origins where
  raw := hraw
  contexts := hcontexts ▸ h.contexts
  paired := hcontexts ▸ h.paired
  traced := by
    intro item hitem
    obtain ⟨p, hp⟩ := h.traced item (hitems item hitem)
    exact ⟨p, hlog ▸ hp.1, hp.2⟩
  building := hlog ▸ hbuild
  queued := by
    rw [hcontexts, hlog]
    exact h.queued

/-- A step of `modbus_poll_task` before a poll. -/
theorem PipeInv.same (h : PipeInv s origins) {s' : Pipeline} (hraw : s'.raw = s.raw)
    (hcontexts : s'.contexts = s.contexts) (hlog : s'.log = s.log) (hbuild : s'.build = s.build)
    (hitems : s'.items = s.items) : PipeInv s' origins := by
  refine h.keep (hraw ▸ h.raw) hcontexts hlog (fun item hitem => hitems ▸ hitem) ?_
  rw [hbuild]
  exact h.building

theorem PipeInv.answer (h : PipeInv s origins) (reply : Nat → Option (List UInt16))
    (net : NetworkState) : PipeInv (s.answer reply net) origins := by
  cases hpoll : s.poll with
  | selected cfg nowMs =>
    have hitems := items_answer s hpoll reply net
    simp only [Pipeline.answer, hpoll] at hitems ⊢
    refine ⟨h.raw, h.contexts, h.paired, ?_, ?_, ?_⟩
    · intro item hitem
      rw [hitems, List.mem_append, List.mem_singleton] at hitem
      rcases hitem with hold | rfl
      · obtain ⟨p, hp⟩ := h.traced item hold
        exact ⟨p, getElem?_concat_of_some hp.1, hp.2⟩
      · exact ⟨_, List.getElem?_concat_length, rfl⟩
    · exact fun ctx enriched poll hb => (h.building ctx enriched poll hb).grow _
    · exact fun c hc => (h.queued c hc).grow _
  | _ => simpa only [Pipeline.answer, hpoll] using h

theorem PipeInv.send (h : PipeInv s origins) : PipeInv s.send origins := by
  have hraw : s.send.raw.length ≤ queueRawDataSize ∧ s.send.contexts = s.contexts ∧
      s.send.log = s.log ∧ s.send.build = s.build := by
    unfold Pipeline.send
    split
    · dsimp only
      split_ifs with hroom
      · rw [List.length_append]
        exact ⟨hroom, rfl, rfl, rfl⟩
      · exact ⟨h.raw, rfl, rfl, rfl⟩
    · exact ⟨h.raw, rfl, rfl, rfl⟩
  refine h.keep hraw.1 hraw.2.1 hraw.2.2.1 ?_ ?_
  · intro item hitem
    rcases items_send s with heq | ⟨-, dropped, hpoll, heq⟩
    · exact heq ▸ hitem
    · rw [heq] at hitem
      exact List.mem_append_left _ hitem
  · rw [hraw.2.2.2]
    exact h.building

theorem PipeInv.receive (h : PipeInv s origins) : PipeInv s.receive origins := by
  have hitems : ∀ item ∈ s.receive.items, item ∈ s.items := by
    intro item hitem
    rcases items_receive s with heq | ⟨skipped, -, heq⟩
    · exact heq ▸ hitem
    · rw [heq]
      exact List.mem_cons_of_mem skipped hitem
  unfold Pipeline.receive at hitems ⊢
  split at hitems
  · rename_i item rest hbuild hraw
    refine h.keep ?_ rfl rfl hitems ?_
    · have hlength := h.raw
      rw [hraw, List.length_cons] at hlength
      exact (Nat.le_succ _).trans hlength
    · intro ctx enriched poll hb
      dsimp only at hb
      split at hb
      · rcases hb with hb | hb <;> cases hb
      · rcases hb with hb | hb <;> cases hb
  · exact h

theorem PipeInv.buildStep (h : PipeInv s origins) (env : BuildEnv) (net : NetworkState) :
    PipeInv (s.buildStep env net) origins := by
  cases hbuild : s.build with
  | received item =>
    have hitems := items_build s hbuild env net
    obtain ⟨p, hlog, hresult⟩ := h.traced item (hitems ▸ List.mem_cons_self)
    have hrest : ∀ x ∈ (s.buildStep env net).items, x ∈ s.items := by
      intro x hx
      rw [hitems]
      exact List.mem_cons_of_mem item hx
    simp only [Pipeline.buildStep, hbuild] at hrest ⊢
    cases hbuilt : buildContext env net s.amm item.result with
    | none =>
      rw [hbuilt] at hrest
      refine h.keep h.raw rfl rfl hrest ?_
      intro ctx enriched poll hb
      rcases hb with hb | hb <;> cases hb
    | some built =>
      rw [hbuilt] at hrest
      refine h.keep h.raw rfl rfl hrest ?_
      intro ctx enriched poll hb
      rcases hb with hb | hb
      · cases hb
        exact ⟨p, env, net, s.amm, built.1, hlog, hresult ▸ hbuilt⟩
      · cases hb
  | _ => simpa only [Pipeline.buildStep, hbuild] using h

theorem PipeInv.store (h : PipeInv s origins) : PipeInv s.store origins := by
  have hitems : ∀ item ∈ s.store.items, item ∈ s.items := fun item hitem => items_store s ▸ hitem
  cases hbuild : s.build with
  | built ctx enriched poll =>
    simp only [Pipeline.store, hbuild] at hitems ⊢
    refine h.keep h.raw rfl rfl hitems ?_
    intro ctx' enriched' poll' hb
    rcases hb with hb | hb
    · cases hb
    · cases hb
      exact h.building ctx enriched poll (.inl hbuild)
  | _ => simpa only [Pipeline.store, hbuild] using h

theorem PipeInv.push (h : PipeInv s origins) {ctx : TcmContext} {enriched : EspErr} {poll : Nat}
    (hbuild : s.build = .stored ctx enriched poll) : PipeInv s.push
      (if s.contexts.length < queueContextSize then origins ++ [poll] else origins) := by
  have hitems : ∀ item ∈ s.push.items, item ∈ s.items := fun item hitem => items_push s ▸ hitem
  simp only [Pipeline.push, hbuild] at hitems ⊢
  have hidle : ∀ ctx enriched poll, BuildTask.idle = .built ctx enriched poll ∨
      BuildTask.idle = .stored ctx enriched poll → Sample.Built s.log ⟨ctx, poll⟩ := by
    intro ctx enriched poll hb
    rcases hb with hb | hb <;> cases hb
  by_cases hroom : s.contexts.length < queueContextSize
  · simp only [if_pos hroom] at hitems ⊢
    refine ⟨h.raw, ?_, ?_, fun item hitem => h.traced item (hitems item hitem), hidle, ?_⟩
    · rw [List.length_append]
      exact hroom
    · rw [List.length_append, List.length_append, h.paired]
      rfl
    · rw [List.zip_append h.paired.symm]
      intro c hc
      rcases List.mem_append.1 hc with hold | hnew
      · exact h.queued c hold
      · rw [List.mem_singleton.1 hnew]
        exact h.building ctx enriched poll (.inr hbuild)
  · simp only [if_neg hroom] at hitems ⊢
    exact h.keep h.raw rfl rfl hitems hidle

theorem PipeInv.pop (h : PipeInv s origins) : PipeInv (s.step .publish) origins.tail where
  raw := h.raw
  contexts := by
    show s.contexts.tail.length ≤ _
    rw [List.length_tail]
    exact (Nat.sub_le _ _).trans h.contexts
  paired := by
    show _ = s.contexts.tail.length
    rw [List.length_tail, List.length_tail, h.paired]
  traced := h.traced
  building := h.building
  queued := by
    intro c hc
    have hzip : s.contexts.tail.zip origins.tail = (s.contexts.zip origins).tail := by
      cases s.contexts <;> cases origins <;> simp
    exact h.queued c (List.mem_of_mem_tail (hzip ▸ hc))

theorem PipeInv.pipeStep {t : Telemetry} (h : PipeInv t.pipe t.origins) (a : PipelineStep) :
    PipeInv (t.pipeStep a).pipe (t.pipeStep a).origins := by
  cases a with
  | mutate op => exact ⟨h.raw, h.contexts, h.paired, h.traced, h.building, h.queued⟩
  | copy =>
    have hframe : t.pipe.copy.raw = t.pipe.raw ∧ t.pipe.copy.contexts = t.pipe.contexts ∧
        t.pipe.copy.log = t.pipe.log ∧ t.pipe.copy.build = t.pipe.build := by
      unfold Pipeline.copy
      split <;> exact ⟨rfl, rfl, rfl, rfl⟩
    exact h.same hframe.1 hframe.2.1 hframe.2.2.1 hframe.2.2.2 (items_copy t.pipe)
  | select nowMs =>
    have hframe : (t.pipe.select nowMs).raw = t.pipe.raw ∧
        (t.pipe.select nowMs).contexts = t.pipe.contexts ∧
        (t.pipe.select nowMs).log = t.pipe.log ∧ (t.pipe.select nowMs).build = t.pipe.build := by
      unfold Pipeline.select
      split
      · split <;> exact ⟨rfl, rfl, rfl, rfl⟩
      · exact ⟨rfl, rfl, rfl, rfl⟩
    exact h.same hframe.1 hframe.2.1 hframe.2.2.1 hframe.2.2.2 (items_select t.pipe nowMs)
  | answer reply net =>
    simp only [Telemetry.pipeStep, Telemetry.answer]
    split
    · exact h.answer reply net
    · exact h
  | send =>
    simp only [Telemetry.pipeStep, Telemetry.sendRaw]
    split
    · split
      · exact h.send
      · exact h.send
    · exact h
  | receive =>
    simp only [Telemetry.pipeStep, Telemetry.receiveRaw]
    split
    · split
      · exact h.receive
      · exact h.receive
    · exact h
  | build env net =>
    simp only [Telemetry.pipeStep, Telemetry.build]
    split
    · split
      · exact h.buildStep env net
      · split
        · exact h.buildStep env net
        · exact h.buildStep env net
    · exact h
  | store => exact h.store
  | push =>
    simp only [Telemetry.pipeStep, Telemetry.push]
    split
    · rename_i ctx enriched poll hbuild
      have hpushed := h.push hbuild
      split
      · rename_i hroom
        rwa [if_pos hroom] at hpushed
      · rename_i hfull
        rwa [if_neg hfull] at hpushed
    · exact h
  | publish => exact h

end PipeSteps

/-! ## What is behind the context queue -/

def OutItem.Ok (log : List Poll) (item : OutItem) : Prop := item.sample.Built log ∧ item.Made

def PublishTask.Ok (log : List Poll) : PublishTask → Prop
  | .idle => True
  | .taken s | .caching s _ => s.Built log
  | .sending item => item.Ok log

def MqttPublishTask.Ok (log : List Poll) : MqttPublishTask → Prop
  | .idle => True
  | .taken item | .refused item => item.Ok log

def CacheWriterTask.Ok (log : List Poll) : CacheWriterTask → Prop
  | .idle => True
  | .taken s => s.Built log

namespace Telemetry

/-- The last three tasks and their queues. -/
structure TailInv (t : Telemetry) : Prop where
  publish : t.publish.Ok t.pipe.log
  out : ∀ item ∈ t.out, item.Ok t.pipe.log
  outLength : t.out.length ≤ queueMqttOutSize
  mqttPublish : t.mqttPublish.Ok t.pipe.log
  cache : ∀ s ∈ t.cache, s.Built t.pipe.log
  cacheLength : t.cache.length ≤ cacheQueueSize
  writer : t.writer.Ok t.pipe.log

/-- The first two tasks touch nothing behind the context queue, and polls are only added. -/
structure PipeFrame (t t' : Telemetry) : Prop where
  publish : t'.publish = t.publish
  out : t'.out = t.out
  mqttPublish : t'.mqttPublish = t.mqttPublish
  cache : t'.cache = t.cache
  writer : t'.writer = t.writer
  log : ∃ new, t'.pipe.log = t.pipe.log ++ new

section TailSteps

variable {t : Telemetry}

theorem PipeFrame.of_log {t' : Telemetry} (hlog : t'.pipe.log = t.pipe.log)
    (hpublish : t'.publish = t.publish) (hout : t'.out = t.out)
    (hmqtt : t'.mqttPublish = t.mqttPublish) (hcache : t'.cache = t.cache)
    (hwriter : t'.writer = t.writer) : PipeFrame t t' :=
  ⟨hpublish, hout, hmqtt, hcache, hwriter, [], hlog.trans (List.append_nil _).symm⟩

theorem pipeStep_frame (t : Telemetry) (a : PipelineStep) : PipeFrame t (t.pipeStep a) := by
  cases a with
  | answer reply net =>
    simp only [pipeStep, answer]
    split
    · rename_i cfg nowMs hpoll
      refine ⟨rfl, rfl, rfl, rfl, rfl, [⟨cfg, pollRead cfg reply⟩], ?_⟩
      simp [Pipeline.answer, hpoll]
    · exact .of_log rfl rfl rfl rfl rfl rfl
  | copy =>
    refine .of_log ?_ rfl rfl rfl rfl rfl
    simp only [pipeStep, Pipeline.copy]
    split <;> rfl
  | select nowMs =>
    refine .of_log ?_ rfl rfl rfl rfl rfl
    simp only [pipeStep, Pipeline.select]
    split
    · split <;> rfl
    · rfl
  | send =>
    have hlog : t.pipe.send.log = t.pipe.log := by
      unfold Pipeline.send
      split <;> rfl
    simp only [pipeStep, sendRaw]
    split
    · split <;> exact .of_log hlog rfl rfl rfl rfl rfl
    · exact .of_log rfl rfl rfl rfl rfl rfl
  | receive =>
    have hlog : t.pipe.receive.log = t.pipe.log := by
      unfold Pipeline.receive
      split <;> rfl
    simp only [pipeStep, receiveRaw]
    split
    · split <;> exact .of_log hlog rfl rfl rfl rfl rfl
    · exact .of_log rfl rfl rfl rfl rfl rfl
  | build env net =>
    have hlog : (t.pipe.buildStep env net).log = t.pipe.log := by
      unfold Pipeline.buildStep
      split
      · split <;> rfl
      · rfl
    simp only [pipeStep, build]
    split
    · split
      · exact .of_log hlog rfl rfl rfl rfl rfl
      · split <;> exact .of_log hlog rfl rfl rfl rfl rfl
    · exact .of_log rfl rfl rfl rfl rfl rfl
  | store =>
    refine .of_log ?_ rfl rfl rfl rfl rfl
    simp only [pipeStep, Pipeline.store]
    split <;> rfl
  | push =>
    have hlog : t.pipe.push.log = t.pipe.log := by
      unfold Pipeline.push
      split <;> rfl
    simp only [pipeStep, push]
    split
    · split <;> exact .of_log hlog rfl rfl rfl rfl rfl
    · exact .of_log rfl rfl rfl rfl rfl rfl
  | _ => exact .of_log rfl rfl rfl rfl rfl rfl

theorem TailInv.frame (h : TailInv t) {t' : Telemetry} (hf : PipeFrame t t') : TailInv t' := by
  obtain ⟨new, hlog⟩ := hf.log
  have hok {item : OutItem} (hi : item.Ok t.pipe.log) : item.Ok (t.pipe.log ++ new) :=
    ⟨hi.1.grow new, hi.2⟩
  refine ⟨?_, ?_, hf.out ▸ h.outLength, ?_, ?_, hf.cache ▸ h.cacheLength, ?_⟩
  · have hp := h.publish
    rw [hf.publish, hlog]
    cases hpublish : t.publish with
    | idle => trivial
    | taken s =>
      rw [hpublish] at hp
      exact Sample.Built.grow hp new
    | caching s failed =>
      rw [hpublish] at hp
      exact Sample.Built.grow hp new
    | sending item =>
      rw [hpublish] at hp
      exact hok hp
  · rw [hf.out, hlog]
    exact fun item hi => hok (h.out item hi)
  · have hp := h.mqttPublish
    rw [hf.mqttPublish, hlog]
    cases hpublish : t.mqttPublish with
    | idle => trivial
    | taken item =>
      rw [hpublish] at hp
      exact hok hp
    | refused item =>
      rw [hpublish] at hp
      exact hok hp
  · rw [hf.cache, hlog]
    exact fun s hs => (h.cache s hs).grow new
  · have hp := h.writer
    rw [hf.writer, hlog]
    cases hwriter : t.writer with
    | idle => trivial
    | taken s =>
      rw [hwriter] at hp
      exact Sample.Built.grow hp new

theorem TailInv.receive (h : TailInv t) (hpipe : PipeInv t.pipe t.origins) : TailInv t.receive := by
  unfold Telemetry.receive
  split
  · rename_i ctx contexts poll origins hpublish hcontexts horigins
    have hnew : Sample.Built t.pipe.log ⟨ctx, poll⟩ := by
      refine hpipe.queued (ctx, poll) ?_
      rw [hcontexts, horigins]
      exact List.mem_cons_self
    exact ⟨hnew, h.out, h.outLength, h.mqttPublish, h.cache, h.cacheLength, h.writer⟩
  · exact h

theorem TailInv.publish_of (h : TailInv t) {p : PublishTask} (hp : p.Ok t.pipe.log) :
    TailInv { t with publish := p } :=
  ⟨hp, h.out, h.outLength, h.mqttPublish, h.cache, h.cacheLength, h.writer⟩

theorem TailInv.count (h : TailInv t) (m : Metric) : TailInv (t.count m) :=
  ⟨h.publish, h.out, h.outLength, h.mqttPublish, h.cache, h.cacheLength, h.writer⟩

theorem TailInv.publishTaken (h : TailInv t) (env : PublishEnv) : TailInv (t.publishTaken env) := by
  cases htaken : t.publish with
  | taken s =>
    have hbuilt : s.Built t.pipe.log := by
      have hp := h.publish
      rwa [htaken] at hp
    have hidle : TailInv { t with publish := .idle } := h.publish_of trivial
    simp only [Telemetry.publishTaken, htaken]
    split
    · exact hidle
    · split
      · exact h.publish_of hbuilt
      · split
        · split
          · exact hidle.count _
          · exact h.publish_of hbuilt
        · split
          · exact hidle.count _
          · rename_i payload hpayload
            split
            · exact hidle.count _
            · exact h.publish_of ⟨hbuilt, env, t.pipe.amm, payload, hpayload, rfl⟩
  | _ => simpa only [Telemetry.publishTaken, htaken] using h

theorem TailInv.send (h : TailInv t) : TailInv t.send := by
  cases hsending : t.publish with
  | sending item =>
    have hok : item.Ok t.pipe.log := by
      have hp := h.publish
      rwa [hsending] at hp
    simp only [Telemetry.send, hsending]
    split
    · rename_i hroom
      apply TailInv.count
      refine ⟨trivial, ?_, ?_, h.mqttPublish, h.cache, h.cacheLength, h.writer⟩
      · intro x hx
        rcases List.mem_append.1 hx with hold | hnew
        · exact h.out x hold
        · rw [List.mem_singleton.1 hnew]
          exact hok
      · rw [List.length_append]
        exact hroom
    · exact h.publish_of hok.1
  | _ => simpa only [Telemetry.send, hsending] using h

theorem TailInv.cacheSend (h : TailInv t) : TailInv t.cacheSend := by
  cases hcaching : t.publish with
  | caching s failed =>
    have hbuilt : s.Built t.pipe.log := by
      have hp := h.publish
      rwa [hcaching] at hp
    simp only [Telemetry.cacheSend, hcaching]
    split
    · rename_i hroom
      have hsent : TailInv { t with publish := .idle, cache := t.cache ++ [s] } := by
        refine ⟨trivial, h.out, h.outLength, h.mqttPublish, ?_, ?_, h.writer⟩
        · intro x hx
          rcases List.mem_append.1 hx with hold | hnew
          · exact h.cache x hold
          · rw [List.mem_singleton.1 hnew]
            exact hbuilt
        · rw [List.length_append]
          exact hroom
      split
      · exact hsent.count _
      · exact hsent
    · have hidle : TailInv { t with publish := .idle } := h.publish_of trivial
      exact hidle.count _
  | _ => simpa only [Telemetry.cacheSend, hcaching] using h

theorem TailInv.mqttReceive (h : TailInv t) : TailInv t.mqttReceive := by
  unfold Telemetry.mqttReceive
  split
  · rename_i item rest hidle hout
    have hlength := h.outLength
    rw [hout, List.length_cons] at hlength
    refine ⟨h.publish, ?_, (Nat.le_succ _).trans hlength, ?_, h.cache, h.cacheLength, h.writer⟩
    · exact fun x hx => h.out x (hout ▸ List.mem_cons_of_mem item hx)
    · exact h.out item (hout ▸ List.mem_cons_self)
  · exact h

theorem TailInv.mqttSend (h : TailInv t) (connected accepted : Bool) :
    TailInv (t.mqttSend connected accepted) := by
  cases htaken : t.mqttPublish with
  | taken item =>
    have hok : item.Ok t.pipe.log := by
      have hp := h.mqttPublish
      rwa [htaken] at hp
    simp only [Telemetry.mqttSend, htaken]
    split
    · exact ⟨h.publish, h.out, h.outLength, trivial, h.cache, h.cacheLength, h.writer⟩
    · exact ⟨h.publish, h.out, h.outLength, hok, h.cache, h.cacheLength, h.writer⟩
  | _ => simpa only [Telemetry.mqttSend, htaken] using h

theorem TailInv.cacheReceive (h : TailInv t) : TailInv t.cacheReceive := by
  unfold Telemetry.cacheReceive
  split
  · rename_i s rest hidle hcache
    have hlength := h.cacheLength
    rw [hcache, List.length_cons] at hlength
    refine ⟨h.publish, h.out, h.outLength, h.mqttPublish, ?_, (Nat.le_succ _).trans hlength, ?_⟩
    · exact fun x hx => h.cache x (hcache ▸ List.mem_cons_of_mem s hx)
    · exact h.cache s (hcache ▸ List.mem_cons_self)
  · exact h

end TailSteps

structure Inv (t : Telemetry) : Prop where
  pipe : PipeInv t.pipe t.origins
  tail : TailInv t

theorem inv_start (amm : AmmTable) (pool : StatePool) (store : Store) (mutex : Nat → Bool) :
    Inv (start amm pool store mutex) := by
  refine ⟨⟨Nat.zero_le _, Nat.zero_le _, rfl, ?_, ?_, ?_⟩, ⟨trivial, ?_, Nat.zero_le _, trivial, ?_,
    Nat.zero_le _, trivial⟩⟩
  · exact fun item hitem => absurd hitem List.not_mem_nil
  · intro ctx enriched poll hb
    rcases hb with hb | hb <;> cases hb
  · exact fun c hc => absurd hc List.not_mem_nil
  · exact fun item hi => absurd hi List.not_mem_nil
  · exact fun s hs => absurd hs List.not_mem_nil

/-- `publish_task` takes the first context of the queue. -/
theorem pipeInv_receive {t : Telemetry} (h : PipeInv t.pipe t.origins) :
    PipeInv t.receive.pipe t.receive.origins := by
  unfold receive
  split
  · rename_i ctx contexts poll origins hpublish hcontexts horigins
    have hpopped := h.pop
    rwa [horigins] at hpopped
  · exact h

/-- The last three tasks leave the first two alone. -/
theorem publishTaken_pipe (t : Telemetry) (env : PublishEnv) :
    (t.publishTaken env).pipe = t.pipe ∧ (t.publishTaken env).origins = t.origins := by
  unfold publishTaken
  split
  · dsimp only
    repeat' split
    all_goals exact ⟨rfl, rfl⟩
  · exact ⟨rfl, rfl⟩

theorem cacheSend_pipe (t : Telemetry) :
    t.cacheSend.pipe = t.pipe ∧ t.cacheSend.origins = t.origins := by
  unfold cacheSend
  split
  · dsimp only
    repeat' split
    all_goals exact ⟨rfl, rfl⟩
  · exact ⟨rfl, rfl⟩

theorem send_pipe (t : Telemetry) : t.send.pipe = t.pipe ∧ t.send.origins = t.origins := by
  unfold send
  split
  · split <;> exact ⟨rfl, rfl⟩
  · exact ⟨rfl, rfl⟩

theorem mqttReceive_pipe (t : Telemetry) :
    t.mqttReceive.pipe = t.pipe ∧ t.mqttReceive.origins = t.origins := by
  unfold mqttReceive
  split <;> exact ⟨rfl, rfl⟩

theorem mqttSend_pipe (t : Telemetry) (connected accepted : Bool) :
    (t.mqttSend connected accepted).pipe = t.pipe ∧
      (t.mqttSend connected accepted).origins = t.origins := by
  unfold mqttSend
  split
  · split <;> exact ⟨rfl, rfl⟩
  · exact ⟨rfl, rfl⟩

theorem cacheReceive_pipe (t : Telemetry) :
    t.cacheReceive.pipe = t.pipe ∧ t.cacheReceive.origins = t.origins := by
  unfold cacheReceive
  split <;> exact ⟨rfl, rfl⟩

theorem Inv.of_tail {t t' : Telemetry} (h : Inv t) (hsame : t'.pipe = t.pipe ∧ t'.origins = t.origins)
    (htail : TailInv t') : Inv t' := by
  refine ⟨?_, htail⟩
  rw [hsame.1, hsame.2]
  exact h.pipe

theorem inv_step {t : Telemetry} (h : Inv t) (a : TelemetryStep) : Inv (t.step a) := by
  cases a with
  | pipe a => exact ⟨h.pipe.pipeStep a, h.tail.frame (pipeStep_frame t a)⟩
  | receive => exact ⟨pipeInv_receive h.pipe, h.tail.receive h.pipe⟩
  | publish env => exact h.of_tail (publishTaken_pipe t env) (h.tail.publishTaken env)
  | send => exact h.of_tail (send_pipe t) h.tail.send
  | cache => exact h.of_tail (cacheSend_pipe t) h.tail.cacheSend
  | mqttReceive => exact h.of_tail (mqttReceive_pipe t) h.tail.mqttReceive
  | mqttPublish connected accepted =>
    exact h.of_tail (mqttSend_pipe t connected accepted) (h.tail.mqttSend connected accepted)
  | mqttStore env =>
    simp only [step, mqttStore]
    split
    · obtain ⟨hpublish, hout, hlength, -, hcache, hcacheLength, hwriter⟩ := h.tail
      exact ⟨h.pipe, hpublish, hout, hlength, trivial, hcache, hcacheLength, hwriter⟩
    · exact h
  | cacheReceive => exact h.of_tail (cacheReceive_pipe t) h.tail.cacheReceive
  | cacheRecord lib runtime env =>
    have htail : ∀ store, TailInv { t with writer := .idle, store := store } := by
      intro store
      obtain ⟨hpublish, hout, hlength, hmqtt, hcache, hcacheLength, -⟩ := h.tail
      exact ⟨hpublish, hout, hlength, hmqtt, hcache, hcacheLength, trivial⟩
    simp only [step, cacheRecord]
    split
    · split
      · exact ⟨h.pipe, (htail _).count _⟩
      · exact ⟨h.pipe, (htail _).count _⟩
    · exact h
  | replay store => exact ⟨h.pipe, h.tail.frame (.of_log rfl rfl rfl rfl rfl rfl)⟩
  | removeRefused id =>
    simp only [step, removeRefused]
    split
    · exact ⟨h.pipe, h.tail.frame (.of_log rfl rfl rfl rfl rfl rfl)⟩
    · exact ⟨h.pipe, h.tail.frame (.of_log rfl rfl rfl rfl rfl rfl)⟩

section Runs

variable (amm : AmmTable) (pool : StatePool) (store : Store) (mutex : Nat → Bool)
  (as : List TelemetryStep)

theorem inv_reached : Inv (run step (start amm pool store mutex) as) := by
  have hkeep : ∀ t a, Inv t → True → Inv (step t a) := fun _ a h _ => inv_step h a
  exact inv_run hkeep (inv_start amm pool store mutex) (allSteps_of_forall (fun _ _ => trivial) _)

theorem Inv.underWay_length {t : Telemetry} (h : Inv t) : t.underWay.length ≤ 37 := by
  have hraw := h.pipe.raw
  have hcontexts := h.pipe.contexts
  have hpaired := h.pipe.paired
  have hout := h.tail.outLength
  have hcache := h.tail.cacheLength
  have hpoll : t.pipe.poll.polls.length ≤ 1 := by
    cases t.pipe.poll <;> simp [PollTask.polls]
  have hbuild : t.pipe.build.polls.length ≤ 1 := by
    cases t.pipe.build <;> simp [BuildTask.polls]
  have hpublish : t.publish.polls.length ≤ 1 := by
    cases t.publish <;> simp [PublishTask.polls]
  have hmqtt : t.mqttPublish.polls.length ≤ 1 := by
    cases t.mqttPublish <;> simp [MqttPublishTask.polls]
  have hwriter : t.writer.polls.length ≤ 1 := by
    cases t.writer <;> simp [CacheWriterTask.polls]
  simp only [underWay, cacheLine, outLine, front, List.length_append, List.length_map]
  simp only [queueRawDataSize, queueContextSize, queueMqttOutSize, cacheQueueSize] at *
  omega

theorem books_perm_step (t : Telemetry) (a : TelemetryStep) :
    Books step underWay polled (fun t a => (t.ends a).map Prod.fst) List.Perm t a :=
  ⟨(moves_step t a).polled_le, (moves_step t a).perm⟩

end Runs

end Telemetry

open Telemetry

/-- **Every poll is accounted for.** In every run of the five tasks, each finished poll has
ended in exactly one way or is in exactly one of the tasks and their queues, which hold 37 at
most. Each audited counter, with the increments that it missed, is the number of the polls that
ended in its way and of what it counts besides: the records that the cloud refuses for good are
lost, too, and the samples that the adapter refuses and the cache takes are failed. -/
theorem every_poll_accounted (amm : AmmTable) (pool : StatePool) (store : Store)
    (mutex : Nat → Bool) (as : List TelemetryStep) :
    let s := Telemetry.start amm pool store mutex
    let t := run Telemetry.step s as
    let ended := outputs Telemetry.step ends s as
    (ended.map Prod.fst ++ t.underWay).Perm (List.range t.polled) ∧
      t.underWay.length ≤ 37 ∧
      ∀ m ∈ audited, t.metrics m + UInt32.ofNat (t.skipped m) =
        UInt32.ofNat (ended.countP (fun e => counts m e.2) +
          total Telemetry.step (countedBesides m) s as) := by
  intro s t ended
  refine ⟨?_, (inv_reached amm pool store mutex as).underWay_length, fun m hm => ?_⟩
  · have hbooks := books_perm (allSteps_of_all books_perm_step s as) rfl rfl
    rw [outputs_map] at hbooks
    exact hbooks
  · have hcounter := counter_run (Telemetry.tally m) (allSteps_of_all (tally_step hm) s as)
    rw [total_add, total_countP] at hcounter
    exact hcounter.trans (UInt32.zero_add _)

namespace Telemetry

end Telemetry

end McpGateway.Scheduler
