import McpGateway.Mqtt.Lifecycle

/-!
# Messages reach the handler of the configuration

A restart empties the subscription table and fills it again while messages still come in.
`dispatch_follows_configuration` says which callback a message can reach at any time.
-/

namespace McpGateway.Mqtt

open McpGateway.Lib McpGateway.Runtime

def route (runtime : RuntimeConfig) (topic : CStr) : Option Callback :=
  if runtime.mqtt.platformType = .thingscloud then
    if topic = attributesResponseTopic then some .attributesResponse
    else if topic = attributesPushTopic then some .gatewayAttributesPush
    else if runtime.mqtt.reportMode ≠ .subdevice then none
    else if topic = gatewayAttributesResponseTopic then some .gatewayAttributesResponse
    else if topic = gatewayAttributesPushTopic then some .attributesPush
    else if topic = gatewayCommandSendTopic then some .commandSend
    else none
  else
    let filter := runtime.mqtt.commandPrefix.str ++ runtime.gatewayId.str
    if topic = filter ∨ filter.getLast? = some '#' ∧ filter.dropLast <+: topic then some .command
    else none

/-- A lookup passes an entry whose filter is another topic. -/
theorem find_plain {topic filter : CStr} (qos : Nat) (cb : Callback) (rest : List Subscription)
    (hplain : filter.getLast? ≠ some '#') :
    (mqttFindSubscription topic (⟨filter, qos, cb, true⟩ :: rest)).map Subscription.callback =
      if topic = filter then some cb
      else (mqttFindSubscription topic rest).map Subscription.callback := by
  have htakes := takes_plain ⟨filter, qos, cb, true⟩ topic rfl hplain
  split_ifs with heq
  · have hfound : mqttFindSubscription topic (⟨filter, qos, cb, true⟩ :: rest) =
        some ⟨filter, qos, cb, true⟩ := List.find?_cons_of_pos (htakes.2 heq.symm)
    rw [hfound]
    rfl
  · have hpassed : mqttFindSubscription topic (⟨filter, qos, cb, true⟩ :: rest) =
        mqttFindSubscription topic rest :=
      List.find?_cons_of_neg fun ht => heq (htakes.1 ht).symm
    rw [hpassed]

theorem find_runtime (runtime : RuntimeConfig) (topic : CStr) :
    (mqttFindSubscription topic (runtimeSubscriptions runtime)).map Subscription.callback =
      route runtime topic := by
  unfold runtimeSubscriptions route
  by_cases htc : runtime.mqtt.platformType = .thingscloud
  · rw [if_pos htc, if_pos htc]
    by_cases hmode : runtime.mqtt.reportMode = .subdevice
    · rw [if_pos hmode, if_neg (not_not.2 hmode)]
      simp only [List.cons_append, List.nil_append]
      rw [find_plain 0 _ _ (by decide), find_plain 0 _ _ (by decide), find_plain 0 _ _ (by decide),
        find_plain 0 _ _ (by decide), find_plain 0 _ _ (by decide)]
      rfl
    · rw [if_neg hmode, if_pos hmode]
      simp only [List.append_nil]
      rw [find_plain 0 _ _ (by decide), find_plain 0 _ _ (by decide)]
      rfl
  · rw [if_neg htc, if_neg htc, commandTopic_eq]
    have htakes := takes_iff
      ⟨runtime.mqtt.commandPrefix.str ++ runtime.gatewayId.str, 1, .command, true⟩ topic rfl
    unfold mqttFindSubscription
    rw [List.find?_singleton]
    dsimp only
    split_ifs with htaken hfilter hfilter
    · rfl
    · exact absurd ((htakes.1 htaken).imp_left Eq.symm) hfilter
    · exact absurd (htakes.2 (hfilter.imp_left Eq.symm)) htaken
    · rfl

theorem runtimeSubscriptions_load (mac : Option (List UInt8)) (runtime : RuntimeConfig) :
    runtimeSubscriptions (mqttLoadRuntimeSettings mac runtime).2 = runtimeSubscriptions runtime := by
  unfold mqttLoadRuntimeSettings
  dsimp only
  split <;> rfl

/-! ## The table in a run -/

def Phase.todo : Phase → List Subscription
  | .registering todo _ => todo
  | _ => []

def Phase.runtime? : Phase → Option RuntimeConfig
  | .configuring runtime _ | .dropping runtime _ | .waiting runtime _ => some runtime
  | _ => none

def storedConfigs (as : List HandlerOp) : List RuntimeConfig :=
  as.filterMap fun a => match a with
    | .store runtime => some runtime
    | _ => none

/-- The subscriptions of `runtime` are those of a configuration of the list. -/
def Stored (cs : List RuntimeConfig) (runtime : RuntimeConfig) : Prop :=
  ∃ c ∈ cs, runtimeSubscriptions runtime = runtimeSubscriptions c

theorem Stored.mono {cs : List RuntimeConfig} {runtime : RuntimeConfig} (h : Stored cs runtime)
    (new : List RuntimeConfig) : Stored (cs ++ new) runtime := by
  obtain ⟨c, hc, heq⟩ := h
  exact ⟨c, List.mem_append_left new hc, heq⟩

namespace MqttHandler

/-- The table and what is yet to be registered are the subscriptions in force, and these are
the ones of a stored configuration. -/
structure Registered (cs : List RuntimeConfig) (h : MqttHandler) : Prop where
  runtime : h.runtime ∈ cs
  held : h.phase ≠ .free → h.initialized = true ∧ h.client ≠ none
  table : h.subscriptions ++ h.phase.todo = (h.inForce.map runtimeSubscriptions).getD []
  phase : ∀ r, h.phase.runtime? = some r → Stored cs r
  inForce : ∀ r, h.inForce = some r → Stored cs r

section Steps

variable {cs : List RuntimeConfig} {h : MqttHandler}

theorem registered_boot (runtime : RuntimeConfig) : Registered [runtime] (boot runtime) :=
  ⟨List.mem_singleton_self runtime, fun hne => absurd rfl hne, rfl, fun _ hr => (by cases hr),
    fun _ hr => (by cases hr)⟩

theorem Registered.move (hr : Registered cs h) {h' : MqttHandler} (hruntime : h'.runtime = h.runtime)
    (hsubs : h'.subscriptions = h.subscriptions) (hin : h'.inForce = h.inForce)
    (htodo : h'.phase.todo = h.phase.todo)
    (hheld : h'.phase ≠ .free → h'.initialized = true ∧ h'.client ≠ none)
    (hphase : ∀ r, h'.phase.runtime? = some r → Stored cs r) : Registered cs h' := by
  refine ⟨?_, hheld, ?_, hphase, ?_⟩
  · rw [hruntime]
    exact hr.runtime
  · rw [hsubs, htodo, hin]
    exact hr.table
  · rw [hin]
    exact hr.inForce

/-- A step that leaves the phase and the client alone as well. -/
theorem Registered.same (hr : Registered cs h) {h' : MqttHandler} (hruntime : h'.runtime = h.runtime)
    (hsubs : h'.subscriptions = h.subscriptions) (hin : h'.inForce = h.inForce)
    (hphase : h'.phase = h.phase) (hinit : h'.initialized = h.initialized)
    (hclient : h'.client = h.client) : Registered cs h' := by
  refine hr.move hruntime hsubs hin (by rw [hphase]) ?_ ?_
  · rw [hphase, hinit, hclient]
    exact hr.held
  · rw [hphase]
    exact hr.phase

theorem Registered.toFree (hr : Registered cs h) {h' : MqttHandler}
    (hruntime : h'.runtime = h.runtime) (hsubs : h'.subscriptions = h.subscriptions)
    (hin : h'.inForce = h.inForce) (htodo : h.phase.todo = []) (hfree : h'.phase = .free) :
    Registered cs h' := by
  refine hr.move hruntime hsubs hin ?_ (fun hne => absurd hfree hne) ?_
  · rw [hfree, htodo]
    rfl
  · rw [hfree]
    exact fun _ hnone => by cases hnone

theorem registered_register {runtime : RuntimeConfig} {next : AfterRegister}
    (hruntime : h.runtime ∈ cs) (hready : h.initialized = true ∧ h.client ≠ none)
    (hstored : Stored cs runtime) : Registered cs (h.register runtime next) :=
  ⟨hruntime, fun _ => hready, rfl, fun _ hr => (by cases hr),
    fun _ hr => Option.some.inj hr ▸ hstored⟩

theorem stored_load (hr : Registered cs h) (mac : Option (List UInt8)) :
    Stored cs (mqttLoadRuntimeSettings mac h.runtime).2 :=
  ⟨h.runtime, hr.runtime, runtimeSubscriptions_load mac h.runtime⟩

theorem registered_initUnlocked (hr : Registered cs h) (hfree : h.phase = .free) (env : InitEnv) :
    Registered cs (h.mqttInitUnlocked env) := by
  have htodo : h.phase.todo = [] := by rw [hfree]; rfl
  unfold mqttInitUnlocked
  split
  · exact hr
  · dsimp only
    split_ifs
    · exact hr.toFree rfl rfl rfl htodo hfree
    · exact hr.toFree rfl rfl rfl htodo hfree
    · exact hr.toFree rfl rfl rfl htodo hfree
    · exact registered_register hr.runtime ⟨rfl, Option.some_ne_none _⟩ (stored_load hr env.mac)

theorem takeConfig_ne_none (config : MqttClientConfig) (hclient : h.client ≠ none) :
    (h.takeConfig config).client ≠ none := by
  obtain ⟨c, hc⟩ := Option.ne_none_iff_exists'.1 hclient
  show h.client.map _ ≠ none
  rw [hc]
  exact Option.some_ne_none _

section Advance

variable {p q : Phase}

theorem Registered.ready (hr : Registered cs h) (hphase : h.phase = p) (hne : p ≠ .free) :
    h.initialized = true ∧ h.client ≠ none := hr.held (hphase ▸ hne)

theorem todo_next (hphase : h.phase = p) (hpq : q.todo = p.todo) : q.todo = h.phase.todo := by
  rw [hphase, hpq]

theorem todo_empty (hphase : h.phase = p) (hp : p.todo = []) : h.phase.todo = [] := by
  rw [hphase, hp]

/-- What is registered next fits into the table, and is not in it. -/
theorem registered_subscribe (hr : Registered cs h) {s : Subscription} {todo : List Subscription}
    {next : AfterRegister} (hphase : h.phase = .registering (s :: todo) next) (ok : Bool) :
    Registered cs (h.advance ok) := by
  obtain ⟨hinit, hclient⟩ := hr.ready hphase Phase.noConfusion
  have htable := hr.table
  rw [hphase] at htable
  have hregistrable : Registrable (h.subscriptions ++ s :: todo) := by
    cases hin : h.inForce with
    | none =>
      rw [hin] at htable
      exact absurd htable (List.append_ne_nil_of_right_ne_nil _ (List.cons_ne_nil _ _))
    | some runtime =>
      rw [hin] at htable
      exact htable ▸ runtimeSubscriptions_registrable runtime
  have hsubscribed : (h.mqttSubscribe s.topic s.qos s.callback ok).2 =
      { h with subscriptions := h.subscriptions ++ [s] } := by
    unfold mqttSubscribe
    rw [if_neg (by simp [hinit, hclient]), addSubscription_next hregistrable]
  unfold advance
  rw [hphase]
  dsimp only
  rw [hsubscribed]
  refine ⟨hr.runtime, fun _ => ⟨hinit, hclient⟩, ?_, fun _ hnone => (by cases hnone), hr.inForce⟩
  rw [← htable]
  exact List.append_assoc _ _ _

theorem registered_next (hr : Registered cs h) {next : AfterRegister}
    (hphase : h.phase = .registering [] next) (ok : Bool) : Registered cs (h.advance ok) := by
  have hready := hr.ready hphase Phase.noConfusion
  unfold advance
  rw [hphase]
  cases next with
  | resident =>
    exact hr.move rfl rfl rfl (todo_next hphase rfl) (fun _ => hready)
      fun _ hnone => by cases hnone
  | reconnect =>
    exact hr.move rfl rfl rfl (todo_next hphase rfl) (fun _ => hready)
      fun _ hnone => by cases hnone
  | fresh shouldStart enabled =>
    cases shouldStart with
    | true =>
      exact hr.move rfl rfl rfl (todo_next hphase rfl) (fun _ => hready)
        fun _ hnone => by cases hnone
    | false => exact hr.toFree rfl rfl rfl (todo_empty hphase rfl) rfl

theorem registered_starting (hr : Registered cs h) {fresh : Bool}
    (hphase : h.phase = .starting fresh) (ok : Bool) : Registered cs (h.advance ok) := by
  obtain ⟨hinit, hclient⟩ := hr.ready hphase Phase.noConfusion
  unfold advance
  rw [hphase]
  dsimp only
  split_ifs
  · refine hr.move rfl rfl rfl (todo_next hphase rfl) (fun _ => ⟨hinit, ?_⟩)
      fun _ hnone => by cases hnone
    obtain ⟨c, hc⟩ := Option.ne_none_iff_exists'.1 hclient
    show h.client.map _ ≠ none
    rw [hc]
    exact Option.some_ne_none _
  · exact hr.toFree rfl rfl rfl (todo_empty hphase rfl) rfl

/-- The client takes the new configuration, whose subscriptions are registered next. -/
theorem registered_configuring (hr : Registered cs h) {runtime : RuntimeConfig}
    {config : MqttClientConfig} (hphase : h.phase = .configuring runtime config) (ok : Bool) :
    Registered cs (h.advance ok) := by
  obtain ⟨hinit, hclient⟩ := hr.ready hphase Phase.noConfusion
  unfold advance
  rw [hphase]
  dsimp only
  split_ifs
  · exact registered_register hr.runtime ⟨hinit, takeConfig_ne_none config hclient⟩
      (hr.phase runtime (hphase ▸ rfl))
  · exact hr.toFree rfl rfl rfl (todo_empty hphase rfl) rfl

theorem registered_dropping (hr : Registered cs h) {runtime : RuntimeConfig}
    {config : MqttClientConfig} (hphase : h.phase = .dropping runtime config) (ok : Bool) :
    Registered cs (h.advance ok) := by
  have hready := hr.ready hphase Phase.noConfusion
  unfold advance
  rw [hphase]
  cases ok with
  | true =>
    exact hr.move rfl rfl rfl (todo_next hphase rfl) (fun _ => hready)
      fun r hsome => hr.phase r (hphase ▸ hsome)
  | false => exact hr.toFree rfl rfl rfl (todo_empty hphase rfl) rfl

theorem registered_waiting (hr : Registered cs h) {runtime : RuntimeConfig}
    {config : MqttClientConfig} (hphase : h.phase = .waiting runtime config) (ok : Bool) :
    Registered cs (h.advance ok) := by
  obtain ⟨hinit, hclient⟩ := hr.ready hphase Phase.noConfusion
  unfold advance
  rw [hphase]
  dsimp only
  split_ifs
  · exact registered_register hr.runtime ⟨hinit, takeConfig_ne_none config hclient⟩
      (hr.phase runtime (hphase ▸ rfl))
  · exact hr.toFree rfl rfl rfl (todo_empty hphase rfl) rfl

theorem registered_suspending (hr : Registered cs h) {config : MqttClientConfig}
    {bySupervisor : Bool} (hphase : h.phase = .suspending config bySupervisor) (ok : Bool) :
    Registered cs (h.advance ok) := by
  obtain ⟨hinit, hclient⟩ := hr.ready hphase Phase.noConfusion
  unfold advance
  rw [hphase]
  dsimp only
  split_ifs
  · exact hr.move rfl rfl rfl (todo_next hphase rfl)
      (fun _ => ⟨hinit, takeConfig_ne_none config hclient⟩) fun _ hnone => by cases hnone
  · exact hr.toFree rfl rfl rfl (todo_empty hphase rfl) rfl

/-- The steps that leave the table and only give the mutex back. -/
theorem registered_done (hr : Registered cs h) (hphase : (∃ fresh, h.phase = .started fresh) ∨
    h.phase = .reconnecting ∨ ∃ bySupervisor, h.phase = .disconnecting bySupervisor) (ok : Bool) :
    Registered cs (h.advance ok) := by
  unfold advance
  rcases hphase with ⟨fresh, hphase⟩ | hphase | ⟨bySupervisor, hphase⟩
  · rw [hphase]
    dsimp only
    split_ifs <;> exact hr.toFree rfl rfl rfl (todo_empty hphase rfl) rfl
  · rw [hphase]
    exact hr.toFree rfl rfl rfl (todo_empty hphase rfl) rfl
  · rw [hphase]
    dsimp only
    split_ifs <;> exact hr.toFree rfl rfl rfl (todo_empty hphase rfl) rfl

theorem registered_advance (hr : Registered cs h) (ok : Bool) : Registered cs (h.advance ok) := by
  cases hphase : h.phase with
  | free =>
    unfold advance
    rw [hphase]
    exact hr
  | registering todo next =>
    cases todo with
    | nil => exact registered_next hr hphase ok
    | cons s todo => exact registered_subscribe hr hphase ok
  | starting fresh => exact registered_starting hr hphase ok
  | started fresh => exact registered_done hr (.inl ⟨fresh, hphase⟩) ok
  | configuring runtime config => exact registered_configuring hr hphase ok
  | dropping runtime config => exact registered_dropping hr hphase ok
  | waiting runtime config => exact registered_waiting hr hphase ok
  | reconnecting => exact registered_done hr (.inr (.inl hphase)) ok
  | suspending config bySupervisor => exact registered_suspending hr hphase ok
  | disconnecting bySupervisor => exact registered_done hr (.inr (.inr ⟨_, hphase⟩)) ok

end Advance

theorem registered_event (hr : Registered cs h) (e : MqttEvent) : Registered cs (h.event e) := by
  unfold event
  split
  · exact hr
  · cases e with
    | connected nowMs => exact hr.same rfl rfl rfl rfl rfl rfl
    | disconnected nowMs => exact hr.same rfl rfl rfl rfl rfl rfl
    | data topic => exact hr
    | error err supervisor =>
      unfold errorEvent
      cases err with
      | noHandle => exact hr.same rfl rfl rfl rfl rfl rfl
      | other => exact hr.same rfl rfl rfl rfl rfl rfl
      | tcpTransport sockErrno espErr => exact hr.same rfl rfl rfl rfl rfl rfl
      | connectionRefused returnCode =>
        dsimp only
        split
        · split
          · unfold mqttSuspendAsync
            dsimp only
            split
            · split
              · exact hr.same rfl rfl rfl rfl rfl rfl
              · exact hr.same rfl rfl rfl rfl rfl rfl
            · exact hr.same rfl rfl rfl rfl rfl rfl
          · exact hr.same rfl rfl rfl rfl rfl rfl
        · exact hr.same rfl rfl rfl rfl rfl rfl

theorem registered_disconnect (hr : Registered cs h) (mac : Option (List UInt8))
    (bySupervisor : Bool) : Registered cs (h.mqttDisconnect mac bySupervisor) := by
  unfold mqttDisconnect
  split
  · exact hr
  · rename_i hbusy
    have htodo : h.phase.todo = [] := by
      rw [not_not.1 hbusy]
      rfl
    split
    · exact hr.toFree rfl rfl rfl htodo rfl
    · rename_i hready
      have hinit : h.initialized = true := Bool.of_not_eq_false fun hi => hready (.inr (.inl hi))
      have hclient : h.client ≠ none := fun hc => hready (.inr (.inr hc))
      dsimp only
      split
      · exact hr.toFree rfl rfl rfl htodo rfl
      · exact hr.move rfl rfl rfl htodo.symm (fun _ => ⟨hinit, hclient⟩) fun _ hnone => by cases hnone

theorem registered_restart (hr : Registered cs h) (env : InitEnv) :
    Registered cs (h.mqttRestart env) := by
  unfold mqttRestart
  split
  · exact hr
  · rename_i hbusy
    have hfree : h.phase = .free := not_not.1 hbusy
    split
    · exact hr
    · have hlocked : Registered cs { h with lifecycleMutex := true } :=
        hr.same rfl rfl rfl rfl rfl rfl
      dsimp only
      split
      · exact hlocked
      · split
        · exact registered_initUnlocked hlocked hfree env
        · rename_i hready
          have hinit : h.initialized = true := Bool.of_not_eq_false fun hi => hready (.inl hi)
          have hclient : h.client ≠ none := fun hc => hready (.inr hc)
          have htodo : h.phase.todo = [] := by
            rw [hfree]
            rfl
          cases hstarted : h.started with
          | true =>
            refine hr.move rfl rfl rfl htodo.symm (fun _ => ⟨hinit, hclient⟩) fun r hsome => ?_
            obtain rfl := Option.some.inj hsome
            exact stored_load hr env.mac
          | false =>
            refine hr.move rfl rfl rfl htodo.symm (fun _ => ⟨hinit, hclient⟩) fun r hsome => ?_
            obtain rfl := Option.some.inj hsome
            exact stored_load hr env.mac

theorem registered_step (hr : Registered cs h) (a : HandlerOp) :
    Registered (cs ++ storedConfigs [a]) (h.step a) := by
  have hmono : Registered (cs ++ storedConfigs [a]) h :=
    ⟨List.mem_append_left _ hr.runtime, hr.held, hr.table, fun r hr' => (hr.phase r hr').mono _,
      fun r hr' => (hr.inForce r hr').mono _⟩
  cases a with
  | store runtime =>
    exact ⟨List.mem_append_right _ List.mem_cons_self, hmono.held, hmono.table, hmono.phase,
      hmono.inForce⟩
  | init env =>
    show Registered _ (h.mqttInit env)
    unfold mqttInit
    split
    · exact hmono
    · rename_i hbusy
      dsimp only
      split
      · exact hmono.same rfl rfl rfl rfl rfl rfl
      · split
        · exact hmono.same rfl rfl rfl rfl rfl rfl
        · refine registered_initUnlocked ?_ ?_ env
          · exact hmono.same rfl rfl rfl rfl rfl rfl
          · exact not_not.1 hbusy
  | restart env => exact registered_restart hmono env
  | disconnect mac => exact registered_disconnect hmono mac false
  | destroy stopped =>
    show Registered _ (h.mqttDestroy stopped)
    unfold mqttDestroy
    split_ifs with hbusy
    · exact hmono
    · exact hmono
    · have hfree : h.phase = .free := not_not.1 fun hne => hbusy (.inl hne)
      exact hmono.toFree rfl rfl rfl (by rw [hfree]; rfl) hfree
  | advance ok => exact registered_advance hmono ok
  | event e => exact registered_event hmono e
  | wake =>
    show Registered _ (if _ then _ else _)
    split_ifs
    · exact hmono.same rfl rfl rfl rfl rfl rfl
    · exact hmono
  | copyReason =>
    show Registered _ (if _ then _ else _)
    split_ifs
    · exact hmono.same rfl rfl rfl rfl rfl rfl
    · exact hmono
  | supervise mac =>
    unfold step
    dsimp only
    split
    · exact registered_disconnect hmono mac true
    · exact hmono
  | restoreReason =>
    unfold step
    dsimp only
    split
    · exact hmono.same rfl rfl rfl rfl rfl rfl
    · exact hmono

theorem registered_run (hr : Registered cs h) (as : List HandlerOp) :
    Registered (cs ++ storedConfigs as) (run step h as) := by
  induction as generalizing cs h with
  | nil => simpa [storedConfigs] using hr
  | cons a as ih =>
    have hrest := ih (registered_step hr a)
    rw [List.append_assoc] at hrest
    exact (List.filterMap_append (l := [a]) ▸ hrest :)

end Steps

end MqttHandler

open MqttHandler

/-- **A message reaches the handler that the configuration names.** At every moment of every
run, a message goes to no callback or to the one that a stored configuration has for its
topic. While no subscriptions are being registered it goes to exactly that one, and a new
connection subscribes to exactly the topics of that configuration. -/
theorem dispatch_follows_configuration (runtime : RuntimeConfig) (as : List HandlerOp)
    (topic : CStr) :
    let h := run step (boot runtime) as
    (h.dispatch topic = none ∨
      ∃ c ∈ runtime :: storedConfigs as, h.dispatch topic = route c topic) ∧
    (h.inForce ≠ none → h.phase.todo = [] → ∃ c ∈ runtime :: storedConfigs as,
      h.dispatch topic = route c topic ∧
        h.resubscribed = (runtimeSubscriptions c).map fun s => (s.topic, s.qos)) := by
  intro h
  have hr : Registered (runtime :: storedConfigs as) h := registered_run (registered_boot runtime) as
  have hactive (r : RuntimeConfig) :
      (runtimeSubscriptions r).filter Subscription.active = runtimeSubscriptions r :=
    List.filter_eq_self.2 (runtimeSubscriptions_registrable r).active
  cases hin : h.inForce with
  | none =>
    have htable := hr.table
    rw [hin] at htable
    have hsubs : h.subscriptions = [] := (List.append_eq_nil_iff.1 htable).1
    refine ⟨.inl ?_, fun hne => absurd rfl hne⟩
    unfold dispatch
    rw [hsubs]
    rfl
  | some r =>
    obtain ⟨c, hc, hsame⟩ := hr.inForce r hin
    have htable : h.subscriptions ++ h.phase.todo = runtimeSubscriptions c := by
      rw [hr.table, hin, ← hsame]
      rfl
    have hroute : (mqttFindSubscription topic (h.subscriptions ++ h.phase.todo)).map
        Subscription.callback = route c topic := by
      rw [htable, find_runtime]
    constructor
    · cases hfind : mqttFindSubscription topic h.subscriptions with
      | none =>
        left
        unfold dispatch
        rw [hfind]
        rfl
      | some s =>
        refine .inr ⟨c, hc, ?_⟩
        unfold mqttFindSubscription at hfind hroute
        rw [List.find?_append, hfind] at hroute
        unfold dispatch mqttFindSubscription
        rw [hfind]
        exact hroute
    · intro _ htodo
      rw [htodo, List.append_nil] at htable hroute
      refine ⟨c, hc, hroute, ?_⟩
      unfold resubscribed
      rw [htable, hactive]

end McpGateway.Mqtt
