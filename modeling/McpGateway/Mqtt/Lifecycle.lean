import McpGateway.Lib.Run
import McpGateway.Mqtt.Handler

/-!
# Suspension of the MQTT client

The handler suspends the client on demand and after three rejected logins; the supervisor
then turns the automatic reconnect of the client off. `suspended_stays_down` says that a
suspended client is left alone once the supervisor has nothing more to do, whatever the
tasks and the events did in between, and `lockout_holds` that three rejections suspend it.
-/

namespace McpGateway.Mqtt

open McpGateway.Lib McpGateway.Runtime

/-! ## Phases -/

def Phase.startedIs : Phase → Option Bool
  | .free => none
  | .registering _ .reconnect | .dropping _ _ | .waiting _ _ | .reconnecting | .suspending _ _
  | .disconnecting _ => some true
  | .registering _ _ | .starting _ | .started _ | .configuring _ _ => some false

/-- The holder is about to start the client or to turn its reconnect on again. -/
def Phase.revives : Phase → Bool
  | .registering _ (.fresh shouldStart _) => shouldStart
  | .registering _ .resident | .starting _ | .started _ | .configuring _ _ | .dropping _ _
  | .waiting _ _ => true
  | _ => false

/-- The configuration with the reconnect on that a restart is about to hand over. -/
def Phase.turnsOn : Phase → Option MqttClientConfig
  | .configuring _ config | .dropping _ config | .waiting _ config => some config
  | _ => none

def Phase.isSuspending : Phase → Bool
  | .suspending _ _ => true
  | _ => false

def Phase.isDisconnecting : Phase → Bool
  | .disconnecting _ => true
  | _ => false

def Supervisor.isAwake : Supervisor → Bool
  | .woken | .copied _ => true
  | _ => false

theorem Phase.not_suspending {p : Phase} (h : p.revives = true) : p.isSuspending = false := by
  cases p <;> first | rfl | cases h

namespace MqttHandler

/-- The client does not connect by itself. -/
def StaysDown (h : MqttHandler) : Prop :=
  h.started = false ∨ ∃ c, h.client = some c ∧ c.config.disableAutoReconnect = true

/-- The supervisor is still to call `mqtt_disconnect`, or is in that call. -/
def Signalled (h : MqttHandler) : Prop := h.notified = true ∨ h.supervisor.isAwake = true

instance (h : MqttHandler) : Decidable h.Signalled := inferInstanceAs (Decidable (_ ∨ _))

/-- Nobody holds the lifecycle mutex, and the supervisor waits. -/
def Settled (h : MqttHandler) : Prop := h.phase = .free ∧ ¬ h.Signalled

instance (h : MqttHandler) : Decidable h.Settled := inferInstanceAs (Decidable (_ ∧ _))

/-! ## The invariant -/

/-- What every step keeps. A suspended client stays down, unless the supervisor is yet to see
to it, or somebody is at it: `mqtt_disconnect` before it hands over its configuration. -/
structure Inv (h : MqttHandler) : Prop where
  client : h.initialized = h.client.isSome
  mutex : h.client.isSome = true → h.lifecycleMutex = true
  started : h.started = true → h.client.isSome = true
  held : h.phase ≠ .free → h.client.isSome = true
  phase : ∀ b, h.phase.startedIs = some b → h.started = b
  suspending : ∀ config by', h.phase = .suspending config by' → config.disableAutoReconnect = true
  disconnecting : h.phase.isDisconnecting = true → h.StaysDown
  down : h.suspended = true →
    h.Signalled ∨ h.phase.isSuspending = true ∨ h.phase.revives = false ∧ h.StaysDown

theorem inv_boot (runtime : RuntimeConfig) : Inv (boot runtime) where
  client := rfl
  mutex h := by cases h
  started h := by cases h
  held h := absurd rfl h
  phase _ h := by cases h
  suspending _ _ h := by cases h
  disconnecting h := by cases h
  down h := by cases h

section Steps

variable {h : MqttHandler}

/-- Steps that leave the client and the holder of the mutex alone. -/
theorem Inv.same (hi : Inv h) {h' : MqttHandler} (hphase : h'.phase = h.phase)
    (hclient : h'.client = h.client) (hinit : h'.initialized = h.initialized)
    (hmutex : h'.lifecycleMutex = h.lifecycleMutex) (hstarted : h'.started = h.started)
    (hdown : h'.suspended = true → h'.Signalled ∨ h.suspended = true ∧ (h.Signalled → h'.Signalled)) :
    Inv h' := by
  have hstay : h'.StaysDown ↔ h.StaysDown := by
    unfold StaysDown
    rw [hstarted, hclient]
  refine ⟨?_, ?_, ?_, ?_, ?_, ?_, ?_, fun hs => ?_⟩
  · rw [hinit, hclient, hi.client]
  · rw [hclient, hmutex]
    exact hi.mutex
  · rw [hstarted, hclient]
    exact hi.started
  · rw [hphase, hclient]
    exact hi.held
  · rw [hphase, hstarted]
    exact hi.phase
  · rw [hphase]
    exact hi.suspending
  · rw [hphase, hstay]
    exact hi.disconnecting
  · rw [hphase, hstay]
    rcases hdown hs with hsig | ⟨hbefore, hkeep⟩
    · exact .inl hsig
    · exact (hi.down hbefore).imp_left hkeep

theorem Inv.of_free (hclient : h.initialized = h.client.isSome)
    (hmutex : h.client.isSome = true → h.lifecycleMutex = true)
    (hstarted : h.started = true → h.client.isSome = true) (hfree : h.phase = .free)
    (hdown : h.suspended = true → h.Signalled ∨ h.StaysDown) : Inv h := by
  refine ⟨hclient, hmutex, hstarted, fun hne => absurd hfree hne, ?_, ?_, ?_, fun hs => ?_⟩
  · rw [hfree]
    intro b hb
    cases hb
  · rw [hfree]
    intro config by' heq
    cases heq
  · rw [hfree]
    intro hd
    cases hd
  · rw [hfree]
    exact (hdown hs).imp_right fun hstay => .inr ⟨rfl, hstay⟩

theorem not_started_of_none (hi : Inv h) (hnone : h.client = none) : h.started = false := by
  have hstarted := hi.started
  rw [hnone] at hstarted
  exact Bool.eq_false_iff.2 fun hs => Bool.noConfusion (hstarted hs)

theorem client_of_not_initialized (hclient : h.initialized = h.client.isSome)
    (hinit : h.initialized = false) : h.client = none := by
  rw [hinit] at hclient
  exact Option.isNone_iff_eq_none.1 (by rw [← Option.not_isSome, ← hclient]; rfl)

theorem Inv.free (hi : Inv h) (hfree : h.phase = .free) (hs : h.suspended = true) :
    h.Signalled ∨ h.StaysDown := by
  rcases hi.down hs with hsig | hsus | ⟨-, hstay⟩
  · exact .inl hsig
  · rw [hfree] at hsus
    cases hsus
  · exact .inr hstay

theorem inv_initUnlocked (hi : Inv h) (hfree : h.phase = .free) (hmutex : h.lifecycleMutex = true)
    (env : InitEnv) : Inv (h.mqttInitUnlocked env) := by
  unfold mqttInitUnlocked
  split
  · exact hi
  · rename_i hinit
    rw [Bool.not_eq_true] at hinit
    have hnone := client_of_not_initialized hi.client hinit
    have hstopped := not_started_of_none hi hnone
    have hidle (h' : MqttHandler) (hinit' : h'.initialized = false) (hclient : h'.client = none)
        (hstarted : h'.started = false) (hphase : h'.phase = .free) : Inv h' := by
      refine .of_free ?_ ?_ ?_ hphase fun _ => .inr (.inl hstarted)
      · rw [hinit', hclient]
        rfl
      · rw [hclient]
        exact fun hsome => Bool.noConfusion hsome
      · rw [hstarted]
        exact fun ht => Bool.noConfusion ht
    dsimp only
    split_ifs
    · exact hidle _ hinit hnone hstopped hfree
    · exact hidle _ hinit rfl hstopped hfree
    · exact hidle _ hinit rfl hstopped hfree
    · refine ⟨rfl, fun _ => hmutex, fun hs => Bool.noConfusion hs, fun _ => rfl, ?_, ?_, ?_, ?_⟩
      · rintro b hb
        exact Option.some.inj hb
      · intro config by' heq
        cases heq
      · intro hd
        cases hd
      · intro hs
        refine .inr (.inr ⟨?_, .inl rfl⟩)
        exact Bool.not_eq_true' _ ▸ hs

theorem inv_init (hi : Inv h) (env : InitEnv) : Inv (h.mqttInit env) := by
  unfold mqttInit
  split
  · exact hi
  · rename_i hbusy
    have hfree : h.phase = .free := not_not.1 hbusy
    have hcreated (supervisor : Supervisor) (mutex : Bool)
        (hkeep : h.Signalled → Signalled { h with supervisor := supervisor })
        (hmutex : h.lifecycleMutex = true → mutex = true) :
        Inv { h with supervisor := supervisor, lifecycleMutex := mutex } := by
      refine .of_free hi.client (fun hsome => hmutex (hi.mutex hsome)) hi.started hfree ?_
      exact fun hs => (hi.free hfree hs).imp_left hkeep
    have hsupervisor :
        h.Signalled → Signalled { h with
          supervisor := if h.supervisor = .absent then Supervisor.idle else h.supervisor } := by
      rintro (hnote | hawake)
      · exact .inl hnote
      · have hpresent : h.supervisor ≠ .absent := by
          intro habsent
          rw [habsent] at hawake
          cases hawake
        refine .inr ?_
        show Supervisor.isAwake (if _ then _ else _) = true
        rwa [if_neg hpresent]
    dsimp only
    split
    · exact hi.same rfl rfl rfl rfl rfl fun hs => .inr ⟨hs, id⟩
    · split
      · exact (hcreated _ _ hsupervisor id).same rfl rfl rfl rfl rfl fun hs => .inr ⟨hs, id⟩
      · exact inv_initUnlocked (hcreated _ true hsupervisor fun _ => rfl) hfree rfl env

theorem inv_restart (hi : Inv h) (env : InitEnv) : Inv (h.mqttRestart env) := by
  unfold mqttRestart
  split
  · exact hi
  · rename_i hbusy
    have hfree : h.phase = .free := not_not.1 hbusy
    have hlocked : Inv { h with lifecycleMutex := true } :=
      .of_free hi.client (fun _ => rfl) hi.started hfree (hi.free hfree)
    split
    · exact hi
    · dsimp only
      split
      · exact hlocked
      · split
        · exact inv_initUnlocked hlocked hfree rfl env
        · rename_i hready
          have hsome : h.client.isSome = true := by
            rw [← Option.ne_none_iff_isSome]
            exact fun hnone => hready (.inr hnone)
          refine ⟨hi.client, fun _ => rfl, hi.started, fun _ => hsome, ?_, ?_, ?_, ?_⟩
          · intro b hb
            show h.started = b
            cases hstarted : h.started <;> simp only [hstarted] at hb <;> cases hb <;> rfl
          · intro config by' heq
            cases hstarted : h.started <;> simp only [hstarted] at heq <;> cases heq
          · intro hd
            cases hstarted : h.started <;> simp only [hstarted] at hd <;> cases hd
          · intro hs
            cases hs

theorem inv_destroy (hi : Inv h) (stopped : Bool) : Inv (h.mqttDestroy stopped) := by
  unfold mqttDestroy
  split_ifs with hbusy hkept
  · exact hi
  · exact hi
  · have hfree : h.phase = .free := not_not.1 fun hne => hbusy (.inl hne)
    refine .of_free rfl (fun hsome => ?_) (fun hs => ?_) hfree fun _ => .inr (.inl rfl)
    · cases hsome
    · cases hs

/-- The supervisor leaves `mqtt_disconnect` with the client down. -/
theorem inv_release (bySupervisor : Bool) (hclient : h.initialized = h.client.isSome)
    (hmutex : h.client.isSome = true → h.lifecycleMutex = true)
    (hstarted : h.started = true → h.client.isSome = true)
    (hdown : h.suspended = true → h.StaysDown) : Inv (h.release bySupervisor) :=
  .of_free hclient hmutex hstarted rfl fun hs => .inr (hdown hs)

theorem inv_disconnect (hi : Inv h) (mac : Option (List UInt8)) (bySupervisor : Bool) :
    Inv (h.mqttDisconnect mac bySupervisor) := by
  unfold mqttDisconnect
  split
  · exact hi
  · split
    · rename_i hnone
      refine inv_release _ hi.client hi.mutex hi.started fun _ => .inl ?_
      rcases hnone with hmutex | hinit | hclient
      · refine Bool.eq_false_iff.2 fun hs => ?_
        rw [hi.mutex (hi.started hs)] at hmutex
        cases hmutex
      · exact not_started_of_none hi (client_of_not_initialized hi.client hinit)
      · exact not_started_of_none hi hclient
    · rename_i hready
      have hsome : h.client.isSome = true := by
        rw [← Option.ne_none_iff_isSome]
        exact fun hnone => hready (.inr (.inr hnone))
      dsimp only
      split
      · rename_i hstopped
        exact inv_release _ hi.client hi.mutex hi.started fun _ => .inl hstopped
      · rename_i hrunning
        refine ⟨hi.client, hi.mutex, hi.started, fun _ => hsome, ?_, ?_, ?_, ?_⟩
        · intro b hb
          cases hb
          exact Bool.of_not_eq_false hrunning
        · intro config by' heq
          cases heq
          rfl
        · intro hd
          cases hd
        · exact fun _ => .inr (.inl rfl)

theorem inv_suspendAsync (hi : Inv h) (reason : String) {supervisor : Bool}
    (hreaches : h.supervisor = .absent → supervisor = true) :
    Inv (h.mqttSuspendAsync reason supervisor) := by
  unfold mqttSuspendAsync
  dsimp only
  split
  · rename_i habsent
    rw [if_pos (hreaches habsent)]
    exact hi.same rfl rfl rfl rfl rfl fun _ => .inl (.inl rfl)
  · exact hi.same rfl rfl rfl rfl rfl fun _ => .inl (.inl rfl)

theorem inv_errorEvent (hi : Inv h) (err : MqttError) {supervisor : Bool}
    (hreaches : h.supervisor = .absent → supervisor = true) : Inv (h.errorEvent err supervisor) := by
  have hsame {h' : MqttHandler} (hphase : h'.phase = h.phase) (hclient : h'.client = h.client)
      (hinit : h'.initialized = h.initialized) (hmutex : h'.lifecycleMutex = h.lifecycleMutex)
      (hstarted : h'.started = h.started) (hsuspended : h'.suspended = h.suspended)
      (hnotified : h'.notified = h.notified) (hsupervisor : h'.supervisor = h.supervisor) :
      Inv h' := by
    refine hi.same hphase hclient hinit hmutex hstarted fun hs => .inr ⟨hsuspended ▸ hs, fun hsig => ?_⟩
    unfold Signalled at hsig ⊢
    rwa [hnotified, hsupervisor]
  unfold errorEvent
  cases err with
  | noHandle => exact hsame rfl rfl rfl rfl rfl rfl rfl rfl
  | other => exact hsame rfl rfl rfl rfl rfl rfl rfl rfl
  | tcpTransport sockErrno espErr => exact hsame rfl rfl rfl rfl rfl rfl rfl rfl
  | connectionRefused returnCode =>
    dsimp only
    split_ifs
    · refine inv_suspendAsync ?_ _ ?_
      · exact hsame rfl rfl rfl rfl rfl rfl rfl rfl
      · exact hreaches
    · exact hsame rfl rfl rfl rfl rfl rfl rfl rfl
    · exact hsame rfl rfl rfl rfl rfl rfl rfl rfl

/-- Every suspension finds the supervisor, or creates it. -/
def Reaches (h : MqttHandler) : HandlerOp → Prop
  | .event (.error _ supervisor) => h.supervisor = .absent → supervisor = true
  | _ => True

instance (h : MqttHandler) (a : HandlerOp) : Decidable (h.Reaches a) := by
  unfold Reaches
  split <;> infer_instance

theorem inv_event (hi : Inv h) (e : MqttEvent) (hreaches : h.Reaches (.event e)) :
    Inv (h.event e) := by
  unfold event
  split
  · exact hi
  · cases e with
    | connected nowMs => exact hi.same rfl rfl rfl rfl rfl fun hs => .inr ⟨hs, id⟩
    | disconnected nowMs => exact hi.same rfl rfl rfl rfl rfl fun hs => .inr ⟨hs, id⟩
    | data topic => exact hi
    | error err supervisor => exact inv_errorEvent hi err hreaches

/-! ## The holder of the mutex -/

theorem mqttSubscribe_eq (h : MqttHandler) (topic : CStr) (qos : Nat) (cb : Callback)
    (answer : Bool) : ∃ table, (h.mqttSubscribe topic qos cb answer).2 =
      { h with subscriptions := table } := by
  unfold mqttSubscribe
  split
  · exact ⟨h.subscriptions, rfl⟩
  · split
    · exact ⟨h.subscriptions, rfl⟩
    · rename_i table isNew _
      exact ⟨table, rfl⟩

/-- A step of the holder that goes on to a phase of the same kind. -/
theorem Inv.goOn (hi : Inv h) (hheld : h.phase ≠ .free) {h' : MqttHandler}
    (hclient : h'.client.isSome = h.client.isSome) (hinit : h'.initialized = h.initialized)
    (hmutex : h'.lifecycleMutex = h.lifecycleMutex) (hstarted : h'.started = h.started)
    (hstartedIs : ∀ b, h'.phase.startedIs = some b → h.phase.startedIs = some b)
    (hsuspending : h'.phase.isSuspending = false) (hdisconnecting : h'.phase.isDisconnecting = false)
    (hdown : h'.suspended = true →
      h'.Signalled ∨ h'.phase.revives = false ∧ h'.StaysDown) : Inv h' := by
  have hsome := hi.held hheld
  refine ⟨?_, ?_, ?_, fun _ => hclient ▸ hsome, ?_, ?_, ?_, fun hs => (hdown hs).imp_right .inr⟩
  · rw [hinit, hclient, hi.client]
  · rw [hclient, hmutex]
    exact hi.mutex
  · exact fun _ => hclient ▸ hsome
  · intro b hb
    rw [hstarted]
    exact hi.phase b (hstartedIs b hb)
  · intro config by' heq
    rw [heq] at hsuspending
    cases hsuspending
  · rw [hdisconnecting]
    exact fun hd => Bool.noConfusion hd

theorem Inv.finish (hi : Inv h) (hheld : h.phase ≠ .free) {h' : MqttHandler}
    (hclient : h'.client.isSome = h.client.isSome) (hinit : h'.initialized = h.initialized)
    (hmutex : h'.lifecycleMutex = h.lifecycleMutex) (hfree : h'.phase = .free)
    (hdown : h'.suspended = true → h'.Signalled ∨ h'.StaysDown) : Inv h' := by
  refine .of_free ?_ ?_ ?_ hfree hdown
  · rw [hinit, hclient, hi.client]
  · rw [hclient, hmutex]
    exact hi.mutex
  · exact fun _ => hclient ▸ hi.held hheld

/-- While a suspended client is about to be revived, the supervisor is yet to see to it. -/
theorem Inv.revived (hi : Inv h) (hrevives : h.phase.revives = true) (hs : h.suspended = true) :
    h.Signalled := by
  rcases hi.down hs with hsig | hsus | hdown
  · exact hsig
  · rw [Phase.not_suspending hrevives] at hsus
    cases hsus
  · rw [hrevives] at hdown
    cases hdown.1

theorem Inv.calm (hi : Inv h) (hsuspending : h.phase.isSuspending = false)
    (hs : h.suspended = true) : h.Signalled ∨ h.phase.revives = false ∧ h.StaysDown := by
  rcases hi.down hs with hsig | hsus | hdown
  · exact .inl hsig
  · rw [hsuspending] at hsus
    cases hsus
  · exact .inr hdown

section Advance

variable {p q : Phase}

theorem Inv.calm_next (hi : Inv h) (hphase : h.phase = p) (hsuspending : p.isSuspending = false)
    (hpq : q.revives = p.revives) (hs : h.suspended = true) :
    h.Signalled ∨ q.revives = false ∧ h.StaysDown := by
  subst hphase
  rw [hpq]
  exact hi.calm hsuspending hs

theorem startedIs_next (hphase : h.phase = p) (hpq : q.startedIs = p.startedIs) :
    ∀ b, q.startedIs = some b → h.phase.startedIs = some b := by
  rw [hphase, hpq]
  exact fun _ hb => hb

theorem held_of (hphase : h.phase = p) (hne : p ≠ .free) : h.phase ≠ .free := hphase ▸ hne

theorem inv_registering (hi : Inv h) {todo : List Subscription} {next : AfterRegister}
    (hphase : h.phase = .registering todo next) (ok : Bool) : Inv (h.advance ok) := by
  have hheld := held_of hphase Phase.noConfusion
  unfold advance
  rw [hphase]
  cases todo with
  | cons s todo =>
    obtain ⟨table, htable⟩ := mqttSubscribe_eq h s.topic s.qos s.callback ok
    dsimp only
    rw [htable]
    refine hi.goOn hheld rfl rfl rfl rfl (startedIs_next hphase ?_) rfl rfl
      (hi.calm_next hphase rfl ?_)
    · cases next <;> rfl
    · cases next <;> rfl
  | nil =>
    cases next with
    | resident =>
      exact hi.goOn hheld rfl rfl rfl rfl (startedIs_next hphase rfl) rfl rfl
        (hi.calm_next hphase rfl rfl)
    | reconnect =>
      exact hi.goOn hheld rfl rfl rfl rfl (startedIs_next hphase rfl) rfl rfl
        (hi.calm_next hphase rfl rfl)
    | fresh shouldStart enabled =>
      cases shouldStart with
      | true =>
        exact hi.goOn hheld rfl rfl rfl rfl (startedIs_next hphase rfl) rfl rfl
          (hi.calm_next hphase rfl rfl)
      | false =>
        exact hi.finish hheld rfl rfl rfl rfl
          fun hs => (hi.calm (hphase ▸ rfl) hs).imp_right And.right

theorem inv_starting (hi : Inv h) {fresh : Bool} (hphase : h.phase = .starting fresh) (ok : Bool) :
    Inv (h.advance ok) := by
  have hheld := held_of hphase Phase.noConfusion
  unfold advance
  rw [hphase]
  dsimp only
  split_ifs
  · exact hi.goOn hheld Option.isSome_map rfl rfl rfl (startedIs_next hphase rfl) rfl rfl
      fun hs => .inl (hi.revived (hphase ▸ rfl) hs)
  · exact hi.finish hheld rfl rfl rfl rfl fun hs => .inl (hi.revived (hphase ▸ rfl) hs)

theorem inv_started (hi : Inv h) {fresh : Bool} (hphase : h.phase = .started fresh) (ok : Bool) :
    Inv (h.advance ok) := by
  have hheld := held_of hphase Phase.noConfusion
  unfold advance
  rw [hphase]
  dsimp only
  split_ifs
  · exact hi.finish hheld rfl rfl rfl rfl fun hs => .inl (hi.revived (hphase ▸ rfl) hs)
  · exact hi.finish hheld rfl rfl rfl rfl fun hs => .inl (hi.revived (hphase ▸ rfl) hs)

theorem inv_configuring (hi : Inv h) {runtime : RuntimeConfig} {config : MqttClientConfig}
    (hphase : h.phase = .configuring runtime config) (ok : Bool) : Inv (h.advance ok) := by
  have hheld := held_of hphase Phase.noConfusion
  unfold advance
  rw [hphase]
  dsimp only
  split_ifs
  · exact hi.goOn hheld Option.isSome_map rfl rfl rfl (startedIs_next hphase rfl) rfl rfl
      fun hs => .inl (hi.revived (hphase ▸ rfl) hs)
  · exact hi.finish hheld rfl rfl rfl rfl fun hs => .inl (hi.revived (hphase ▸ rfl) hs)

theorem inv_dropping (hi : Inv h) {runtime : RuntimeConfig} {config : MqttClientConfig}
    (hphase : h.phase = .dropping runtime config) (ok : Bool) : Inv (h.advance ok) := by
  have hheld := held_of hphase Phase.noConfusion
  unfold advance
  rw [hphase]
  cases ok with
  | true =>
    exact hi.goOn hheld rfl rfl rfl rfl (startedIs_next hphase rfl) rfl rfl
      (hi.calm_next hphase rfl rfl)
  | false =>
    exact hi.finish hheld rfl rfl rfl rfl fun hs => .inl (hi.revived (hphase ▸ rfl) hs)

theorem inv_waiting (hi : Inv h) {runtime : RuntimeConfig} {config : MqttClientConfig}
    (hphase : h.phase = .waiting runtime config) (ok : Bool) : Inv (h.advance ok) := by
  have hheld := held_of hphase Phase.noConfusion
  unfold advance
  rw [hphase]
  dsimp only
  split_ifs
  · exact hi.goOn hheld Option.isSome_map rfl rfl rfl (startedIs_next hphase rfl) rfl rfl
      fun hs => .inl (hi.revived (hphase ▸ rfl) hs)
  · exact hi.finish hheld rfl rfl rfl rfl fun hs => .inl (hi.revived (hphase ▸ rfl) hs)

/-- `mqtt_disconnect` hands over a configuration without reconnect, or gives up. -/
theorem inv_suspending (hi : Inv h) {config : MqttClientConfig} {bySupervisor : Bool}
    (hphase : h.phase = .suspending config bySupervisor) (ok : Bool) : Inv (h.advance ok) := by
  have hsome := hi.held (held_of hphase Phase.noConfusion)
  unfold advance
  rw [hphase]
  dsimp only
  split_ifs
  · have hdown : StaysDown { h.takeConfig config with phase := .disconnecting bySupervisor } := by
      obtain ⟨c, hc⟩ := Option.isSome_iff_exists.1 hsome
      refine .inr ⟨{ c with config := config }, ?_, hi.suspending config bySupervisor hphase⟩
      show h.client.map _ = _
      rw [hc]
      rfl
    refine ⟨?_, ?_, ?_, fun _ => ?_, ?_, ?_, fun _ => hdown, fun _ => .inr (.inr ⟨rfl, hdown⟩)⟩
    · exact hi.client.trans Option.isSome_map.symm
    · exact fun _ => hi.mutex hsome
    · exact fun _ => Option.isSome_map.trans hsome
    · exact Option.isSome_map.trans hsome
    · exact fun b hb => hi.phase b (startedIs_next hphase rfl b hb)
    · intro config by' heq
      cases heq
  · exact inv_release _ hi.client hi.mutex hi.started fun hs => Bool.noConfusion hs

theorem inv_disconnecting (hi : Inv h) {bySupervisor : Bool}
    (hphase : h.phase = .disconnecting bySupervisor) (ok : Bool) : Inv (h.advance ok) := by
  have hdown : h.StaysDown := hi.disconnecting (hphase ▸ rfl)
  unfold advance
  rw [hphase]
  dsimp only
  split_ifs
  · exact inv_release _ hi.client hi.mutex hi.started fun _ => hdown
  · exact inv_release _ hi.client hi.mutex hi.started fun _ => hdown

theorem inv_advance (hi : Inv h) (ok : Bool) : Inv (h.advance ok) := by
  cases hphase : h.phase with
  | free =>
    unfold advance
    rw [hphase]
    exact hi
  | registering todo next => exact inv_registering hi hphase ok
  | starting fresh => exact inv_starting hi hphase ok
  | started fresh => exact inv_started hi hphase ok
  | configuring runtime config => exact inv_configuring hi hphase ok
  | dropping runtime config => exact inv_dropping hi hphase ok
  | waiting runtime config => exact inv_waiting hi hphase ok
  | reconnecting =>
    unfold advance
    rw [hphase]
    exact hi.finish (held_of hphase Phase.noConfusion) rfl rfl rfl rfl
      fun hs => (hi.calm (hphase ▸ rfl) hs).imp_right And.right
  | suspending config bySupervisor => exact inv_suspending hi hphase ok
  | disconnecting bySupervisor => exact inv_disconnecting hi hphase ok

end Advance

theorem inv_step (hi : Inv h) {a : HandlerOp} (hreaches : h.Reaches a) : Inv (h.step a) := by
  cases a with
  | store runtime => exact hi.same rfl rfl rfl rfl rfl fun hs => .inr ⟨hs, id⟩
  | init env => exact inv_init hi env
  | restart env => exact inv_restart hi env
  | disconnect mac => exact inv_disconnect hi mac false
  | destroy stopped => exact inv_destroy hi stopped
  | advance ok => exact inv_advance hi ok
  | event e => exact inv_event hi e hreaches
  | wake =>
    show Inv (if _ then _ else _)
    split_ifs
    · exact hi.same rfl rfl rfl rfl rfl fun _ => .inl (.inr rfl)
    · exact hi
  | copyReason =>
    show Inv (if _ then _ else _)
    split_ifs
    · exact hi.same rfl rfl rfl rfl rfl fun _ => .inl (.inr rfl)
    · exact hi
  | supervise mac =>
    unfold step
    dsimp only
    split
    · exact inv_disconnect hi mac true
    · exact hi
  | restoreReason =>
    unfold step
    dsimp only
    split
    · rename_i reason hrestoring
      refine hi.same rfl rfl rfl rfl rfl fun hs => .inr ⟨hs, fun hsig => ?_⟩
      rcases hsig with hnote | hawake
      · exact .inl hnote
      · rw [hrestoring] at hawake
        cases hawake
    · exact hi

end Steps

/-! ## The reconnect stays on -/

/-- Kept while the client takes every call: its reconnect is off only when it is suspended, or
when a restart is about to turn it on. -/
structure Live (h : MqttHandler) : Prop where
  disabled : ∀ c, h.client = some c → c.config.disableAutoReconnect = true →
    h.suspended = true ∨ h.phase.turnsOn.isSome = true
  on : ∀ config, h.phase.turnsOn = some config → config.disableAutoReconnect = false
  stopping : h.phase.isSuspending = true ∨ h.phase.isDisconnecting = true → h.suspended = true

section Live

variable {h : MqttHandler}

theorem Live.same (hl : Live h) {h' : MqttHandler} (hphase : h'.phase = h.phase)
    (hclient : h'.client = h.client) (hsuspended : h.suspended = true → h'.suspended = true) :
    Live h' := by
  refine ⟨fun c hc hd => ?_, ?_, ?_⟩
  · rw [hphase]
    exact (hl.disabled c (hclient ▸ hc) hd).imp_left hsuspended
  · rw [hphase]
    exact hl.on
  · rw [hphase]
    exact fun hs => hsuspended (hl.stopping hs)

theorem Live.plain (hdisabled : ∀ c, h.client = some c → c.config.disableAutoReconnect = true →
      h.suspended = true) (hon : h.phase.turnsOn = none) (hsuspending : h.phase.isSuspending = false)
    (hdisconnecting : h.phase.isDisconnecting = false) : Live h := by
  refine ⟨fun c hc hd => .inl (hdisabled c hc hd), ?_, ?_⟩
  · rw [hon]
    exact fun _ hc => by cases hc
  · rw [hsuspending, hdisconnecting]
    exact fun hs => hs.elim Bool.noConfusion Bool.noConfusion

theorem live_boot (runtime : RuntimeConfig) : Live (boot runtime) :=
  .plain (fun _ hc => by cases hc) rfl rfl rfl

theorem Live.calm (hl : Live h) (hon : h.phase.turnsOn = none) {c : MqttClient}
    (hc : h.client = some c) (hd : c.config.disableAutoReconnect = true) : h.suspended = true := by
  rcases hl.disabled c hc hd with hs | hsome
  · exact hs
  · rw [hon] at hsome
    cases hsome

theorem live_initUnlocked (hl : Live h) (hfree : h.phase = .free)
    (hclient : h.initialized = h.client.isSome) (env : InitEnv) : Live (h.mqttInitUnlocked env) := by
  unfold mqttInitUnlocked
  split
  · exact hl
  · rename_i hinit
    rw [Bool.not_eq_true] at hinit
    have hnone := client_of_not_initialized hclient hinit
    have hidle (h' : MqttHandler) (hclient : h'.client = none) (hphase : h'.phase = .free) :
        Live h' := by
      refine .plain (fun c hc => ?_) ?_ ?_ ?_
      · rw [hclient] at hc
        cases hc
      all_goals rw [hphase]; rfl
    dsimp only
    split_ifs
    · exact hidle _ hnone hfree
    · exact hidle _ rfl hfree
    · exact hidle _ rfl hfree
    · refine .plain (fun c hc hd => ?_) rfl rfl rfl
      cases hc
      cases hd

theorem live_advance (hl : Live h) : Live (h.advance true) := by
  have hcalm {p : Phase} (hphase : h.phase = p) (hon : p.turnsOn = none) (c : MqttClient)
      (hc : h.client = some c) (hd : c.config.disableAutoReconnect = true) : h.suspended = true :=
    hl.calm (hphase ▸ hon) hc hd
  have htaken {config : MqttClientConfig} (hphase : h.phase.turnsOn = some config) (c : MqttClient)
      (hc : (h.takeConfig config).client = some c) (hd : c.config.disableAutoReconnect = true) :
      h.suspended = true := by
    obtain ⟨c₀, -, rfl⟩ := Option.map_eq_some_iff.1 hc
    rw [hl.on config hphase] at hd
    cases hd
  unfold advance
  split
  case h_1 => exact hl
  case h_2 s todo next hphase =>
    obtain ⟨table, htable⟩ := mqttSubscribe_eq h s.topic s.qos s.callback true
    rw [htable]
    exact .plain (hcalm hphase rfl) rfl rfl rfl
  case h_3 shouldStart enabled hphase =>
    split
    · exact .plain (hcalm hphase rfl) rfl rfl rfl
    · exact .plain (hcalm hphase rfl) rfl rfl rfl
  case h_4 hphase => exact .plain (hcalm hphase rfl) rfl rfl rfl
  case h_5 hphase => exact .plain (hcalm hphase rfl) rfl rfl rfl
  case h_6 fresh hphase =>
    refine .plain (fun c hc hd => ?_) rfl rfl rfl
    obtain ⟨c₀, hc₀, rfl⟩ := Option.map_eq_some_iff.1 hc
    exact hcalm hphase rfl c₀ hc₀ hd
  case h_7 fresh hphase =>
    split_ifs
    · exact .plain (hcalm hphase rfl) rfl rfl rfl
    · exact .plain (hcalm hphase rfl) rfl rfl rfl
  case h_8 runtime config hphase => exact .plain (htaken (hphase ▸ rfl)) rfl rfl rfl
  case h_9 runtime config hphase =>
    refine ⟨fun _ _ _ => .inr rfl, fun c hc => ?_, fun hs => ?_⟩
    · exact hl.on c (hphase ▸ hc)
    · rcases hs with hs | hs <;> cases hs
  case h_10 runtime config hphase => exact .plain (htaken (hphase ▸ rfl)) rfl rfl rfl
  case h_11 hphase => exact .plain (hcalm hphase rfl) rfl rfl rfl
  case h_12 config bySupervisor hphase =>
    have hs : h.suspended = true := hl.stopping (.inl (hphase ▸ rfl))
    exact ⟨fun _ _ _ => .inl hs, fun _ hc => by (cases hc), fun _ => hs⟩
  case h_13 bySupervisor hphase =>
    have hs : h.suspended = true := hl.stopping (.inr (hphase ▸ rfl))
    exact .plain (fun _ _ _ => hs) rfl rfl rfl

theorem live_init (hl : Live h) (hi : Inv h) (env : InitEnv) : Live (h.mqttInit env) := by
  unfold mqttInit
  split
  · exact hl
  · rename_i hbusy
    dsimp only
    split
    · exact hl.same rfl rfl id
    · split
      · exact hl.same rfl rfl id
      · refine live_initUnlocked ?_ ?_ ?_ env
        · exact hl.same rfl rfl id
        · exact not_not.1 hbusy
        · exact hi.client

theorem live_restart (hl : Live h) (hi : Inv h) (env : InitEnv) : Live (h.mqttRestart env) := by
  unfold mqttRestart
  split
  · exact hl
  · rename_i hbusy
    split
    · exact hl
    · dsimp only
      split
      · exact hl.same rfl rfl id
      · split
        · refine live_initUnlocked ?_ ?_ ?_ env
          · exact hl.same rfl rfl id
          · exact not_not.1 hbusy
          · exact hi.client
        · split
          · refine ⟨fun _ _ _ => .inr rfl, fun c hc => ?_, fun hs => ?_⟩
            · cases hc
              rfl
            · rcases hs with hs | hs <;> cases hs
          · refine ⟨fun _ _ _ => .inr rfl, fun c hc => ?_, fun hs => ?_⟩
            · cases hc
              rfl
            · rcases hs with hs | hs <;> cases hs

theorem live_release (bySupervisor : Bool) (hl : Live h) (hfree : h.phase = .free) :
    Live (h.release bySupervisor) :=
  hl.same hfree.symm rfl id

theorem live_disconnect (hl : Live h) (mac : Option (List UInt8)) (bySupervisor : Bool) :
    Live (h.mqttDisconnect mac bySupervisor) := by
  unfold mqttDisconnect
  split
  · exact hl
  · rename_i hbusy
    have hfree : h.phase = .free := not_not.1 hbusy
    split
    · exact live_release bySupervisor hl hfree
    · dsimp only
      split
      · exact .plain (fun _ _ _ => rfl) rfl rfl rfl
      · exact ⟨fun _ _ _ => .inl rfl, fun _ hc => by (cases hc), fun _ => rfl⟩

theorem live_event (hl : Live h) (e : MqttEvent) : Live (h.event e) := by
  unfold event
  split
  · exact hl
  · cases e with
    | connected nowMs => exact hl.same rfl rfl id
    | disconnected nowMs => exact hl.same rfl rfl id
    | data topic => exact hl
    | error err supervisor =>
      unfold errorEvent
      cases err with
      | noHandle => exact hl.same rfl rfl id
      | other => exact hl.same rfl rfl id
      | tcpTransport sockErrno espErr => exact hl.same rfl rfl id
      | connectionRefused returnCode =>
        dsimp only
        split
        · split
          · unfold mqttSuspendAsync
            dsimp only
            split
            · split
              · exact hl.same rfl rfl fun _ => rfl
              · exact hl.same rfl rfl fun _ => rfl
            · exact hl.same rfl rfl fun _ => rfl
          · exact hl.same rfl rfl id
        · exact hl.same rfl rfl id

/-- The client takes the call that the step makes. -/
def Taken : HandlerOp → Prop
  | .advance ok => ok = true
  | _ => True

instance (a : HandlerOp) : Decidable (Taken a) := by
  unfold Taken
  split <;> infer_instance

theorem live_step (hl : Live h) (hi : Inv h) {a : HandlerOp} (htaken : Taken a) :
    Live (h.step a) := by
  cases a with
  | store runtime => exact hl.same rfl rfl id
  | init env => exact live_init hl hi env
  | restart env => exact live_restart hl hi env
  | disconnect mac => exact live_disconnect hl mac false
  | destroy stopped =>
    show Live (h.mqttDestroy stopped)
    unfold mqttDestroy
    split_ifs with hbusy
    · exact hl
    · exact hl
    · have hfree : h.phase = .free := not_not.1 fun hne => hbusy (.inl hne)
      refine .plain (fun _ hc => by cases hc) ?_ ?_ ?_
      all_goals rw [hfree]; rfl
  | advance ok =>
    obtain rfl : ok = true := htaken
    exact live_advance hl
  | event e => exact live_event hl e
  | wake =>
    show Live (if _ then _ else _)
    split_ifs
    · exact hl.same rfl rfl id
    · exact hl
  | copyReason =>
    show Live (if _ then _ else _)
    split_ifs
    · exact hl.same rfl rfl id
    · exact hl
  | supervise mac =>
    unfold step
    dsimp only
    split
    · exact live_disconnect hl mac true
    · exact hl
  | restoreReason =>
    unfold step
    dsimp only
    split
    · exact hl.same rfl rfl id
    · exact hl

end Live

/-! ## Runs -/

theorem inv_reached {runtime : RuntimeConfig} {as : List HandlerOp}
    (h : AllSteps step Reaches (boot runtime) as) : Inv (run step (boot runtime) as) := by
  have hkeep : ∀ s a, Inv s → Reaches s a → Inv (step s a) := fun _ _ hi ha => inv_step hi ha
  exact inv_run hkeep (inv_boot runtime) h

theorem live_reached {runtime : RuntimeConfig} {as : List HandlerOp}
    (h : AllSteps step Reaches (boot runtime) as) (htaken : ∀ a ∈ as, Taken a) :
    Live (run step (boot runtime) as) := by
  have hkeep : ∀ s a, Inv s ∧ Live s → Reaches s a ∧ Taken a → Inv (step s a) ∧ Live (step s a) :=
    fun _ _ hi ha => ⟨inv_step hi.1 ha.1, live_step hi.2 hi.1 ha.2⟩
  exact (inv_run hkeep ⟨inv_boot runtime, live_boot runtime⟩
    (h.and (allSteps_of_forall htaken (boot runtime)))).2

end MqttHandler

open MqttHandler

/-- **A suspended client stays down.** In every run of the tasks and of the client's events,
once nobody holds the lifecycle mutex and the supervisor waits, a client that is suspended
does not connect by itself; and where the client took every call, one that was started does
so unless it is suspended. -/
theorem suspended_stays_down (runtime : RuntimeConfig) (as : List HandlerOp)
    (hreaches : AllSteps step Reaches (boot runtime) as)
    (hsettled : (run step (boot runtime) as).Settled) :
    ((run step (boot runtime) as).suspended = true → (run step (boot runtime) as).StaysDown) ∧
      ((∀ a ∈ as, Taken a) → (run step (boot runtime) as).started = true →
        ((run step (boot runtime) as).StaysDown ↔ (run step (boot runtime) as).suspended = true)) := by
  obtain ⟨hfree, hquiet⟩ := hsettled
  have hdown : (run step (boot runtime) as).suspended = true →
      (run step (boot runtime) as).StaysDown :=
    fun hs => ((inv_reached hreaches).free hfree hs).resolve_left hquiet
  refine ⟨hdown, fun htaken hstarted => ⟨fun hstay => ?_, hdown⟩⟩
  rcases hstay with hstopped | ⟨c, hc, hd⟩
  · rw [hstarted] at hstopped
    cases hstopped
  · exact (live_reached hreaches htaken).calm (by rw [hfree]; rfl) hc hd

def credentialRuntime : RuntimeConfig :=
  { loadDefaults with mqtt := { loadDefaults.mqtt with username := .copy 64 "gateway".toList } }

def readyEnv : MqttHandler.InitEnv := ⟨true, true, true, true, true, none⟩

/-- The client is started, and `mqtt_disconnect` suspends it. -/
def suspendedRun : List HandlerOp :=
  [.init readyEnv, .advance true, .advance true, .advance true, .advance true, .disconnect none,
    .advance true, .advance true]

theorem suspended_stays_down_once :
    ((run step (boot credentialRuntime) suspendedRun).suspended = true →
        (run step (boot credentialRuntime) suspendedRun).StaysDown) ∧
      ((∀ a ∈ suspendedRun, Taken a) →
        (run step (boot credentialRuntime) suspendedRun).started = true →
        ((run step (boot credentialRuntime) suspendedRun).StaysDown ↔
          (run step (boot credentialRuntime) suspendedRun).suspended = true)) :=
  suspended_stays_down credentialRuntime suspendedRun (by decide +kernel) (by decide +kernel)

/-! ## Rejected logins -/

namespace MqttHandler

/-- A rejected login (CONNACK 5) of a client that runs. -/
def rejection (h : MqttHandler) : HandlerOp → Nat
  | .event (.error (.connectionRefused 5) _) =>
    if (h.client.map MqttClient.running).getD false then 1 else 0
  | _ => 0

/-- No login succeeds, nobody starts the client anew, and it refuses no call. -/
def Undisturbed : HandlerOp → Prop
  | .init _ | .restart _ | .event (.connected _) => False
  | .advance ok => ok = true
  | _ => True

instance (a : HandlerOp) : Decidable (Undisturbed a) := by
  unfold Undisturbed
  split <;> infer_instance

/-- The count of rejected logins grows and a suspension lasts. -/
structure Tightens (h h' : MqttHandler) : Prop where
  suspended : h.suspended = true → h'.suspended = true
  failures : h.authFailures.toNat ≤ h'.authFailures.toNat

theorem Tightens.refl (h : MqttHandler) : Tightens h h := ⟨id, Nat.le_refl _⟩

theorem countFailure_toNat (failures : UInt8) :
    (countFailure failures).toNat = min (failures.toNat + 1) 255 := by
  have h255 : (255 : UInt8).toNat = 255 := rfl
  have h1 : (1 : UInt8).toNat = 1 := rfl
  have hlt := failures.toNat_lt
  unfold countFailure
  split
  · rename_i hmore
    rw [UInt8.lt_iff_toNat_lt] at hmore
    rw [UInt8.toNat_add]
    omega
  · rename_i hmore
    rw [UInt8.lt_iff_toNat_lt] at hmore
    omega

theorem le_countFailure (failures : UInt8) : failures.toNat ≤ (countFailure failures).toNat := by
  have hlt := failures.toNat_lt
  rw [countFailure_toNat]
  omega

theorem tightens_suspendAsync (h : MqttHandler) (reason : String) (supervisor : Bool) :
    (h.mqttSuspendAsync reason supervisor).suspended = true ∧
      (h.mqttSuspendAsync reason supervisor).authFailures = h.authFailures := by
  unfold mqttSuspendAsync
  dsimp only
  split
  · split
    · exact ⟨rfl, rfl⟩
    · exact ⟨rfl, rfl⟩
  · exact ⟨rfl, rfl⟩

theorem tightens_refused (h : MqttHandler) (supervisor : Bool) :
    Tightens h (h.errorEvent (.connectionRefused 5) supervisor) ∧
      (h.errorEvent (.connectionRefused 5) supervisor).authFailures = countFailure h.authFailures ∧
      (3 ≤ countFailure h.authFailures →
        (h.errorEvent (.connectionRefused 5) supervisor).suspended = true) := by
  unfold errorEvent
  dsimp only
  rw [if_pos rfl]
  split
  · obtain ⟨hs, hf⟩ := tightens_suspendAsync _ _ supervisor
    exact ⟨⟨fun _ => hs, hf ▸ le_countFailure _⟩, hf, fun _ => hs⟩
  · rename_i hfew
    exact ⟨⟨id, le_countFailure _⟩, rfl, fun hmany => absurd hmany hfew⟩

theorem tightens_advance (h : MqttHandler) : Tightens h (h.advance true) := by
  unfold advance
  split
  case h_2 s todo next hphase =>
    obtain ⟨table, htable⟩ := mqttSubscribe_eq h s.topic s.qos s.callback true
    rw [htable]
    exact ⟨id, Nat.le_refl _⟩
  case h_3 shouldStart enabled hphase => cases shouldStart <;> exact ⟨id, Nat.le_refl _⟩
  case h_7 fresh hphase => cases fresh <;> exact ⟨id, Nat.le_refl _⟩
  all_goals exact ⟨id, Nat.le_refl _⟩

theorem tightens_disconnect (h : MqttHandler) (mac : Option (List UInt8)) (bySupervisor : Bool) :
    Tightens h (h.mqttDisconnect mac bySupervisor) := by
  unfold mqttDisconnect
  split
  · exact .refl h
  · split
    · exact ⟨id, Nat.le_refl _⟩
    · dsimp only
      split
      · exact ⟨fun _ => rfl, Nat.le_refl _⟩
      · exact ⟨fun _ => rfl, Nat.le_refl _⟩

/-- An error event does not disturb; a rejected login counts, and the third suspends. -/
theorem undisturbed_error (h : MqttHandler) (err : MqttError) (supervisor : Bool) :
    Tightens h (h.errorEvent err supervisor) ∧
      (h.rejection (.event (.error err supervisor)) ≠ 0 →
        (h.errorEvent err supervisor).authFailures = countFailure h.authFailures ∧
          (3 ≤ countFailure h.authFailures → (h.errorEvent err supervisor).suspended = true)) := by
  cases err with
  | noHandle => exact ⟨⟨id, Nat.le_refl _⟩, fun hr => absurd rfl hr⟩
  | other => exact ⟨⟨id, Nat.le_refl _⟩, fun hr => absurd rfl hr⟩
  | tcpTransport sockErrno espErr => exact ⟨⟨id, Nat.le_refl _⟩, fun hr => absurd rfl hr⟩
  | connectionRefused returnCode =>
    by_cases hcode : returnCode = 5
    · subst hcode
      exact (tightens_refused h supervisor).imp_right fun hsuspends _ => hsuspends
    · refine ⟨?_, fun hr => absurd ?_ hr⟩
      · unfold errorEvent
        dsimp only
        rw [if_neg hcode]
        exact ⟨id, Nat.le_refl _⟩
      · unfold rejection
        split
        · rename_i heq
          cases heq
          exact absurd rfl hcode
        · rfl

theorem undisturbed_event (h : MqttHandler) {e : MqttEvent} (he : Undisturbed (.event e)) :
    Tightens h (h.step (.event e)) ∧ (h.rejection (.event e) ≠ 0 →
      (h.step (.event e)).authFailures = countFailure h.authFailures ∧
        (3 ≤ countFailure h.authFailures → (h.step (.event e)).suspended = true)) := by
  show Tightens h (h.event e) ∧ _
  unfold step event
  cases hrunning : (h.client.map MqttClient.running).getD false with
  | false =>
    rw [if_pos rfl]
    refine ⟨.refl h, fun hr => absurd ?_ hr⟩
    unfold rejection
    split
    · rw [hrunning]
      rfl
    · rfl
  | true =>
    rw [if_neg Bool.true_eq_false_eq_False]
    cases e with
    | connected nowMs => exact he.elim
    | disconnected nowMs => exact ⟨⟨id, Nat.le_refl _⟩, fun hr => absurd rfl hr⟩
    | data topic => exact ⟨.refl h, fun hr => absurd rfl hr⟩
    | error err supervisor => exact undisturbed_error h err supervisor

/-- A step that does not disturb; a rejected login counts, and the third suspends. -/
theorem undisturbed_step (h : MqttHandler) {a : HandlerOp} (ha : Undisturbed a) :
    Tightens h (h.step a) ∧ (h.rejection a ≠ 0 →
      (h.step a).authFailures = countFailure h.authFailures ∧
        (3 ≤ countFailure h.authFailures → (h.step a).suspended = true)) := by
  cases a with
  | init env => exact ha.elim
  | restart env => exact ha.elim
  | store runtime => exact ⟨⟨id, Nat.le_refl _⟩, fun hr => absurd rfl hr⟩
  | disconnect mac => exact ⟨tightens_disconnect h mac false, fun hr => absurd rfl hr⟩
  | destroy stopped =>
    refine ⟨?_, fun hr => absurd rfl hr⟩
    show Tightens h (h.mqttDestroy stopped)
    unfold mqttDestroy
    split_ifs
    · exact .refl h
    · exact .refl h
    · exact ⟨id, Nat.le_refl _⟩
  | advance ok =>
    obtain rfl : ok = true := ha
    exact ⟨tightens_advance h, fun hr => absurd rfl hr⟩
  | wake =>
    refine ⟨?_, fun hr => absurd rfl hr⟩
    show Tightens h (if _ then _ else _)
    split_ifs <;> exact ⟨id, Nat.le_refl _⟩
  | copyReason =>
    refine ⟨?_, fun hr => absurd rfl hr⟩
    show Tightens h (if _ then _ else _)
    split_ifs <;> exact ⟨id, Nat.le_refl _⟩
  | supervise mac =>
    refine ⟨?_, fun hr => absurd rfl hr⟩
    unfold step
    dsimp only
    split
    · exact tightens_disconnect h mac true
    · exact .refl h
  | restoreReason =>
    refine ⟨?_, fun hr => absurd rfl hr⟩
    unfold step
    dsimp only
    split <;> exact ⟨id, Nat.le_refl _⟩
  | event e => exact undisturbed_event h ha

theorem suspended_of_rejections {as : List HandlerOp} (hundisturbed : ∀ a ∈ as, Undisturbed a)
    {h : MqttHandler} {k : Nat} (hcount : min k 3 ≤ h.authFailures.toNat)
    (hsuspended : 3 ≤ k → h.suspended = true) (hmany : 3 ≤ k + total step rejection h as) :
    (run step h as).suspended = true := by
  induction as generalizing h k with
  | nil => exact hsuspended hmany
  | cons a as ih =>
    obtain ⟨htight, hrejected⟩ := undisturbed_step h (hundisturbed a List.mem_cons_self)
    have hrest : ∀ b ∈ as, Undisturbed b := fun b hb => hundisturbed b (List.mem_cons_of_mem a hb)
    have hfailures := htight.failures
    rw [total] at hmany
    rw [run_cons]
    rcases Nat.eq_zero_or_pos (h.rejection a) with hnone | hone
    · exact ih hrest (Nat.le_trans hcount hfailures) (fun hk => htight.suspended (hsuspended hk))
        (by omega)
    · obtain ⟨hnext, hsuspends⟩ := hrejected (Nat.ne_of_gt hone)
      have hle : h.rejection a ≤ 1 := by
        unfold rejection
        split
        · split <;> decide
        · decide
      have hgrown : (countFailure h.authFailures).toNat = min (h.authFailures.toNat + 1) 255 :=
        countFailure_toNat _
      refine ih hrest (?_ : min (k + 1) 3 ≤ _) (fun hk => ?_) (by omega)
      · rw [hnext, hgrown]
        omega
      · apply hsuspends
        rw [UInt8.le_iff_toNat_le, hgrown]
        have h3 : (3 : UInt8).toNat = 3 := rfl
        omega

end MqttHandler

/-- **Three rejected logins lock the client out.** Between them and after them no login
succeeds, nobody starts the client anew and the client takes its calls: then it is suspended,
every `mqtt_reconnect` is refused, and once the supervisor waits again the client does not
connect by itself. -/
theorem lockout_holds (runtime : RuntimeConfig) (as bs : List HandlerOp)
    (hreaches : AllSteps step Reaches (boot runtime) (as ++ bs))
    (hundisturbed : ∀ b ∈ bs, Undisturbed b)
    (hrejected : 3 ≤ total step rejection (run step (boot runtime) as) bs) :
    (run step (boot runtime) (as ++ bs)).suspended = true ∧
      (∀ answer, (run step (boot runtime) (as ++ bs)).mqttReconnect answer = some .invalidState) ∧
      ((run step (boot runtime) (as ++ bs)).Settled →
        (run step (boot runtime) (as ++ bs)).StaysDown) := by
  have hsuspended : (run step (boot runtime) (as ++ bs)).suspended = true := by
    rw [run_append]
    have hnone : min 0 3 ≤ (run step (boot runtime) as).authFailures.toNat := Nat.zero_le _
    refine suspended_of_rejections hundisturbed hnone (fun hk => ?_) ?_
    · exact absurd hk (by decide)
    · rwa [Nat.zero_add]
  refine ⟨hsuspended, fun answer => if_pos hsuspended, fun hsettled => ?_⟩
  exact ((inv_reached hreaches).free hsettled.1 hsuspended).resolve_left hsettled.2

/-- Three rejected logins of a started client; the supervisor sees to it. -/
def rejectedRun : List HandlerOp :=
  List.replicate 3 (.event (.error (.connectionRefused 5) true)) ++
    [.wake, .copyReason, .supervise none, .advance true, .advance true, .restoreReason]

theorem lockout_holds_once :
    (run step (boot credentialRuntime) (suspendedRun.take 5 ++ rejectedRun)).suspended = true ∧
      (∀ answer, (run step (boot credentialRuntime)
        (suspendedRun.take 5 ++ rejectedRun)).mqttReconnect answer = some .invalidState) ∧
      ((run step (boot credentialRuntime) (suspendedRun.take 5 ++ rejectedRun)).Settled →
        (run step (boot credentialRuntime) (suspendedRun.take 5 ++ rejectedRun)).StaysDown) :=
  lockout_holds credentialRuntime (suspendedRun.take 5) rejectedRun (by decide +kernel)
    (by decide +kernel) (by decide +kernel)

end McpGateway.Mqtt
