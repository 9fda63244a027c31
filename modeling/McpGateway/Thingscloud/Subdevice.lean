import McpGateway.Tcm.StatePool
import McpGateway.Uif.CloudReplay

/-!
# Sub-devices

`thingscloud_subdevice.c`: the table of tracked slaves with their streaks, and
the connect and disconnect messages that a transition publishes. Nothing
publishes the online slaves again when a session begins, and a register function
reports after it has given the mutex back; `cloud_agrees_run` says in which runs
the cloud's view of the slaves agrees with the table all the same.
-/

namespace McpGateway.Thingscloud

open McpGateway.Lib McpGateway.Tcm

/-! ## The table -/

/-- `subdev_t`. -/
structure Subdev where
  address : CBuf 40
  state : SlaveState
  successStreak : Nat
  failStreak : Nat
  lastSuccessMs : Int
  deriving DecidableEq

def subdeviceMax : Nat := 100
def subdevSuccessThreshold : Nat := 2
def subdevFailureThreshold : Nat := 3

/-- `s_devs` and `s_error_count`. -/
structure Subdevices where
  devs : List Subdev
  errorCount : Nat

def Subdevices.boot : Subdevices where
  devs := List.replicate subdeviceMax ⟨.empty, .unknown, 0, 0, 0⟩
  errorCount := 0

def Subdev.isFree (d : Subdev) : Bool := decide (d.address.str = [])

def Subdev.isAt (address : CStr) (d : Subdev) : Bool :=
  !d.isFree && decide (d.address.str = address)

def subdevFind (address : CStr) (devs : List Subdev) : Option Nat :=
  devs.findIdx? (Subdev.isAt address)

/-- A free slot taken for an address; the time of the last success stays. -/
def Subdev.claimed (address : CStr) (d : Subdev) : Subdev :=
  { d with address := .copy 40 address, state := .unknown, successStreak := 0, failStreak := 0 }

/-- `subdev_find_or_create`: the slot and what is in it then. -/
def subdevFindOrCreate (address : CStr) (devs : List Subdev) : Option (Nat × Subdev) :=
  match subdevFind address devs with
  | some i => devs[i]?.map fun d => (i, d)
  | none =>
    match devs.findIdx? Subdev.isFree with
    | some i => devs[i]?.map fun d => (i, d.claimed address)
    | none => none

/-- A slot after a success, and whether it went online. -/
def Subdev.succeed (nowMs : Int) (d : Subdev) : Subdev × Bool :=
  let d' := { d with failStreak := 0, successStreak := d.successStreak + 1, lastSuccessMs := nowMs }
  if d.state ≠ .online ∧ d'.successStreak ≥ subdevSuccessThreshold then
    ({ d' with state := .online }, true)
  else (d', false)

/-- A slot after a failure, and whether it went offline. -/
def Subdev.fail (d : Subdev) : Subdev × Bool :=
  let d' := { d with successStreak := 0, failStreak := d.failStreak + 1 }
  if d.state ≠ .offline ∧ d'.failStreak ≥ subdevFailureThreshold then
    ({ d' with state := .offline }, true)
  else (d', false)

/-- The body of the two register functions: the table, and the slot whose
transition is to be reported. -/
def subdevRegister (change : Subdev → Subdev × Bool) (errors : Nat) (address : CStr)
    (t : Subdevices) : Subdevices × Option Subdev :=
  match subdevFindOrCreate address t.devs with
  | none => (t, none)
  | some (i, d) =>
    ({ devs := t.devs.set i (change d).1, errorCount := t.errorCount + errors },
      if (change d).2 then some (change d).1 else none)

/-- `thingscloud_subdev_register_success` up to its report. -/
def thingscloudSubdevRegisterSuccess (nowMs : Int) :
    CStr → Subdevices → Subdevices × Option Subdev :=
  subdevRegister (Subdev.succeed nowMs) 0

/-- `thingscloud_subdev_register_failure` up to its report. -/
def thingscloudSubdevRegisterFailure : CStr → Subdevices → Subdevices × Option Subdev :=
  subdevRegister Subdev.fail 1

/-- `thingscloud_subdev_republish_all_online`: what it sends. Nothing calls it. -/
def thingscloudSubdevRepublishAllOnline (env : LinkEnv) (t : Subdevices) : List Publish :=
  (t.devs.filter fun d => decide (d.state = .online) && !d.isFree).flatMap fun d =>
    Uif.subdevPublishState env d.address.str true

/-- `thingscloud_subdev_get_status`. `beyond` is what the memory holds behind an address. -/
def thingscloudSubdevGetStatus (beyond : CStr) (t : Subdevices) : List SlaveStatus :=
  (t.devs.filter fun d => !d.isFree).map fun d =>
    let parsed := (parseDeviceAddress beyond d.address.str).getD (0, 0)
    { portId := parsed.1
      slaveId := parsed.2
      state := d.state
      lastSeenMs := d.lastSuccessMs
      errorCount := d.failStreak
      dataValid := decide (d.state = .online) }

/-! ## Sessions -/

/-- A transition that a task still has to report: `snapshot` and its direction. -/
structure PendingReport where
  task : Nat
  device : CBuf 40
  online : Bool
  deriving DecidableEq

def PendingReport.isFor (address : CStr) (r : PendingReport) : Bool :=
  decide (r.device.str = address)

/-- The table, the link, the state messages of the current session, newest first, and the
reports under way, oldest first. -/
structure CloudSession where
  subdevs : Subdevices
  connected : Bool
  published : List (CStr × Bool)
  reports : List PendingReport

/-- What `subdev_publish_state` sees; what is published is delivered. -/
def CloudSession.link (s : CloudSession) : LinkEnv where
  reportMode := .subdevice
  nowMs := 0
  connected := s.connected
  clientAccepts _ := true

def CloudSession.reportOf (s : CloudSession) (task : Nat) : Option PendingReport :=
  s.reports.find? fun r => decide (r.task = task)

def CloudSession.oldestReport (s : CloudSession) (address : CStr) : Option PendingReport :=
  s.reports.find? (PendingReport.isFor address)

/-- A task is in a register function until it has reported. -/
inductive SubdevEvent
  | success (task : Nat) (nowMs : Int) (address : CStr)
  | failure (task : Nat) (address : CStr)
  | report (task : Nat)
  | mqttConnected
  | mqttDisconnected

/-- A register function up to `subdev_unlock`; a task with a report under way calls none. -/
def CloudSession.register (s : CloudSession) (task : Nat) (online : Bool)
    (r : Subdevices × Option Subdev) : CloudSession :=
  if (s.reportOf task).isSome then s
  else
    { s with
      subdevs := r.1
      reports := s.reports ++ (r.2.map fun d => ⟨task, d.address, online⟩).toList }

/-- `subdev_report_transition` in sub-device mode, after the unlock. If the link is found up
and lost before `mqtt_publish`, that one refuses: one look at the link is enough. -/
def CloudSession.report (s : CloudSession) (task : Nat) : CloudSession :=
  match s.reportOf task with
  | none => s
  | some r =>
    { s with
      reports := s.reports.erase r
      published :=
        if Uif.subdevPublishState s.link r.device.str r.online = [] then s.published
        else (r.device.str, r.online) :: s.published }

/-- The connected handler leaves the sub-devices alone, and a new session has
no messages. -/
def CloudSession.step (s : CloudSession) : SubdevEvent → CloudSession
  | .success task nowMs address =>
    s.register task true (thingscloudSubdevRegisterSuccess nowMs address s.subdevs)
  | .failure task address =>
    s.register task false (thingscloudSubdevRegisterFailure address s.subdevs)
  | .report task => s.report task
  | .mqttConnected => { s with connected := true, published := [] }
  | .mqttDisconnected => { s with connected := false }

def localState (devs : List Subdev) (address : CStr) : Option SlaveState :=
  (devs.find? (Subdev.isAt address)).map Subdev.state

def lastMessage (published : List (CStr × Bool)) (address : CStr) : Option Bool :=
  (published.find? fun m => m.1 = address).map Prod.snd

/-- A report for the address is under way. -/
def UnderWay (s : CloudSession) (address : CStr) : Prop :=
  ∃ r ∈ s.reports, r.isFor address = true

instance decidableUnderWay (s : CloudSession) (address : CStr) : Decidable (UnderWay s address) :=
  inferInstanceAs (Decidable (∃ r ∈ s.reports, _))

/-- The cloud takes a tracked address that no task is about to report for connected exactly
when it is online. -/
def CloudAgrees (s : CloudSession) : Prop :=
  ∀ address state, localState s.subdevs.devs address = some state → ¬ UnderWay s address →
    (lastMessage s.published address = some true ↔ state = .online)

/-- Every address that is online is about to be reported. -/
def OnlineReported (s : CloudSession) : Prop :=
  ∀ address, localState s.subdevs.devs address = some .online → UnderWay s address

/-! ## Registering -/

def targetState (online : Bool) : SlaveState := if online then .online else .offline

/-- What both register functions do to a slot. -/
structure Registers (online : Bool) (change : Subdev → Subdev × Bool) : Prop where
  address : ∀ d, (change d).1.address = d.address
  kept : ∀ d, (change d).2 = false → (change d).1.state = d.state
  moved : ∀ d, (change d).2 = true → (change d).1.state = targetState online
  fresh : ∀ d, d.successStreak = 0 → d.failStreak = 0 → (change d).2 = false

theorem registers_succeed (nowMs : Int) : Registers true (Subdev.succeed nowMs) where
  address d := by unfold Subdev.succeed; simp only; split <;> rfl
  kept d h := by
    unfold Subdev.succeed at h ⊢
    simp only at h ⊢
    split at h
    · cases h
    · rename_i hstays
      rw [if_neg hstays]
  moved d h := by
    unfold Subdev.succeed at h ⊢
    simp only at h ⊢
    split at h
    · rename_i hmoves
      rw [if_pos hmoves]
      rfl
    · cases h
  fresh d hsuccess _ := by
    unfold Subdev.succeed
    simp only
    rw [if_neg]
    rw [hsuccess]
    exact fun h => absurd h.2 (by decide)

theorem registers_fail : Registers false Subdev.fail where
  address d := by unfold Subdev.fail; simp only; split <;> rfl
  kept d h := by
    unfold Subdev.fail at h ⊢
    simp only at h ⊢
    split at h
    · cases h
    · rename_i hstays
      rw [if_neg hstays]
  moved d h := by
    unfold Subdev.fail at h ⊢
    simp only at h ⊢
    split at h
    · rename_i hmoves
      rw [if_pos hmoves]
      rfl
    · cases h
  fresh d _ hfail := by
    unfold Subdev.fail
    simp only
    rw [if_neg]
    rw [hfail]
    exact fun h => absurd h.2 (by decide)

/-- The slots in use come before the free ones. -/
def Packed (devs : List Subdev) : Prop :=
  ∃ used free, devs = used ++ free ∧ (∀ d ∈ used, d.isFree = false) ∧ ∀ d ∈ free, d.isFree = true

section Register

variable {devs : List Subdev} {address other : CStr} {i : Nat} {d d' : Subdev}

theorem isAt_iff : d.isAt address = true ↔ d.isFree = false ∧ d.address.str = address := by
  simp [Subdev.isAt]

theorem isAt_congr (h : d'.address = d.address) (address : CStr) :
    d'.isAt address = d.isAt address := by
  unfold Subdev.isAt Subdev.isFree
  rw [h]

theorem Packed.set (h : Packed devs) (hi : devs[i]? = some d) (hfree : d'.isFree = d.isFree) :
    Packed (devs.set i d') := by
  obtain ⟨used, free, rfl, hused, hrest⟩ := h
  rcases Nat.lt_or_ge i used.length with hlt | hge
  · refine ⟨used.set i d', free, List.set_append_left i d' hlt, fun e he => ?_, hrest⟩
    rcases List.mem_or_eq_of_mem_set he with hold | rfl
    · exact hused e hold
    · rw [List.getElem?_append_left hlt] at hi
      rw [hfree]
      exact hused d (List.mem_of_getElem? hi)
  · refine ⟨used, free.set (i - used.length) d', List.set_append_right i d' hge, hused,
      fun e he => ?_⟩
    rcases List.mem_or_eq_of_mem_set he with hold | rfl
    · exact hrest e hold
    · rw [List.getElem?_append_right hge] at hi
      rw [hfree]
      exact hrest d (List.mem_of_getElem? hi)

/-- The first free slot comes right after the slots in use. -/
theorem Packed.firstFree (h : Packed devs) (hi : devs.findIdx? Subdev.isFree = some i) :
    ∃ used rest d, devs = used ++ d :: rest ∧ i = used.length ∧ d.isFree = true ∧
      (∀ d ∈ used, d.isFree = false) ∧ ∀ d ∈ rest, d.isFree = true := by
  obtain ⟨used, free, rfl, hused, hfree⟩ := h
  have hnone : used.findIdx? Subdev.isFree = none := by
    rw [List.findIdx?_eq_none_iff]
    exact hused
  rw [List.findIdx?_append, hnone, Option.none_or] at hi
  cases free with
  | nil => cases hi
  | cons d rest =>
    rw [List.findIdx?_cons, hfree d List.mem_cons_self, if_pos rfl, Option.map_some,
      Nat.zero_add] at hi
    exact ⟨used, rest, d, rfl, (Option.some.inj hi).symm, hfree d List.mem_cons_self, hused,
      fun d hd => hfree d (List.mem_cons_of_mem _ hd)⟩

theorem find?_isAt_free (h : ∀ d ∈ devs, d.isFree = true) (address : CStr) :
    devs.find? (Subdev.isAt address) = none := by
  rw [List.find?_eq_none]
  intro d hd hat
  rw [isAt_iff, h d hd] at hat
  cases hat.1

/-- A slot that is claimed changes the state of no address but its own, and of
that one only if it was not tracked. -/
theorem Packed.claim (h : Packed devs) (hi : devs.findIdx? Subdev.isFree = some i)
    (d' : Subdev) :
    Packed (devs.set i d') ∧ ∀ b, localState (devs.set i d') b =
      (localState devs b).or (if d'.isAt b then some d'.state else none) := by
  obtain ⟨used, rest, d, rfl, rfl, hd, hused, hrest⟩ := h.firstFree hi
  have hset : (used ++ d :: rest).set used.length d' = used ++ d' :: rest := by simp
  rw [hset]
  refine ⟨?_, fun b => ?_⟩
  · cases hd' : d'.isFree with
    | true =>
      refine ⟨used, d' :: rest, rfl, hused, fun e he => ?_⟩
      rcases List.mem_cons.1 he with rfl | he
      · exact hd'
      · exact hrest e he
    | false =>
      refine ⟨used ++ [d'], rest, by simp, fun e he => ?_, hrest⟩
      rcases List.mem_append.1 he with he | he
      · exact hused e he
      · rw [List.mem_singleton.1 he]
        exact hd'
  · have hfree : d.isAt b = false := by
      rw [Bool.eq_false_iff, Ne, isAt_iff, hd]
      exact fun hat => absurd hat.1 (by decide)
    unfold localState
    rw [List.find?_append, List.find?_append, List.find?_cons, List.find?_cons, hfree,
      find?_isAt_free hrest]
    cases used.find? (Subdev.isAt b) with
    | some e => rfl
    | none => cases d'.isAt b <;> rfl

theorem localState_set_self (hi : subdevFind address devs = some i)
    (hat : d'.isAt address = true) : localState (devs.set i d') address = some d'.state := by
  unfold localState
  rw [find?_set_self hi hat, Option.map_some]

theorem localState_set_other (hi : subdevFind address devs = some i)
    (hat : d'.isAt address = true) (hne : other ≠ address) :
    localState (devs.set i d') other = localState devs other := by
  have hothers : ∀ e : Subdev, e.isAt address = true → e.isAt other = false := by
    intro e he
    rw [Bool.eq_false_iff, Ne, isAt_iff]
    exact fun hother => hne (hother.2.symm.trans (isAt_iff.1 he).2)
  unfold localState
  rw [find?_set_of_ne hi hothers hat]

theorem getElem?_of_subdevFind (hi : subdevFind address devs = some i) :
    ∃ d, devs[i]? = some d ∧ d.isAt address = true ∧
      localState devs address = some d.state := by
  obtain ⟨hlt, hat, -⟩ := List.findIdx?_eq_some_iff_getElem.1 hi
  have hget : devs[i]? = some devs[i] := List.getElem?_eq_getElem hlt
  refine ⟨devs[i], hget, hat, ?_⟩
  have hset := localState_set_self hi hat
  rwa [List.set_getElem_self] at hset

end Register

/-! ## Agreement -/

/-- The last report under way for an address has its state. -/
def Reporting (devs : List Subdev) (reports : List PendingReport) (address : CStr) : Prop :=
  ∀ r, (reports.filter (PendingReport.isFor address)).getLast? = some r →
    localState devs address = some (targetState r.online)

/-- The invariant of a session: messages and reports are about tracked addresses, the reports
end in the state of the table, and while the link is up the cloud agrees. -/
structure SessionInv (s : CloudSession) : Prop where
  packed : Packed s.subdevs.devs
  tracked : ∀ m ∈ s.published, (localState s.subdevs.devs m.1).isSome
  underWay : ∀ r ∈ s.reports, (localState s.subdevs.devs r.device.str).isSome
  reporting : ∀ address, Reporting s.subdevs.devs s.reports address
  agrees : s.connected = true → CloudAgrees s

section Reports

variable {r : PendingReport} {address : CStr}

theorem isFor_self (r : PendingReport) : r.isFor r.device.str = true := decide_eq_true rfl

theorem isFor_of_ne (h : address ≠ r.device.str) : ¬ r.isFor address = true :=
  fun hfor => h (of_decide_eq_true hfor).symm

theorem underWay_iff {s : CloudSession} :
    UnderWay s address ↔ s.reports.filter (PendingReport.isFor address) ≠ [] := by
  unfold UnderWay
  rw [Ne, List.filter_eq_nil_iff]
  simp

/-- The report that leaves is the oldest one for its address. -/
theorem erase_oldest {reports : List PendingReport}
    (hr : reports.find? (PendingReport.isFor r.device.str) = some r) :
    reports.filter (PendingReport.isFor r.device.str) =
        r :: (reports.erase r).filter (PendingReport.isFor r.device.str) ∧
      ∀ b, b ≠ r.device.str → (reports.erase r).filter (PendingReport.isFor b) =
        reports.filter (PendingReport.isFor b) := by
  obtain ⟨-, before, after, rfl, hbefore⟩ := List.find?_eq_some_iff_append.1 hr
  have hnew : r ∉ before := by
    intro hmem
    have hother := hbefore r hmem
    rw [isFor_self] at hother
    cases hother
  have hnone : before.filter (PendingReport.isFor r.device.str) = [] :=
    List.filter_eq_nil_iff.2 fun q hq => by simpa using hbefore q hq
  rw [List.erase_append_right _ hnew, List.erase_cons_head]
  refine ⟨?_, fun b hb => ?_⟩
  · rw [List.filter_append, List.filter_append, hnone, List.filter_cons_of_pos (isFor_self r)]
    rfl
  · rw [List.filter_append, List.filter_append, List.filter_cons_of_neg (isFor_of_ne hb)]

end Reports

section Agreement

variable {s : CloudSession} {devs : List Subdev} {address : CStr} {online : Bool} {d : Subdev}
  {change : Subdev → Subdev × Bool} {errors : Nat}

theorem subdevPublishState_eq {env : LinkEnv} (haccepts : ∀ p, env.clientAccepts p = true)
    (address : CBuf 40) (online : Bool) :
    Uif.subdevPublishState env address.str online =
      if env.connected then
        [⟨Uif.stateTopic online,
          .text ("\x7b\"device\":\"".toList ++ address.str ++ "\"\x7d".toList)⟩]
      else [] := by
  have hshort := address.lt
  have hfits : ("\x7b\"device\":\"".toList ++ address.str ++ "\"\x7d".toList).length < 64 := by
    have hprefix : "\x7b\"device\":\"".toList.length = 11 := rfl
    have hsuffix : "\"\x7d".toList.length = 2 := rfl
    rw [List.length_append, List.length_append, hprefix, hsuffix]
    omega
  unfold Uif.subdevPublishState
  simp only [mqttPublish, haccepts, if_true, ne_eq, not_true_eq_false, or_false, ge_iff_le,
    Nat.not_le.2 hfits]
  cases env.connected <;> simp

theorem republish_reports {env : LinkEnv} {t : Subdevices} (hconnected : env.connected = true)
    (haccepts : ∀ p, env.clientAccepts p = true) (hd : d ∈ t.devs) (honline : d.state = .online)
    (hused : d.isFree = false) :
    ∃ p ∈ thingscloudSubdevRepublishAllOnline env t, p.topic = .gatewayConnect ∧
      p.payload = .text ("\x7b\"device\":\"".toList ++ d.address.str ++ "\"\x7d".toList) := by
  refine ⟨⟨Uif.stateTopic true,
    .text ("\x7b\"device\":\"".toList ++ d.address.str ++ "\"\x7d".toList)⟩,
    List.mem_flatMap.2 ⟨d, List.mem_filter.2 ⟨hd, ?_⟩, ?_⟩, rfl, rfl⟩
  · rw [honline, hused]
    rfl
  · rw [subdevPublishState_eq haccepts, if_pos hconnected]
    exact List.mem_cons_self

theorem report_eq {task : Nat} {r : PendingReport} (hr : s.reportOf task = some r) :
    s.report task =
      { s with
        reports := s.reports.erase r
        published :=
          if s.connected then (r.device.str, r.online) :: s.published else s.published } := by
  unfold CloudSession.report
  rw [hr]
  dsimp only
  rw [subdevPublishState_eq (fun _ => rfl)]
  show CloudSession.mk _ _ (if (if s.connected = true then _ else _) = [] then _ else _) _ = _
  cases s.connected <;> simp

theorem lastMessage_cons (published : List (CStr × Bool)) (m : CStr × Bool) (address : CStr) :
    lastMessage (m :: published) address =
      if m.1 = address then some m.2 else lastMessage published address := by
  unfold lastMessage
  rw [List.find?_cons]
  by_cases h : m.1 = address
  · rw [decide_eq_true h, if_pos h]
    rfl
  · rw [decide_eq_false h, if_neg h]

theorem lastMessage_untracked (h : SessionInv s)
    (hnone : localState s.subdevs.devs address = none) :
    lastMessage s.published address = none := by
  unfold lastMessage
  rw [Option.map_eq_none_iff, List.find?_eq_none]
  intro m hm heq
  have htracked := h.tracked m hm
  rw [of_decide_eq_true heq, hnone] at htracked
  cases htracked

/-- A table that keeps the states, and tracks new addresses as unknown. -/
theorem SessionInv.keep (h : SessionInv s) {t : Subdevices} (hpacked : Packed t.devs)
    (hkeep : ∀ b state, localState s.subdevs.devs b = some state →
      localState t.devs b = some state)
    (hnew : ∀ b state, localState s.subdevs.devs b = none → localState t.devs b = some state →
      state = .unknown) : SessionInv { s with subdevs := t } := by
  have hsome : ∀ b, (localState s.subdevs.devs b).isSome → (localState t.devs b).isSome := by
    intro b hb
    obtain ⟨state, hstate⟩ := Option.isSome_iff_exists.1 hb
    rw [hkeep b state hstate]
    rfl
  refine ⟨hpacked, fun m hm => hsome _ (h.tracked m hm), fun r hr => hsome _ (h.underWay r hr),
    fun b r hr => hkeep b _ (h.reporting b r hr), fun hconnected b state hstate hquiet => ?_⟩
  cases hold : localState s.subdevs.devs b with
  | some old =>
    have heq := (hkeep b old hold).symm.trans hstate
    exact h.agrees hconnected b state (hold.trans heq) hquiet
  | none =>
    rw [hnew b state hold hstate]
    show lastMessage s.published b = some true ↔ _
    rw [lastMessage_untracked h hold]
    constructor <;> intro hfalse <;> cases hfalse

/-- A transition, with its report under way. -/
theorem SessionInv.transition (h : SessionInv s) {t : Subdevices} {r : PendingReport}
    (hpacked : Packed t.devs)
    (hmoved : localState t.devs r.device.str = some (targetState r.online))
    (hothers : ∀ b, b ≠ r.device.str → localState t.devs b = localState s.subdevs.devs b) :
    SessionInv { s with subdevs := t, reports := s.reports ++ [r] } := by
  have hsome : ∀ b, (localState s.subdevs.devs b).isSome → (localState t.devs b).isSome := by
    intro b hb
    by_cases heq : b = r.device.str
    · rw [heq, hmoved]
      rfl
    · rwa [hothers b heq]
  refine ⟨hpacked, fun m hm => hsome _ (h.tracked m hm), fun q hq => ?_, fun b q hq => ?_,
    fun hconnected b state hstate hquiet => ?_⟩
  · rcases List.mem_append.1 hq with hq | hq
    · exact hsome _ (h.underWay q hq)
    · rw [List.mem_singleton.1 hq, hmoved]
      rfl
  · rw [List.filter_append] at hq
    by_cases heq : b = r.device.str
    · rw [heq, List.filter_cons_of_pos (isFor_self r), List.filter_nil,
        List.getLast?_concat] at hq
      rw [heq, ← Option.some.inj hq]
      exact hmoved
    · rw [List.filter_cons_of_neg (isFor_of_ne heq), List.filter_nil, List.append_nil] at hq
      exact (hothers b heq).trans (h.reporting b q hq)
  · have hne : b ≠ r.device.str := fun heq =>
      hquiet ⟨r, List.mem_append_right _ List.mem_cons_self, heq ▸ isFor_self r⟩
    refine h.agrees hconnected b state ((hothers b hne).symm.trans hstate) fun ⟨q, hq, hb⟩ => ?_
    exact hquiet ⟨q, List.mem_append_left _ hq, hb⟩

/-- The oldest report for its address leaves: if it was the only one, the cloud has the state. -/
theorem SessionInv.reported (h : SessionInv s) {task : Nat} {r : PendingReport}
    (hr : s.reportOf task = some r) (hfirst : s.oldestReport r.device.str = some r) :
    SessionInv (s.report task) := by
  obtain ⟨hsame, hothers⟩ := erase_oldest hfirst
  have htracked := h.underWay r (List.mem_of_find?_eq_some hr)
  rw [report_eq hr]
  refine ⟨h.packed, fun m hm => ?_, fun q hq => h.underWay q (List.mem_of_mem_erase hq),
    fun b q hq => ?_, fun hconnected b state hstate hquiet => ?_⟩
  · dsimp only at hm
    split at hm
    · rcases List.mem_cons.1 hm with rfl | hm
      · exact htracked
      · exact h.tracked m hm
    · exact h.tracked m hm
  · dsimp only at hq
    by_cases heq : b = r.device.str
    · subst heq
      refine h.reporting _ q ?_
      rw [hsame, List.getLast?_cons, hq]
      rfl
    · rw [hothers b heq] at hq
      exact h.reporting b q hq
  · rw [underWay_iff, not_not] at hquiet
    dsimp only at hconnected hquiet hstate ⊢
    rw [if_pos hconnected, lastMessage_cons]
    by_cases heq : r.device.str = b
    · subst heq
      have hlast := h.reporting r.device.str r (by rw [hsame, hquiet]; rfl)
      rw [if_pos rfl, ← Option.some.inj (hlast.symm.trans hstate)]
      cases r.online <;> simp [targetState]
    · rw [if_neg heq]
      rw [hothers b (Ne.symm heq)] at hquiet
      refine h.agrees hconnected b state hstate ?_
      rwa [underWay_iff, not_not]

theorem SessionInv.registerTracked (h : SessionInv s) (hchange : Registers online change)
    {i : Nat} (hfind : subdevFind address s.subdevs.devs = some i) (task : Nat) :
    SessionInv (s.register task online (subdevRegister change errors address s.subdevs)) := by
  unfold CloudSession.register
  split
  · exact h
  obtain ⟨d, hget, hat, hlocal⟩ := getElem?_of_subdevFind hfind
  have hat' : (change d).1.isAt address = true := by
    rw [isAt_congr (hchange.address d)]
    exact hat
  have hpacked : Packed (s.subdevs.devs.set i (change d).1) := by
    refine h.packed.set hget ?_
    unfold Subdev.isFree
    rw [hchange.address d]
  have hothers : ∀ b, b ≠ address →
      localState (s.subdevs.devs.set i (change d).1) b = localState s.subdevs.devs b :=
    fun b hb => localState_set_other hfind hat' hb
  have hself := localState_set_self hfind hat'
  simp only [subdevRegister, subdevFindOrCreate, hfind, hget, Option.map_some]
  cases hmoved : (change d).2 with
  | false =>
    rw [hchange.kept d hmoved, ← hlocal] at hself
    have hsame : ∀ b, localState (s.subdevs.devs.set i (change d).1) b =
        localState s.subdevs.devs b := by
      intro b
      by_cases hb : b = address
      · rw [hb]
        exact hself
      · exact hothers b hb
    rw [if_neg Bool.false_ne_true, Option.map_none, Option.toList_none, List.append_nil]
    refine h.keep hpacked (fun b state hb => (hsame b).trans hb) fun b state hnone hsome => ?_
    rw [hsame b, hnone] at hsome
    cases hsome
  | true =>
    have haddress : (change d).1.address.str = address := (isAt_iff.1 hat').2
    rw [hchange.moved d hmoved] at hself
    rw [if_pos rfl, Option.map_some, Option.toList_some]
    refine h.transition hpacked ?_ ?_
    · show localState _ (change d).1.address.str = _
      rw [haddress]
      exact hself
    · show ∀ b, b ≠ (change d).1.address.str → _
      rw [haddress]
      exact hothers

theorem SessionInv.registerNew (h : SessionInv s) (hchange : Registers online change)
    (hfind : subdevFind address s.subdevs.devs = none) (task : Nat) :
    SessionInv (s.register task online (subdevRegister change errors address s.subdevs)) := by
  unfold CloudSession.register
  split
  · exact h
  simp only [subdevRegister, subdevFindOrCreate, hfind]
  cases hfree : s.subdevs.devs.findIdx? Subdev.isFree with
  | none =>
    rw [Option.map_none, Option.toList_none, List.append_nil]
    exact h
  | some i =>
    obtain ⟨hlt, -⟩ := List.findIdx?_eq_some_iff_getElem.1 hfree
    have hquiet : (change (s.subdevs.devs[i].claimed address)).2 = false :=
      hchange.fresh _ rfl rfl
    obtain ⟨hpacked, hlocal⟩ :=
      h.packed.claim hfree (change (s.subdevs.devs[i].claimed address)).1
    simp only [List.getElem?_eq_getElem hlt, Option.map_some]
    rw [hquiet, if_neg Bool.false_ne_true, Option.map_none, Option.toList_none, List.append_nil]
    refine h.keep hpacked (fun b state hb => ?_) fun b state hnone hsome => ?_
    · rw [hlocal b, hb]
      rfl
    · rw [hlocal b, hnone, Option.none_or] at hsome
      split at hsome
      · rw [← Option.some.inj hsome, hchange.kept _ hquiet]
        rfl
      · cases hsome

/-- **Registering keeps the invariant.** -/
theorem SessionInv.register (h : SessionInv s) (hchange : Registers online change) (task : Nat) :
    SessionInv (s.register task online (subdevRegister change errors address s.subdevs)) := by
  cases hfind : subdevFind address s.subdevs.devs with
  | some i => exact h.registerTracked hchange hfind task
  | none => exact h.registerNew hchange hfind task

end Agreement

/-- After the step, if the gateway is connected, the cloud agrees. -/
def AgreesAfter (s : CloudSession) (e : SubdevEvent) : Prop :=
  (s.step e).connected = true → CloudAgrees (s.step e)

/-- A session begins only while every address that is online is about to be reported. -/
def BeginsReported (s : CloudSession) : SubdevEvent → Prop
  | .mqttConnected => OnlineReported s
  | _ => True

/-- A report leaves only when no older one for its address is under way. -/
def ReportsInOrder (s : CloudSession) : SubdevEvent → Prop
  | .report task => ∀ r ∈ s.reportOf task, s.oldestReport r.device.str = some r
  | _ => True

instance decidableReportsInOrder (s : CloudSession) : ∀ e, Decidable (ReportsInOrder s e)
  | .report task => inferInstanceAs (Decidable (∀ r ∈ s.reportOf task, _))
  | .success .. | .failure .. | .mqttConnected | .mqttDisconnected => .isTrue trivial

/-- At a new session the cloud knows no sub-device. -/
theorem agreesAfter_connect_iff (s : CloudSession) :
    AgreesAfter s .mqttConnected ↔ OnlineReported s := by
  constructor
  · intro h address honline
    by_contra hquiet
    have hmessage := (h rfl address .online honline hquiet).2 rfl
    cases hmessage
  · intro hreported _ address state hstate hquiet
    constructor
    · intro hmessage
      cases hmessage
    · rintro rfl
      exact absurd (hreported address hstate) hquiet

section Step

variable {s : CloudSession} {e : SubdevEvent}

theorem SessionInv.reportInOrder (h : SessionInv s) {task : Nat}
    (horder : ReportsInOrder s (.report task)) : SessionInv (s.step (.report task)) := by
  cases hr : s.reportOf task with
  | none =>
    have hidle : s.step (.report task) = s := by
      rw [CloudSession.step, CloudSession.report, hr]
    rwa [hidle]
  | some r => exact h.reported hr (horder r hr)

theorem agreesAfter_iff (h : SessionInv s) (horder : ReportsInOrder s e) :
    AgreesAfter s e ↔ BeginsReported s e := by
  cases e with
  | success task nowMs address =>
    exact iff_of_true (h.register (registers_succeed nowMs) task).agrees trivial
  | failure task address => exact iff_of_true (h.register registers_fail task).agrees trivial
  | report task => exact iff_of_true (h.reportInOrder horder).agrees trivial
  | mqttConnected => exact agreesAfter_connect_iff s
  | mqttDisconnected => exact iff_of_true (fun hconnected => Bool.noConfusion hconnected) trivial

theorem SessionInv.step (h : SessionInv s) (horder : ReportsInOrder s e)
    (hagrees : AgreesAfter s e) : SessionInv (s.step e) := by
  cases e with
  | success task nowMs address => exact h.register (registers_succeed nowMs) task
  | failure task address => exact h.register registers_fail task
  | report task => exact h.reportInOrder horder
  | mqttConnected =>
    exact ⟨h.packed, fun m hm => absurd hm List.not_mem_nil, h.underWay, h.reporting, hagrees⟩
  | mqttDisconnected =>
    exact ⟨h.packed, h.tracked, h.underWay, h.reporting, fun hconnected => by cases hconnected⟩

end Step

def bootSession : CloudSession := ⟨.boot, false, [], []⟩

theorem sessionInv_boot : SessionInv bootSession := by
  have hfree : ∀ d ∈ Subdevices.boot.devs, d.isFree = true := by
    intro d hd
    rw [List.eq_of_mem_replicate hd]
    rfl
  exact ⟨⟨[], Subdevices.boot.devs, rfl, fun d hd => absurd hd List.not_mem_nil, hfree⟩,
    fun m hm => absurd hm List.not_mem_nil, fun r hr => absurd hr List.not_mem_nil,
    (fun _ _ hr => by cases hr), fun hconnected => Bool.noConfusion hconnected⟩

/-- **Agreement.** Along a run in which the reports for an address leave in their order, the
cloud agrees with the table whenever the gateway is connected if and only if every session
begins while all addresses that are online are about to be reported. -/
theorem cloud_agrees_run (events : List SubdevEvent)
    (horder : AllSteps CloudSession.step ReportsInOrder bootSession events) :
    AllSteps CloudSession.step AgreesAfter bootSession events ↔
      AllSteps CloudSession.step BeginsReported bootSession events :=
  allSteps_iff
    (K := fun s rest => SessionInv s ∧ AllSteps CloudSession.step ReportsInOrder s rest)
    (fun _ _ _ h hagrees => ⟨h.1.step h.2.1 hagrees, h.2.2⟩)
    (fun _ _ _ h => agreesAfter_iff h.1 h.2.1) ⟨sessionInv_boot, horder⟩

theorem onlineReported_of_none {s : CloudSession}
    (h : ∀ d ∈ s.subdevs.devs, d.state ≠ .online) : OnlineReported s := by
  intro address honline
  obtain ⟨d, hd, hstate⟩ := Option.map_eq_some_iff.1 honline
  exact absurd hstate (h d (List.mem_of_find?_eq_some hd))

/-- One task takes a slave online and reports after another has taken it offline. -/
def overlappingEvents : List SubdevEvent :=
  [.mqttConnected, .success 0 1000 "1".toList, .success 0 2000 "1".toList,
    .failure 1 "1".toList, .failure 1 "1".toList, .failure 1 "1".toList, .report 0, .report 1]

/-- In this order of the two reports the cloud agrees. -/
theorem overlapping_agrees :
    AllSteps CloudSession.step AgreesAfter bootSession overlappingEvents := by
  refine (cloud_agrees_run overlappingEvents (by decide +kernel)).2 ?_
  refine ⟨onlineReported_of_none (by decide +kernel), ?_⟩
  exact ⟨trivial, trivial, trivial, trivial, trivial, trivial, trivial, trivial⟩

-- in the other order the last message says that a slave is connected which is offline
example :
    let s := run CloudSession.step bootSession
      (overlappingEvents.take 6 ++ [.report 1, .report 0])
    lastMessage s.published "1".toList = some true ∧
      localState s.subdevs.devs "1".toList = some .offline := by decide +kernel

/-- A slave goes online and is reported, the link is lost and comes back: the new session knows
nothing of it. -/
theorem reconnect_forgets :
    ¬ AllSteps CloudSession.step AgreesAfter bootSession
      [.mqttConnected, .success 0 1000 "1".toList, .success 0 2000 "1".toList, .report 0,
        .mqttDisconnected, .mqttConnected] := by
  rintro ⟨-, -, -, -, -, hreconnect, -⟩
  have hreported := (agreesAfter_connect_iff _).1 hreconnect "1".toList (by decide +kernel)
  revert hreported
  decide +kernel

end McpGateway.Thingscloud
