import McpGateway.Config
import McpGateway.Lib.CString
import McpGateway.Lib.Run

/-!
# The uplink of the gateway

`network_manager.c` with the handlers of `ethernet_w5500.c`: which of Ethernet and
WiFi the default route takes. The event loop calls the handlers of an event one
after the other, those of the driver first. `uplink_follows_events` says where the
route stands after any sequence of events.
-/

namespace McpGateway.Network

open McpGateway.Lib

inductive Uplink
  | ethernet
  | wifi
  deriving DecidableEq

def Uplink.name : Uplink → CStr
  | .ethernet => "ethernet".toList
  | .wifi => "wifi".toList

theorem Uplink.name_injective {u v : Uplink} (h : u.name = v.name) : u = v := by
  cases u <;> cases v <;> first | rfl | exact absurd h (by decide)

theorem Uplink.name_ne_nil (u : Uplink) : u.name ≠ [] := by
  cases u <;> decide

theorem Uplink.name_copy (u : Uplink) : (CBuf.copy 12 u.name).str = u.name := by
  cases u <;> rfl

/-- `network_status_t`. -/
structure NetworkStatus where
  ethernetLink : Bool
  ethernetIp : Bool
  wifiConnected : Bool
  configApActive : Bool
  ethernetPreferred : Bool
  failoverCount : UInt32
  ethernetAddress : CBuf 16
  wifiAddress : CBuf 16
  configApSsid : CBuf 33
  activeUplink : CBuf 12

/-- The statics of both files; `route` is the interface that was last made the default one. -/
structure NetworkManager where
  status : NetworkStatus
  preferEthernet : Bool
  /-- `s_eth_netif` and `s_sta_netif`. -/
  netif : Uplink → Bool
  linked : Bool
  hasIp : Bool
  ip : CBuf 16
  route : Option Uplink

/-- An IPv4 address, in the order in which it is written. -/
structure Ip4 where
  a : UInt8
  b : UInt8
  c : UInt8
  d : UInt8

/-- `IPSTR`. -/
def Ip4.text (ip : Ip4) : CStr :=
  List.intercalate ['.'] [printDecimal ip.a.toNat, printDecimal ip.b.toNat,
    printDecimal ip.c.toNat, printDecimal ip.d.toNat]

def noAddress : CStr := "0.0.0.0".toList

/-- The events with a handler; `accepted` is whether `esp_netif_set_default_netif` succeeds. -/
inductive NetworkEvent
  | ethConnected
  | ethDisconnected (accepted : Bool)
  | ethStop
  | ethGotIp (ip : Ip4) (accepted : Bool)
  | staStart
  | staDisconnected
  | staGotIp (ip : Ip4) (accepted : Bool)

namespace NetworkManager

def selectUplink (n : NetworkManager) (accepted : Bool) (target : Uplink) : NetworkManager :=
  if n.netif target = false ∨ accepted = false then n
  else
    let n := { n with route := some target }
    if n.status.activeUplink.str ≠ target.name then
      let count := n.status.failoverCount
      { n with status :=
        { n.status with
          failoverCount := if n.status.activeUplink.str ≠ [] then count + 1 else count
          activeUplink := .copy 12 target.name } }
    else n

/-- `eth_event_handler` and `eth_ip_handler`. -/
def driver (n : NetworkManager) : NetworkEvent → NetworkManager
  | .ethConnected => { n with linked := true }
  | .ethDisconnected _ => { n with linked := false, hasIp := false, ip := .copy 16 noAddress }
  | .ethStop => { n with linked := false, hasIp := false }
  | .ethGotIp ip _ => { n with ip := .copy 16 ip.text, hasIp := true }
  | _ => n

def routeEvent (n : NetworkManager) : NetworkEvent → NetworkManager
  | .ethGotIp _ accepted => if n.preferEthernet then n.selectUplink accepted .ethernet else n
  | .ethDisconnected accepted =>
    if n.status.wifiConnected then n.selectUplink accepted .wifi else n
  | _ => n

def wifiEvent (n : NetworkManager) : NetworkEvent → NetworkManager
  | .staDisconnected =>
    { n with status := { n.status with wifiConnected := false, wifiAddress := .copy 16 noAddress } }
  | .staGotIp ip accepted =>
    let n := { n with status :=
      { n.status with wifiAddress := .copy 16 ip.text, wifiConnected := true } }
    if n.preferEthernet = false ∨ n.hasIp = false then n.selectUplink accepted .wifi else n
  | _ => n

def step (n : NetworkManager) (e : NetworkEvent) : NetworkManager := ((n.driver e).routeEvent e).wifiEvent e

/-- The statics when `network_manager_init` returns; `ethernet` is whether there is a W5500. -/
def start (preferEthernet ethernet : Bool) (configApSsid : CBuf 33) : NetworkManager where
  status :=
    { ethernetLink := false
      ethernetIp := false
      wifiConnected := false
      configApActive := true
      ethernetPreferred := preferEthernet
      failoverCount := 0
      ethernetAddress := .copy 16 noAddress
      wifiAddress := .copy 16 noAddress
      configApSsid := configApSsid
      activeUplink := .empty }
  preferEthernet := preferEthernet
  netif := fun u => u = .wifi || ethernet
  linked := false
  hasIp := false
  ip := .copy 16 noAddress
  route := none

/-- `network_manager_get_status`. -/
def getStatus (n : NetworkManager) : NetworkStatus :=
  { n.status with ethernetLink := n.linked, ethernetIp := n.hasIp, ethernetAddress := n.ip }

def routed (n : NetworkManager) : NetworkEvent → Option Uplink
  | .ethGotIp _ accepted =>
    if n.preferEthernet ∧ n.netif .ethernet ∧ accepted then some .ethernet else none
  | .ethDisconnected accepted =>
    if n.status.wifiConnected ∧ n.netif .wifi ∧ accepted then some .wifi else none
  | .staGotIp _ accepted =>
    if (n.preferEthernet = false ∨ n.hasIp = false) ∧ n.netif .wifi ∧ accepted then some .wifi
    else none
  | _ => none

end NetworkManager

/-- How often the route leaves one interface for the other. -/
def changes : List Uplink → Nat
  | u :: v :: us => (if u = v then 0 else 1) + changes (v :: us)
  | _ => 0

theorem changes_concat (us : List Uplink) (u : Uplink) : changes (us ++ [u]) =
    changes us + match us.getLast? with
      | none => 0
      | some v => if v = u then 0 else 1 := by
  induction us with
  | nil => rfl
  | cons v us ih =>
    cases us with
    | nil =>
      show (if v = u then 0 else 1) + 0 = 0 + if v = u then 0 else 1
      omega
    | cons w us =>
      rw [List.getLast?_cons_cons, List.cons_append]
      show (if v = w then 0 else 1) + changes (w :: us ++ [u]) =
        (if v = w then 0 else 1) + changes (w :: us) + _
      rw [ih]
      omega

namespace NetworkManager

section Select

variable {n : NetworkManager} {accepted : Bool} {target : Uplink}

theorem selectUplink_refused (h : ¬ (n.netif target ∧ accepted)) :
    n.selectUplink accepted target = n := by
  refine if_pos ?_
  cases hnetif : n.netif target with
  | false => exact .inl rfl
  | true =>
    cases haccepted : accepted with
    | false => exact .inr rfl
    | true => exact absurd ⟨hnetif, haccepted⟩ h

/-- `active_uplink` names the route, and `failover_count` counts its changes. -/
structure Recorded (n : NetworkManager) (us : List Uplink) : Prop where
  route : n.route = us.getLast?
  name : n.status.activeUplink.str = (us.getLast?.map Uplink.name).getD []
  count : n.status.failoverCount = UInt32.ofNat (changes us)

theorem Recorded.selectUplink {us : List Uplink} (h : Recorded n us)
    (hnetif : n.netif target) (haccepted : accepted) :
    Recorded (n.selectUplink accepted target) (us ++ [target]) := by
  have hgo : ¬ (n.netif target = false ∨ accepted = false) := by
    rw [hnetif, haccepted]
    decide
  unfold NetworkManager.selectUplink
  rw [if_neg hgo]
  dsimp only
  have hname := h.name
  have hcount := h.count
  cases hlast : us.getLast? with
  | none =>
    rw [hlast] at hname
    have hnone : n.status.activeUplink.str = [] := hname
    have hnew : ([] : CStr) ≠ target.name := (Uplink.name_ne_nil target).symm
    rw [hnone, if_pos hnew, if_neg (not_not.2 rfl)]
    refine ⟨List.getLast?_concat.symm, ?_, ?_⟩
    · rw [List.getLast?_concat]
      exact Uplink.name_copy target
    · rw [changes_concat, hlast]
      exact hcount
  | some v =>
    rw [hlast] at hname
    have hold : n.status.activeUplink.str = v.name := hname
    rw [hold]
    by_cases hsame : v = target
    · rw [hsame, if_neg (not_not.2 rfl)]
      refine ⟨List.getLast?_concat.symm, ?_, ?_⟩
      · rw [List.getLast?_concat]
        exact hold.trans (congrArg Uplink.name hsame)
      · rw [changes_concat, hlast]
        dsimp only
        rw [if_pos hsame]
        exact hcount
    · rw [if_pos fun heq => hsame (Uplink.name_injective heq), if_pos (Uplink.name_ne_nil v)]
      refine ⟨List.getLast?_concat.symm, ?_, ?_⟩
      · rw [List.getLast?_concat]
        exact Uplink.name_copy target
      · rw [changes_concat, hlast]
        dsimp only
        rw [if_neg hsame, hcount, UInt32.ofNat_add]
        rfl

variable (n : NetworkManager) (accepted : Bool) (target : Uplink)

theorem selectUplink_frame :
    (n.selectUplink accepted target).preferEthernet = n.preferEthernet ∧
      (n.selectUplink accepted target).netif = n.netif ∧
      (n.selectUplink accepted target).hasIp = n.hasIp ∧
      (n.selectUplink accepted target).status.wifiConnected = n.status.wifiConnected := by
  unfold NetworkManager.selectUplink
  split
  · exact ⟨rfl, rfl, rfl, rfl⟩
  · dsimp only
    split <;> exact ⟨rfl, rfl, rfl, rfl⟩

end Select

/-- Only the three states of the interfaces and the route matter to the handlers. -/
theorem Recorded.of_eq {n n' : NetworkManager} {us : List Uplink} (h : Recorded n us)
    (hroute : n'.route = n.route) (hname : n'.status.activeUplink = n.status.activeUplink)
    (hcount : n'.status.failoverCount = n.status.failoverCount) : Recorded n' us :=
  ⟨hroute.trans h.route, hname ▸ h.name, hcount.trans h.count⟩

theorem Recorded.step {n : NetworkManager} {us : List Uplink} (h : Recorded n us)
    (e : NetworkEvent) : Recorded (n.step e) (us ++ (n.routed e).toList) := by
  -- a choice that is not made leaves the state of before
  have hselect (m : NetworkManager) (accepted : Bool) (target : Uplink) (hm : Recorded m us) :
      Recorded (m.selectUplink accepted target)
        (us ++ (if m.netif target ∧ accepted then some target else none).toList) := by
    split
    · rename_i hgo
      exact hm.selectUplink hgo.1 hgo.2
    · rename_i hgo
      rw [selectUplink_refused hgo, Option.toList_none, List.append_nil]
      exact hm
  cases e with
  | ethConnected => exact (List.append_nil us).symm ▸ h.of_eq rfl rfl rfl
  | ethStop => exact (List.append_nil us).symm ▸ h.of_eq rfl rfl rfl
  | staStart => exact (List.append_nil us).symm ▸ h.of_eq rfl rfl rfl
  | staDisconnected => exact (List.append_nil us).symm ▸ h.of_eq rfl rfl rfl
  | ethDisconnected accepted =>
    have hm : Recorded (n.driver (.ethDisconnected accepted)) us := h.of_eq rfl rfl rfl
    show Recorded (if n.status.wifiConnected then
        (n.driver (.ethDisconnected accepted)).selectUplink accepted .wifi
      else n.driver (.ethDisconnected accepted)) _
    unfold routed
    by_cases hwifi : n.status.wifiConnected = true
    · simp only [hwifi, if_true, true_and]
      exact hselect _ accepted .wifi hm
    · simp only [hwifi, Bool.false_eq_true, if_false, false_and, Option.toList_none, List.append_nil]
      exact hm
  | ethGotIp ip accepted =>
    have hm : Recorded (n.driver (.ethGotIp ip accepted)) us := h.of_eq rfl rfl rfl
    show Recorded (if n.preferEthernet then
        (n.driver (.ethGotIp ip accepted)).selectUplink accepted .ethernet
      else n.driver (.ethGotIp ip accepted)) _
    unfold routed
    by_cases hprefer : n.preferEthernet = true
    · simp only [hprefer, if_true, true_and]
      exact hselect _ accepted .ethernet hm
    · simp only [hprefer, Bool.false_eq_true, if_false, false_and, Option.toList_none, List.append_nil]
      exact hm
  | staGotIp ip accepted =>
    let m := { n with status :=
      { n.status with wifiAddress := .copy 16 ip.text, wifiConnected := true } }
    have hm : Recorded m us := h.of_eq rfl rfl rfl
    show Recorded (if n.preferEthernet = false ∨ n.hasIp = false then
      m.selectUplink accepted .wifi else m) _
    unfold routed
    by_cases hfree : n.preferEthernet = false ∨ n.hasIp = false
    · simp only [hfree, if_true, true_and]
      exact hselect m accepted .wifi hm
    · simp only [hfree, if_false, false_and, Option.toList_none, List.append_nil]
      exact hm

theorem Recorded.route_step {n : NetworkManager} {us : List Uplink} (h : Recorded n us)
    (e : NetworkEvent) : (n.step e).route = (n.routed e).or n.route := by
  rw [(h.step e).route, h.route]
  cases n.routed e with
  | none => exact congrArg List.getLast? (List.append_nil us)
  | some u => exact List.getLast?_concat

end NetworkManager

/-- An event of a gateway whose calls succeed: the W5500, if there is one, is never stopped. -/
def NetworkEvent.Usual (ethernet : Bool) : NetworkEvent → Prop
  | .ethConnected => ethernet = true
  | .ethDisconnected accepted | .ethGotIp _ accepted => ethernet = true ∧ accepted = true
  | .ethStop => False
  | .staStart | .staDisconnected => True
  | .staGotIp _ accepted => accepted = true

namespace NetworkManager

/-- Where the route stands by the preference and the interfaces that have an address. -/
structure Follows (prefer ethernet : Bool) (n : NetworkManager) : Prop where
  preferred : n.preferEthernet = prefer
  present : n.netif .ethernet = ethernet ∧ n.netif .wifi = true
  ethernetFirst : prefer = true → n.hasIp = true → n.route = some .ethernet
  wifiInstead : prefer = true → n.hasIp = false → n.status.wifiConnected = true →
    n.route = some .wifi
  wifiOnly : prefer = false → n.route ≠ some .ethernet ∧
    (n.status.wifiConnected = true → n.route = some .wifi)

theorem step_frame (n : NetworkManager) (e : NetworkEvent) :
    (n.step e).preferEthernet = n.preferEthernet ∧ (n.step e).netif = n.netif ∧
      (n.step e).hasIp = (match e with
        | .ethDisconnected _ | .ethStop => false
        | .ethGotIp _ _ => true
        | _ => n.hasIp) ∧
      (n.step e).status.wifiConnected = (match e with
        | .staDisconnected => false
        | .staGotIp _ _ => true
        | _ => n.status.wifiConnected) := by
  cases e with
  | ethConnected | ethStop | staStart | staDisconnected => exact ⟨rfl, rfl, rfl, rfl⟩
  | ethDisconnected accepted =>
    unfold NetworkManager.step routeEvent wifiEvent
    dsimp only
    split
    · exact selectUplink_frame (n.driver (.ethDisconnected accepted)) accepted .wifi
    · exact ⟨rfl, rfl, rfl, rfl⟩
  | ethGotIp ip accepted =>
    unfold NetworkManager.step routeEvent wifiEvent
    dsimp only
    split
    · exact selectUplink_frame (n.driver (.ethGotIp ip accepted)) accepted .ethernet
    · exact ⟨rfl, rfl, rfl, rfl⟩
  | staGotIp ip accepted =>
    unfold NetworkManager.step routeEvent wifiEvent
    dsimp only
    split
    · exact selectUplink_frame _ accepted .wifi
    · exact ⟨rfl, rfl, rfl, rfl⟩

section Steps

variable {prefer ethernet : Bool} {n : NetworkManager} {us : List Uplink}

theorem Follows.frame (h : Follows prefer ethernet n) (e : NetworkEvent) :
    (n.step e).preferEthernet = prefer ∧
      ((n.step e).netif .ethernet = ethernet ∧ (n.step e).netif .wifi = true) := by
  obtain ⟨hprefer, hnetif, -, -⟩ := step_frame n e
  rw [hprefer, hnetif]
  exact ⟨h.preferred, h.present⟩

/-- Without Ethernet a connected WiFi gets the route. -/
theorem Follows.ethDisconnected (h : Follows prefer ethernet n) (hrecorded : Recorded n us) :
    Follows prefer ethernet (n.step (.ethDisconnected true)) := by
  obtain ⟨-, -, hip, hwifi⟩ := step_frame n (.ethDisconnected true)
  have hroute := hrecorded.route_step (.ethDisconnected true)
  have hrouted : n.routed (.ethDisconnected true) =
      if n.status.wifiConnected = true then some .wifi else none := by
    unfold routed
    rw [h.present.2]
    simp only [and_true]
  rw [hrouted] at hroute
  obtain ⟨hp, hpresent⟩ := h.frame (.ethDisconnected true)
  refine ⟨hp, hpresent, fun _ hup => ?_, fun _ _ hup => ?_, fun hwifiOnly => ?_⟩
  · rw [hip] at hup
    cases hup
  · rw [hwifi] at hup
    rw [hroute, if_pos hup]
    rfl
  · obtain ⟨hnever, hroutes⟩ := h.wifiOnly hwifiOnly
    rw [hroute, hwifi]
    by_cases hup : n.status.wifiConnected = true
    · rw [if_pos hup]
      exact ⟨nofun, fun _ => rfl⟩
    · rw [if_neg hup]
      exact ⟨hnever, fun h => absurd h hup⟩

theorem Follows.ethGotIp (h : Follows prefer true n) (hrecorded : Recorded n us) (ip : Ip4) :
    Follows prefer true (n.step (.ethGotIp ip true)) := by
  obtain ⟨-, -, hip, hwifi⟩ := step_frame n (.ethGotIp ip true)
  have hroute := hrecorded.route_step (.ethGotIp ip true)
  have hrouted : n.routed (.ethGotIp ip true) =
      if prefer = true then some .ethernet else none := by
    unfold routed
    rw [h.preferred, h.present.1]
    simp only [and_true]
  rw [hrouted] at hroute
  obtain ⟨hp, hpresent⟩ := h.frame (.ethGotIp ip true)
  refine ⟨hp, hpresent, fun hpreferred _ => ?_, fun _ hdown => ?_, fun hwifiOnly => ?_⟩
  · rw [hroute, if_pos hpreferred]
    rfl
  · rw [hip] at hdown
    cases hdown
  · rw [hroute, hwifi, hwifiOnly, if_neg Bool.noConfusion]
    exact h.wifiOnly hwifiOnly

/-- A WiFi that connects gets the route unless a preferred Ethernet has it. -/
theorem Follows.staGotIp (h : Follows prefer ethernet n) (hrecorded : Recorded n us) (ip : Ip4) :
    Follows prefer ethernet (n.step (.staGotIp ip true)) := by
  obtain ⟨-, -, hip, -⟩ := step_frame n (.staGotIp ip true)
  have hroute := hrecorded.route_step (.staGotIp ip true)
  have hrouted : n.routed (.staGotIp ip true) =
      if prefer = false ∨ n.hasIp = false then some .wifi else none := by
    unfold routed
    rw [h.preferred, h.present.2]
    simp only [and_true]
  rw [hrouted] at hroute
  obtain ⟨hp, hpresent⟩ := h.frame (.staGotIp ip true)
  refine ⟨hp, hpresent, fun hpreferred hup => ?_, fun _ hdown _ => ?_, fun hwifiOnly => ?_⟩
  · have hup : n.hasIp = true := hip.symm.trans hup
    have hkeep : ¬ (prefer = false ∨ n.hasIp = false) := by
      rw [hpreferred, hup]
      decide
    rw [hroute, if_neg hkeep]
    exact h.ethernetFirst hpreferred hup
  · have hdown : n.hasIp = false := hip.symm.trans hdown
    rw [hroute, if_pos (.inr hdown)]
    rfl
  · rw [hroute, if_pos (.inl hwifiOnly)]
    exact ⟨nofun, fun _ => rfl⟩

theorem Follows.step (h : Follows prefer ethernet n) (hrecorded : Recorded n us)
    {e : NetworkEvent} (he : e.Usual ethernet) : Follows prefer ethernet (n.step e) := by
  cases e with
  | ethConnected | staStart =>
    exact ⟨h.preferred, h.present, h.ethernetFirst, h.wifiInstead, h.wifiOnly⟩
  | ethStop => exact he.elim
  | staDisconnected =>
    refine ⟨h.preferred, h.present, h.ethernetFirst, fun _ _ hup => Bool.noConfusion hup,
      fun hwifiOnly => ?_⟩
    exact ⟨(h.wifiOnly hwifiOnly).1, fun hup => Bool.noConfusion hup⟩
  | ethDisconnected accepted =>
    obtain ⟨-, rfl⟩ := he
    exact h.ethDisconnected hrecorded
  | ethGotIp ip accepted =>
    obtain ⟨rfl, rfl⟩ := he
    exact h.ethGotIp hrecorded ip
  | staGotIp ip accepted =>
    obtain rfl : accepted = true := he
    exact h.staGotIp hrecorded ip

end Steps

theorem recorded_start (prefer ethernet : Bool) (ssid : CBuf 33) :
    Recorded (start prefer ethernet ssid) [] := ⟨rfl, rfl, rfl⟩

theorem recorded_run {n : NetworkManager} {us : List Uplink} (h : Recorded n us)
    (es : List NetworkEvent) : Recorded (run NetworkManager.step n es)
      (us ++ outputs NetworkManager.step routed n es) := by
  induction es generalizing n us with
  | nil => exact (List.append_nil us).symm ▸ h
  | cons e es ih =>
    have hrest := ih (h.step e)
    rw [List.append_assoc] at hrest
    cases hrouted : n.routed e with
    | none =>
      rw [hrouted] at hrest
      rw [outputs_cons_none hrouted]
      exact hrest
    | some u =>
      rw [hrouted] at hrest
      rw [outputs_cons_some hrouted]
      exact hrest

end NetworkManager

open NetworkManager

/-- **The uplink follows the events.** After any sequence of events the status names the
interface that was made the default route last, and counts the changes between such choices. If
no call fails and the driver is not stopped, a preferred Ethernet has the route while it has an
address, and a connected WiFi while it has none; when Ethernet is not preferred it never has the
route, and a connected WiFi has it. Without any address the last route stays. -/
theorem uplink_follows_events (prefer ethernet : Bool) (ssid : CBuf 33) (es : List NetworkEvent) :
    let n := run NetworkManager.step (start prefer ethernet ssid) es
    let routes := outputs NetworkManager.step routed (start prefer ethernet ssid) es
    (n.route = routes.getLast? ∧
        n.getStatus.activeUplink.str = (n.route.map Uplink.name).getD [] ∧
        n.getStatus.failoverCount = UInt32.ofNat (changes routes)) ∧
      ((∀ e ∈ es, e.Usual ethernet) →
        (prefer = true → n.getStatus.ethernetIp = true → n.route = some .ethernet) ∧
        (prefer = true → n.getStatus.ethernetIp = false → n.getStatus.wifiConnected = true →
          n.route = some .wifi) ∧
        (prefer = false → n.route ≠ some .ethernet ∧
          (n.getStatus.wifiConnected = true → n.route = some .wifi))) := by
  intro n routes
  have hrecorded : Recorded n routes := recorded_run (recorded_start prefer ethernet ssid) es
  refine ⟨⟨hrecorded.route, hrecorded.route ▸ hrecorded.name, hrecorded.count⟩, fun hes => ?_⟩
  have hkeep : ∀ m e, (Follows prefer ethernet m ∧ ∃ us, Recorded m us) → e.Usual ethernet →
      Follows prefer ethernet (m.step e) ∧ ∃ us, Recorded (m.step e) us := by
    rintro m e ⟨hfollows, us, hm⟩ he
    exact ⟨hfollows.step hm he, _, hm.step e⟩
  have hstart : Follows prefer ethernet (start prefer ethernet ssid) :=
    ⟨rfl, ⟨Bool.false_or ethernet, rfl⟩, fun _ h => Bool.noConfusion h,
      fun _ _ h => Bool.noConfusion h, fun _ => ⟨nofun, fun h => Bool.noConfusion h⟩⟩
  have hfollows : Follows prefer ethernet n := (inv_run hkeep
    ⟨hstart, [], recorded_start prefer ethernet ssid⟩ (allSteps_of_forall hes _)).1
  exact ⟨hfollows.ethernetFirst, hfollows.wifiInstead, hfollows.wifiOnly⟩

/-- WiFi comes up first, Ethernet takes over, and its cable is pulled out. -/
def failoverEvents : List NetworkEvent :=
  [.staStart, .staGotIp ⟨192, 168, 1, 20⟩ true, .ethConnected, .ethGotIp ⟨10, 0, 0, 7⟩ true,
    .ethDisconnected true]

theorem uplink_follows_failover :
    let n := run NetworkManager.step (start true true .empty) failoverEvents
    n.route = some .wifi ∧ n.getStatus.activeUplink.str = "wifi".toList ∧
      n.getStatus.failoverCount = 2 := by
  intro n
  obtain ⟨⟨-, hname, hcount⟩, hfollows⟩ := uplink_follows_events true true .empty failoverEvents
  have husual : ∀ e ∈ failoverEvents, e.Usual true := by
    simp [failoverEvents, NetworkEvent.Usual]
  obtain ⟨-, hinstead, -⟩ := hfollows husual
  have hroute : n.route = some .wifi := hinstead rfl rfl rfl
  refine ⟨hroute, ?_, hcount⟩
  rw [hname, hroute]
  rfl

end McpGateway.Network
