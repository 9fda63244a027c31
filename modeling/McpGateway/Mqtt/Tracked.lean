import Mathlib.Algebra.Order.Ring.Nat
import Mathlib.Data.Fin.Basic
import Mathlib.Data.Finset.Max
import Mathlib.Data.List.Perm.Basic
import Mathlib.Data.Rat.Floor
import Mathlib.Order.Lattice
import Mathlib.Tactic.Linarith
import McpGateway.Config

/-!
# Tracked publishes

The `s_tracked` table of `mqtt_handler.c` and the outbox of the MQTT client.
A publish is told apart from later ones with the same message id by its
`uid`, which the program does not see.
-/

namespace McpGateway.Mqtt

/-- Message ids, handed out by the client and used again later. -/
abbrev MsgId := Fin (2 ^ 16)

def mqttMaxTrackedPublishes : Nat := 32

/-- A QoS 1 publish that can still be acknowledged, with the record it carries. -/
structure Awaiting where
  msgId : MsgId
  uid : Nat
  record : Option SeqId
  deriving DecidableEq

/-- `tracked_publish_t`, with the publish it stands for. -/
structure Tracked where
  msgId : MsgId
  token : SeqId
  active : Bool
  uid : Nat
  deriving DecidableEq

def Tracked.publish (t : Tracked) : Awaiting := ⟨t.msgId, t.uid, some t.token⟩

/-! ## The table -/

/-- The end of `mqtt_publish_tracked`: the first inactive slot is filled,
`none` for `ESP_ERR_NO_MEM`. -/
def register (t : Tracked) : List Tracked → Option (List Tracked)
  | [] => none
  | s :: slots => if s.active then (register t slots).map (s :: ·) else some (t :: slots)

/-- `MQTT_EVENT_PUBLISHED`: the first active slot of that message id, and the
table with it cleared. -/
def takePublished (msgId : MsgId) : List Tracked → Option Tracked × List Tracked
  | [] => (none, [])
  | s :: slots =>
    if s.active ∧ s.msgId = msgId then (some s, { s with active := false } :: slots)
    else ((takePublished msgId slots).1, s :: (takePublished msgId slots).2)

def activeSlots (slots : List Tracked) : List Tracked := slots.filter Tracked.active

theorem mem_activeSlots {slots : List Tracked} {s : Tracked} :
    s ∈ activeSlots slots ↔ s ∈ slots ∧ s.active = true := List.mem_filter

theorem activeSlots_cons (s : Tracked) (slots : List Tracked) :
    activeSlots (s :: slots) = if s.active then s :: activeSlots slots else activeSlots slots :=
  List.filter_cons

theorem register_some {t : Tracked} (ht : t.active = true) {slots slots' : List Tracked}
    (h : register t slots = some slots') : (activeSlots slots').Perm (t :: activeSlots slots) := by
  induction slots generalizing slots' with
  | nil => cases h
  | cons s slots ih =>
    rw [register] at h
    cases hs : s.active with
    | true =>
      rw [hs, if_pos rfl, Option.map_eq_some_iff] at h
      obtain ⟨rest, hrest, rfl⟩ := h
      simp only [activeSlots_cons, hs, if_true]
      exact ((ih hrest).cons s).trans (.swap t s _)
    | false =>
      rw [hs, if_neg (by simp), Option.some.injEq] at h
      subst h
      simp [activeSlots_cons, hs, ht]

theorem register_none {t : Tracked} {slots : List Tracked} (h : register t slots = none) :
    ∀ s ∈ slots, s.active = true := by
  induction slots with
  | nil => intro s hs; cases hs
  | cons s slots ih =>
    rw [register] at h
    cases hs : s.active with
    | true =>
      rw [hs, if_pos rfl, Option.map_eq_none_iff] at h
      intro x hx
      rcases List.mem_cons.1 hx with rfl | hx
      · exact hs
      · exact ih h x hx
    | false =>
      rw [hs, if_neg (by simp)] at h
      cases h

theorem takePublished_some {msgId : MsgId} {slots : List Tracked} {s : Tracked}
    (h : (takePublished msgId slots).1 = some s) :
    s.msgId = msgId ∧ (activeSlots slots).Perm (s :: activeSlots (takePublished msgId slots).2) := by
  induction slots with
  | nil => cases h
  | cons x slots ih =>
    rw [takePublished] at h ⊢
    by_cases hx : x.active ∧ x.msgId = msgId
    · rw [if_pos hx, Option.some.injEq] at h
      subst h
      refine ⟨hx.2, ?_⟩
      simp [activeSlots_cons, hx]
    · rw [if_neg hx] at h ⊢
      obtain ⟨hid, hperm⟩ := ih h
      refine ⟨hid, ?_⟩
      simp only [activeSlots_cons]
      split
      · exact (hperm.cons x).trans (.swap s x _)
      · exact hperm

theorem takePublished_none {msgId : MsgId} {slots : List Tracked}
    (h : (takePublished msgId slots).1 = none) :
    (takePublished msgId slots).2 = slots ∧ ∀ s ∈ activeSlots slots, s.msgId ≠ msgId := by
  induction slots with
  | nil => exact ⟨rfl, fun s hs => by cases hs⟩
  | cons x slots ih =>
    rw [takePublished] at h ⊢
    by_cases hx : x.active ∧ x.msgId = msgId
    · rw [if_pos hx] at h
      cases h
    · rw [if_neg hx] at h ⊢
      obtain ⟨hrest, hne⟩ := ih h
      refine ⟨by rw [hrest], fun s hs => ?_⟩
      rw [activeSlots_cons] at hs
      split at hs
      · rename_i hact
        rcases List.mem_cons.1 hs with rfl | hs
        · exact fun e => hx ⟨hact, e⟩
        · exact hne s hs
      · exact hne s hs

/-! ## The client -/

/-- The client's outbox; the broker acknowledges only what is in it. -/
structure Client where
  outbox : List Awaiting
  nextUid : Nat

/-- `esp_mqtt_client_publish` with QoS 1. The client hands out a message id
that no publish in the outbox has, or refuses. -/
def Client.publish (c : Client) (msgId : Option MsgId) (record : Option SeqId) :
    Option Awaiting × Client :=
  match msgId with
  | none => (none, c)
  | some id =>
    if c.outbox.any fun p => p.msgId = id then (none, c)
    else
      let p : Awaiting := ⟨id, c.nextUid, record⟩
      (some p, { outbox := c.outbox ++ [p], nextUid := c.nextUid + 1 })

/-- What is left of the outbox when every publish satisfying `gone` leaves it. -/
def Client.discard (c : Client) (gone : Awaiting → Bool) : Client :=
  { c with outbox := c.outbox.filter fun p => !gone p }

theorem Client.publish_some {c : Client} {msgId : Option MsgId} {record : Option SeqId}
    {p : Awaiting} (h : (c.publish msgId record).1 = some p) :
    (∀ q ∈ c.outbox, q.msgId ≠ p.msgId) ∧ p.record = record ∧ p.uid = c.nextUid ∧
      (c.publish msgId record).2.outbox = c.outbox ++ [p] := by
  unfold publish at h ⊢
  cases msgId with
  | none => cases h
  | some id =>
    simp only at h ⊢
    split at h
    · cases h
    · rename_i hfree
      simp only [Option.some.injEq] at h
      subst h
      simp only [List.any_eq_true, decide_eq_true_eq, not_exists, not_and] at hfree
      rw [if_neg (by simpa using hfree)]
      exact ⟨hfree, rfl, rfl, rfl⟩

theorem Client.publish_none {c : Client} {msgId : Option MsgId} {record : Option SeqId}
    (h : (c.publish msgId record).1 = none) : (c.publish msgId record).2 = c := by
  unfold publish at h ⊢
  cases msgId with
  | none => rfl
  | some id =>
    simp only at h ⊢
    split at h
    · rename_i hused
      rw [if_pos hused]
    · cases h

end McpGateway.Mqtt
