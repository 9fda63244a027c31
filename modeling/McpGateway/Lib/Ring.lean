import Mathlib.Data.List.Basic
import Mathlib.Data.List.DropRight
import Mathlib.Tactic.SplitIfs

/-!
# Ring buffers

A fixed number of slots that are filled from the first to the last and then
overwritten in the same order. The slots in use are a list, `head` is the slot
written next; `entries` reads them from the oldest to the newest.
-/

namespace McpGateway.Lib

@[ext] structure Ring (α : Type*) (cap : Nat) where
  slots : List α
  head : Nat
  head_lt : head < cap
  head_eq : slots.length < cap → head = slots.length
  length_le : slots.length ≤ cap

namespace Ring

variable {α : Type*} {cap : Nat}

def empty (cap : Nat) (h : 0 < cap) : Ring α cap where
  slots := []
  head := 0
  head_lt := h
  head_eq _ := rfl
  length_le := Nat.zero_le cap

/-- The slots after the slot `head` is written. -/
def written (slots : List α) (cap head : Nat) (a : α) : List α :=
  if slots.length < cap then slots ++ [a] else slots.set head a

theorem written_length {slots : List α} {cap head : Nat} {a : α} (h : slots.length ≤ cap) :
    (written slots cap head a).length = min (slots.length + 1) cap := by
  unfold written
  split_ifs with hroom
  · rw [List.length_append, List.length_singleton]
    omega
  · rw [List.length_set]
    omega

def push (r : Ring α cap) (a : α) : Ring α cap where
  slots := written r.slots cap r.head a
  head := (r.head + 1) % cap
  head_lt := Nat.mod_lt _ (Nat.zero_lt_of_lt r.head_lt)
  head_eq h := by
    rw [written_length r.length_le] at h ⊢
    have hroom : r.slots.length < cap := by omega
    rw [r.head_eq hroom, Nat.mod_eq_of_lt (by omega)]
    omega
  length_le := by
    rw [written_length r.length_le]
    exact Nat.min_le_right _ _

def entries (r : Ring α cap) : List α :=
  if r.slots.length < cap then r.slots else r.slots.drop r.head ++ r.slots.take r.head

theorem mem_entries {r : Ring α cap} {x : α} : x ∈ r.entries ↔ x ∈ r.slots := by
  unfold entries
  split_ifs
  · exact Iff.rfl
  · rw [List.mem_append, or_comm, ← List.mem_append, List.take_append_drop]

/-- **Pushing into a ring**: the oldest entry goes once every slot is in use. -/
theorem entries_push (r : Ring α cap) (a : α) :
    (r.push a).entries =
      if r.slots.length < cap then r.entries ++ [a] else r.entries.tail ++ [a] := by
  have hhead := r.head_lt
  have hlen : (r.push a).slots.length = min (r.slots.length + 1) cap :=
    written_length r.length_le
  by_cases hroom : r.slots.length < cap
  · have hslots : (r.push a).slots = r.slots ++ [a] := if_pos hroom
    have hold : r.entries = r.slots := if_pos hroom
    rw [if_pos hroom, hold, entries, hslots]
    split_ifs with hmore
    · rfl
    · have hlast : (r.push a).head = 0 := by
        show (r.head + 1) % cap = 0
        rw [r.head_eq hroom, show r.slots.length + 1 = cap by
          rw [List.length_append, List.length_singleton] at hmore
          omega, Nat.mod_self]
      rw [hlast, List.drop_zero, List.take_zero, List.append_nil]
  · have hfull : r.slots.length = cap := Nat.le_antisymm r.length_le (Nat.le_of_not_lt hroom)
    have hslots : (r.push a).slots = r.slots.set r.head a := if_neg hroom
    have hold : r.entries = r.slots.drop r.head ++ r.slots.take r.head := if_neg hroom
    have htail : r.entries.tail = r.slots.drop (r.head + 1) ++ r.slots.take r.head := by
      rw [hold, List.drop_eq_getElem_cons (by omega)]
      rfl
    have hset : r.slots.set r.head a =
        (r.slots.take r.head ++ [a]) ++ r.slots.drop (r.head + 1) := by
      rw [List.set_eq_take_append_cons_drop, if_pos (by omega), List.append_assoc]
      rfl
    have hpre : (r.slots.take r.head ++ [a]).length = r.head + 1 := by
      rw [List.length_append, List.length_take, List.length_singleton]
      omega
    have hnext : (r.push a).head = (r.head + 1) % cap := rfl
    rw [if_neg hroom, htail, entries, if_neg (by omega), hslots, hnext, hset]
    by_cases hwrap : r.head + 1 < cap
    · rw [Nat.mod_eq_of_lt hwrap, List.drop_left' hpre, List.take_left' hpre, List.append_assoc]
    · have hrest : r.slots.drop (r.head + 1) = [] := List.drop_of_length_le (by omega)
      have hzero : (r.head + 1) % cap = 0 := by
        rw [show r.head + 1 = cap by omega, Nat.mod_self]
      rw [hzero, List.drop_zero, List.take_zero, List.append_nil, hrest, List.append_nil,
        List.nil_append]

theorem entries_length (r : Ring α cap) : r.entries.length = r.slots.length := by
  unfold entries
  split_ifs
  · rfl
  · rw [List.length_append, List.length_drop, List.length_take]
    omega

/-- A ring that holds the last of a sequence still does after a push. -/
theorem entries_push_last {r : Ring α cap} {l : List α} (h : r.entries = l.rtake cap) (a : α) :
    (r.push a).entries = (l ++ [a]).rtake cap := by
  have hlength : r.slots.length = l.length - (l.length - cap) := by
    rw [← entries_length, h, List.rtake, List.length_drop]
  rw [entries_push, h]
  unfold List.rtake
  rw [List.length_append, List.length_singleton]
  split_ifs with hroom
  · rw [show l.length - cap = 0 by omega, show l.length + 1 - cap = 0 by omega]
    rfl
  · have hhead := r.head_lt
    have hfull : l.length + 1 - cap = l.length - cap + 1 := by omega
    have hle : l.length - cap + 1 ≤ l.length := by omega
    rw [List.tail_drop, hfull, List.drop_append_of_le_length hle]

/-- The slot of the `i`-th entry, counted from the oldest. -/
theorem entries_getElem? (r : Ring α cap) {i : Nat} (hi : i < r.slots.length) :
    r.entries[i]? = r.slots[(r.head + cap - r.slots.length + i) % cap]? := by
  have hhead := r.head_lt
  have hcap := r.length_le
  unfold entries
  split_ifs with hroom
  · rw [r.head_eq hroom, show r.slots.length + cap - r.slots.length + i = i + cap by omega,
      Nat.add_mod_right, Nat.mod_eq_of_lt (by omega)]
  · have hfull : r.head + cap - r.slots.length + i = r.head + i := by omega
    have hdrop : (r.slots.drop r.head).length = cap - r.head := by
      rw [List.length_drop]
      omega
    rw [hfull]
    by_cases hwrap : r.head + i < cap
    · rw [Nat.mod_eq_of_lt hwrap, List.getElem?_append_left (by omega), List.getElem?_drop]
    · rw [Nat.mod_eq_sub_mod (by omega), Nat.mod_eq_of_lt (by omega),
        List.getElem?_append_right (by omega), List.getElem?_take_of_lt (by omega)]
      congr 1
      omega

theorem mem_push_cases {r : Ring α cap} {a x : α} (h : x ∈ (r.push a).slots) :
    x = a ∨ x ∈ r.slots := by
  have hmem := mem_entries.2 h
  rw [entries_push] at hmem
  split_ifs at hmem <;> rcases List.mem_append.1 hmem with hold | hnew
  · exact .inr (mem_entries.1 hold)
  · exact .inl (List.mem_singleton.1 hnew)
  · exact .inr (mem_entries.1 (List.mem_of_mem_tail hold))
  · exact .inl (List.mem_singleton.1 hnew)

theorem mem_push_self (r : Ring α cap) (a : α) : a ∈ (r.push a).slots := by
  rw [← mem_entries, entries_push]
  split_ifs <;> exact List.mem_append_right _ (List.mem_singleton_self a)

end Ring

end McpGateway.Lib
