import Mathlib.Data.List.Basic
import Mathlib.Data.List.Perm.Basic
import Mathlib.Data.List.Nodup

/-!
# Splitting items into packets

Items go into a packet one by one. When the packet is full with an item, the
item is taken out again, the packet is closed, and the item begins the next one.
`Lawful.packets_perm` says that the packets hold the items, each once, if every
item goes in and comes out cleanly. `Strict.clean_of_perm` is the converse: an
item that is lost at a cut is in no other packet.
-/

namespace McpGateway.Lib

/-- How items go into a packet. -/
structure Splitter (α ρ β : Type*) where
  empty : ρ
  add : ρ → α → ρ
  /-- The packet with the item, after it was taken out again. -/
  cut : ρ → α → ρ
  full : ρ → Bool
  /-- What a packet holds, and what an item is in it. -/
  content : ρ → List β
  item : α → β

namespace Splitter

variable {α ρ β : Type*} (S : Splitter α ρ β)

/-- The packets of the items, with a packet of `n` items begun. -/
def packets : List α → ρ → ℕ → List ρ
  | [], root, n => if n > 0 then [root] else []
  | p :: ps, root, n =>
    if S.full (S.add root p) && decide (n > 0) then S.cut root p :: packets ps (S.add S.empty p) 1
    else packets ps (S.add root p) (n + 1)

/-- Every item goes into its packet, and comes out of a full one, as it should. -/
def Clean (addOk cutOk : ρ → α → Prop) : List α → ρ → ℕ → Prop
  | [], _, _ => True
  | p :: ps, root, n =>
    if S.full (S.add root p) && decide (n > 0) then
      cutOk root p ∧ Clean addOk cutOk ps (S.add S.empty p) 1
    else addOk root p ∧ Clean addOk cutOk ps (S.add root p) (n + 1)

/-- What the two conditions are good for, on the packets and items of interest. -/
structure Lawful (I : ρ → Prop) (J : α → Prop) (addOk cutOk : ρ → α → Prop) : Prop where
  empty : I S.empty
  content_empty : S.content S.empty = []
  add : ∀ root p, I root → J p → I (S.add root p)
  first : ∀ p, addOk S.empty p
  content_add : ∀ root p, I root → J p → addOk root p →
    (S.content (S.add root p)).Perm (S.content root ++ [S.item p])
  content_cut : ∀ root p, I root → J p → cutOk root p →
    (S.content (S.cut root p)).Perm (S.content root)

/-- Items always go in as they should, and where one does not come out, another one does. -/
structure Strict (I : ρ → Prop) (J : α → Prop) (addOk cutOk : ρ → α → Prop) : Prop
    extends S.Lawful I J addOk cutOk where
  add_ok : ∀ root p, I root → J p → addOk root p
  cut_swaps : ∀ root p, I root → J p → ¬ cutOk root p →
    ∃ b m, (S.content root).Perm (b :: m) ∧ (S.content (S.cut root p)).Perm (m ++ [S.item p])

variable {S} {I : ρ → Prop} {J : α → Prop} {addOk cutOk : ρ → α → Prop}

theorem Lawful.content_first (h : S.Lawful I J addOk cutOk) {p : α} (hp : J p) :
    (S.content (S.add S.empty p)).Perm [S.item p] := by
  have hadd := h.content_add S.empty p h.empty hp (h.first p)
  rwa [h.content_empty] at hadd

/-- **The packets hold the items, each once.** -/
theorem Lawful.packets_perm (h : S.Lawful I J addOk cutOk) (ps : List α) {root : ρ} {n : ℕ}
    (hroot : I root) (hps : ∀ p ∈ ps, J p) (hstart : n = 0 → S.content root = [])
    (hclean : S.Clean addOk cutOk ps root n) :
    ((S.packets ps root n).flatMap S.content).Perm (S.content root ++ ps.map S.item) := by
  induction ps generalizing root n with
  | nil =>
    rw [packets]
    split
    · simp
    · rename_i hzero
      rw [hstart (Nat.eq_zero_of_not_pos hzero)]
      simp
  | cons p ps ih =>
    obtain ⟨hp, hps⟩ := List.forall_mem_cons.1 hps
    rw [packets]
    rw [Clean] at hclean
    split at hclean
    · rename_i hfull
      obtain ⟨hcut, hrest⟩ := hclean
      have hnext := ih (h.add _ p h.empty hp) hps (fun hno => absurd hno Nat.one_ne_zero) hrest
      rw [if_pos hfull, List.flatMap_cons, List.map_cons]
      have hfirst : ((S.packets ps (S.add S.empty p) 1).flatMap S.content).Perm
          (S.item p :: ps.map S.item) := hnext.trans ((h.content_first hp).append_right _)
      exact (h.content_cut root p hroot hp hcut).append hfirst
    · rename_i hroom
      obtain ⟨hadd, hrest⟩ := hclean
      have hnext := ih (h.add root p hroot hp) hps (fun hno => absurd hno (Nat.succ_ne_zero n)) hrest
      rw [if_neg hroom, List.map_cons]
      have hinto := (h.content_add root p hroot hp hadd).append_right (ps.map S.item)
      rw [List.append_assoc, List.singleton_append] at hinto
      exact hnext.trans hinto

theorem Strict.cut_subset (h : S.Strict I J addOk cutOk) {root : ρ} {p : α} (hroot : I root)
    (hp : J p) : S.content (S.cut root p) ⊆ S.content root ++ [S.item p] := by
  intro b hb
  by_cases hcut : cutOk root p
  · exact List.mem_append_left _ ((h.content_cut root p hroot hp hcut).mem_iff.1 hb)
  · obtain ⟨c, m, hcontent, hleft⟩ := h.cut_swaps root p hroot hp hcut
    rw [hleft.mem_iff, List.mem_append] at hb
    rw [List.mem_append, hcontent.mem_iff]
    exact hb.imp_left (List.mem_cons_of_mem c)

theorem Strict.cut_lost (h : S.Strict I J addOk cutOk) {root : ρ} {p : α} (hroot : I root)
    (hp : J p) (hnodup : (S.content root ++ [S.item p]).Nodup) (hcut : ¬ cutOk root p) :
    ∃ b ∈ S.content root, b ∉ S.content (S.cut root p) := by
  obtain ⟨b, m, hcontent, hleft⟩ := h.cut_swaps root p hroot hp hcut
  refine ⟨b, hcontent.mem_iff.2 List.mem_cons_self, fun hb => ?_⟩
  have hall := (hcontent.append_right [S.item p]).nodup_iff.1 hnodup
  exact (List.nodup_cons.1 hall).1 (hleft.mem_iff.1 hb)

theorem Strict.packets_subset (h : S.Strict I J addOk cutOk) (ps : List α) {root : ρ} {n : ℕ}
    (hroot : I root) (hps : ∀ p ∈ ps, J p) :
    (S.packets ps root n).flatMap S.content ⊆ S.content root ++ ps.map S.item := by
  induction ps generalizing root n with
  | nil =>
    rw [packets]
    split <;> simp
  | cons p ps ih =>
    obtain ⟨hp, hps⟩ := List.forall_mem_cons.1 hps
    rw [packets, List.map_cons]
    split
    · intro b hb
      rw [List.flatMap_cons] at hb
      rcases List.mem_append.1 hb with hb | hb
      · have hcut := h.cut_subset hroot hp hb
        rw [List.mem_append, List.mem_singleton] at hcut
        rw [List.mem_append, List.mem_cons]
        exact hcut.imp_right Or.inl
      · have hnext := ih (h.add _ p h.empty hp) hps hb
        rw [List.mem_append, (h.content_first hp).mem_iff, List.mem_singleton] at hnext
        rw [List.mem_append, List.mem_cons]
        exact .inr hnext
    · intro b hb
      have hnext := ih (h.add root p hroot hp) hps hb
      rw [List.mem_append, (h.content_add root p hroot hp (h.add_ok root p hroot hp)).mem_iff,
        List.mem_append, List.mem_singleton, or_assoc] at hnext
      rw [List.mem_append, List.mem_cons]
      exact hnext

/-- **Nothing is lost only if every item comes out as it should.** -/
theorem Strict.clean_of_perm (h : S.Strict I J addOk cutOk) (ps : List α) {root : ρ} {n : ℕ}
    (hroot : I root) (hps : ∀ p ∈ ps, J p) (hnodup : (S.content root ++ ps.map S.item).Nodup)
    (hperm : ((S.packets ps root n).flatMap S.content).Perm (S.content root ++ ps.map S.item)) :
    S.Clean addOk cutOk ps root n := by
  induction ps generalizing root n with
  | nil => exact trivial
  | cons p ps ih =>
    obtain ⟨hp, hps'⟩ := List.forall_mem_cons.1 hps
    rw [packets] at hperm
    rw [Clean]
    rw [List.map_cons] at hnodup hperm
    split at hperm
    · rename_i hfull
      rw [if_pos hfull]
      rw [List.flatMap_cons] at hperm
      have hone : (S.content root ++ [S.item p]).Nodup := by
        refine hnodup.sublist ?_
        exact List.Sublist.append_left (List.singleton_sublist.2 List.mem_cons_self) _
      have hfirst := (h.content_first hp).append_right (ps.map S.item)
      by_cases hcut : cutOk root p
      · refine ⟨hcut, ih (h.add _ p h.empty hp) hps' ?_ ?_⟩
        · exact hfirst.nodup_iff.2 (List.nodup_append.1 hnodup).2.1
        · have hsame := (h.content_cut root p hroot hp hcut).symm.append_right
            ((S.packets ps (S.add S.empty p) 1).flatMap S.content)
          exact ((List.perm_append_left_iff _).1 (hsame.trans hperm)).trans hfirst.symm
      · -- The item that is lost is in no later packet.
        exfalso
        obtain ⟨b, hb, hlost⟩ := h.cut_lost hroot hp hone hcut
        have hin := hperm.mem_iff.2 (List.mem_append_left _ hb)
        have hlater := h.packets_subset ps (h.add _ p h.empty hp) hps'
          ((List.mem_append.1 hin).resolve_left hlost)
        have hrest : b ∈ S.item p :: ps.map S.item := hfirst.mem_iff.1 hlater
        exact (List.nodup_append.1 hnodup).2.2 b hb b hrest rfl
    · rename_i hroom
      rw [if_neg hroom]
      have hadd := h.add_ok root p hroot hp
      have hinto := (h.content_add root p hroot hp hadd).append_right (ps.map S.item)
      rw [List.append_assoc, List.singleton_append] at hinto
      exact ⟨hadd, ih (h.add root p hroot hp) hps' (hinto.nodup_iff.2 hnodup)
        (hperm.trans hinto.symm)⟩

end Splitter

end McpGateway.Lib
