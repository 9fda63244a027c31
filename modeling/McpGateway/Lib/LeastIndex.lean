import Mathlib.Algebra.Order.Ring.Nat
import Mathlib.Data.Fin.Basic
import Mathlib.Data.Finset.Card
import Mathlib.Data.Finset.Max
import Mathlib.Data.Rat.Floor
import Mathlib.Order.Bounds.Basic
import Mathlib.Order.Lattice
import Mathlib.Order.Lattice.Nat
import Mathlib.Tactic.Linarith

/-!
# A cached count and least element

`Tracks count least S`: the pair `(count, least)` is the size of the finite
set `S` together with its least element, `none` when `S` is empty. The lemmas
say which pair tracks the set after an insertion, after an erasure and after
a scan, and, because the pair is determined by the set, which pairs do not.
-/

namespace McpGateway.Lib

variable {α : Type*} [LinearOrder α]

/-- `(count, least)` summarises `S`. -/
structure Tracks (count : Nat) (least : Option α) (S : Finset α) : Prop where
  count_eq : count = S.card
  least_iff : ∀ a, least = some a ↔ IsLeast (S : Set α) a

/-- The least element after adding `a`. -/
def noteInsert (least : Option α) (a : α) : Option α :=
  match least with
  | none => some a
  | some b => if a < b then some a else some b

theorem noteInsert_of_lt {a b : α} (h : a < b) : noteInsert (some b) a = some a := if_pos h

theorem noteInsert_of_le {a b : α} (h : b ≤ a) : noteInsert (some b) a = some b :=
  if_neg (not_lt.2 h)

theorem noteInsert_idem (l : Option α) (a : α) :
    noteInsert (noteInsert l a) a = noteInsert l a := by
  cases l with
  | none => exact noteInsert_of_le le_rfl
  | some b =>
    rcases lt_or_ge a b with h | h
    · rw [noteInsert_of_lt h, noteInsert_of_le le_rfl]
    · rw [noteInsert_of_le h, noteInsert_of_le h]

/-- One pass over a list, keeping the least element seen. -/
def scanLeast (l : List α) : Option α :=
  l.foldl noteInsert none

namespace Tracks

variable {c c' : Nat} {l l' : Option α} {S : Finset α} {a b : α}

theorem isLeast (h : Tracks c (some a) S) : IsLeast (S : Set α) a := (h.least_iff a).1 rfl

theorem mem (h : Tracks c (some a) S) : a ∈ S := h.isLeast.1

theorem le (h : Tracks c (some a) S) (hb : b ∈ S) : a ≤ b := h.isLeast.2 hb

theorem empty : Tracks 0 (none : Option α) ∅ :=
  ⟨rfl, fun a => ⟨fun h => (by cases h), fun h => absurd h.1 (by simp)⟩⟩

theorem of_isLeast (ha : IsLeast (S : Set α) a) : Tracks S.card (some a) S :=
  ⟨rfl, fun b => ⟨fun h => by cases h; exact ha, fun hb => congrArg some (ha.unique hb)⟩⟩

theorem none_iff (h : Tracks c l S) : l = none ↔ S = ∅ := by
  constructor
  · intro hl
    by_contra hS
    have hne := Finset.nonempty_iff_ne_empty.2 hS
    rw [(h.least_iff _).2 (S.isLeast_min' hne)] at hl
    cases hl
  · rintro rfl
    cases l with
    | none => rfl
    | some a => exact absurd h.mem (by simp)

theorem none_iff_count (h : Tracks c l S) : l = none ↔ c = 0 := by
  rw [h.none_iff, h.count_eq, Finset.card_eq_zero]

theorem some_of_pos (h : Tracks c l S) (hc : 0 < c) : ∃ a, l = some a := by
  cases hl : l with
  | none => have := h.none_iff_count.1 hl; omega
  | some a => exact ⟨a, rfl⟩

theorem unique (h : Tracks c l S) (h' : Tracks c' l' S) : c = c' ∧ l = l' :=
  ⟨h.count_eq.trans h'.count_eq.symm,
    Option.ext fun a => (h.least_iff a).trans (h'.least_iff a).symm⟩

theorem iff_eq (h : Tracks c l S) : Tracks c' l' S ↔ c' = c ∧ l' = l :=
  ⟨fun h' => h'.unique h, fun ⟨hc, hl⟩ => by rw [hc, hl]; exact h⟩

/-- A pair that tracks a set does not track it with one more element. -/
theorem not_insert (h : Tracks c l S) (ha : a ∉ S) : ¬ Tracks c l' (insert a S) := by
  intro h'
  have := h'.count_eq
  rw [Finset.card_insert_of_notMem ha, ← h.count_eq] at this
  omega

theorem insert (h : Tracks c l S) (ha : a ∉ S) :
    Tracks (c + 1) (noteInsert l a) (insert a S) := by
  have hcard : (Insert.insert a S).card = c + 1 := by
    rw [Finset.card_insert_of_notMem ha, h.count_eq]
  suffices ∃ b, noteInsert l a = some b ∧ IsLeast ((Insert.insert a S : Finset α) : Set α) b by
    obtain ⟨b, hb, hl⟩ := this
    rw [hb, ← hcard]
    exact of_isLeast hl
  cases l with
  | none =>
    have : S = ∅ := h.none_iff.1 rfl
    subst this
    exact ⟨a, rfl, by simp⟩
  | some b =>
    simp only [noteInsert]
    split
    · rename_i hab
      refine ⟨a, rfl, by simp, fun x hx => ?_⟩
      rcases Finset.mem_insert.1 hx with rfl | hx
      · exact le_rfl
      · exact hab.le.trans (h.le hx)
    · rename_i hab
      refine ⟨b, rfl, by simp [h.mem], fun x hx => ?_⟩
      rcases Finset.mem_insert.1 hx with rfl | hx
      · exact not_lt.1 hab
      · exact h.le hx

/-- The only least element that tracks the set with one more element. -/
theorem insert_iff (h : Tracks c l S) (ha : a ∉ S) :
    Tracks (c + 1) l' (Insert.insert a S) ↔ l' = noteInsert l a := by
  rw [(h.insert ha).iff_eq]; simp

theorem exists_least (S : Finset α) : ∃ l, Tracks S.card l S := by
  rcases S.eq_empty_or_nonempty with rfl | hS
  · exact ⟨none, empty⟩
  · exact ⟨some (S.min' hS), of_isLeast (S.isLeast_min' hS)⟩

theorem erase_ne (h : Tracks c l S) (ha : a ∈ S) (hl : l ≠ some a) :
    Tracks (c - 1) l (S.erase a) := by
  have hc : c - 1 = (S.erase a).card := by rw [Finset.card_erase_of_mem ha, h.count_eq]
  rw [hc]
  cases l with
  | none => rw [h.none_iff.1 rfl] at ha; simp at ha
  | some b =>
    refine of_isLeast ⟨?_, fun x hx => h.le (Finset.mem_of_mem_erase hx)⟩
    exact Finset.mem_erase.2 ⟨fun e => hl (by rw [e]), h.mem⟩

/-- After the least element `r` goes, its successor `s` is the least if it is there. -/
theorem isLeast_succ {r s : α} (hle : ∀ x ∈ S, r ≤ x) (hs : ∀ x, r < x → s ≤ x)
    (hmem : s ∈ S.erase r) : IsLeast (S.erase r : Set α) s := by
  refine ⟨Finset.mem_coe.2 hmem, fun x hx => ?_⟩
  obtain ⟨hne, hx⟩ := Finset.mem_erase.1 (Finset.mem_coe.1 hx)
  exact hs x (lt_of_le_of_ne (hle x hx) (Ne.symm hne))

end Tracks

theorem tracks_foldl {l : List α} {c : Nat} {o : Option α} {S : Finset α}
    (h : Tracks c o S) (hn : l.Nodup) (hd : ∀ a ∈ l, a ∉ S) :
    Tracks (c + l.length) (l.foldl noteInsert o) (S ∪ l.toFinset) := by
  induction l generalizing c o S with
  | nil => simpa using h
  | cons a l ih =>
    obtain ⟨hal, hn⟩ := List.nodup_cons.1 hn
    have h1 := h.insert (hd a List.mem_cons_self)
    have h2 := ih h1 hn fun b hb => by
      rw [Finset.mem_insert, not_or]
      exact ⟨fun e => hal (e ▸ hb), hd b (List.mem_cons_of_mem _ hb)⟩
    have hc : c + (a :: l).length = c + 1 + l.length := by simp; omega
    have hS : S ∪ (a :: l).toFinset = insert a S ∪ l.toFinset := by
      ext x; simp only [List.toFinset_cons, Finset.mem_union, Finset.mem_insert]; tauto
    rw [hc, hS]
    exact h2

/-- **A scan tracks the set it scanned.** -/
theorem tracks_scan {l : List α} (hn : l.Nodup) : Tracks l.length (scanLeast l) l.toFinset := by
  have h := tracks_foldl Tracks.empty hn (by simp)
  rwa [Nat.zero_add, Finset.empty_union] at h

theorem scanLeast_eq_some_iff {l : List α} (hn : l.Nodup) {a : α} :
    scanLeast l = some a ↔ a ∈ l ∧ ∀ x ∈ l, a ≤ x := by
  rw [(tracks_scan hn).least_iff]
  simp [IsLeast, mem_lowerBounds]

end McpGateway.Lib
