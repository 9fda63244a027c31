import Mathlib.Data.List.Basic
import Mathlib.Data.UInt

/-!
# Tagged records

Records of a tag, a length and that many bytes, one after the other. Nothing says that a
list of them is well formed: its last record can declare more bytes than there are.
-/

namespace McpGateway.Lib

structure Tagged where
  tag : UInt8
  data : List UInt8
  short : data.length < 256

namespace Tagged

def bytes (r : Tagged) : List UInt8 := r.tag :: UInt8.ofNat r.data.length :: r.data

/-- The record is one of the first `n`, and it is all there. -/
def Among (n : Nat) (r : Tagged) (l : List UInt8) : Prop :=
  ∃ (before : List Tagged) (after : List UInt8),
    l = before.flatMap bytes ++ (r.bytes ++ after) ∧ before.length < n

/-- One of the first `n` records declares more bytes than there are. -/
def Overruns (n : Nat) (l : List UInt8) : Prop :=
  ∃ (before : List Tagged) (tag length : UInt8) (after : List UInt8),
    l = before.flatMap bytes ++ tag :: length :: after ∧
      before.length < n ∧ after.length < length.toNat

variable {n : Nat} {r r' : Tagged} {l l' : List UInt8}

theorem length_toNat (r : Tagged) : (UInt8.ofNat r.data.length).toNat = r.data.length := by
  rw [UInt8.toNat_ofNat', Nat.mod_eq_of_lt r.short]

/-- A record ends where its length says. -/
theorem bytes_append_inj (h : r.bytes ++ l = r'.bytes ++ l') : r = r' ∧ l = l' := by
  obtain ⟨tag, data, short⟩ := r
  obtain ⟨tag', data', short'⟩ := r'
  simp only [bytes, List.cons_append, List.cons.injEq] at h
  obtain ⟨rfl, hlength, hrest⟩ := h
  have hlength' : data.length = data'.length := by
    rw [← length_toNat ⟨tag, data, short⟩, ← length_toNat ⟨tag, data', short'⟩, hlength]
  obtain ⟨rfl, rfl⟩ := List.append_inj hrest hlength'
  exact ⟨rfl, rfl⟩

theorem exists_of_length_le (tag : UInt8) {length : UInt8} (h : length.toNat ≤ l.length) :
    ∃ r : Tagged, r.tag = tag ∧ r.data = l.take length.toNat ∧
      tag :: length :: l = r.bytes ++ l.drop length.toNat := by
  have hsize : (l.take length.toNat).length = length.toNat := by
    rw [List.length_take, Nat.min_eq_left h]
  have hshort : (l.take length.toNat).length < 256 := by
    rw [hsize]
    exact length.toNat_lt
  refine ⟨⟨tag, l.take length.toNat, hshort⟩, rfl, rfl, ?_⟩
  simp only [bytes, hsize, List.cons_append, List.take_append_drop]
  rw [UInt8.ofNat_toNat]

theorem among_head (n : Nat) (r : Tagged) (l : List UInt8) : Among (n + 1) r (r.bytes ++ l) :=
  ⟨[], l, rfl, n.succ_pos⟩

theorem Among.cons (h : Among n r l) (r' : Tagged) : Among (n + 1) r (r'.bytes ++ l) := by
  obtain ⟨before, after, rfl, hlt⟩ := h
  refine ⟨r' :: before, after, ?_, Nat.succ_lt_succ hlt⟩
  rw [List.flatMap_cons, List.append_assoc]

theorem not_overruns_zero (l : List UInt8) : ¬ Overruns 0 l := by
  rintro ⟨before, tag, length, after, -, hlt, -⟩
  exact Nat.not_lt_zero _ hlt

theorem not_overruns_of_length (h : l.length < 2) : ¬ Overruns n l := by
  rintro ⟨before, tag, length, after, rfl, -, -⟩
  rw [List.length_append, List.length_cons, List.length_cons] at h
  omega

theorem Overruns.tail (h : Overruns (n + 1) (r.bytes ++ l)) : Overruns n l := by
  obtain ⟨before, tag, length, after, heq, hlt, hlength⟩ := h
  cases before with
  | nil =>
    simp only [bytes, List.flatMap_nil, List.nil_append, List.cons_append, List.cons.injEq] at heq
    obtain ⟨-, rfl, rfl⟩ := heq
    rw [length_toNat, List.length_append] at hlength
    omega
  | cons r' before =>
    rw [List.flatMap_cons, List.append_assoc] at heq
    obtain ⟨-, rfl⟩ := bytes_append_inj heq
    exact ⟨before, tag, length, after, rfl, Nat.lt_of_succ_lt_succ hlt, hlength⟩

end Tagged

end McpGateway.Lib
