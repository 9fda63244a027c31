import Mathlib.Algebra.Order.Ring.Nat
import Mathlib.Data.Fin.Basic
import Mathlib.Data.Finset.Max
import Mathlib.Data.List.Basic
import Mathlib.Data.Rat.Floor
import Mathlib.Order.Lattice
import Mathlib.Tactic.Linarith
import McpGateway.Lib.CString

/-!
# Structures in memory

The layout of a C structure: each field stands at the next offset its alignment
allows. Structures are lists of field names, with a size and an alignment for
each name. `readField_prefix` says when a structure can be copied into a longer
one as raw bytes: when its fields are a prefix of the longer one's.
-/

namespace McpGateway.Lib

/-- The size and the alignment of a type. -/
structure CType where
  size : Nat
  align : Nat

/-- The next multiple of `align`. -/
def alignUp (align n : Nat) : Nat := (n + (align - 1)) / align * align

section Layout

variable {F : Type*} (ty : F → CType)

/-- The fields with their offsets, the first at `pos` or after it. -/
def placeFields : Nat → List F → List (F × Nat)
  | _, [] => []
  | pos, f :: fs =>
    (f, alignUp (ty f).align pos) ::
      placeFields (alignUp (ty f).align pos + (ty f).size) fs

def endOfFields : Nat → List F → Nat
  | pos, [] => pos
  | pos, f :: fs => endOfFields (alignUp (ty f).align pos + (ty f).size) fs

/-- `sizeof`: the end of the last field, aligned for an array. -/
def structSize (fs : List F) : Nat :=
  alignUp (fs.foldr (fun f m => max (ty f).align m) 1) (endOfFields ty 0 fs)

theorem placeFields_append (pos : Nat) (fs gs : List F) :
    placeFields ty pos (fs ++ gs) =
      placeFields ty pos fs ++ placeFields ty (endOfFields ty pos fs) gs := by
  induction fs generalizing pos with
  | nil => rfl
  | cons f fs ih => simp [placeFields, endOfFields, ih]

@[simp] theorem placeFields_fst (pos : Nat) (fs : List F) :
    (placeFields ty pos fs).map Prod.fst = fs := by
  induction fs generalizing pos with
  | nil => rfl
  | cons f fs ih => simp [placeFields, ih]

theorem le_alignUp {align n : Nat} (h : 0 < align) : n ≤ alignUp align n := by
  have hdiv := Nat.div_add_mod (n + (align - 1)) align
  have hmod := Nat.mod_lt (n + (align - 1)) h
  rw [alignUp, Nat.mul_comm]
  omega

theorem le_endOfFields {pos : Nat} {fs : List F} (h : ∀ f, 0 < (ty f).align) :
    pos ≤ endOfFields ty pos fs := by
  induction fs generalizing pos with
  | nil => exact Nat.le_refl pos
  | cons f fs ih =>
    calc pos ≤ alignUp (ty f).align pos := le_alignUp (h f)
      _ ≤ alignUp (ty f).align pos + (ty f).size := Nat.le_add_right _ _
      _ ≤ _ := ih

theorem placeFields_end_le {pos : Nat} {fs : List F} (h : ∀ f, 0 < (ty f).align) {f : F} {o : Nat}
    (hf : (f, o) ∈ placeFields ty pos fs) : o + (ty f).size ≤ endOfFields ty pos fs := by
  induction fs generalizing pos with
  | nil => cases hf
  | cons g fs ih =>
    rcases List.mem_cons.1 hf with heq | hf
    · obtain ⟨rfl, rfl⟩ := Prod.mk.inj heq
      exact le_endOfFields ty h
    · exact ih hf

variable [DecidableEq F]

/-- `offsetof`; `none` for a field the structure lacks. -/
def offsetOf? (fs : List F) (f : F) : Option Nat := (placeFields ty 0 fs).lookup f

/-- The bytes of a field in an image of the structure; none for a field it lacks. -/
def readField (fs : List F) (bytes : List UInt8) (f : F) : List UInt8 :=
  match offsetOf? ty fs f with
  | some o => (bytes.drop o).take (ty f).size
  | none => []

variable {ty}

theorem lookup_append_of_isSome {β : Type*} {l r : List (F × β)} {f : F}
    (h : (l.lookup f).isSome) : (l ++ r).lookup f = l.lookup f := by
  rw [List.lookup_append, Option.or_of_isSome h]

theorem mem_of_lookup {β : Type*} {l : List (F × β)} {f : F} {b : β} (h : l.lookup f = some b) :
    (f, b) ∈ l := by
  induction l with
  | nil => cases h
  | cons p l ih =>
    obtain ⟨g, c⟩ := p
    rw [List.lookup_cons] at h
    split at h
    · rename_i heq
      rw [beq_iff_eq] at heq
      obtain rfl := Option.some.inj h
      rw [heq]
      exact List.mem_cons_self
    · exact List.mem_cons_of_mem _ (ih h)

theorem isSome_lookup_of_mem {β : Type*} {l : List (F × β)} {f : F} (h : f ∈ l.map Prod.fst) :
    (l.lookup f).isSome := by
  induction l with
  | nil => cases h
  | cons p l ih =>
    obtain ⟨g, c⟩ := p
    rw [List.lookup_cons]
    split
    · rfl
    · rename_i hne
      rw [beq_eq_false_iff_ne] at hne
      exact ih ((List.mem_cons.1 h).resolve_left hne)

theorem offsetOf?_append {fs gs : List F} {f : F} (h : f ∈ fs) :
    offsetOf? ty (fs ++ gs) f = offsetOf? ty fs f := by
  rw [offsetOf?, placeFields_append]
  refine lookup_append_of_isSome (isSome_lookup_of_mem ?_)
  rw [placeFields_fst]
  exact h

theorem offsetOf?_of_mem (ty : F → CType) {fs : List F} {f : F} (h : f ∈ fs) :
    ∃ o, offsetOf? ty fs f = some o := by
  refine Option.isSome_iff_exists.1 (isSome_lookup_of_mem ?_)
  rw [placeFields_fst]
  exact h

/-- **Prefix copies.** The image of a structure, copied over the start of a
longer one that begins with its fields, holds the same fields. -/
theorem readField_prefix {fs : List F} (gs : List F) {bytes : List UInt8} (rest : List UInt8)
    {f : F}
    (hty : ∀ f, 0 < (ty f).align) (hlen : endOfFields ty 0 fs ≤ bytes.length) (h : f ∈ fs) :
    readField ty (fs ++ gs) (bytes ++ rest) f = readField ty fs bytes f := by
  obtain ⟨o, ho⟩ := offsetOf?_of_mem ty h
  have hend := placeFields_end_le ty hty (mem_of_lookup ho)
  simp only [readField, offsetOf?_append h, ho]
  rw [List.drop_append_of_le_length (by omega), List.take_append_of_le_length]
  rw [List.length_drop]
  omega

/-- A field that begins past the end of an image filled up with zeros is zero. -/
theorem readField_past {fs : List F} {bytes : List UInt8} {k o : Nat} {f : F}
    (ho : offsetOf? ty fs f = some o) (h : bytes.length ≤ o) :
    ∃ j, readField ty fs (bytes ++ List.replicate k 0) f = List.replicate j 0 := by
  refine ⟨min (ty f).size (k - (o - bytes.length)), ?_⟩
  simp only [readField, ho]
  rw [List.drop_append, List.drop_of_length_le h, List.nil_append, List.drop_replicate,
    List.take_replicate]

end Layout

/-! ## Images -/

/-- A value in memory: its alignment and its bytes. -/
structure CImage where
  align : Nat
  bytes : List UInt8

/-- Zeros up to the next multiple of `align`. -/
def padTo (align : Nat) (bytes : List UInt8) : List UInt8 :=
  bytes ++ List.replicate (alignUp align bytes.length - bytes.length) 0

/-- A structure in zeroed memory, its fields in order. -/
def CImage.struct (fields : List CImage) : CImage :=
  let align := fields.foldr (fun f m => max f.align m) 1
  { align := align
    bytes := padTo align (fields.foldl (fun bytes f => padTo f.align bytes ++ f.bytes) []) }

/-- The `k` low bytes of a number, the lowest first. -/
def leBytes : Nat → Nat → List UInt8
  | 0, _ => []
  | k + 1, n => UInt8.ofNat n :: leBytes k (n / 256)

def CImage.u8 (x : UInt8) : CImage := ⟨1, [x]⟩
def CImage.u16 (x : UInt16) : CImage := ⟨2, leBytes 2 x.toNat⟩
def CImage.u32 (x : UInt32) : CImage := ⟨4, leBytes 4 x.toNat⟩
def CImage.bool (x : Bool) : CImage := .u8 (if x then 1 else 0)

/-- An `enum` is an `int`. -/
def CImage.enum (code : Nat) : CImage := ⟨4, leBytes 4 code⟩

/-- A string in a zeroed `char[n]`. -/
def CImage.chars (n : Nat) (s : CStr) : CImage :=
  ⟨1, s.map (fun c => UInt8.ofNat c.toNat) ++ List.replicate (n - s.length) 0⟩

/-- The number that little-endian bytes stand for. -/
def leNat : List UInt8 → Nat
  | [] => 0
  | b :: bs => b.toNat + 256 * leNat bs

theorem leNat_replicate_zero (j : Nat) : leNat (List.replicate j 0) = 0 := by
  induction j with
  | zero => rfl
  | succ j ih =>
    rw [List.replicate_succ, leNat, ih]
    rfl

end McpGateway.Lib
