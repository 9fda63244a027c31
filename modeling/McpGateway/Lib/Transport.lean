import Mathlib.Data.List.Basic

/-!
# Reading and writing a byte stream in pieces

A connection delivers its bytes in segments: each is what one call of `recv` finds, if the
caller has room for it. A call of `send` takes as many bytes as it likes. The loops around
the two calls see the stream only: `receiveAll_some`, `receiveAll_none` and `sendAll_spec`
name no segment.
-/

namespace McpGateway.Lib

section Receive

variable {α : Type*}

/-- The bytes that can be received; a `recv` that finds none ends the connection. -/
def stream : List (List α) → List α
  | [] => []
  | seg :: segs => if seg = [] then [] else seg ++ stream segs

/-- The loop around `recv` for `size` bytes: the bytes, and what is left of the segments. -/
def receiveAll : Nat → List (List α) → Option (List α) × List (List α)
  | 0, segs => (some [], segs)
  | _ + 1, [] => (none, [])
  | size + 1, seg :: segs =>
    if seg = [] then (none, seg :: segs)
    else if size + 1 < seg.length then (some (seg.take (size + 1)), seg.drop (size + 1) :: segs)
    else
      let rest := receiveAll (size + 1 - seg.length) segs
      (rest.1.map (seg ++ ·), rest.2)

theorem stream_cons {seg : List α} (h : seg ≠ []) (segs : List (List α)) :
    stream (seg :: segs) = seg ++ stream segs := if_neg h

theorem stream_closed (segs : List (List α)) : stream ([] :: segs) = [] := if_pos rfl

/-- With enough bytes in the stream the loop gets the first ones. -/
theorem receiveAll_some {size : Nat} {segs : List (List α)} (h : size ≤ (stream segs).length) :
    (receiveAll size segs).1 = some ((stream segs).take size) ∧
      stream (receiveAll size segs).2 = (stream segs).drop size := by
  induction size, segs using receiveAll.induct with
  | case1 segs => rw [receiveAll]; exact ⟨rfl, rfl⟩
  | case2 size => exact absurd h (Nat.not_succ_le_zero size)
  | case3 size segs =>
    rw [stream_closed] at h
    exact absurd h (Nat.not_succ_le_zero size)
  | case4 size seg segs hseg hlonger =>
    have hrest : seg.drop (size + 1) ≠ [] := by
      rw [Ne, List.drop_eq_nil_iff]
      omega
    rw [receiveAll, if_neg hseg, if_pos hlonger, stream_cons hseg,
      List.take_append_of_le_length (Nat.le_of_lt hlonger), List.drop_append_of_le_length (Nat.le_of_lt hlonger)]
    exact ⟨rfl, stream_cons hrest segs⟩
  | case5 size seg segs hseg hshort ih =>
    have hle : seg.length ≤ size + 1 := Nat.not_lt.1 hshort
    rw [stream_cons hseg, List.length_append] at h
    obtain ⟨hfirst, hlast⟩ := ih (by omega)
    rw [receiveAll, if_neg hseg, if_neg hshort, stream_cons hseg, List.take_append,
      List.drop_append, List.take_of_length_le hle, List.drop_of_length_le hle, List.nil_append]
    dsimp only
    rw [hfirst]
    exact ⟨rfl, hlast⟩

theorem receiveAll_none {size : Nat} {segs : List (List α)} (h : (stream segs).length < size) :
    (receiveAll size segs).1 = none := by
  induction size, segs using receiveAll.induct with
  | case1 segs => exact absurd h (Nat.not_lt_zero _)
  | case2 size => rw [receiveAll]
  | case3 size segs => rw [receiveAll, if_pos rfl]
  | case4 size seg segs hseg hlonger =>
    rw [stream_cons hseg, List.length_append] at h
    omega
  | case5 size seg segs hseg hshort ih =>
    rw [stream_cons hseg, List.length_append] at h
    rw [receiveAll, if_neg hseg, if_neg hshort]
    dsimp only
    rw [ih (by omega)]
    rfl

/-- A loop that ends with data ran on a long enough stream. -/
theorem receiveAll_inv {size : Nat} {segs rest : List (List α)} {data : List α}
    (h : receiveAll size segs = (some data, rest)) : size ≤ (stream segs).length ∧
      data = (stream segs).take size ∧ stream rest = (stream segs).drop size := by
  rcases Nat.lt_or_ge (stream segs).length size with hshort | hlong
  · have hnone := receiveAll_none hshort
    rw [h] at hnone
    cases hnone
  · obtain ⟨hdata, hrest⟩ := receiveAll_some hlong
    rw [h] at hdata hrest
    exact ⟨hlong, Option.some.inj hdata, hrest⟩

end Receive

section Send

variable {α : Type*}

/-- What a loop around `send` did: whether it sent all, what is on the wire, and the
number of the next call. -/
structure Sent (α : Type*) where
  all : Bool
  wire : List α
  calls : Nat

/-- The loop around `send`; the `n`-th call takes `accepts n` bytes at most, and fails if
that is 0. -/
def sendAll (accepts : Nat → Nat) (calls : Nat) (data : List α) : Sent α :=
  if _ : data = [] then ⟨true, [], calls⟩
  else if _ : accepts calls = 0 then ⟨false, [], calls + 1⟩
  else
    let rest := sendAll accepts (calls + 1) (data.drop (accepts calls))
    ⟨rest.all, data.take (accepts calls) ++ rest.wire, rest.calls⟩
termination_by data.length
decreasing_by
  have hpos : 0 < data.length := List.length_pos_of_ne_nil ‹_›
  rw [List.length_drop]
  omega

/-- The beginning of the data is sent, and all of it unless a call fails. -/
theorem sendAll_spec (accepts : Nat → Nat) (calls : Nat) (data : List α) :
    (sendAll accepts calls data).wire <+: data ∧
      ((sendAll accepts calls data).all = true → (sendAll accepts calls data).wire = data) ∧
      ((∀ n, 0 < accepts n) → (sendAll accepts calls data).all = true) := by
  induction calls, data using sendAll.induct accepts with
  | case1 calls =>
    unfold sendAll
    rw [dif_pos rfl]
    exact ⟨List.nil_prefix, fun _ => rfl, fun _ => rfl⟩
  | case2 calls data hdata hfail =>
    unfold sendAll
    rw [dif_neg hdata, dif_pos hfail]
    exact ⟨List.nil_prefix, nofun, fun h => absurd hfail (Nat.ne_of_gt (h calls))⟩
  | case3 calls data hdata hfail ih =>
    obtain ⟨hfront, hall, hsent⟩ := ih
    unfold sendAll
    rw [dif_neg hdata, dif_neg hfail]
    dsimp only
    refine ⟨?_, fun h => ?_, hsent⟩
    · obtain ⟨rest, hrest⟩ := hfront
      refine ⟨rest, ?_⟩
      rw [List.append_assoc, hrest, List.take_append_drop]
    · rw [hall h, List.take_append_drop]

end Send

end McpGateway.Lib
