import McpGateway.Tcm.Context

/-!
# The state pool

`tcm_state_pool.c`: the last context of each `(device_id, point_id)`. When the
pool is full, a new point takes the slot of the oldest timestamp.
-/

namespace McpGateway.Tcm

open McpGateway.Lib

def TcmContext.names (ctx : TcmContext) : CStr × CStr := (ctx.deviceId.str, ctx.pointId.str)

/-- `s_states` up to `s_count`. -/
structure StatePool where
  states : List TcmContext
  capacity : Nat
  fits : states.length ≤ capacity

def StatePool.empty (capacity : Nat) : StatePool := ⟨[], capacity, Nat.zero_le _⟩

/-- The loop that looks for the oldest state: `i` is the next slot, `oldest` the
best one so far with its timestamp. -/
def oldestLoop : List TcmContext → Nat → Nat → Int → Nat
  | [], _, oldest, _ => oldest
  | s :: ss, i, oldest, best =>
    if s.timestampMs < best then oldestLoop ss (i + 1) i s.timestampMs
    else oldestLoop ss (i + 1) oldest best

def oldestSlot (states : List TcmContext) : Nat :=
  match states with
  | [] => 0
  | s :: ss => oldestLoop ss 1 0 s.timestampMs

/-- The states after `tcm_state_pool_update`. -/
def updateStates (capacity : Nat) (ctx : TcmContext) (states : List TcmContext) :
    List TcmContext :=
  match states.findIdx? fun s => s.names = ctx.names with
  | some i => states.set i ctx
  | none =>
    if states.length < capacity then states ++ [ctx] else states.set (oldestSlot states) ctx

theorem updateStates_fits {capacity : Nat} {ctx : TcmContext} {states : List TcmContext}
    (h : states.length ≤ capacity) : (updateStates capacity ctx states).length ≤ capacity := by
  unfold updateStates
  split
  · rw [List.length_set]
    exact h
  · split
    · rw [List.length_append, List.length_singleton]
      omega
    · rw [List.length_set]
      exact h

def tcmStatePoolUpdate (ctx : TcmContext) (p : StatePool) : StatePool :=
  ⟨updateStates p.capacity ctx p.states, p.capacity, updateStates_fits p.fits⟩

def tcmStatePoolGet (deviceId pointId : CStr) (p : StatePool) : Option TcmContext :=
  p.states.find? fun s => s.names = (deviceId, pointId)

/-! ## Lookups after an update -/

section Slots

variable {α β : Type*} {P : α → Bool} {a : α} {l : List α} {i : Nat}

theorem findIdx?_cons_cases {x : α} (h : (x :: l).findIdx? P = some i) :
    P x = true ∧ i = 0 ∨ P x = false ∧ ∃ j, l.findIdx? P = some j ∧ i = j + 1 := by
  rw [List.findIdx?_cons] at h
  cases hx : P x with
  | true =>
    rw [hx, if_pos rfl] at h
    exact .inl ⟨rfl, (Option.some.inj h).symm⟩
  | false =>
    rw [hx] at h
    simp only [Bool.false_eq_true, if_false, Option.map_eq_some_iff] at h
    obtain ⟨j, hj, rfl⟩ := h
    exact .inr ⟨rfl, j, hj, rfl⟩

theorem find?_set_self (h : l.findIdx? P = some i) (ha : P a = true) :
    (l.set i a).find? P = some a := by
  induction l generalizing i with
  | nil => simp at h
  | cons x l ih =>
    obtain ⟨-, rfl⟩ | ⟨hx, j, hj, rfl⟩ := findIdx?_cons_cases h
    · rw [List.set_cons_zero, List.find?_cons, ha]
    · rw [List.set_cons_succ, List.find?_cons, hx]
      exact ih hj

/-- A replacement of its kind changes no search for another kind. -/
theorem find?_set_of_ne {Q : α → Bool} (h : l.findIdx? P = some i)
    (hQ : ∀ x, P x = true → Q x = false) (ha : P a = true) :
    (l.set i a).find? Q = l.find? Q := by
  induction l generalizing i with
  | nil => simp at h
  | cons x l ih =>
    obtain ⟨hx, rfl⟩ | ⟨hx, j, hj, rfl⟩ := findIdx?_cons_cases h
    · rw [List.set_cons_zero, List.find?_cons, List.find?_cons, hQ x hx, hQ a ha]
    · rw [List.set_cons_succ, List.find?_cons, List.find?_cons, ih hj]

theorem map_set_of_findIdx? {f : α → β} (h : l.findIdx? P = some i)
    (hf : ∀ x, P x = true → f x = f a) : (l.set i a).map f = l.map f := by
  induction l generalizing i with
  | nil => simp at h
  | cons x l ih =>
    obtain ⟨hx, rfl⟩ | ⟨hx, j, hj, rfl⟩ := findIdx?_cons_cases h
    · rw [List.set_cons_zero, List.map_cons, List.map_cons, hf x hx]
    · rw [List.set_cons_succ, List.map_cons, List.map_cons, ih hj]

end Slots

variable {p : StatePool} {ctx : TcmContext}

/-- There is a slot for the context: its own or a new one. -/
def StatePool.HasRoom (p : StatePool) (ctx : TcmContext) : Prop :=
  ctx.names ∈ p.states.map TcmContext.names ∨ p.states.length < p.capacity

theorem updateStates_of_room (h : p.HasRoom ctx) :
    (∃ i, (p.states.findIdx? fun s => s.names = ctx.names) = some i ∧
      (tcmStatePoolUpdate ctx p).states = p.states.set i ctx) ∨
    ((∀ s ∈ p.states, s.names ≠ ctx.names) ∧
      (tcmStatePoolUpdate ctx p).states = p.states ++ [ctx]) := by
  cases hi : p.states.findIdx? fun s => s.names = ctx.names with
  | some i => exact .inl ⟨i, rfl, by simp only [tcmStatePoolUpdate, updateStates, hi]⟩
  | none =>
    have hne : ∀ s ∈ p.states, s.names ≠ ctx.names := by
      simpa [List.findIdx?_eq_none_iff] using hi
    refine .inr ⟨hne, ?_⟩
    have hlt : p.states.length < p.capacity := by
      rcases h with hmem | hlt
      · obtain ⟨s, hs, hn⟩ := List.mem_map.1 hmem
        exact absurd hn (hne s hs)
      · exact hlt
    simp only [tcmStatePoolUpdate, updateStates, hi, if_pos hlt]

theorem tcmStatePoolGet_update (h : p.HasRoom ctx) (deviceId pointId : CStr) :
    tcmStatePoolGet deviceId pointId (tcmStatePoolUpdate ctx p) =
      if ctx.names = (deviceId, pointId) then some ctx else tcmStatePoolGet deviceId pointId p := by
  unfold tcmStatePoolGet
  split
  · rename_i hn
    rcases updateStates_of_room h with ⟨i, hi, hs⟩ | ⟨hne, hs⟩
    · rw [hs, ← hn]
      exact find?_set_self hi (by simp)
    · rw [hs, ← hn, List.find?_append]
      have hnone : p.states.find? (fun s => s.names = ctx.names) = none := by
        simpa [List.find?_eq_none] using hne
      rw [hnone]
      simp
  · rename_i hn
    rcases updateStates_of_room h with ⟨i, hi, hs⟩ | ⟨hne, hs⟩
    · rw [hs]
      refine find?_set_of_ne hi (fun s hs => ?_) (by simp)
      have : s.names = ctx.names := by simpa using hs
      simpa [this] using hn
    · rw [hs, List.find?_append]
      simp [hn]

theorem update_names (h : p.HasRoom ctx) :
    (tcmStatePoolUpdate ctx p).states.map TcmContext.names = p.states.map TcmContext.names ∨
      ctx.names ∉ p.states.map TcmContext.names ∧
        (tcmStatePoolUpdate ctx p).states.map TcmContext.names =
          p.states.map TcmContext.names ++ [ctx.names] := by
  rcases updateStates_of_room h with ⟨i, hi, hs⟩ | ⟨hne, hs⟩
  · rw [hs]
    exact .inl (map_set_of_findIdx? hi (by simp))
  · rw [hs]
    refine .inr ⟨?_, by simp⟩
    rw [List.mem_map]
    rintro ⟨s, hmem, hn⟩
    exact hne s hmem hn

end McpGateway.Tcm
