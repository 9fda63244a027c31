import McpGateway.Config
import McpGateway.Lib.Run

/-!
# Sequence ids

`next_sequence` and `tcm_init` of `tcm_context.c`: ids are handed out from RAM,
and the end of the reserved block is in NVS, so that a reboot goes on behind it.
The power may go at any point of either function; an NVS write then took effect
or did not. `Reserved` is what holds at every such point, and
`sequence_ids_increasing` what follows for the ids of a whole run.
-/

namespace McpGateway.Tcm

open McpGateway.Lib

def tcmSequenceReservation : SeqId := 32

/-- `s_sequence_counter` and `s_sequence_reserved_to`. -/
structure SequenceRam where
  counter : SeqId
  reservedTo : SeqId

/-- `seq_reserved` in NVS, and the statics while the power is on. -/
structure SequenceState where
  seqReserved : Option SeqId
  ram : Option SequenceRam

/-- Where the power goes: before the NVS write takes effect, or after it. A call
that makes no write loses its result either way. -/
inductive PowerCut
  | beforeWrite
  | afterWrite
  deriving DecidableEq

/-- `persist_sequence`, as far as the power lets it. -/
def persistSequence (reservedTo : SeqId) (cut : Option PowerCut) (saved : Option SeqId) :
    Option SeqId :=
  if cut = some .beforeWrite then saved else some reservedTo

namespace SequenceState

/-- The device before `tcm_init`. -/
def off (saved : Option SeqId) : SequenceState := ⟨saved, none⟩

/-- What `nvs_get_u32` leaves in `reserved`. -/
def reserved (s : SequenceState) : SeqId := s.seqReserved.getD 0

def tcmInit (s : SequenceState) (cut : Option PowerCut) : SequenceState where
  seqReserved := persistSequence (s.reserved + tcmSequenceReservation) cut s.seqReserved
  ram := match cut with
    | some _ => none
    | none => some ⟨s.reserved, s.reserved + tcmSequenceReservation⟩

/-- `next_sequence` of a device that is on: the id it returns, unless the power goes. -/
def nextSequence (s : SequenceState) (r : SequenceRam) (cut : Option PowerCut) :
    Option SeqId × SequenceState :=
  let exhausted := decide (r.counter ≥ r.reservedTo)
  let reservedTo := if exhausted then r.reservedTo + tcmSequenceReservation else r.reservedTo
  let saved := if exhausted then persistSequence reservedTo cut s.seqReserved else s.seqReserved
  match cut with
  | some _ => (none, ⟨saved, none⟩)
  | none => (some (r.counter + 1), ⟨saved, some ⟨r.counter + 1, reservedTo⟩⟩)

end SequenceState

inductive SequenceStep
  | init (cut : Option PowerCut)
  | next (cut : Option PowerCut)
  | powerLoss

namespace SequenceState

def step (s : SequenceState) : SequenceStep → SequenceState
  | .init cut => s.tcmInit cut
  | .next cut => match s.ram with
    | none => s
    | some r => (s.nextSequence r cut).2
  | .powerLoss => .off s.seqReserved

def returned (s : SequenceState) : SequenceStep → Option SeqId
  | .next cut => s.ram.bind fun r => (s.nextSequence r cut).1
  | _ => none

def reservedBy (s : SequenceState) : SequenceStep → Nat
  | .init cut => if cut = some .beforeWrite then 0 else tcmSequenceReservation.val
  | .next cut => match s.ram with
    | none => 0
    | some r =>
      if r.counter < r.reservedTo ∨ cut = some .beforeWrite then 0
      else tcmSequenceReservation.val
  | .powerLoss => 0

/-! ## The reservation -/

/-- The block in NVS covers every id that was handed out. -/
structure Reserved (s : SequenceState) : Prop where
  covers : ∀ r ∈ s.ram, r.counter ≤ r.reservedTo
  saved : ∀ r ∈ s.ram, s.seqReserved = some r.reservedTo

/-- No id up to here is handed out any more. -/
def floor (s : SequenceState) : SeqId :=
  match s.ram with
  | none => s.reserved
  | some r => r.counter

section Step

variable {s : SequenceState} {r : SequenceRam}

theorem reserved_off (saved : Option SeqId) : (off saved).Reserved := by
  constructor <;> exact fun r hr => absurd hr (Option.not_mem_none r)

theorem Reserved.floor_le (h : s.Reserved) : s.floor ≤ s.reserved := by
  unfold floor
  cases hram : s.ram with
  | none => exact le_refl _
  | some r =>
    rw [reserved, h.saved r hram]
    exact h.covers r hram

/-- A block more, as long as the ids do not run out. -/
theorem add_reservation {x : SeqId} (hx : x.val + 32 < 2 ^ 32) :
    (x + tcmSequenceReservation).val = x.val + 32 := by
  rw [Fin.val_add]
  exact Nat.mod_eq_of_lt hx

theorem add_one_val {x : SeqId} (hx : x.val + 32 < 2 ^ 32) : (x + 1).val = x.val + 1 := by
  rw [Fin.val_add]
  exact Nat.mod_eq_of_lt (show x.val + 1 < 2 ^ 32 by omega)

/-- What one step does, while fewer than 2^32 ids are reserved. -/
structure Advanced (s s' : SequenceState) (gain : Nat) (out : Option SeqId) : Prop where
  reserved : s'.Reserved
  gained : s'.reserved.val = s.reserved.val + gain
  floor : s.floor ≤ s'.floor
  fresh : ∀ v ∈ out, s.floor < v ∧ v ≤ s'.floor

theorem tcmInit_advanced (h : s.Reserved) (hfew : s.reserved.val + 32 < 2 ^ 32)
    (cut : Option PowerCut) :
    Advanced s (s.tcmInit cut) (s.reservedBy (.init cut)) none := by
  have hadd := add_reservation hfew
  have hle : s.reserved ≤ s.reserved + tcmSequenceReservation := Fin.le_def.2 (by omega)
  cases cut with
  | none =>
    refine ⟨⟨fun r hr => ?_, fun r hr => ?_⟩, hadd, h.floor_le, fun v hv => by cases hv⟩
    · obtain rfl := Option.some.inj hr
      exact hle
    · obtain rfl := Option.some.inj hr
      rfl
  | some cut =>
    cases cut with
    | beforeWrite => exact ⟨reserved_off _, rfl, h.floor_le, fun v hv => by cases hv⟩
    | afterWrite =>
      exact ⟨reserved_off _, hadd, h.floor_le.trans hle, fun v hv => by cases hv⟩

theorem nextSequence_advanced (h : s.Reserved) (hfew : s.reserved.val + 32 < 2 ^ 32)
    (hram : s.ram = some r) (cut : Option PowerCut) :
    Advanced s (s.nextSequence r cut).2 (s.reservedBy (.next cut)) (s.nextSequence r cut).1 := by
  have hsaved := h.saved r hram
  have hreserved : s.reserved = r.reservedTo := by rw [SequenceState.reserved, hsaved]; rfl
  have hfloor : s.floor = r.counter := by rw [SequenceState.floor, hram]
  have hcovers := h.covers r hram
  have hadd := add_reservation (hreserved ▸ hfew)
  have hone : (r.counter + 1).val = r.counter.val + 1 :=
    add_one_val (by have := Fin.le_def.1 hcovers; rw [hreserved] at hfew; omega)
  unfold reservedBy nextSequence
  rw [hram]
  by_cases hleft : r.counter < r.reservedTo
  · have hexhausted : decide (r.counter ≥ r.reservedTo) = false :=
      decide_eq_false (not_le.2 hleft)
    simp only [hexhausted, Bool.false_eq_true, if_false, if_pos (Or.inl hleft)]
    cases cut with
    | none =>
      refine ⟨⟨fun x hx => ?_, fun x hx => ?_⟩, rfl, ?_, fun v hv => ?_⟩
      · obtain rfl := Option.some.inj hx
        have := Fin.lt_def.1 hleft
        exact Fin.le_def.2 (by show (r.counter + 1).val ≤ r.reservedTo.val; omega)
      · obtain rfl := Option.some.inj hx
        exact hsaved
      · rw [hfloor]
        exact Fin.le_def.2 (by show r.counter.val ≤ (r.counter + 1).val; omega)
      · obtain rfl := Option.some.inj hv
        rw [hfloor]
        exact ⟨Fin.lt_def.2 (by omega), le_refl _⟩
    | some cut =>
      refine ⟨reserved_off _, rfl, ?_, fun v hv => by cases hv⟩
      exact h.floor_le
  · have hexhausted : decide (r.counter ≥ r.reservedTo) = true :=
      decide_eq_true (not_lt.1 hleft)
    simp only [hexhausted, if_true]
    cases cut with
    | none =>
      rw [if_neg (by rintro (hlt | hcut); exacts [hleft hlt, by cases hcut])]
      refine ⟨⟨fun x hx => ?_, fun x hx => ?_⟩, ?_, ?_, fun v hv => ?_⟩
      · obtain rfl := Option.some.inj hx
        have := Fin.le_def.1 hcovers
        exact Fin.le_def.2 (by
          show (r.counter + 1).val ≤ (r.reservedTo + tcmSequenceReservation).val
          omega)
      · obtain rfl := Option.some.inj hx
        rfl
      · rw [hreserved]
        exact hadd
      · rw [hfloor]
        exact Fin.le_def.2 (by show r.counter.val ≤ (r.counter + 1).val; omega)
      · obtain rfl := Option.some.inj hv
        rw [hfloor]
        exact ⟨Fin.lt_def.2 (by omega), le_refl _⟩
    | some cut =>
      cases cut with
      | beforeWrite =>
        rw [if_pos (.inr rfl)]
        exact ⟨reserved_off _, rfl, h.floor_le, fun v hv => by cases hv⟩
      | afterWrite =>
        rw [if_neg (by rintro (hlt | hcut); exacts [hleft hlt, by cases hcut])]
        refine ⟨reserved_off _, ?_, ?_, fun v hv => by cases hv⟩
        · rw [hreserved]
          exact hadd
        · rw [hfloor]
          have := Fin.le_def.1 hcovers
          exact Fin.le_def.2 (by
            show r.counter.val ≤ (r.reservedTo + tcmSequenceReservation).val
            omega)

/-- **One step keeps the reservation, and returns a fresh id.** -/
theorem step_advanced (h : s.Reserved) (hfew : s.reserved.val + 32 < 2 ^ 32) (a : SequenceStep) :
    Advanced s (s.step a) (s.reservedBy a) (s.returned a) := by
  cases a with
  | init cut => exact tcmInit_advanced h hfew cut
  | next cut =>
    cases hram : s.ram with
    | none =>
      have hstep : s.step (.next cut) = s := by simp only [step, hram]
      have hout : s.returned (.next cut) = none := by simp only [returned, hram, Option.bind_none]
      have hgain : s.reservedBy (.next cut) = 0 := by simp only [reservedBy, hram]
      rw [hstep, hout, hgain]
      exact ⟨h, rfl, le_refl _, fun v hv => by cases hv⟩
    | some r =>
      have hstep : s.step (.next cut) = (s.nextSequence r cut).2 := by simp only [step, hram]
      have hout : s.returned (.next cut) = (s.nextSequence r cut).1 := by
        simp only [returned, hram, Option.bind_some]
      rw [hstep, hout]
      exact nextSequence_advanced h hfew hram cut
  | powerLoss => exact ⟨reserved_off _, rfl, h.floor_le, fun v hv => by cases hv⟩

end Step

/-! ## Runs -/

theorem allSteps_fresh {s : SequenceState} {steps : List SequenceStep} (h : s.Reserved)
    (hfew : s.reserved.val + total step reservedBy s steps < 2 ^ 32 - 64) :
    AllSteps step (fun s a => s.floor ≤ (s.step a).floor ∧
      ∀ v ∈ s.returned a, s.floor < v ∧ v ≤ (s.step a).floor) s steps := by
  induction steps generalizing s with
  | nil => trivial
  | cons a steps ih =>
    have htotal : total step reservedBy s (a :: steps) =
      s.reservedBy a + total step reservedBy (s.step a) steps := rfl
    have hadvanced := step_advanced h (by omega) a
    refine ⟨⟨hadvanced.floor, hadvanced.fresh⟩, ih hadvanced.reserved ?_⟩
    rw [hadvanced.gained]
    omega

end SequenceState

open SequenceState

/-- **Sequence ids are never reused**: over any run with reboots and power cuts
the ids that `next_sequence` returns increase. -/
theorem sequence_ids_increasing (saved : Option SeqId) (steps : List SequenceStep)
    (hfew : (saved.getD 0).val + total step reservedBy (.off saved) steps < 2 ^ 32 - 64) :
    (outputs step returned (.off saved) steps).Pairwise (· < ·) :=
  (outputs_increasing (allSteps_fresh (reserved_off saved) hfew)).1

/-- Two ids, a power cut, a reboot that is cut as well, and the next id. -/
def cutRun : List SequenceStep :=
  [.init none, .next none, .next none, .next (some .beforeWrite), .init (some .afterWrite),
    .init none, .next none]

theorem cutRun_increasing : (outputs step returned (.off none) cutRun).Pairwise (· < ·) :=
  sequence_ids_increasing none cutRun (by decide +kernel)

end McpGateway.Tcm
