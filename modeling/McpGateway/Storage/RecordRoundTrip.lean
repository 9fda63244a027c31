import McpGateway.Storage.OfflineStore

/-!
# Reading a record file back

`write_record` prints the sequence id, the topic and the payload, the first two
on a line each; `read_record` reads the lines into buffers of fixed size.
`record_round_trip_iff` says which records come back as they were written.
-/

namespace McpGateway.Storage

open McpGateway.Lib

section RoundTrip

variable {m : Medium} {id : SeqId} {medium : OfflineMedium} {topic payload : CStr}

theorem fgets_sequence (id : SeqId) (rest : CStr) :
    fgets seqLineSize (printDecimal id.val ++ '\n' :: rest) =
      some (printDecimal id.val ++ ['\n'], rest) := by
  have hdigits : '\n' ∉ printDecimal id.val := fun h =>
    absurd (isDigit_of_mem_printDecimal h) (by decide)
  have hlength : (printDecimal id.val).length ≤ 10 :=
    printDecimal_length_le (by decide) (id.isLt.trans (by decide))
  exact fgets_line hdigits (by unfold seqLineSize; omega) rest

theorem readRecord_written (hmounted : m.mounted = true)
    (hlines : ∀ c ∈ topic, c ∉ ['\r', '\n']) (htopic : topic.length < topicSize) :
    (m.writeRecord id topic payload .ok).2.readRecord id medium = .ok
      { sequenceId := id, topic := topic, medium := medium
        payload := strlcpy tcmMaxJsonLen
          (if topic.length + 1 < topicSize then payload else '\n' :: payload) } := by
  have hnewline : '\n' ∉ topic := fun h => hlines '\n' h (by decide)
  have hcut : ∀ s, cutAt ['\r', '\n'] (topic ++ s) = topic ++ cutAt ['\r', '\n'] s :=
    cutAt_append hlines
  have hlookup : ∀ text, (m.dir.insert id text).lookup id = some text :=
    fun text => AList.lookup_insert m.dir
  unfold Medium.writeRecord Medium.readRecord Medium.recordText
  rw [if_pos hmounted]
  dsimp only
  rw [if_pos hmounted, hlookup]
  dsimp only
  rw [fgets_sequence]
  dsimp only
  by_cases hfits : topic.length + 1 < topicSize
  · rw [fgets_line hnewline hfits, if_pos hfits]
    dsimp only
    rw [hcut]
    simp [cutAt]
  · have hfull : topicSize = topic.length + 1 := by omega
    have hwhole := hcut []
    rw [if_neg hfits, hfull, fgets_full hnewline]
    dsimp only
    rw [List.append_nil] at hwhole
    rw [hwhole]
    simp [cutAt]

/-- A newline before a payload leaves it as it is only if it is full of newlines. -/
theorem strlcpy_newline_iff (h : payload.length < tcmMaxJsonLen) :
    strlcpy tcmMaxJsonLen ('\n' :: payload) = payload ↔ payload = List.replicate 1023 '\n' := by
  have hsize : tcmMaxJsonLen = 1024 := rfl
  constructor
  · intro heq
    have hlength : payload.length = 1023 := by
      have hlengths := congrArg List.length heq
      unfold strlcpy at hlengths
      rw [List.length_take, List.length_cons] at hlengths
      omega
    refine List.eq_replicate_iff.2 ⟨hlength, fun c hc => ?_⟩
    -- Each character is the one before it, and the first is the newline.
    obtain ⟨i, hi, rfl⟩ := List.mem_iff_getElem.1 hc
    induction i with
    | zero =>
      have hfirst := congrArg (fun l => l[0]?) heq
      simp only [strlcpy, hsize, List.getElem?_take, List.getElem?_cons_zero] at hfirst
      rw [List.getElem?_eq_getElem hi] at hfirst
      exact (Option.some.inj hfirst).symm
    | succ i ih =>
      have hbefore : i < payload.length := by omega
      have hnext := congrArg (fun l => l[i + 1]?) heq
      simp only [strlcpy, hsize, List.getElem?_take, List.getElem?_cons_succ] at hnext
      rw [if_pos (by omega), List.getElem?_eq_getElem hbefore, List.getElem?_eq_getElem hi] at hnext
      rw [← Option.some.inj hnext]
      exact ih hbefore (List.getElem_mem hbefore)
  · rintro rfl
    rw [← List.replicate_succ, strlcpy, hsize, List.take_replicate]
    rfl

/-- **Record files come back.** After a successful `write_record` of a topic of at
most 127 characters without line breaks and a payload of at most 1023, `read_record`
returns the record exactly when the topic has at most 126 characters, or the payload
is 1023 newlines. -/
theorem record_round_trip_iff {outcome : WriteOutcome}
    (hwritten : (m.writeRecord id topic payload outcome).1 = .ok)
    (hlines : ∀ c ∈ topic, c ∉ ['\r', '\n']) (htopic : topic.length < topicSize)
    (hpayload : payload.length < tcmMaxJsonLen) :
    (m.writeRecord id topic payload outcome).2.readRecord id medium =
        .ok { sequenceId := id, topic := topic, payload := payload, medium := medium } ↔
      topic.length ≤ 126 ∨ payload = List.replicate 1023 '\n' := by
  obtain ⟨hmounted, rfl⟩ : m.mounted = true ∧ outcome = .ok := by
    unfold Medium.writeRecord at hwritten
    cases hm : m.mounted with
    | false =>
      rw [hm, if_neg (by decide)] at hwritten
      cases hwritten
    | true =>
      rw [hm, if_pos rfl] at hwritten
      cases outcome with
      | ok => exact ⟨rfl, rfl⟩
      | openFailed => cases hwritten
      | cutShort n => cases hwritten
  have hsize : topicSize = 128 := rfl
  rw [readRecord_written hmounted hlines htopic, Except.ok.injEq, OfflineRecord.mk.injEq]
  simp only [true_and, and_true]
  by_cases hfits : topic.length + 1 < topicSize
  · rw [if_pos hfits]
    exact iff_of_true (strlcpy_of_lt hpayload) (.inl (by omega))
  · rw [if_neg hfits, strlcpy_newline_iff hpayload]
    exact (or_iff_right (by omega)).symm

end RoundTrip

/-! ## A topic of 127 characters -/

def freshMedium : Medium := { emptyMedium with mounted := true }

theorem record_round_trip_iff_short :
    (freshMedium.writeRecord 7 "factory/data/m/p".toList "\x7b\x7d".toList .ok).2.readRecord 7
        .flash =
      .ok { sequenceId := 7, topic := "factory/data/m/p".toList, payload := "\x7b\x7d".toList
            medium := .flash } :=
  have hlines : "factory/data/m/p".toList.all (fun c => decide (c ∉ ['\r', '\n'])) = true := by
    decide
  (record_round_trip_iff (by decide)
    (fun c hc => of_decide_eq_true (List.all_eq_true.1 hlines c hc)) (by decide)
    (by decide)).2 (.inl (by decide))

def longRecord (payload : CStr) : OfflineRecord where
  sequenceId := 7
  topic := List.replicate 127 't'
  payload := payload
  medium := .flash

/-- The newline of the longest topic is read as the first character of the payload. -/
theorem newline_leaks :
    (freshMedium.writeRecord 7 (List.replicate 127 't') "\x7b\x7d".toList .ok).1 = .ok ∧
      (freshMedium.writeRecord 7 (List.replicate 127 't') "\x7b\x7d".toList .ok).2.readRecord 7
          .flash = .ok (longRecord "\n\x7b\x7d".toList) ∧
      (freshMedium.writeRecord 7 (List.replicate 127 't') "\x7b\x7d".toList .ok).2.readRecord 7
          .flash ≠ .ok (longRecord "\x7b\x7d".toList) := by
  have hlines : ∀ c ∈ List.replicate 127 't', c ∉ ['\r', '\n'] := by
    intro c hc
    rw [List.eq_of_mem_replicate hc]
    decide
  have hread := @readRecord_written freshMedium 7 .flash (List.replicate 127 't')
    "\x7b\x7d".toList rfl hlines (by rw [List.length_replicate]; decide)
  rw [List.length_replicate] at hread
  refine ⟨congrArg Prod.fst (if_pos rfl), hread, fun hsame => ?_⟩
  have hpayload := congrArg OfflineRecord.payload (Except.ok.inj (hread.symm.trans hsame))
  revert hpayload
  decide

end McpGateway.Storage
