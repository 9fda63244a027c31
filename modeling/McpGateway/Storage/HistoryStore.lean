import Mathlib.Data.List.TakeWhile
import McpGateway.Lib.Run
import McpGateway.Lib.StringOrder
import McpGateway.Storage.LogNames
import McpGateway.Tcm.Json

/-!
# The history on the card

`history_store.c` appends each record to the file of its chunk of 256 sequence ids, and removes
the file whose name comes first while the card is short of space. Other files on the card, and
what else takes its space, are arbitrary. `newest_kept` says which records that leaves.
-/

namespace McpGateway.Storage

open McpGateway.Lib McpGateway.Tcm

structure CardFile where
  name : CStr
  text : CStr

/-- The directory, in the order of `readdir`, and the counter of removed files. -/
structure HistoryCard where
  files : List CardFile
  deletedFiles : Nat

def historyMinFreeBytes : Nat := 2 * 1024 * 1024
def historyRecordsPerFile : Nat := 256

def historyName (name : CStr) : Bool :=
  strncmpEq 8 name "history_".toList && strstr name ".jsonl".toList

def chunkName (chunk : Nat) : CStr :=
  "history_".toList ++ (padDecimal 10 chunk ++ ".jsonl".toList)

def chunkOf (ctx : TcmContext) : Nat := ctx.sequenceId.val / historyRecordsPerFile

/-- What the card answers in one turn of the loop: the free space, if it can be read, and
whether the directory opens and a file can be removed. -/
structure SpaceAnswer where
  free : Option Nat
  opened : Bool
  unlinked : Bool

/-- One entry of the directory in `delete_oldest`. -/
def noteOldestHistory (oldest name : CStr) : CStr :=
  if historyName name = true ∧ (oldest = [] ∨ name < oldest) then strlcpy 64 name else oldest

/-- `delete_oldest`: whether a file was removed, and the card. -/
def deleteOldestHistory (ans : SpaceAnswer) (card : HistoryCard) : Bool × HistoryCard :=
  let oldest := (card.files.map CardFile.name).foldl noteOldestHistory []
  if ans.opened = false ∨ oldest = [] then (false, card)
  else if ans.unlinked = false ∨ oldest ∉ card.files.map CardFile.name then (false, card)
  else (true,
    { files := card.files.filter fun f => decide (f.name ≠ oldest)
      deletedFiles := card.deletedFiles + 1 })

/-- `ensure_free_space`, with `attempts` turns to go. -/
def ensureFreeSpace (answers : Nat → SpaceAnswer) : Nat → HistoryCard → HistoryCard
  | 0, card => card
  | attempts + 1, card =>
    match (answers attempts).free with
    | none => card
    | some free =>
      if historyMinFreeBytes ≤ free then card
      else
        let r := deleteOldestHistory (answers attempts) card
        if r.1 then ensureFreeSpace answers attempts r.2 else r.2

/-- What the card answers to one append: whether it is mounted and the file opens, at which place
of the directory a new file goes, whether the two `fwrite` take all they are given, and how much
of it is in the file when it is closed. The results of `fflush` and `fclose` are not read. -/
structure AppendAnswer where
  mounted : Bool
  space : Nat → SpaceAnswer
  opened : Bool
  slot : Nat
  record : Bool
  newline : Bool
  reached : Nat

/-- Bytes at the end of a file, which is made if it is not there. -/
def HistoryCard.append (card : HistoryCard) (slot : Nat) (name bytes : CStr) : HistoryCard :=
  if name ∈ card.files.map CardFile.name then
    { card with files := card.files.map fun f =>
        if f.name = name then { f with text := f.text ++ bytes } else f }
  else { card with files := card.files.take slot ++ ⟨name, bytes⟩ :: card.files.drop slot }

/-- What the two `fwrite` are given, and whether both take all of it. -/
def handedBytes (lib : JsonLib) (ctx : TcmContext) (ans : AppendAnswer) : Bool × CStr :=
  match tcmSerializeJson lib ctx tcmMaxJsonLen with
  | none => (false, [])
  | some json =>
    if json = [] then (false, [])
    else if ans.record then (ans.newline, json ++ ['\n'])
    else (false, json)

def historyStoreAppend (lib : JsonLib) (ctx : TcmContext) (ans : AppendAnswer)
    (card : HistoryCard) : EspErr × HistoryCard :=
  if ans.mounted = false then (.invalidState, card)
  else
    let card := ensureFreeSpace ans.space 16 card
    if ans.opened = false then (.fail, card)
    else
      let r := handedBytes lib ctx ans
      (if r.1 then .ok else .fail,
        card.append ans.slot (chunkName (chunkOf ctx)) (r.2.take ans.reached))

/-! ## Runs -/

/-- What an append put into the file of its chunk. -/
structure HistoryWrite where
  chunk : Nat
  bytes : CStr

/-- The card, and everything that was written to it. -/
structure History where
  card : HistoryCard
  writes : List HistoryWrite

/-- One call of `history_store_append`. -/
structure HistoryStep where
  lib : JsonLib
  ctx : TcmContext
  ans : AppendAnswer

def HistoryStep.opens (a : HistoryStep) : Bool := a.ans.mounted && a.ans.opened

def HistoryStep.write (a : HistoryStep) : HistoryWrite where
  chunk := chunkOf a.ctx
  bytes := (handedBytes a.lib a.ctx a.ans).2.take a.ans.reached

def History.step (s : History) (a : HistoryStep) : History where
  card := (historyStoreAppend a.lib a.ctx a.ans s.card).2
  writes :=
    if a.opens then s.writes ++ [a.write] else s.writes

/-- The record belongs to the chunk of the last one or to a later one. -/
def History.Rising (s : History) (a : HistoryStep) : Prop :=
  ∀ w ∈ s.writes, w.chunk ≤ chunkOf a.ctx

def HistoryCard.textOf (card : HistoryCard) (name : CStr) : CStr :=
  ((card.files.find? fun f => decide (f.name = name)).map CardFile.text).getD []

def bytesOf (chunk : Nat) (writes : List HistoryWrite) : CStr :=
  (writes.filter fun w => decide (w.chunk = chunk)).flatMap HistoryWrite.bytes

/-- The chunks that sequence ids have: 2 ^ 32 ids, 256 to a chunk. -/
@[irreducible] def chunkCount : Nat := 16777216

/-- Each chunk holds those of the writes that are its own, in their order. -/
def HoldsChunks (card : HistoryCard) (kept : List HistoryWrite) : Prop :=
  ∀ c < chunkCount, card.textOf (chunkName c) = bytesOf c kept

theorem chunkOf_lt (ctx : TcmContext) : chunkOf ctx < chunkCount := by
  have hid : ctx.sequenceId.val < 2 ^ 32 := ctx.sequenceId.isLt
  unfold chunkOf chunkCount historyRecordsPerFile
  omega

theorem chunkCount_lt : chunkCount < 10 ^ 10 := by
  unfold chunkCount
  omega

/-! ## Names -/

theorem take_le (n : Nat) (s : CStr) : s.take n ≤ s := by
  by_cases h : s.take n = s
  · rw [h]
  · exact (lt_of_begins (List.take_prefix n s) h).le

theorem framed_lt_iff {p q : CStr} (front back : CStr) (h : p.length = q.length) :
    front ++ (p ++ back) < front ++ (q ++ back) ↔ p < q := by
  rw [append_lt_append_left, append_lt_append_iff h]
  simp only [lt_irrefl, and_false, or_false]

theorem chunkName_lt_iff {c d : Nat} (hc : c < chunkCount) (hd : d < chunkCount) :
    chunkName c < chunkName d ↔ c < d := by
  have hwidth : 0 < 10 := by decide
  have hc' : c < 10 ^ 10 := hc.trans chunkCount_lt
  have hd' : d < 10 ^ 10 := hd.trans chunkCount_lt
  have hlength : (padDecimal 10 c).length = (padDecimal 10 d).length := by
    rw [length_padDecimal hwidth hc', length_padDecimal hwidth hd']
  exact (framed_lt_iff _ _ hlength).trans (padDecimal_lt_iff hwidth hc' hd')

theorem chunkName_inj {c d : Nat} (hc : c < chunkCount) (hd : d < chunkCount)
    (h : chunkName c = chunkName d) : c = d := by
  have hcd := mt (chunkName_lt_iff hc hd).2 (by rw [h]; exact lt_irrefl _)
  have hdc := mt (chunkName_lt_iff hd hc).2 (by rw [h]; exact lt_irrefl _)
  omega

theorem historyName_chunkName (c : Nat) : historyName (chunkName c) = true := by
  have hfront : strncmpEq 8 (chunkName c) "history_".toList = true := by
    have hlength : "history_".toList.length = 8 := by decide +kernel
    unfold strncmpEq chunkName
    rw [List.append_assoc, ← hlength, List.take_left, List.take_left]
    exact decide_eq_true rfl
  have hback : strstr (chunkName c) ".jsonl".toList = true := by
    unfold strstr chunkName
    rw [← List.append_assoc]
    exact decide_eq_true (List.suffix_append _ _).isInfix
  rw [historyName, hfront, hback]
  rfl

theorem historyName_ne_nil {name : CStr} (h : historyName name = true) : name ≠ [] := by
  rintro rfl
  exact absurd h (by decide +kernel)

/-- The name found is not after any of the names. -/
theorem foldl_noteOldestHistory (names : List CStr) (acc : CStr) :
    (acc ≠ [] → names.foldl noteOldestHistory acc ≤ acc) ∧
      ∀ name ∈ names, historyName name = true → names.foldl noteOldestHistory acc ≤ name := by
  induction names generalizing acc with
  | nil => exact ⟨fun _ => le_refl acc, fun _ h => absurd h List.not_mem_nil⟩
  | cons name names ih =>
    obtain ⟨hacc, hnames⟩ := ih (noteOldestHistory acc name)
    have hkeep : acc ≠ [] → noteOldestHistory acc name ≠ [] ∧ noteOldestHistory acc name ≤ acc := by
      intro hne
      unfold noteOldestHistory
      split
      · rename_i hnoted
        refine ⟨?_, ?_⟩
        · exact fun hnil => historyName_ne_nil hnoted.1 (List.take_eq_nil_iff.1 hnil |>.resolve_left
            (by decide))
        · exact (take_le 63 name).trans (hnoted.2.resolve_left hne).le
      · exact ⟨hne, le_refl acc⟩
    have hnote : historyName name = true →
        noteOldestHistory acc name ≠ [] ∧ noteOldestHistory acc name ≤ name := by
      intro hname
      unfold noteOldestHistory
      split
      · refine ⟨?_, take_le 63 name⟩
        exact fun hnil => historyName_ne_nil hname (List.take_eq_nil_iff.1 hnil |>.resolve_left
          (by decide))
      · rename_i hnot
        have hrest : ¬ (acc = [] ∨ name < acc) := fun h => hnot ⟨hname, h⟩
        rw [not_or] at hrest
        exact ⟨hrest.1, not_lt.1 hrest.2⟩
    rw [List.foldl_cons]
    refine ⟨fun hne => (hacc (hkeep hne).1).trans (hkeep hne).2, fun x hx hname => ?_⟩
    rcases List.mem_cons.1 hx with rfl | hx
    · exact (hacc (hnote hname).1).trans (hnote hname).2
    · exact hnames x hx hname

/-! ## Files -/

section Files

variable {card : HistoryCard}

theorem textOf_of_not_mem {name : CStr} (h : name ∉ card.files.map CardFile.name) :
    card.textOf name = [] := by
  have hnone : card.files.find? (fun f => decide (f.name = name)) = none := by
    rw [List.find?_eq_none]
    exact fun f hf hname => h (of_decide_eq_true hname ▸ List.mem_map_of_mem hf)
  rw [HistoryCard.textOf, hnone]
  rfl

theorem textOf_append (card : HistoryCard) (slot : Nat) (name bytes other : CStr) :
    (card.append slot name bytes).textOf other =
      if other = name then card.textOf other ++ bytes else card.textOf other := by
  unfold HistoryCard.append
  by_cases hmem : name ∈ card.files.map CardFile.name
  · rw [if_pos hmem]
    have hsame : ((fun f : CardFile => decide (f.name = other)) ∘ fun f =>
        if f.name = name then { f with text := f.text ++ bytes } else f) =
          fun f => decide (f.name = other) := by
      funext f
      simp only [Function.comp_apply]
      split <;> rfl
    simp only [HistoryCard.textOf, List.find?_map, hsame]
    cases hfind : card.files.find? fun f => decide (f.name = other) with
    | none =>
      have hne : other ≠ name := by
        rintro rfl
        obtain ⟨f, hf, hname⟩ := List.mem_map.1 hmem
        exact List.find?_eq_none.1 hfind f hf (decide_eq_true hname)
      simp [hne]
    | some f =>
      have hname : f.name = other :=
        of_decide_eq_true (List.find?_some (p := fun f : CardFile => decide (f.name = other)) hfind)
      subst hname
      simp only [Option.map_some, Option.getD_some]
      split <;> rfl
  · rw [if_neg hmem]
    by_cases hother : other = name
    · subst hother
      rw [if_pos rfl, textOf_of_not_mem hmem, List.nil_append]
      have htake : (card.files.take slot).find? (fun f => decide (f.name = other)) = none := by
        rw [List.find?_eq_none]
        exact fun f hf hname =>
          hmem (of_decide_eq_true hname ▸ List.mem_map_of_mem (List.mem_of_mem_take hf))
      simp [HistoryCard.textOf, List.find?_append, htake]
    · have hne : ¬ name = other := fun h => hother h.symm
      rw [if_neg hother]
      simp only [HistoryCard.textOf, List.find?_append, List.find?_cons, decide_eq_false hne]
      rw [← List.find?_append, List.take_append_drop]

theorem textOf_remove (card : HistoryCard) (n : Nat) (name other : CStr) :
    HistoryCard.textOf ⟨card.files.filter fun f => decide (f.name ≠ name), n⟩ other =
      if other = name then [] else card.textOf other := by
  by_cases hother : other = name
  · subst hother
    rw [if_pos rfl]
    refine textOf_of_not_mem fun hmem => ?_
    obtain ⟨f, hf, hname⟩ := List.mem_map.1 hmem
    exact of_decide_eq_true (List.mem_filter.1 hf).2 hname
  · rw [if_neg hother]
    simp only [HistoryCard.textOf, List.find?_filter]
    congr 3
    funext f
    by_cases hname : f.name = other
    · simp [hname, hother]
    · simp [hname]

end Files

/-! ## What is kept -/

theorem bytesOf_append (c : Nat) (xs ys : List HistoryWrite) :
    bytesOf c (xs ++ ys) = bytesOf c xs ++ bytesOf c ys := by
  rw [bytesOf, List.filter_append, List.flatMap_append]
  rfl

theorem bytesOf_eq_nil {c : Nat} {xs : List HistoryWrite} (h : ∀ w ∈ xs, w.chunk ≠ c) :
    bytesOf c xs = [] := by
  rw [bytesOf, List.filter_eq_nil_iff.2 fun w hw => by simpa using h w hw]
  rfl

theorem bytesOf_dropWhile {kept : List HistoryWrite}
    (hsorted : kept.Pairwise fun v w => v.chunk ≤ w.chunk) (c d : Nat) :
    bytesOf d (kept.dropWhile fun w => decide (w.chunk ≤ c)) =
      if d ≤ c then [] else bytesOf d kept := by
  have hlater : ∀ w ∈ kept.dropWhile (fun w => decide (w.chunk ≤ c)), c < w.chunk := by
    have hdrop := hsorted.sublist (List.dropWhile_sublist fun w => decide (w.chunk ≤ c))
    cases hrest : kept.dropWhile fun w => decide (w.chunk ≤ c) with
    | nil => exact fun w hw => absurd hw List.not_mem_nil
    | cons first rest =>
      have hfirst : c < first.chunk := by
        have hhead := List.head?_dropWhile_not (fun w : HistoryWrite => decide (w.chunk ≤ c)) kept
        rw [hrest] at hhead
        simpa using hhead
      rw [hrest] at hdrop
      intro w hw
      rcases List.mem_cons.1 hw with rfl | hw
      · exact hfirst
      · exact hfirst.trans_le ((List.pairwise_cons.1 hdrop).1 w hw)
  split
  · rename_i hle
    exact bytesOf_eq_nil fun w hw => by
      have hlt := hlater w hw
      omega
  · rename_i hgt
    have hfront : bytesOf d (kept.takeWhile fun w => decide (w.chunk ≤ c)) = [] :=
      bytesOf_eq_nil fun w hw => by
        have hle := of_decide_eq_true
          (List.mem_takeWhile_imp (p := fun w : HistoryWrite => decide (w.chunk ≤ c)) hw)
        omega
    conv_rhs => rw [← List.takeWhile_append_dropWhile (p := fun w => decide (w.chunk ≤ c)) (l := kept)]
    rw [bytesOf_append, hfront, List.nil_append]

section Kept

variable {card : HistoryCard} {writes kept : List HistoryWrite}

structure Keeps (card : HistoryCard) (writes kept : List HistoryWrite) : Prop where
  newest : kept <:+ writes
  holds : HoldsChunks card kept

theorem Keeps.deleteOldest (h : Keeps card writes kept)
    (hsorted : writes.Pairwise fun v w => v.chunk ≤ w.chunk) (ans : SpaceAnswer) :
    ∃ kept', Keeps (deleteOldestHistory ans card).2 writes kept' := by
  unfold deleteOldestHistory
  dsimp only
  split
  · exact ⟨kept, h⟩
  · split
    · exact ⟨kept, h⟩
    · obtain ⟨-, hleast⟩ := foldl_noteOldestHistory (card.files.map CardFile.name) []
      generalize (card.files.map CardFile.name).foldl noteOldestHistory [] = oldest at hleast ⊢
      by_cases hown : ∃ c < chunkCount, chunkName c = oldest
      · obtain ⟨c, hc, rfl⟩ := hown
        refine ⟨kept.dropWhile fun w => decide (w.chunk ≤ c),
          (List.dropWhile_suffix _).trans h.newest, fun d hd => ?_⟩
        rw [textOf_remove, bytesOf_dropWhile (hsorted.sublist h.newest.sublist), ← h.holds d hd]
        rcases Nat.lt_trichotomy d c with hlt | rfl | hgt
        · -- a chunk before the oldest one has no file
          have hnone : chunkName d ∉ card.files.map CardFile.name := fun hmem =>
            absurd (hleast _ hmem (historyName_chunkName d))
              (not_le.2 ((chunkName_lt_iff hd hc).2 hlt))
          rw [textOf_of_not_mem hnone, if_pos hlt.le, ite_self]
        · rw [if_pos rfl, if_pos (le_refl d)]
        · rw [if_neg fun heq => absurd (chunkName_inj hd hc heq) (by omega), if_neg (by omega)]
      · refine ⟨kept, h.newest, fun d hd => ?_⟩
        rw [textOf_remove, if_neg fun heq => hown ⟨d, hd, heq⟩]
        exact h.holds d hd

theorem Keeps.ensureFreeSpace (h : Keeps card writes kept)
    (hsorted : writes.Pairwise fun v w => v.chunk ≤ w.chunk) (answers : Nat → SpaceAnswer)
    (attempts : Nat) :
    ∃ kept', Keeps (ensureFreeSpace answers attempts card) writes kept' := by
  induction attempts generalizing card kept with
  | zero => exact ⟨kept, h⟩
  | succ attempts ih =>
    rw [Storage.ensureFreeSpace]
    split
    · exact ⟨kept, h⟩
    · split
      · exact ⟨kept, h⟩
      · obtain ⟨kept', h'⟩ := h.deleteOldest hsorted (answers attempts)
        dsimp only
        split
        · exact ih h'
        · exact ⟨kept', h'⟩

theorem Keeps.append (h : Keeps card writes kept) {c : Nat} (hc : c < chunkCount) (slot : Nat)
    (bytes : CStr) :
    Keeps (card.append slot (chunkName c) bytes) (writes ++ [⟨c, bytes⟩]) (kept ++ [⟨c, bytes⟩]) where
  newest := by
    obtain ⟨old, rfl⟩ := h.newest
    exact ⟨old, (List.append_assoc ..).symm⟩
  holds d hd := by
    have hone : bytesOf d [⟨c, bytes⟩] = if d = c then bytes else [] := by
      by_cases hdc : d = c
      · simp [bytesOf, hdc]
      · simp [bytesOf, hdc, Ne.symm hdc]
    rw [textOf_append, bytesOf_append, hone, h.holds d hd]
    by_cases hdc : d = c
    · rw [if_pos (congrArg chunkName hdc), if_pos hdc]
    · rw [if_neg fun heq => hdc (chunkName_inj hd hc heq), if_neg hdc, List.append_nil]

end Kept

/-- The writes are in the order of their chunks, and the card keeps the last of them. -/
structure HistoryInv (s : History) : Prop where
  sorted : s.writes.Pairwise fun v w => v.chunk ≤ w.chunk
  keeps : ∃ kept, Keeps s.card s.writes kept

theorem HistoryInv.step {s : History} (h : HistoryInv s) {a : HistoryStep} (hrising : s.Rising a) :
    HistoryInv (s.step a) := by
  obtain ⟨kept, hkept⟩ := h.keeps
  unfold History.step historyStoreAppend HistoryStep.opens
  cases hmounted : a.ans.mounted with
  | false => exact ⟨h.sorted, kept, hkept⟩
  | true =>
    obtain ⟨kept', hkept'⟩ := hkept.ensureFreeSpace h.sorted a.ans.space 16
    cases hopened : a.ans.opened with
    | false => exact ⟨h.sorted, kept', hkept'⟩
    | true =>
      refine ⟨?_, _, hkept'.append (chunkOf_lt a.ctx) a.ans.slot _⟩
      exact List.pairwise_append.2 ⟨h.sorted, List.pairwise_singleton _ _, fun v hv w hw => by
        rw [List.mem_singleton.1 hw]
        exact hrising v hv⟩

/-! ## The records -/

def recordLine (lib : JsonLib) (ctx : TcmContext) : CStr :=
  ((tcmSerializeJson lib ctx tcmMaxJsonLen).map fun json => json ++ ['\n']).getD []

theorem handedBytes_begins (lib : JsonLib) (ctx : TcmContext) (ans : AppendAnswer) :
    (handedBytes lib ctx ans).2 <+: recordLine lib ctx := by
  unfold handedBytes recordLine
  cases tcmSerializeJson lib ctx tcmMaxJsonLen with
  | none => exact List.prefix_refl []
  | some json =>
    dsimp only [Option.map_some, Option.getD_some]
    split
    · exact List.nil_prefix
    · split
      · exact List.prefix_refl _
      · exact List.prefix_append _ _

theorem handedBytes_complete {lib : JsonLib} {ctx : TcmContext} {ans : AppendAnswer}
    (h : (handedBytes lib ctx ans).1 = true) :
    (handedBytes lib ctx ans).2 = recordLine lib ctx := by
  unfold handedBytes at h ⊢
  unfold recordLine
  cases hjson : tcmSerializeJson lib ctx tcmMaxJsonLen with
  | none =>
    rw [hjson] at h
    cases h
  | some json =>
    rw [hjson] at h
    dsimp only at h ⊢
    split at h
    · cases h
    · rename_i hne
      split at h
      · rename_i hrecord
        rw [if_neg hne, if_pos hrecord]
        rfl
      · cases h

/-- The write is a front part of the line of one of the records. -/
def HistoryWrite.OfRecord (w : HistoryWrite) (steps : List HistoryStep) : Prop :=
  ∃ a ∈ steps, w.chunk = chunkOf a.ctx ∧ w.bytes <+: recordLine a.lib a.ctx

theorem HistoryStep.write_ofRecord {a : HistoryStep} {steps : List HistoryStep} (ha : a ∈ steps) :
    a.write.OfRecord steps :=
  ⟨a, ha, rfl, (List.take_prefix _ _).trans (handedBytes_begins a.lib a.ctx a.ans)⟩

theorem mem_writes_step {s : History} {a : HistoryStep} {w : HistoryWrite}
    (h : w ∈ (s.step a).writes) : w ∈ s.writes ∨ w = a.write := by
  unfold History.step at h
  dsimp only at h
  split at h
  · exact (List.mem_append.1 h).imp_right List.mem_singleton.1
  · exact .inl h

theorem mem_writes_run {s : History} {steps : List HistoryStep} {w : HistoryWrite}
    (h : w ∈ (run History.step s steps).writes) : w ∈ s.writes ∨ w.OfRecord steps := by
  induction steps generalizing s with
  | nil => exact .inl h
  | cons a steps ih =>
    rcases ih h with hstep | ⟨b, hb, hw⟩
    · rcases mem_writes_step hstep with hold | rfl
      · exact .inl hold
      · exact .inr (HistoryStep.write_ofRecord List.mem_cons_self)
    · exact .inr ⟨b, List.mem_cons_of_mem a hb, hw⟩

/-- The append returns `ESP_OK`, and the flush that it does not look at reaches the end. -/
structure Flushed (s : History) (a : HistoryStep) : Prop where
  ok : (historyStoreAppend a.lib a.ctx a.ans s.card).1 = .ok
  reached : (recordLine a.lib a.ctx).length ≤ a.ans.reached

/-- What the append of a flushed record leaves. -/
structure Recorded (s : History) (a : HistoryStep) : Prop where
  writes : (s.step a).writes = s.writes ++ [⟨chunkOf a.ctx, recordLine a.lib a.ctx⟩]
  last : recordLine a.lib a.ctx <:+ (s.step a).card.textOf (chunkName (chunkOf a.ctx))

theorem complete_of_ok {s : History} {a : HistoryStep}
    (h : (historyStoreAppend a.lib a.ctx a.ans s.card).1 = .ok) :
    a.ans.mounted = true ∧ a.ans.opened = true ∧
      (handedBytes a.lib a.ctx a.ans).1 = true := by
  unfold historyStoreAppend at h
  cases hmounted : a.ans.mounted with
  | false =>
    rw [if_pos hmounted] at h
    cases h
  | true =>
    cases hopened : a.ans.opened with
    | false =>
      simp only [hmounted, hopened] at h
      cases h
    | true =>
      cases hhanded : (handedBytes a.lib a.ctx a.ans).1 with
      | false =>
        simp only [hmounted, hopened, hhanded] at h
        cases h
      | true => exact ⟨rfl, rfl, rfl⟩

theorem Flushed.recorded {s : History} {a : HistoryStep} (h : Flushed s a) : Recorded s a := by
  obtain ⟨hmounted, hopened, hhanded⟩ := complete_of_ok h.ok
  have hbytes : (handedBytes a.lib a.ctx a.ans).2.take a.ans.reached = recordLine a.lib a.ctx := by
    rw [handedBytes_complete hhanded, List.take_of_length_le h.reached]
  have hopens : a.opens = true := by rw [HistoryStep.opens, hmounted, hopened]; rfl
  refine ⟨?_, ?_⟩
  · simp only [History.step, HistoryStep.write, hopens, if_true, hbytes]
  · have hmounted' : ¬ a.ans.mounted = false := by rw [hmounted]; decide
    have hopened' : ¬ a.ans.opened = false := by rw [hopened]; decide
    simp only [History.step, historyStoreAppend, if_neg hmounted', if_neg hopened', textOf_append,
      if_true, hbytes]
    exact List.suffix_append _ _

/-- **The card keeps the newest records.** In every run of appends whose chunks do not fall, on a
card that other files share, whatever is written completely or in part and whatever is removed for
space, the chunks hold the last writes from some write on, each those of its own in their order,
and each write is a front part of the line of a record. The line is whole, and ends its chunk,
if the append returns `ESP_OK` and the flush that it does not check succeeds. -/
theorem newest_kept {card : HistoryCard} {steps : List HistoryStep}
    (hnew : ∀ c < chunkCount, chunkName c ∉ card.files.map CardFile.name)
    (hrising : AllSteps History.step History.Rising ⟨card, []⟩ steps) :
    (∃ kept, kept <:+ (run History.step ⟨card, []⟩ steps).writes ∧
      HoldsChunks (run History.step ⟨card, []⟩ steps).card kept) ∧
      (∀ w ∈ (run History.step ⟨card, []⟩ steps).writes, w.OfRecord steps) ∧
      ∀ a, Flushed (run History.step ⟨card, []⟩ steps) a →
        Recorded (run History.step ⟨card, []⟩ steps) a := by
  have hkeep : ∀ s a, HistoryInv s → s.Rising a → HistoryInv (s.step a) := fun s a h ha => h.step ha
  have hstart : HistoryInv ⟨card, []⟩ :=
    ⟨.nil, [], List.suffix_refl [], fun c hc => textOf_of_not_mem (hnew c hc)⟩
  obtain ⟨kept, hkept⟩ := (inv_run hkeep hstart hrising).keeps
  refine ⟨⟨kept, hkept.newest, hkept.holds⟩, fun w hw => ?_, fun a ha => ha.recorded⟩
  exact (mem_writes_run hw).resolve_left List.not_mem_nil

/-! ## Two chunks on a card that runs out of space -/

/-- The space is short once, and a file can be removed. -/
def shortAnswer (reached : Nat) : AppendAnswer where
  mounted := true
  space attempts := ⟨if attempts = 15 then some 0 else some historyMinFreeBytes, true, true⟩
  opened := true
  slot := 0
  record := true
  newline := true
  reached := reached

/-- The last record of the first chunk, cut off in its flush, and the first ones of the next. -/
def chunkSteps : List HistoryStep :=
  [(255, 10), (256, 1024), (257, 1024)].map fun (id, reached) =>
    ⟨.knowing [contextJson { sampleContext with sequenceId := id }],
      { sampleContext with sequenceId := id }, shortAnswer reached⟩

theorem newest_kept_chunks :
    (∃ kept, kept <:+ (run History.step ⟨⟨[], 0⟩, []⟩ chunkSteps).writes ∧
      HoldsChunks (run History.step ⟨⟨[], 0⟩, []⟩ chunkSteps).card kept) ∧
      (∀ w ∈ (run History.step ⟨⟨[], 0⟩, []⟩ chunkSteps).writes, w.OfRecord chunkSteps) ∧
      ∀ a, Flushed (run History.step ⟨⟨[], 0⟩, []⟩ chunkSteps) a →
        Recorded (run History.step ⟨⟨[], 0⟩, []⟩ chunkSteps) a :=
  have hrising : AllSteps History.step History.Rising ⟨⟨[], 0⟩, []⟩ chunkSteps := by
    refine ⟨fun w hw => absurd hw List.not_mem_nil, fun w hw => ?_, fun w hw => ?_, trivial⟩
    · rw [List.mem_singleton.1 hw]
      show 255 / 256 ≤ 256 / 256
      decide
    · rcases List.mem_cons.1 hw with rfl | hw
      · show 255 / 256 ≤ 257 / 256
        decide
      · rw [List.mem_singleton.1 hw]
        show 256 / 256 ≤ 257 / 256
        decide
  newest_kept (fun _ _ => List.not_mem_nil) hrising

end McpGateway.Storage
