import McpGateway.Lib.CString

/-!
# The log writer

`log_store.c` for one of its two streams: the buffer the producers append to, the
buffer handed to the writer task, and the files on the card. A file is a list of
pieces, whole lines and other bytes. The file operations of a flush are steps of
their own, since an export can read the card between them.
-/

namespace McpGateway.Storage

open McpGateway.Lib

def logPendingCap : Nat := 4096
def logLineMax : Nat := 320

/-- An entry of a log, with its place in the order of the additions. -/
structure Logged (α : Type) where
  number : Nat
  entry : α
  deriving DecidableEq

variable {α : Type}

/-- A line of the store: the entry it stands for and the time it is stamped with.
`cardLine` prints it, newline included. -/
structure LogLine (cardLine : CStr → α → CStr) where
  logged : Logged α
  timestamp : CStr
  deriving DecidableEq

inductive Piece (cardLine : CStr → α → CStr)
  | line (l : LogLine cardLine)
  /-- Bytes of no whole line: what a broken write left, or an earlier start. -/
  | bytes (text : CStr)
  deriving DecidableEq

variable {cardLine : CStr → α → CStr}

def LogLine.text (l : LogLine cardLine) : CStr := cardLine l.timestamp l.logged.entry

namespace Piece

def text : Piece cardLine → CStr
  | line l => l.text
  | bytes t => t

def logged? : Piece cardLine → Option (Logged α)
  | line l => some l.logged
  | bytes _ => none

end Piece

/-- The whole line of an entry is among the pieces. -/
def Holds (ps : List (Piece cardLine)) (r : Logged α) : Prop := ∃ p ∈ ps, p.logged? = some r

instance [DecidableEq α] (ps : List (Piece cardLine)) (r : Logged α) : Decidable (Holds ps r) :=
  inferInstanceAs (Decidable (∃ p ∈ ps, p.logged? = some r))

def piecesText (ps : List (Piece cardLine)) : CStr := ps.flatMap Piece.text

def linesText (ls : List (LogLine cardLine)) : CStr := ls.flatMap LogLine.text

/-- The first `n` bytes of a buffer, as pieces. -/
def firstBytes : Nat → List (LogLine cardLine) → List (Piece cardLine)
  | _, [] => []
  | n, l :: ls =>
    if l.text.length ≤ n then .line l :: firstBytes (n - l.text.length) ls
    else [.bytes (l.text.take n)]

inductive WriterPhase
  | idle
  /-- In `write_pending`, before the file is open. -/
  | swapped
  | opened
  /-- `fwrite` took every byte, and `fflush` has run. -/
  | written
  deriving DecidableEq

/-- A stream, and the card as far as the stream uses it. -/
structure LogStore (cardLine : CStr → α → CStr) where
  pending : List (LogLine cardLine)
  pendingUptime : Nat
  flushing : List (LogLine cardLine)
  flushingUptime : Nat
  lastFlushedUptime : Nat
  writer : WriterPhase
  mounted : Bool
  /-- The rotated files, oldest first. -/
  rotated : List (List (Piece cardLine))
  activeFile : List (Piece cardLine)

/-- How the file operations before the write end: `fopen`, and in `rotate_stream`
`rename` and the second `fopen`. -/
structure OpenEnv where
  opened : Bool
  renamed : Bool
  reopened : Bool

namespace LogStore

/-- `append_to_stream`. `ready`: it gets the lock and a buffer, and the writer task runs. -/
def append (s : LogStore cardLine) (l : LogLine cardLine) (uptimeMs : Nat) (ready : Bool) :
    LogStore cardLine :=
  if l.text.length = 0 ∨ s.mounted = false ∨ ready = false then s
  else if logPendingCap < (linesText s.pending).length + l.text.length then s
  else { s with pending := s.pending ++ [l], pendingUptime := uptimeMs }

/-- The first half of `flush_all`, which returns when it does not get the lock. -/
def swap (s : LogStore cardLine) (lock : Bool) : LogStore cardLine :=
  if lock = false then s
  else if 0 < (linesText s.pending).length ∧ (linesText s.flushing).length = 0 then
    { s with
      flushing := s.pending
      flushingUptime := s.pendingUptime
      pending := []
      pendingUptime := 0
      writer := .swapped }
  else { s with writer := .swapped }

/-- `write_pending` returns without the lines it was handed. -/
def giveUp (s : LogStore cardLine) : LogStore cardLine := { s with flushing := [], writer := .idle }

/-- The active file would grow past its limit. -/
def Outgrown (maxBytes : Nat) (s : LogStore cardLine) : Prop :=
  maxBytes < (piecesText s.activeFile).length + (linesText s.flushing).length

instance (maxBytes : Nat) (s : LogStore cardLine) : Decidable (Outgrown maxBytes s) :=
  inferInstanceAs (Decidable (_ < _))

/-- `rotate_stream`. -/
def rotate (s : LogStore cardLine) (env : OpenEnv) : LogStore cardLine :=
  let s' := if env.renamed then
    { s with rotated := s.rotated ++ [s.activeFile], activeFile := [] } else s
  if env.reopened then { s' with writer := .opened } else s'.giveUp

/-- `write_pending` as far as the open file. -/
def openFile (maxBytes : Nat) (s : LogStore cardLine) (env : OpenEnv) : LogStore cardLine :=
  if (linesText s.flushing).length = 0 then { s with writer := .idle }
  else if s.mounted = false then s.giveUp
  else if env.opened = false then s.giveUp
  else if Outgrown maxBytes s then s.rotate env
  else { s with writer := .opened }

/-- `fwrite` and `fflush`: `reached` bytes are on the card afterwards, whether or not
`fwrite` says it took them all. -/
def put (s : LogStore cardLine) (reached : Nat) (complete : Bool) : LogStore cardLine :=
  let n := if s.mounted then reached else 0
  let s' := { s with activeFile := s.activeFile ++ firstBytes n s.flushing }
  if complete then { s' with writer := .written } else s'.giveUp

def mark (s : LogStore cardLine) : LogStore cardLine := { s.giveUp with lastFlushedUptime := s.flushingUptime }

/-- The line of an entry is in one of the files. -/
def OnCard (s : LogStore cardLine) (r : Logged α) : Prop :=
  Holds s.activeFile r ∨ ∃ file ∈ s.rotated, Holds file r

instance [DecidableEq α] (s : LogStore cardLine) (r : Logged α) : Decidable (s.OnCard r) :=
  inferInstanceAs (Decidable (_ ∨ _))

/-- The stream has the line of an entry, in a buffer or on the card. -/
def Mentions (s : LogStore cardLine) (r : Logged α) : Prop :=
  (∃ l ∈ s.pending, l.logged = r) ∨ (∃ l ∈ s.flushing, l.logged = r) ∨ s.OnCard r

/-- Opening the file renames it. -/
def Rotates (maxBytes : Nat) (s : LogStore cardLine) (env : OpenEnv) : Prop :=
  (linesText s.flushing).length ≠ 0 ∧ s.mounted = true ∧ env.opened = true ∧
    s.Outgrown maxBytes ∧ env.renamed = true

instance (maxBytes : Nat) (s : LogStore cardLine) (env : OpenEnv) :
    Decidable (s.Rotates maxBytes env) :=
  inferInstanceAs (Decidable (_ ∧ _))

end LogStore

/-- What the writer task does to a stream, and what happens to the card. -/
inductive WriterAction
  | swap (lock : Bool)
  | openFile (env : OpenEnv)
  | put (reached : Nat) (complete : Bool)
  | mark
  | mount
  | unmount

/-- One step; the writer's steps come in the order of `flush_all`. -/
def LogStore.step (maxBytes : Nat) (s : LogStore cardLine) : WriterAction → LogStore cardLine
  | .swap lock => if s.writer = .idle then s.swap lock else s
  | .openFile env => if s.writer = .swapped then s.openFile maxBytes env else s
  | .put reached complete => if s.writer = .opened then s.put reached complete else s
  | .mark => if s.writer = .written then s.mark else s
  | .mount => { s with mounted := true }
  | .unmount => { s with mounted := false }

/-! ## Pieces -/

theorem holds_append {ps qs : List (Piece cardLine)} {r : Logged α} :
    Holds (ps ++ qs) r ↔ Holds ps r ∨ Holds qs r := by
  unfold Holds
  simp only [List.mem_append, or_and_right, exists_or]

theorem not_holds_nil (r : Logged α) : ¬ Holds ([] : List (Piece cardLine)) r := by
  rintro ⟨p, hp, -⟩
  cases hp

theorem holds_flatten {files : List (List (Piece cardLine))} {r : Logged α} :
    Holds files.flatten r ↔ ∃ file ∈ files, Holds file r := by
  unfold Holds
  simp only [List.mem_flatten]
  constructor
  · rintro ⟨p, ⟨file, hfile, hp⟩, hr⟩
    exact ⟨file, hfile, p, hp, hr⟩
  · rintro ⟨file, hfile, p, hp, hr⟩
    exact ⟨p, ⟨file, hfile, hp⟩, hr⟩

theorem Holds.infix_text {ps : List (Piece cardLine)} {r : Logged α} (h : Holds ps r) :
    ∃ timestamp, cardLine timestamp r.entry <:+: piecesText ps := by
  obtain ⟨p, hp, hr⟩ := h
  cases p with
  | bytes t => cases hr
  | line l =>
    obtain ⟨before, after, rfl⟩ := List.append_of_mem hp
    obtain rfl := Option.some.inj hr
    refine ⟨l.timestamp, piecesText before, piecesText after, ?_⟩
    unfold piecesText
    rw [List.flatMap_append, List.flatMap_cons, List.append_assoc]
    rfl

theorem piecesText_firstBytes (n : Nat) (ls : List (LogLine cardLine)) :
    piecesText (firstBytes n ls) = (linesText ls).take n := by
  induction ls generalizing n with
  | nil =>
    rw [show linesText ([] : List (LogLine cardLine)) = [] from rfl, List.take_nil]
    rfl
  | cons l ls ih =>
    have hcons : linesText (l :: ls) = l.text ++ linesText ls := List.flatMap_cons
    rw [hcons, List.take_append, firstBytes]
    split
    next hfits =>
      rw [List.take_of_length_le hfits, ← ih]
      rfl
    next hcut =>
      rw [show n - l.text.length = 0 by omega, List.take_zero]
      rfl

theorem mem_of_holds_firstBytes {n : Nat} {ls : List (LogLine cardLine)} {r : Logged α}
    (h : Holds (firstBytes n ls) r) : ∃ l ∈ ls, l.logged = r := by
  induction ls generalizing n with
  | nil => exact absurd h (not_holds_nil r)
  | cons l ls ih =>
    unfold firstBytes at h
    obtain ⟨p, hp, hr⟩ := h
    split_ifs at hp with hfits
    · rcases List.mem_cons.1 hp with rfl | hp
      · exact ⟨l, List.mem_cons_self, Option.some.inj hr⟩
      · obtain ⟨l', hl', hr'⟩ := ih ⟨p, hp, hr⟩
        exact ⟨l', List.mem_cons_of_mem _ hl', hr'⟩
    · obtain rfl := List.mem_singleton.1 hp
      cases hr

theorem holds_firstBytes {n : Nat} {ls : List (LogLine cardLine)} (h : (linesText ls).length ≤ n)
    {l : LogLine cardLine} (hl : l ∈ ls) : Holds (firstBytes n ls) l.logged := by
  induction ls generalizing n with
  | nil => cases hl
  | cons l' ls ih =>
    have hlen : (linesText (l' :: ls)).length = l'.text.length + (linesText ls).length := by
      rw [← List.length_append]
      rfl
    rw [firstBytes, if_pos (by omega)]
    rcases List.mem_cons.1 hl with rfl | hl
    · exact ⟨_, List.mem_cons_self, rfl⟩
    · have hrest : (linesText ls).length ≤ n - l'.text.length := by omega
      obtain ⟨p, hp, hr⟩ := ih hrest hl
      exact ⟨p, List.mem_cons_of_mem _ hp, hr⟩

/-! ## What a step does to the card -/

namespace LogStore

variable {maxBytes : Nat} {s s' : LogStore cardLine}

/-- The files and the watermark after a step. -/
inductive CardEffect (maxBytes : Nat) (s s' : LogStore cardLine) : WriterAction → Prop
  | grown {a : WriterAction} (hrotated : s'.rotated = s.rotated)
      (hactive : ∃ ps, s'.activeFile = s.activeFile ++ ps)
      (hmark : s'.lastFlushedUptime = s.lastFlushedUptime) : CardEffect maxBytes s s' a
  | rotated {env : OpenEnv} (hwriter : s.writer = .swapped) (hrotates : s.Rotates maxBytes env)
      (hrotated : s'.rotated = s.rotated ++ [s.activeFile]) (hactive : s'.activeFile = [])
      (hmark : s'.lastFlushedUptime = s.lastFlushedUptime) :
      CardEffect maxBytes s s' (.openFile env)
  | marked (hwriter : s.writer = .written) (hrotated : s'.rotated = s.rotated)
      (hactive : s'.activeFile = s.activeFile)
      (hmark : s'.lastFlushedUptime = s.flushingUptime) : CardEffect maxBytes s s' .mark

theorem CardEffect.same {a : WriterAction} (hrotated : s'.rotated = s.rotated)
    (hactive : s'.activeFile = s.activeFile)
    (hmark : s'.lastFlushedUptime = s.lastFlushedUptime) : CardEffect maxBytes s s' a :=
  .grown hrotated ⟨[], by rw [hactive, List.append_nil]⟩ hmark

theorem openFile_effect (env : OpenEnv) (hwriter : s.writer = .swapped) :
    CardEffect maxBytes s (s.openFile maxBytes env) (.openFile env) := by
  unfold openFile
  split_ifs with hempty hmounted hopened houtgrown
  · exact .same rfl rfl rfl
  · exact .same rfl rfl rfl
  · exact .same rfl rfl rfl
  · unfold rotate
    cases hrenamed : env.renamed with
    | false =>
      simp only [Bool.false_eq_true, if_false]
      split_ifs <;> exact .same rfl rfl rfl
    | true =>
      have hrotates : s.Rotates maxBytes env :=
        ⟨hempty, by simpa using hmounted, by simpa using hopened, houtgrown, hrenamed⟩
      simp only [if_true]
      split_ifs <;> exact .rotated hwriter hrotates rfl rfl rfl
  · exact .same rfl rfl rfl

theorem step_effect (a : WriterAction) : CardEffect maxBytes s (s.step maxBytes a) a := by
  cases a with
  | swap lock =>
    show CardEffect maxBytes s (if s.writer = .idle then s.swap lock else s) _
    unfold swap
    split_ifs <;> exact .same rfl rfl rfl
  | openFile env =>
    show CardEffect maxBytes s (if s.writer = .swapped then s.openFile maxBytes env else s) _
    split_ifs with hwriter
    · exact openFile_effect env hwriter
    · exact .same rfl rfl rfl
  | put reached complete =>
    show CardEffect maxBytes s (if s.writer = .opened then s.put reached complete else s) _
    split_ifs
    · unfold put
      cases complete <;> exact .grown rfl ⟨_, rfl⟩ rfl
    · exact .same rfl rfl rfl
  | mark =>
    show CardEffect maxBytes s (if s.writer = .written then s.mark else s) _
    split_ifs with hwriter
    · exact .marked hwriter rfl rfl rfl
    · exact .same rfl rfl rfl
  | mount => exact .same rfl rfl rfl
  | unmount => exact .same rfl rfl rfl

theorem append_card (l : LogLine cardLine) (uptimeMs : Nat) (ready : Bool) :
    (s.append l uptimeMs ready).rotated = s.rotated ∧
      (s.append l uptimeMs ready).activeFile = s.activeFile ∧
      (s.append l uptimeMs ready).lastFlushedUptime = s.lastFlushedUptime := by
  unfold append
  split_ifs <;> exact ⟨rfl, rfl, rfl⟩

/-- **No step takes a line off the card.** -/
theorem CardEffect.onCard {a : WriterAction} {r : Logged α} (heffect : CardEffect maxBytes s s' a)
    (h : s.OnCard r) : s'.OnCard r := by
  unfold OnCard
  cases heffect with
  | grown hrotated hactive hmark =>
    obtain ⟨ps, hps⟩ := hactive
    rw [hrotated, hps, holds_append]
    exact h.imp .inl id
  | rotated hwriter hrotates hrotated hactive hmark =>
    rw [hrotated, hactive]
    right
    rcases h with hactive | ⟨file, hfile, hr⟩
    · exact ⟨s.activeFile, List.mem_append_right _ (List.mem_singleton_self _), hactive⟩
    · exact ⟨file, List.mem_append_left _ hfile, hr⟩
  | marked hwriter hrotated hactive hmark =>
    rw [hrotated, hactive]
    exact h

theorem Mentions.of_append {l : LogLine cardLine} {uptimeMs : Nat} {ready : Bool} {r : Logged α}
    (h : (s.append l uptimeMs ready).Mentions r) : l.logged = r ∨ s.Mentions r := by
  unfold append at h
  split_ifs at h
  · exact .inr h
  · exact .inr h
  · rcases h with ⟨l', hl', hr⟩ | hrest
    · rcases List.mem_append.1 hl' with hold | hnew
      · exact .inr (.inl ⟨l', hold, hr⟩)
      · obtain rfl := List.mem_singleton.1 hnew
        exact .inl hr
    · exact .inr (.inr hrest)

theorem Mentions.of_giveUp {r : Logged α} (h : s.giveUp.Mentions r) : s.Mentions r := by
  rcases h with hpending | ⟨l, hl, -⟩ | hcard
  · exact .inl hpending
  · cases hl
  · exact .inr (.inr hcard)

theorem Mentions.of_rotate {env : OpenEnv} {r : Logged α} (h : (s.rotate env).Mentions r) :
    s.Mentions r := by
  have hrenamed : ({ s with rotated := s.rotated ++ [s.activeFile], activeFile := [] } :
      LogStore cardLine).Mentions r → s.Mentions r := by
    rintro (hpending | hflushing | hactive | ⟨file, hfile, hr⟩)
    · exact .inl hpending
    · exact .inr (.inl hflushing)
    · exact absurd hactive (not_holds_nil r)
    · rcases List.mem_append.1 hfile with hold | hnew
      · exact .inr (.inr (.inr ⟨file, hold, hr⟩))
      · obtain rfl := List.mem_singleton.1 hnew
        exact .inr (.inr (.inl hr))
  unfold rotate at h
  cases hrename : env.renamed <;> cases hreopen : env.reopened <;>
    simp only [hrename, hreopen, if_true, Bool.false_eq_true, if_false] at h
  · exact Mentions.of_giveUp h
  · exact h
  · exact hrenamed (Mentions.of_giveUp h)
  · exact hrenamed h

theorem Mentions.of_put {reached : Nat} {complete : Bool} {r : Logged α}
    (h : (s.put reached complete).Mentions r) : s.Mentions r := by
  have hwritten (n : Nat) : ({ s with activeFile := s.activeFile ++ firstBytes n s.flushing } :
      LogStore cardLine).Mentions r → s.Mentions r := by
    rintro (hpending | hflushing | hactive | hrotated)
    · exact .inl hpending
    · exact .inr (.inl hflushing)
    · rcases holds_append.1 hactive with hold | hnew
      · exact .inr (.inr (.inl hold))
      · exact .inr (.inl (mem_of_holds_firstBytes hnew))
    · exact .inr (.inr (.inr hrotated))
  unfold put at h
  cases complete
  · exact hwritten _ (Mentions.of_giveUp h)
  · exact hwritten _ h

/-- **The writer brings no line of its own.** -/
theorem Mentions.of_step {a : WriterAction} {r : Logged α}
    (h : (s.step maxBytes a).Mentions r) : s.Mentions r := by
  cases a with
  | swap lock =>
    change (if s.writer = .idle then s.swap lock else s).Mentions r at h
    unfold swap at h
    split_ifs at h
    · exact h
    · rcases h with ⟨l, hl, -⟩ | hflushing | hcard
      · cases hl
      · exact .inl hflushing
      · exact .inr (.inr hcard)
    · exact h
    · exact h
  | openFile env =>
    change (if s.writer = .swapped then s.openFile maxBytes env else s).Mentions r at h
    unfold openFile at h
    split_ifs at h
    · exact h
    · exact Mentions.of_giveUp h
    · exact Mentions.of_giveUp h
    · exact Mentions.of_rotate h
    · exact h
    · exact h
  | put reached complete =>
    change (if s.writer = .opened then s.put reached complete else s).Mentions r at h
    split_ifs at h
    · exact Mentions.of_put h
    · exact h
  | mark =>
    change (if s.writer = .written then s.mark else s).Mentions r at h
    split_ifs at h
    · exact Mentions.of_giveUp h
    · exact h
  | mount => exact h
  | unmount => exact h

/-- A write that reaches the card to its last byte brings every line of the buffer there. -/
theorem onCard_put {reached : Nat} {complete : Bool} {l : LogLine cardLine} (hmounted : s.mounted = true)
    (hreached : (linesText s.flushing).length ≤ reached) (hl : l ∈ s.flushing) :
    (s.put reached complete).OnCard l.logged := by
  have hactive : (s.put reached complete).activeFile =
      s.activeFile ++ firstBytes reached s.flushing := by
    unfold put
    rw [hmounted]
    cases complete <;> rfl
  left
  rw [hactive, holds_append]
  exact .inr (holds_firstBytes hreached hl)

end LogStore

end McpGateway.Storage
