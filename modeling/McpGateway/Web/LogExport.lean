import McpGateway.Lib.Ring
import McpGateway.Lib.Run
import McpGateway.Storage.LogStore

/-!
# Exporting a log

The two RAM logs (`web_server_add_log`, `modbus_comm_log_add`), their way into
`log_store.c`, and the export handlers, which send the files of the card and then
the RAM entries above the watermark read first. Additions, the writer's steps, what
happens to the card and the steps of an export come in any order.
-/

namespace McpGateway.Web

open McpGateway.Lib McpGateway.Storage

/-! ## The entries of the two logs -/

/-- A call of `web_server_add_log`, with the wall time it is stamped with, as printed,
if the clock is set. -/
structure WebLogCall where
  level : CStr
  text : CStr
  wallTime : Option CStr
  uptimeMs : Nat
  deriving DecidableEq

def lineTime (wallTime : Option CStr) (uptimeMs : Nat) : CStr :=
  wallTime.getD ('U' :: printDecimal uptimeMs)

def levelName (level : CStr) : CStr :=
  match level.headD 'i' with
  | 'w' => "warn".toList
  | 'e' => "error".toList
  | 'o' => "ok".toList
  | _ => "info".toList

/-- `format_system_log_line`, on the text as the entry keeps it. -/
def formatSystemLogLine (e : WebLogCall) : CStr :=
  strlcpy 192 (lineTime e.wallTime e.uptimeMs ++ " [".toList ++ levelName e.level ++
    "] ".toList ++ strlcpy 128 e.text ++ ['\n'])

/-- The line of `log_store_append`, stamped with the time of that call. -/
def systemCardLine (timestamp : CStr) (e : WebLogCall) : CStr :=
  strlcpy logLineMax (timestamp ++ " [".toList ++
    (if e.level = [] then "info".toList else e.level) ++ "] ".toList ++ e.text ++ ['\n'])

inductive CommDirection
  | tx | rx
  deriving DecidableEq

/-- A call of `modbus_comm_log_add`; `status` is the name it prints for the result. -/
structure CommLogCall where
  direction : CommDirection
  slaveId : UInt8
  functionCode : UInt8
  registerAddress : UInt16
  registerCount : UInt16
  status : CStr
  frame : List UInt8
  wallTime : Option CStr
  uptimeMs : Nat
  deriving DecidableEq

def modbusCommFrameMax : Nat := 48

/-- `%02X`. -/
def hexByte (b : UInt8) : CStr :=
  [(Nat.digitChar (b.toNat / 16)).toUpper, (Nat.digitChar (b.toNat % 16)).toUpper]

def modbusCommLogFormatLine (e : CommLogCall) : CStr :=
  strlcpy 256 (lineTime e.wallTime e.uptimeMs ++
    (match e.direction with | .tx => " [TX]".toList | .rx => " [RX]".toList) ++
    " slave=".toList ++ printDecimal e.slaveId.toNat ++
    " fn=0x".toList ++ hexByte e.functionCode ++
    " addr=".toList ++ printDecimal e.registerAddress.toNat ++
    " cnt=".toList ++ printDecimal e.registerCount.toNat ++
    " len=".toList ++ printDecimal (min e.frame.length modbusCommFrameMax) ++
    " status=".toList ++ e.status ++
    " frame=".toList ++ (e.frame.take modbusCommFrameMax).flatMap hexByte ++
    (if modbusCommFrameMax < e.frame.length then "(trunc)".toList else []) ++ ['\n'])

/-- The line of `log_store_append_modbus`. -/
def modbusCardLine (e : CommLogCall) : CStr :=
  let line := strlcpy logLineMax (modbusCommLogFormatLine e)
  if line.getLast? = some '\n' then line else line ++ ['\n']

/-- What the two logs do in their own way. -/
structure LogKind (α : Type) where
  maxFileBytes : Nat
  uptimeMs : α → Nat
  /-- The uptime for the store is read from the slot, after the lock is given back. -/
  rereadsSlot : Bool
  cardLine : CStr → α → CStr
  ramLine : α → CStr

def systemLog : LogKind WebLogCall where
  maxFileBytes := 1048576
  uptimeMs := WebLogCall.uptimeMs
  rereadsSlot := true
  cardLine := systemCardLine
  ramLine := formatSystemLogLine

def modbusLog : LogKind CommLogCall where
  maxFileBytes := 4194304
  uptimeMs := CommLogCall.uptimeMs
  rereadsSlot := false
  cardLine _ := modbusCardLine
  ramLine := modbusCommLogFormatLine

def LogKind.uptimeOf {α : Type} (kind : LogKind α) (r : Logged α) : Nat := kind.uptimeMs r.entry

/-- `WEB_LOG_MAX_ENTRIES` and `MODBUS_COMM_LOG_CAPACITY`. -/
def logCapacity : Nat := 64

/-! ## The machine -/

inductive ExportStage
  /-- The watermark is read. -/
  | started
  /-- The rotated files still to be sent; the active file comes after them. -/
  | files (todo : List Nat)
  /-- The files are sent. -/
  | tail
  deriving DecidableEq

variable {α : Type}

structure LogExport (kind : LogKind α) where
  lastFlush : Nat
  stage : ExportStage
  /-- The pieces sent so far. -/
  card : List (Piece kind.cardLine)
  /-- The entries that have been in RAM since the export began. -/
  kept : List (Logged α)
  /-- The card was mounted, and its files could be read, whenever the export turned to it. -/
  readable : Bool

structure ExportedLog (kind : LogKind α) where
  card : List (Piece kind.cardLine)
  ram : List (Logged α)
  kept : List (Logged α)
  readable : Bool

structure LogWorld (kind : LogKind α) where
  ring : Ring (Logged α) logCapacity
  added : Nat
  /-- Entries whose task has given the lock of the ring back, with their slots. -/
  adding : List (Nat × Logged α)
  /-- Lines on their way through `log_store_append`, with the uptime they carry. -/
  mirroring : List (LogLine kind.cardLine × Nat)
  store : LogStore kind.cardLine
  job : Option (LogExport kind)
  exported : List (ExportedLog kind)

inductive LogAction (α : Type)
  | add (a : α)
  /-- An adding task calls the store, at the time printed as `timestamp`. -/
  | mirror (i : Nat) (timestamp : CStr)
  | append (i : Nat) (ready : Bool)
  | writer (a : WriterAction)
  | beginExport
  /-- `opendir`, and the rotated files whose names the list holds. -/
  | list (opened : Bool) (names : List Nat)
  | send (opened : Bool)
  /-- The end of the export; `taken`: it gets the lock of the ring and memory for its copy. -/
  | tail (taken : Bool)
  /-- The client is gone. -/
  | abort

variable {kind : LogKind α}

namespace LogExport

/-- What follows once the card cannot be read. -/
def skip (x : LogExport kind) (stage : ExportStage) : LogExport kind :=
  { x with stage := stage, readable := false }

/-- `log_store_list_files` as far as the sorted names. -/
def list (s : LogStore kind.cardLine) (opened : Bool) (names : List Nat) (x : LogExport kind) :
    LogExport kind :=
  match x.stage with
  | .started =>
    if s.mounted = false ∨ opened = false then x.skip .tail
    else { x with stage := .files (names.filter (· < s.rotated.length)) }
  | _ => x

/-- `stream_sd_file_cb` on the next file. -/
def send (s : LogStore kind.cardLine) (opened : Bool) (x : LogExport kind) : LogExport kind :=
  match x.stage with
  | .files (i :: todo) =>
    if s.mounted = false ∨ opened = false then x.skip (.files todo)
    else { x with stage := .files todo, card := x.card ++ (s.rotated[i]?).getD [] }
  | .files [] =>
    if s.mounted = false ∨ opened = false then x.skip .tail
    else { x with stage := .tail, card := x.card ++ s.activeFile }
  | _ => x

end LogExport

namespace LogWorld

/-- Both ring and card after a restart; the files are those of earlier starts. -/
def boot (mounted : Bool) (rotated : List CStr) (active : CStr) : LogWorld kind where
  ring := .empty logCapacity (by decide)
  added := 0
  adding := []
  mirroring := []
  store :=
    { pending := [], pendingUptime := 0, flushing := [], flushingUptime := 0
      lastFlushedUptime := 0, writer := .idle, mounted := mounted
      rotated := rotated.map fun t => [.bytes t], activeFile := [.bytes active] }
  job := none
  exported := []

def add [DecidableEq α] (w : LogWorld kind) (a : α) : LogWorld kind :=
  let r : Logged α := ⟨w.added, a⟩
  let ring := w.ring.push r
  { w with
    ring := ring
    added := w.added + 1
    adding := w.adding ++ [(w.ring.head, r)]
    job := w.job.map fun x => { x with kept := x.kept.filter (· ∈ ring.slots) } }

def storedUptime (w : LogWorld kind) (slot : Nat) (r : Logged α) : Nat :=
  if kind.rereadsSlot then ((w.ring.slots[slot]?).map kind.uptimeOf).getD 0
  else kind.uptimeOf r

/-- The call of `log_store_append` or `log_store_append_modbus`. -/
def mirror (w : LogWorld kind) (i : Nat) (timestamp : CStr) : LogWorld kind :=
  match w.adding[i]? with
  | none => w
  | some (slot, r) =>
    let w' := { w with adding := w.adding.eraseIdx i }
    if w.store.mounted = false then w'
    else { w' with mirroring := w.mirroring ++ [(⟨r, timestamp⟩, w.storedUptime slot r)] }

def append (w : LogWorld kind) (i : Nat) (ready : Bool) : LogWorld kind :=
  match w.mirroring[i]? with
  | none => w
  | some (l, uptimeMs) =>
    { w with
      mirroring := w.mirroring.eraseIdx i
      store := w.store.append l uptimeMs ready }

def beginExport (w : LogWorld kind) : LogWorld kind :=
  match w.job with
  | some _ => w
  | none =>
    { w with
      job := some
        { lastFlush := w.store.lastFlushedUptime, stage := .started, card := []
          kept := w.ring.entries, readable := true } }

/-- The RAM entries above the watermark of the export. -/
def newer (w : LogWorld kind) (x : LogExport kind) : List (Logged α) :=
  w.ring.entries.filter fun r => x.lastFlush < kind.uptimeOf r

def tail (w : LogWorld kind) (taken : Bool) : LogWorld kind :=
  match w.job with
  | none => w
  | some x =>
    match x.stage with
    | .tail =>
      { w with
        job := none
        exported := w.exported ++
          [⟨x.card, if taken then w.newer x else [], x.kept, x.readable⟩] }
    | _ => w

def step [DecidableEq α] (w : LogWorld kind) : LogAction α → LogWorld kind
  | .add a => w.add a
  | .mirror i timestamp => w.mirror i timestamp
  | .append i ready => w.append i ready
  | .writer a => { w with store := w.store.step kind.maxFileBytes a }
  | .beginExport => w.beginExport
  | .list opened names => { w with job := w.job.map (LogExport.list w.store opened names) }
  | .send opened => { w with job := w.job.map (LogExport.send w.store opened) }
  | .tail taken => w.tail taken
  | .abort => { w with job := none }

end LogWorld

def ExportedLog.text (f : ExportedLog kind) : CStr :=
  piecesText f.card ++ f.ram.flatMap fun r => kind.ramLine r.entry

/-- Every entry that was in RAM throughout the export has its line in it. -/
def ExportedLog.Complete (f : ExportedLog kind) : Prop :=
  ∀ r ∈ f.kept, Holds f.card r ∨ r ∈ f.ram

instance [DecidableEq α] (f : ExportedLog kind) : Decidable f.Complete :=
  inferInstanceAs (Decidable (∀ r ∈ f.kept, Holds f.card r ∨ r ∈ f.ram))

theorem ExportedLog.Complete.line {f : ExportedLog kind} (h : f.Complete) {r : Logged α}
    (hr : r ∈ f.kept) :
    (∃ timestamp, kind.cardLine timestamp r.entry <:+: f.text) ∨
      kind.ramLine r.entry <:+: f.text := by
  rcases h r hr with hcard | hram
  · obtain ⟨timestamp, before, after, htext⟩ := hcard.infix_text
    refine .inl ⟨timestamp, before, after ++ f.ram.flatMap fun r => kind.ramLine r.entry, ?_⟩
    rw [ExportedLog.text, ← htext]
    simp only [List.append_assoc]
  · obtain ⟨older, newer, hsplit⟩ := List.append_of_mem hram
    refine .inr ⟨piecesText f.card ++ older.flatMap fun r => kind.ramLine r.entry,
      newer.flatMap fun r => kind.ramLine r.entry, ?_⟩
    rw [ExportedLog.text, hsplit, List.flatMap_append, List.flatMap_cons]
    simp only [List.append_assoc]

/-! ## The condition -/

namespace LogExport

/-- The list of the files is made, and not every file is sent. -/
def listed (x : LogExport kind) : Bool :=
  match x.stage with
  | .files _ => true
  | _ => false

/-- The entries that a readable export leaves to the card. -/
def owed (x : LogExport kind) : List (Logged α) :=
  if x.readable then x.kept.filter fun r => kind.uptimeOf r ≤ x.lastFlush else []

/-- The line of an entry is in one of these rotated files. -/
def InFiles (s : LogStore kind.cardLine) (todo : List Nat) (r : Logged α) : Prop :=
  ∃ i ∈ todo, Holds ((s.rotated[i]?).getD []) r

instance [DecidableEq α] (s : LogStore kind.cardLine) (todo : List Nat) (r : Logged α) :
    Decidable (InFiles s todo r) := inferInstanceAs (Decidable (∃ _ ∈ _, _))

/-- The export has sent the line of an entry, or will find it on the card. -/
def Finds (s : LogStore kind.cardLine) (x : LogExport kind) (r : Logged α) : Prop :=
  match x.stage with
  | .started => s.OnCard r
  | .files todo => Holds x.card r ∨ InFiles s todo r ∨ Holds s.activeFile r
  | .tail => Holds x.card r

end LogExport

namespace LogWorld

/-- An entry is added above the watermark, and the watermark never passes an entry in RAM
whose line is not on the card. -/
def KeepsWatermark (w : LogWorld kind) : LogAction α → Prop
  | .add a => w.store.lastFlushedUptime < kind.uptimeMs a
  | .writer .mark => w.store.writer = .written → ∀ r ∈ w.ring.slots,
      kind.uptimeOf r ≤ w.store.flushingUptime → w.store.OnCard r
  | _ => True

/-- The active file is not renamed under an export that has listed the files and still
owes a line in it; the list has every file with such lines; and no RAM entry is left out
for want of the lock or of memory. -/
def SparesExport (w : LogWorld kind) : LogAction α → Prop
  | .writer (.openFile env) => w.store.writer = .swapped →
      w.store.Rotates kind.maxFileBytes env →
        ∀ x ∈ w.job, x.listed = true → ∀ r ∈ x.owed, ¬ Holds w.store.activeFile r
  | .list _ names => ∀ x ∈ w.job, x.stage = .started →
      ∀ r ∈ x.owed, LogExport.InFiles w.store names r ∨ Holds w.store.activeFile r
  | .tail taken => taken = false → ∀ x ∈ w.job, x.stage = .tail →
      ∀ r ∈ x.kept, kind.uptimeOf r ≤ x.lastFlush
  | _ => True

def Conforms (w : LogWorld kind) (a : LogAction α) : Prop := w.KeepsWatermark a ∧ w.SparesExport a

instance [DecidableEq α] (w : LogWorld kind) : (a : LogAction α) → Decidable (w.KeepsWatermark a)
  | .add _ => inferInstanceAs (Decidable (_ < _))
  | .writer .mark => inferInstanceAs (Decidable (_ → ∀ r ∈ w.ring.slots, _ → _))
  | .writer (.swap _) | .writer (.openFile _) | .writer (.put _ _) | .writer .mount
  | .writer .unmount | .mirror _ _ | .append _ _ | .beginExport | .list _ _ | .send _
  | .tail _ | .abort => .isTrue trivial

instance [DecidableEq α] (w : LogWorld kind) : (a : LogAction α) → Decidable (w.SparesExport a)
  | .writer (.openFile _) => inferInstanceAs (Decidable (_ → _ → ∀ x ∈ w.job, _))
  | .list _ _ => inferInstanceAs (Decidable (∀ x ∈ w.job, _ → ∀ r ∈ x.owed, _ ∨ _))
  | .tail _ => inferInstanceAs (Decidable (_ → ∀ x ∈ w.job, _ → ∀ r ∈ x.kept, _ ≤ _))
  | .writer (.swap _) | .writer .mark | .writer (.put _ _) | .writer .mount
  | .writer .unmount | .mirror _ _ | .append _ _ | .beginExport | .add _ | .send _
  | .abort => .isTrue trivial

instance [DecidableEq α] (w : LogWorld kind) (a : LogAction α) : Decidable (w.Conforms a) :=
  inferInstanceAs (Decidable (_ ∧ _))

end LogWorld

/-! ## What an export will find -/

namespace LogExport

variable {s s' : LogStore kind.cardLine} {maxBytes : Nat} {a : WriterAction} {r : Logged α}

theorem lt_of_holds {i : Nat} (h : Holds ((s.rotated[i]?).getD []) r) : i < s.rotated.length := by
  by_contra hge
  rw [List.getElem?_eq_none (Nat.le_of_not_lt hge)] at h
  exact not_holds_nil r h

theorem InFiles.effect {todo : List Nat} (h : InFiles s todo r)
    (heffect : LogStore.CardEffect maxBytes s s' a) : InFiles s' todo r := by
  obtain ⟨i, hi, hr⟩ := h
  refine ⟨i, hi, ?_⟩
  cases heffect with
  | grown hrotated _ _ =>
    rw [hrotated]
    exact hr
  | rotated _ _ hrotated _ _ =>
    rw [hrotated, List.getElem?_append_left (lt_of_holds hr)]
    exact hr
  | marked _ hrotated _ _ =>
    rw [hrotated]
    exact hr

theorem InFiles.filter {names : List Nat} (h : InFiles s names r) :
    InFiles s (names.filter (· < s.rotated.length)) r := by
  obtain ⟨i, hi, hr⟩ := h
  exact ⟨i, List.mem_filter.2 ⟨hi, by simpa using lt_of_holds hr⟩, hr⟩

theorem mem_owed {x : LogExport kind} :
    r ∈ x.owed ↔ x.readable = true ∧ r ∈ x.kept ∧ kind.uptimeOf r ≤ x.lastFlush := by
  unfold owed
  cases x.readable <;> simp

/-- What an export will find it still finds after a step of the writer, unless the
active file is renamed after the listing. -/
theorem Finds.effect {x : LogExport kind} (h : x.Finds s r)
    (heffect : LogStore.CardEffect maxBytes s s' a)
    (hrename : ∀ env, a = .openFile env → s.writer = .swapped → s.Rotates maxBytes env →
      x.listed = true → ¬ Holds s.activeFile r) : x.Finds s' r := by
  unfold Finds at h ⊢
  cases hstage : x.stage with
  | started =>
    rw [hstage] at h
    exact heffect.onCard h
  | tail =>
    rw [hstage] at h
    exact h
  | files todo =>
    rw [hstage] at h
    rcases h with hsent | hlisted | hactive
    · exact .inl hsent
    · exact .inr (.inl (hlisted.effect heffect))
    · cases heffect with
      | grown _ hgrown _ =>
        obtain ⟨ps, hps⟩ := hgrown
        rw [hps, holds_append]
        exact .inr (.inr (.inl hactive))
      | rotated hwriter hrotates _ _ _ =>
        have hlisted : x.listed = true := by
          unfold listed
          rw [hstage]
        exact absurd hactive (hrename _ rfl hwriter hrotates hlisted)
      | marked _ _ hsame _ =>
        rw [hsame]
        exact .inr (.inr hactive)

end LogExport

/-! ## The invariant -/

namespace LogWorld

/-- The entries in RAM that the watermark has passed are on the card. -/
def Covered (w : LogWorld kind) : Prop :=
  ∀ r ∈ w.ring.slots, kind.uptimeOf r ≤ w.store.lastFlushedUptime → w.store.OnCard r

structure Inv (w : LogWorld kind) : Prop where
  covered : w.Covered
  kept : ∀ x ∈ w.job, ∀ r ∈ x.kept, r ∈ w.ring.slots
  found : ∀ x ∈ w.job, ∀ r ∈ x.owed, x.Finds w.store r
  complete : ∀ f ∈ w.exported, f.readable = true → f.Complete

theorem inv_boot (mounted : Bool) (rotated : List CStr) (active : CStr) :
    Inv (boot mounted rotated active : LogWorld kind) where
  covered _ hr := absurd hr List.not_mem_nil
  kept x hx := absurd hx (Option.not_mem_none x)
  found x hx := absurd hx (Option.not_mem_none x)
  complete _ hf := absurd hf List.not_mem_nil

variable {w : LogWorld kind}

/-- Steps that keep the ring, the card and the exports keep the invariant. -/
theorem Inv.frame {w' : LogWorld kind} (h : Inv w) (hring : w'.ring = w.ring)
    (hstore : w'.store = w.store) (hjob : w'.job = w.job) (hexported : w'.exported = w.exported) :
    Inv w' where
  covered := by
    rw [Covered, hring, hstore]
    exact h.covered
  kept := by
    rw [hring, hjob]
    exact h.kept
  found := by
    rw [hjob, hstore]
    exact h.found
  complete := by
    rw [hexported]
    exact h.complete

theorem Covered.store {s' : LogStore kind.cardLine} {a : WriterAction} (h : w.Covered)
    (heffect : LogStore.CardEffect kind.maxFileBytes w.store s' a)
    (hmark : a = .mark → w.store.writer = .written → ∀ r ∈ w.ring.slots,
      kind.uptimeOf r ≤ w.store.flushingUptime → w.store.OnCard r) :
    Covered { w with store := s' } := by
  intro r hr hpassed
  have hbefore : w.store.OnCard r := by
    cases heffect with
    | grown _ _ hsame => exact h r hr (hsame ▸ hpassed)
    | rotated _ _ _ _ hsame => exact h r hr (hsame ▸ hpassed)
    | marked hwriter _ _ hmoved => exact hmark rfl hwriter r hr (hmoved ▸ hpassed)
  exact heffect.onCard hbefore

theorem Inv.store {s' : LogStore kind.cardLine} {a : WriterAction} (h : Inv w)
    (heffect : LogStore.CardEffect kind.maxFileBytes w.store s' a)
    (hconf : w.Conforms (.writer a)) : Inv { w with store := s' } where
  covered := by
    refine h.covered.store heffect ?_
    rintro rfl
    exact hconf.1
  kept := h.kept
  found x hx r howes := by
    refine (h.found x hx r howes).effect heffect ?_
    rintro env rfl hwriter hrotates hlisted
    exact hconf.2 hwriter hrotates x hx hlisted r howes
  complete := h.complete

theorem Covered.add [DecidableEq α] {a : α} (h : w.Covered)
    (hnew : w.store.lastFlushedUptime < kind.uptimeMs a) : (w.add a).Covered := by
  intro r hr hpassed
  rcases Ring.mem_push_cases hr with rfl | hold
  · exact absurd hnew (Nat.not_lt.2 hpassed)
  · exact h r hold hpassed

theorem Inv.add [DecidableEq α] {a : α} (h : Inv w) (hconf : w.Conforms (.add a)) :
    Inv (w.add a) where
  covered := h.covered.add hconf.1
  kept y hy r hr := by
    obtain ⟨x, -, rfl⟩ := Option.mem_map.1 hy
    exact of_decide_eq_true (List.mem_filter.1 hr).2
  found y hy r howes := by
    obtain ⟨x, hx, rfl⟩ := Option.mem_map.1 hy
    obtain ⟨hreadable, hkept, hpassed⟩ := LogExport.mem_owed.1 howes
    exact h.found x hx r
      (LogExport.mem_owed.2 ⟨hreadable, (List.mem_filter.1 hkept).1, hpassed⟩)
  complete := h.complete

theorem Inv.append {i : Nat} {ready : Bool} (h : Inv w) : Inv (w.append i ready) := by
  unfold LogWorld.append
  split
  · exact h
  next l uptimeMs _ =>
    obtain ⟨hrotated, hactive, hmark⟩ := w.store.append_card l uptimeMs ready
    have heffect : LogStore.CardEffect kind.maxFileBytes w.store
      (w.store.append l uptimeMs ready) .mount := .same hrotated hactive hmark
    exact (h.store heffect ⟨trivial, trivial⟩).frame rfl rfl rfl rfl

theorem mirror_keeps (i : Nat) (timestamp : CStr) :
    (w.mirror i timestamp).ring = w.ring ∧ (w.mirror i timestamp).store = w.store ∧
      (w.mirror i timestamp).job = w.job ∧ (w.mirror i timestamp).exported = w.exported := by
  unfold mirror
  split
  · exact ⟨rfl, rfl, rfl, rfl⟩
  · split_ifs <;> exact ⟨rfl, rfl, rfl, rfl⟩

theorem Inv.mirror {i : Nat} {timestamp : CStr} (h : Inv w) : Inv (w.mirror i timestamp) := by
  obtain ⟨hring, hstore, hjob, hexported⟩ := mirror_keeps (w := w) i timestamp
  exact h.frame hring hstore hjob hexported

theorem Inv.beginExport (h : Inv w) : Inv w.beginExport := by
  unfold LogWorld.beginExport
  split
  · exact h
  · exact
      { covered := h.covered
        kept := by
          rintro _ ⟨⟩ r hr
          exact Ring.mem_entries.1 hr
        found := by
          rintro _ ⟨⟩ r howes
          obtain ⟨-, hkept, hpassed⟩ := LogExport.mem_owed.1 howes
          exact h.covered r (Ring.mem_entries.1 hkept) hpassed
        complete := h.complete }

theorem Inv.job {f : LogExport kind → LogExport kind} (h : Inv w)
    (hkept : ∀ x, (f x).kept = x.kept)
    (hfound : ∀ x ∈ w.job, ∀ r ∈ (f x).owed, (f x).Finds w.store r) :
    Inv { w with job := w.job.map f } where
  covered := h.covered
  kept y hy r hr := by
    obtain ⟨x, hx, rfl⟩ := Option.mem_map.1 hy
    exact h.kept x hx r (hkept x ▸ hr)
  found y hy r howes := by
    obtain ⟨x, hx, rfl⟩ := Option.mem_map.1 hy
    exact hfound x hx r howes
  complete := h.complete

theorem Inv.tail {taken : Bool} (h : Inv w) (hconf : w.Conforms (.tail taken)) :
    Inv (w.tail taken) := by
  unfold LogWorld.tail
  split
  · exact h
  next x hjob =>
    split
    next hstage =>
      refine
        { covered := h.covered
          kept := fun x hx => absurd hx (Option.not_mem_none x)
          found := fun x hx => absurd hx (Option.not_mem_none x)
          complete := ?_ }
      intro f hf hreadable
      rcases List.mem_append.1 hf with hold | hnew
      · exact h.complete f hold hreadable
      obtain rfl := List.mem_singleton.1 hnew
      intro r hr
      by_cases hpassed : kind.uptimeOf r ≤ x.lastFlush
      · have hfound := h.found x hjob r (LogExport.mem_owed.2 ⟨hreadable, hr, hpassed⟩)
        unfold LogExport.Finds at hfound
        rw [hstage] at hfound
        exact .inl hfound
      · cases taken with
        | false => exact absurd (hconf.2 rfl x hjob hstage r hr) hpassed
        | true =>
          right
          have hring := Ring.mem_entries.2 (h.kept x hjob r hr)
          exact List.mem_filter.2 ⟨hring, by simpa using hpassed⟩
    · exact h

/-- An export that has found the card unreadable owes nothing. -/
theorem not_mem_owed_skip {x : LogExport kind} {stage : ExportStage} {r : Logged α} :
    r ∉ (x.skip stage).owed := List.not_mem_nil

theorem list_found {opened : Bool} {names : List Nat} {x : LogExport kind} (h : Inv w)
    (hx : x ∈ w.job) (hconf : w.Conforms (.list opened names)) {r : Logged α}
    (howes : r ∈ (LogExport.list w.store opened names x).owed) :
    (LogExport.list w.store opened names x).Finds w.store r := by
  unfold LogExport.list at howes ⊢
  cases hstage : x.stage with
  | started =>
    simp only [hstage] at howes ⊢
    split_ifs at howes ⊢ with hskip
    · exact absurd howes not_mem_owed_skip
    · rcases hconf.2 x hx hstage r howes with hlisted | hactive
      · exact .inr (.inl hlisted.filter)
      · exact .inr (.inr hactive)
  | files todo =>
    simp only [hstage] at howes ⊢
    exact h.found x hx r howes
  | tail =>
    simp only [hstage] at howes ⊢
    exact h.found x hx r howes

theorem send_found {opened : Bool} {x : LogExport kind} (h : Inv w) (hx : x ∈ w.job)
    {r : Logged α} (howes : r ∈ (LogExport.send w.store opened x).owed) :
    (LogExport.send w.store opened x).Finds w.store r := by
  unfold LogExport.send at howes ⊢
  cases hstage : x.stage with
  | started =>
    simp only [hstage] at howes ⊢
    exact h.found x hx r howes
  | tail =>
    simp only [hstage] at howes ⊢
    exact h.found x hx r howes
  | files todo =>
    have hfound := h.found x hx r
    unfold LogExport.Finds at hfound
    simp only [hstage] at hfound
    cases todo with
    | nil =>
      simp only [hstage] at howes ⊢
      split_ifs at howes ⊢ with hskip
      · exact absurd howes not_mem_owed_skip
      · show Holds (x.card ++ w.store.activeFile) r
        rw [holds_append]
        rcases hfound howes with hsent | ⟨i, hi, -⟩ | hactive
        · exact .inl hsent
        · cases hi
        · exact .inr hactive
    | cons i todo =>
      simp only [hstage] at howes ⊢
      split_ifs at howes ⊢ with hskip
      · exact absurd howes not_mem_owed_skip
      · show Holds (x.card ++ (w.store.rotated[i]?).getD []) r ∨ _
        rw [holds_append]
        rcases hfound howes with hsent | ⟨j, hj, hr⟩ | hactive
        · exact .inl (.inl hsent)
        · rcases List.mem_cons.1 hj with rfl | hj
          · exact .inl (.inr hr)
          · exact .inr (.inl ⟨j, hj, hr⟩)
        · exact .inr (.inr hactive)

theorem list_kept (s : LogStore kind.cardLine) (opened : Bool) (names : List Nat) (x : LogExport kind) :
    (LogExport.list s opened names x).kept = x.kept := by
  unfold LogExport.list
  split
  · split_ifs <;> rfl
  · rfl

theorem send_kept (s : LogStore kind.cardLine) (opened : Bool) (x : LogExport kind) :
    (LogExport.send s opened x).kept = x.kept := by
  unfold LogExport.send
  split
  · split_ifs <;> rfl
  · split_ifs <;> rfl
  · rfl

theorem Inv.step [DecidableEq α] {a : LogAction α} (h : Inv w) (hconf : w.Conforms a) :
    Inv (w.step a) := by
  cases a with
  | add a => exact h.add hconf
  | mirror i timestamp => exact h.mirror
  | append i ready => exact h.append
  | writer a => exact h.store (LogStore.step_effect a) hconf
  | beginExport => exact h.beginExport
  | list opened names =>
    exact h.job (list_kept w.store opened names) fun x hx r howes => list_found h hx hconf howes
  | send opened =>
    exact h.job (send_kept w.store opened) fun x hx r howes => send_found h hx howes
  | tail taken => exact h.tail hconf
  | abort =>
    exact
      { covered := h.covered
        kept := fun x hx => absurd hx (Option.not_mem_none x)
        found := fun x hx => absurd hx (Option.not_mem_none x)
        complete := h.complete }

/-- **Exports are complete while the watermark stays below what is not on the card.** -/
theorem exports_complete [DecidableEq α] (mounted : Bool) (rotated : List CStr) (active : CStr)
    (as : List (LogAction α))
    (hconf : AllSteps step Conforms (boot mounted rotated active : LogWorld kind) as) :
    ∀ f ∈ (run step (boot mounted rotated active : LogWorld kind) as).exported,
      f.readable = true → f.Complete := by
  have hinv : Inv (run step (boot mounted rotated active : LogWorld kind) as) :=
    inv_run (fun _ _ h hconf => Inv.step h hconf) (inv_boot mounted rotated active) hconf
  exact hinv.complete

/-! ## Runs -/

/-- The steps of an entry on its way to the buffer of the writer. -/
def logged (a : α) : List (LogAction α) := [.add a, .mirror 0 "12:00:00".toList, .append 0 true]

/-- A flush that takes every byte, of which `reached` come to the card. -/
def flushed (reached : Nat) (complete : Bool) : List (LogAction α) :=
  [.writer (.swap true), .writer (.openFile ⟨true, true, true⟩), .writer (.put reached complete),
    .writer .mark]

def downloaded : List (LogAction α) := [.beginExport, .list true [], .send true, .tail true]

def webCall (text : String) (uptimeMs : Nat) : WebLogCall where
  level := "warn".toList
  text := text.toList
  wallTime := none
  uptimeMs := uptimeMs

def commCall (frame : List UInt8) (uptimeMs : Nat) : CommLogCall where
  direction := .rx
  slaveId := 1
  functionCode := 3
  registerAddress := 0
  registerCount := 2
  status := "OK".toList
  frame := frame
  wallTime := none
  uptimeMs := uptimeMs

def steadyRun : List (LogAction WebLogCall) :=
  logged (webCall "link up" 5) ++ flushed 4096 true ++ logged (webCall "link down" 9) ++ downloaded

theorem exports_complete_steady :
    (run step (boot true [] [] : LogWorld systemLog) steadyRun).exported.length = 1 ∧
    ∀ f ∈ (run step (boot true [] [] : LogWorld systemLog) steadyRun).exported,
      f.readable = true → f.Complete :=
  ⟨by decide +kernel, exports_complete true [] [] steadyRun (by decide +kernel)⟩

/-- Two entries of one millisecond, between which the first was flushed; and an entry whose
batch was not written before a later one was. -/
theorem export_misses_entries :
    (∃ f ∈ (run step (boot true [] [] : LogWorld systemLog)
        (logged (webCall "link up" 5) ++ flushed 4096 true ++ [.add (webCall "link down" 5)] ++
          downloaded)).exported,
      f.readable = true ∧ ¬ f.Complete) ∧
    ∃ f ∈ (run step (boot true [] [] : LogWorld modbusLog)
        (logged (commCall [1, 3, 4] 5) ++ flushed 0 false ++ logged (commCall [1, 3, 2] 9) ++
          flushed 4096 true ++ downloaded)).exported,
      f.readable = true ∧ ¬ f.Complete := by
  decide +kernel

end LogWorld

end McpGateway.Web
