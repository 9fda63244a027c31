import McpGateway.Web.LogExport

/-!
# Exports that nothing comes between

An export taken at one moment is complete exactly when the watermark has passed no
entry in RAM whose line is not on the card; and along a run from the start that stays
so exactly as long as no addition and no flush breaks it.
-/

namespace McpGateway.Web

open McpGateway.Lib McpGateway.Storage

variable {α : Type} {kind : LogKind α}

namespace LogWorld

variable {w : LogWorld kind}

/-! ## An export between two steps of the others -/

/-- An export that nothing comes between, of a card that can be read. -/
def quietExport (w : LogWorld kind) : List (LogAction α) :=
  [.beginExport, .list true (List.range w.store.rotated.length)] ++
    List.replicate (w.store.rotated.length + 1) (.send true) ++ [.tail true]

theorem run_send [DecidableEq α] (hmounted : w.store.mounted = true) (todo : List Nat)
    {x : LogExport kind} (hstage : x.stage = .files todo) :
    run step { w with job := some x } (List.replicate (todo.length + 1) (.send true)) =
      { w with
        job := some { x with
          stage := .tail
          card := x.card ++ (todo.flatMap fun i => (w.store.rotated[i]?).getD []) ++
            w.store.activeFile } } := by
  induction todo generalizing x with
  | nil =>
    have hsend : x.send w.store true =
        { x with stage := .tail, card := x.card ++ w.store.activeFile } := by
      unfold LogExport.send
      simp [hstage, hmounted]
    show { w with job := some (x.send w.store true) } = _
    rw [hsend, List.flatMap_nil, List.append_nil]
  | cons i todo ih =>
    have hsend : x.send w.store true =
        { x with stage := .files todo, card := x.card ++ (w.store.rotated[i]?).getD [] } := by
      unfold LogExport.send
      simp [hstage, hmounted]
    show run step { w with job := some (x.send w.store true) }
      (List.replicate (todo.length + 1) (.send true)) = _
    rw [hsend, ih rfl, List.flatMap_cons, List.append_assoc x.card]

theorem flatMap_range_getD {β : Type} (files : List (List β)) :
    ((List.range files.length).flatMap fun i => (files[i]?).getD []) = files.flatten := by
  have hmap : ((List.range files.length).map fun i => (files[i]?).getD []) = files := by
    refine List.ext_getElem (by simp) fun i hi hi' => ?_
    rw [List.getElem_map, List.getElem_range, List.getElem?_eq_getElem hi', Option.getD_some]
  rw [List.flatMap_def, hmap]

def quietResult (w : LogWorld kind) : ExportedLog kind where
  card := w.store.rotated.flatten ++ w.store.activeFile
  ram := w.ring.entries.filter fun r => w.store.lastFlushedUptime < kind.uptimeOf r
  kept := w.ring.entries
  readable := true

theorem quiet_export [DecidableEq α] (hjob : w.job = none) (hmounted : w.store.mounted = true) :
    (run step w w.quietExport).exported = w.exported ++ [w.quietResult] := by
  have hnames : (List.range w.store.rotated.length).filter (· < w.store.rotated.length) =
      List.range w.store.rotated.length :=
    List.filter_eq_self.2 fun i hi => by simpa using hi
  have hlist : run step w [.beginExport, .list true (List.range w.store.rotated.length)] =
      { w with
        job := some
          { lastFlush := w.store.lastFlushedUptime
            stage := .files (List.range w.store.rotated.length)
            card := [], kept := w.ring.entries, readable := true } } := by
    simp only [run_cons, run_nil, step, beginExport, hjob, Option.map_some, LogExport.list,
      hmounted, Bool.true_eq_false, or_self, if_false, hnames]
  have hsend := run_send hmounted (List.range w.store.rotated.length)
    (x := { lastFlush := w.store.lastFlushedUptime
            stage := .files (List.range w.store.rotated.length)
            card := [], kept := w.ring.entries, readable := true }) rfl
  rw [List.length_range] at hsend
  rw [quietExport, run_append, run_append, hlist, hsend, flatMap_range_getD]
  rfl

/-- **A quiet export is complete exactly when the watermark has passed no entry in RAM
whose line is not on the card.** -/
theorem quietResult_complete_iff : w.quietResult.Complete ↔ w.Covered := by
  have hcard (r : Logged α) : Holds w.quietResult.card r ↔ w.store.OnCard r := by
    rw [quietResult, holds_append, holds_flatten, or_comm]
    rfl
  constructor
  · intro h r hr hpassed
    rcases h r (Ring.mem_entries.2 hr) with hsent | hram
    · exact (hcard r).1 hsent
    · exact absurd (of_decide_eq_true (List.mem_filter.1 hram).2) (Nat.not_lt.2 hpassed)
  · intro h r hr
    by_cases hpassed : kind.uptimeOf r ≤ w.store.lastFlushedUptime
    · exact .inl ((hcard r).2 (h r (Ring.mem_entries.1 hr) hpassed))
    · exact .inr (List.mem_filter.2 ⟨hr, decide_eq_true (Nat.lt_of_not_le hpassed)⟩)

/-! ## The watermark along a run -/

/-- Every line on its way to the card, or there, is one of an entry added before. -/
structure Fresh (w : LogWorld kind) : Prop where
  adding : ∀ p ∈ w.adding, p.2.number < w.added
  mirroring : ∀ p ∈ w.mirroring, p.1.logged.number < w.added
  store : ∀ r, w.store.Mentions r → r.number < w.added

theorem fresh_boot (mounted : Bool) (rotated : List CStr) (active : CStr) :
    Fresh (boot mounted rotated active : LogWorld kind) where
  adding _ hp := absurd hp List.not_mem_nil
  mirroring _ hp := absurd hp List.not_mem_nil
  store r hr := by
    have hbytes (t : CStr) : ¬ Holds ([.bytes t] : List (Piece kind.cardLine)) r := by
      rintro ⟨p, hp, hr⟩
      obtain rfl := List.mem_singleton.1 hp
      cases hr
    rcases hr with ⟨l, hl, -⟩ | ⟨l, hl, -⟩ | hactive | ⟨file, hfile, hr⟩
    · cases hl
    · cases hl
    · exact absurd hactive (hbytes active)
    · obtain ⟨t, -, rfl⟩ := List.mem_map.1 hfile
      exact absurd hr (hbytes t)

theorem Fresh.step [DecidableEq α] {a : LogAction α} (h : w.Fresh) : (w.step a).Fresh := by
  cases a with
  | add a =>
    exact
      { adding := by
          intro p hp
          rcases List.mem_append.1 hp with hold | hnew
          · exact Nat.lt_succ_of_lt (h.adding p hold)
          · obtain rfl := List.mem_singleton.1 hnew
            exact Nat.lt_succ_self _
        mirroring := fun p hp => Nat.lt_succ_of_lt (h.mirroring p hp)
        store := fun r hr => Nat.lt_succ_of_lt (h.store r hr) }
  | mirror i timestamp =>
    show (w.mirror i timestamp).Fresh
    unfold mirror
    split
    · exact h
    next slot r hat =>
      have hrest : ∀ p ∈ w.adding.eraseIdx i, p.2.number < w.added :=
        fun p hp => h.adding p (List.mem_of_mem_eraseIdx hp)
      split_ifs
      · exact ⟨hrest, h.mirroring, h.store⟩
      · refine ⟨hrest, fun p hp => ?_, h.store⟩
        rcases List.mem_append.1 hp with hold | hnew
        · exact h.mirroring p hold
        · obtain rfl := List.mem_singleton.1 hnew
          exact h.adding _ (List.mem_of_getElem? hat)
  | append i ready =>
    show (w.append i ready).Fresh
    unfold append
    split
    · exact h
    next l uptimeMs hat =>
      refine ⟨h.adding, fun p hp => h.mirroring p (List.mem_of_mem_eraseIdx hp), fun r hr => ?_⟩
      rcases hr.of_append with rfl | hold
      · exact h.mirroring _ (List.mem_of_getElem? hat)
      · exact h.store r hold
  | writer a => exact ⟨h.adding, h.mirroring, fun r hr => h.store r hr.of_step⟩
  | beginExport =>
    show w.beginExport.Fresh
    unfold beginExport
    split <;> exact ⟨h.adding, h.mirroring, h.store⟩
  | list opened names => exact ⟨h.adding, h.mirroring, h.store⟩
  | send opened => exact ⟨h.adding, h.mirroring, h.store⟩
  | tail taken =>
    show (w.tail taken).Fresh
    unfold tail
    split
    · exact h
    · split <;> exact ⟨h.adding, h.mirroring, h.store⟩
  | abort => exact ⟨h.adding, h.mirroring, h.store⟩

theorem beginExport_keeps : w.beginExport.ring = w.ring ∧ w.beginExport.store = w.store := by
  unfold beginExport
  split <;> exact ⟨rfl, rfl⟩

theorem tail_keeps (taken : Bool) :
    (w.tail taken).ring = w.ring ∧ (w.tail taken).store = w.store := by
  unfold tail
  split
  · exact ⟨rfl, rfl⟩
  · split <;> exact ⟨rfl, rfl⟩

/-- Steps that keep the ring and the card keep what the watermark covers. -/
theorem covered_frame {w' : LogWorld kind} (hring : w'.ring = w.ring)
    (hstore : w'.store = w.store) : w'.Covered ↔ w.Covered := by
  unfold Covered
  rw [hring, hstore]

theorem covered_append {i : Nat} {ready : Bool} (h : w.Covered) : (w.append i ready).Covered := by
  unfold append
  split
  · exact h
  next l uptimeMs _ =>
    obtain ⟨hrotated, hactive, hmark⟩ := w.store.append_card l uptimeMs ready
    unfold Covered LogStore.OnCard
    rw [hrotated, hactive, hmark]
    exact h

/-- One step keeps quiet exports complete exactly when it keeps the watermark below what is
not on the card. -/
theorem covered_step_iff [DecidableEq α] {a : LogAction α} (h : w.Covered) (hfresh : w.Fresh) :
    (w.step a).Covered ↔ w.KeepsWatermark a := by
  cases a with
  | add a =>
    refine ⟨fun hafter => ?_, h.add⟩
    by_contra hpassed
    have hcard : w.store.OnCard ⟨w.added, a⟩ :=
      hafter _ (Ring.mem_push_self w.ring _) (Nat.le_of_not_lt hpassed)
    exact Nat.lt_irrefl _ (hfresh.store _ (.inr (.inr hcard)))
  | writer a =>
    have hkeep (hmark : a = .mark → w.store.writer = .written → ∀ r ∈ w.ring.slots,
        kind.uptimeOf r ≤ w.store.flushingUptime → w.store.OnCard r) :
        (w.step (.writer a)).Covered := h.store (LogStore.step_effect a) hmark
    cases a with
    | mark =>
      refine ⟨fun hafter hwriter r hr hpassed => ?_, fun hmark => hkeep fun _ => hmark⟩
      have hmarked : (w.step (.writer .mark)).store = w.store.mark := if_pos hwriter
      have hcard := hafter r hr (by rw [hmarked]; exact hpassed)
      rw [hmarked] at hcard
      exact hcard
    | swap lock => exact iff_of_true (hkeep fun hmark => by cases hmark) trivial
    | openFile env => exact iff_of_true (hkeep fun hmark => by cases hmark) trivial
    | put reached complete => exact iff_of_true (hkeep fun hmark => by cases hmark) trivial
    | mount => exact iff_of_true (hkeep fun hmark => by cases hmark) trivial
    | unmount => exact iff_of_true (hkeep fun hmark => by cases hmark) trivial
  | mirror i timestamp =>
    obtain ⟨hring, hstore, -⟩ := mirror_keeps (w := w) i timestamp
    exact iff_of_true ((covered_frame hring hstore).2 h) trivial
  | append i ready => exact iff_of_true (covered_append h) trivial
  | beginExport =>
    obtain ⟨hring, hstore⟩ := beginExport_keeps (w := w)
    exact iff_of_true ((covered_frame hring hstore).2 h) trivial
  | list opened names => exact iff_of_true ((covered_frame rfl rfl).2 h) trivial
  | send opened => exact iff_of_true ((covered_frame rfl rfl).2 h) trivial
  | tail taken =>
    obtain ⟨hring, hstore⟩ := tail_keeps (w := w) taken
    exact iff_of_true ((covered_frame hring hstore).2 h) trivial
  | abort => exact iff_of_true ((covered_frame rfl rfl).2 h) trivial

/-- **Quiet exports stay complete exactly as long as no step breaks the watermark.** -/
theorem quiet_exports_run_iff [DecidableEq α] (mounted : Bool) (rotated : List CStr)
    (active : CStr) (as : List (LogAction α)) :
    AllSteps step (fun w a => (w.step a).quietResult.Complete)
        (boot mounted rotated active : LogWorld kind) as ↔
      AllSteps step KeepsWatermark (boot mounted rotated active : LogWorld kind) as := by
  have hboot : (boot mounted rotated active : LogWorld kind).Covered :=
    fun _ hr => absurd hr List.not_mem_nil
  refine allSteps_iff (K := fun w _ => w.Covered ∧ w.Fresh) ?_ ?_
    ⟨hboot, fresh_boot mounted rotated active⟩
  · rintro w a - ⟨-, hfresh⟩ hcomplete
    exact ⟨quietResult_complete_iff.1 hcomplete, hfresh.step⟩
  · rintro w a - ⟨hcovered, hfresh⟩
    exact quietResult_complete_iff.trans (covered_step_iff hcovered hfresh)

end LogWorld

end McpGateway.Web
