import McpGateway.Amm.EntryInvariant
import McpGateway.Scheduler.Poll

/-!
# Read windows

An active entry has to bring a read window that holds its registers, since the
poller asks for that window and decodes the value inside it. The normalisation
repairs a window only as far as its point fits into 64 registers, and the
overlay of a user's entry puts type and window together with another text
length; `windows_run` says exactly when neither matters.
-/

namespace McpGateway.Scheduler

open McpGateway.Lib McpGateway.Tcm McpGateway.Amm McpGateway.Modbus

/-! ## One entry -/

/-- The registers of a text of this length; the type alone gives one. -/
def textWidth (stringLength : UInt8) : Nat :=
  if stringLength > 0 then (stringLength.toNat + 1) / 2 else 1

def pointWidth (e : AmmMappingEntry) : Nat :=
  if e.dataType = .ascii then textWidth e.stringLength
  else modbusRegisterCountForType e.dataType

/-- A text of more than 128 characters, which takes more than 64 registers. -/
def LongText (e : AmmMappingEntry) : Prop := e.dataType = .ascii ∧ 128 < e.stringLength.toNat

/-- The window of the entry holds its point, and it is the one that is polled. -/
structure WholeWindow (e : AmmMappingEntry) : Prop where
  pos : 1 ≤ e.readRegisterCount.toNat
  le : e.readRegisterCount.toNat ≤ ammMaxReadRegisters
  holds : e.valueRegisterIndex.toNat + pointWidth e ≤ e.readRegisterCount.toNat
  polled : pollWindow e =
    ⟨e.readStartAddress, e.readRegisterCount.toNat, e.valueRegisterIndex.toNat⟩

instance (e : AmmMappingEntry) : Decidable (WholeWindow e) :=
  decidable_of_iff
    (1 ≤ e.readRegisterCount.toNat ∧ e.readRegisterCount.toNat ≤ ammMaxReadRegisters ∧
      e.valueRegisterIndex.toNat + pointWidth e ≤ e.readRegisterCount.toNat ∧
      pollWindow e =
        ⟨e.readStartAddress, e.readRegisterCount.toNat, e.valueRegisterIndex.toNat⟩)
    ⟨fun h => ⟨h.1, h.2.1, h.2.2.1, h.2.2.2⟩, fun h => ⟨h.pos, h.le, h.holds, h.polled⟩⟩

section Entry

variable {e : AmmMappingEntry}

theorem textWidth_pos (n : UInt8) : 1 ≤ textWidth n := by
  unfold textWidth
  split
  · rename_i hn
    have hlt : 0 < n.toNat := hn
    omega
  · exact Nat.le_refl 1

theorem registerCount_pos (t : DataType) : 1 ≤ modbusRegisterCountForType t := by
  cases t <;> decide

/-- The poller's count for a type is never more than the point takes. -/
theorem registerCount_le (e : AmmMappingEntry) :
    modbusRegisterCountForType e.dataType ≤ pointWidth e := by
  unfold pointWidth
  split
  · rename_i hascii
    rw [hascii]
    exact textWidth_pos e.stringLength
  · exact Nat.le_refl _

theorem pointWidth_pos (e : AmmMappingEntry) : 1 ≤ pointWidth e :=
  Nat.le_trans (registerCount_pos e.dataType) (registerCount_le e)

theorem pointCount_toNat (e : AmmMappingEntry) : (pointCount e).toNat = pointWidth e := by
  have htype : ∀ t, (ammPointRegisterCount t).toNat = modbusRegisterCountForType t := by
    intro t
    cases t <;> rfl
  unfold pointCount pointWidth
  by_cases hascii : e.dataType = .ascii
  · by_cases hlen : e.stringLength > 0
    · rw [if_pos ⟨hascii, hlen⟩, if_pos hascii, textWidth, if_pos hlen]
      have hlt := e.stringLength.toNat_lt
      show (e.stringLength.toNat + 1) / 2 % 256 = _
      omega
    · rw [if_neg (fun h => hlen h.2), if_pos hascii, textWidth, if_neg hlen, hascii]
      rfl
  · rw [if_neg (fun h => hascii h.1), if_neg hascii, htype]

theorem pointWidth_le_iff (e : AmmMappingEntry) :
    pointWidth e ≤ ammMaxReadRegisters ↔ ¬ LongText e := by
  unfold pointWidth LongText ammMaxReadRegisters
  by_cases hascii : e.dataType = .ascii
  · rw [if_pos hascii, textWidth]
    split
    · simp only [hascii, true_and]
      omega
    · rename_i hlen
      have hzero : ¬ 0 < e.stringLength.toNat := hlen
      refine iff_of_true (by decide) fun h => ?_
      have := h.2
      omega
  · rw [if_neg hascii]
    refine iff_of_true ?_ fun h => hascii h.1
    cases e.dataType <;> decide

theorem windowHolds_iff (e : AmmMappingEntry) (count : Nat) :
    windowHolds e count = true ↔ 1 ≤ e.readRegisterCount.toNat ∧
      e.readRegisterCount.toNat ≤ ammMaxReadRegisters ∧
      e.valueRegisterIndex.toNat + count ≤ e.readRegisterCount.toNat := by
  have hzero : e.readRegisterCount = 0 ↔ e.readRegisterCount.toNat = 0 :=
    UInt8.toNat_inj.symm
  simp only [windowHolds, Bool.and_eq_true, decide_eq_true_eq, and_assoc, Ne, hzero]
  refine and_congr_left fun _ => ?_
  omega

/-- A window that holds the point also holds what the poller counts. -/
theorem wholeWindow_iff (e : AmmMappingEntry) :
    WholeWindow e ↔ windowHolds e (pointWidth e) = true := by
  rw [windowHolds_iff]
  constructor
  · exact fun h => ⟨h.pos, h.le, h.holds⟩
  · rintro ⟨hpos, hle, hholds⟩
    refine ⟨hpos, hle, hholds, ?_⟩
    have hcount := registerCount_le e
    have hpolled : windowHolds e (modbusRegisterCountForType e.dataType) = true := by
      rw [windowHolds_iff]
      exact ⟨hpos, hle, by omega⟩
    rw [pollWindow, if_pos hpolled]

/-! ## What normalisation gives -/

theorem normalizeWindow_whole_iff (e : AmmMappingEntry) :
    WholeWindow (normalizeWindow e) ↔ pointWidth e ≤ ammMaxReadRegisters := by
  unfold normalizeWindow
  rw [pointCount_toNat]
  by_cases hholds : windowHolds e (pointWidth e) = true
  · rw [if_pos hholds, wholeWindow_iff]
    obtain ⟨-, hle, hwidth⟩ := (windowHolds_iff e _).1 hholds
    exact iff_of_true hholds (by omega)
  · rw [if_neg hholds, wholeWindow_iff, windowHolds_iff]
    have hpos := pointWidth_pos e
    have hwidth : pointWidth { e with
        readStartAddress := e.registerAddress
        readRegisterCount := pointCount e
        valueRegisterIndex := 0 } = pointWidth e := rfl
    rw [hwidth]
    simp only [pointCount_toNat]
    have hzero : (0 : UInt8).toNat = 0 := rfl
    omega

theorem pointWidth_normalized (e : AmmMappingEntry) :
    pointWidth (normalizeRetries (normalizeObjectType (normalizeTopicMode e))) = pointWidth e := by
  have htopic : ∀ e, pointWidth (normalizeTopicMode e) = pointWidth e := by
    intro e
    unfold normalizeTopicMode
    split <;> rfl
  have hobject : ∀ e, pointWidth (normalizeObjectType e) = pointWidth e := by
    intro e
    unfold normalizeObjectType
    split <;> rfl
  have hretries : ∀ e, pointWidth (normalizeRetries e) = pointWidth e := fun _ => rfl
  rw [hretries, hobject, htopic]

theorem normalize_whole_iff (e : AmmMappingEntry) :
    WholeWindow (ammNormalizeReadWindow e) ↔ ¬ LongText e := by
  rw [ammNormalizeReadWindow, normalizeWindow_whole_iff, pointWidth_normalized,
    pointWidth_le_iff]

theorem longText_withPollInterval (dflt : UInt32) (e : AmmMappingEntry) :
    LongText (withPollInterval dflt e) ↔ LongText e := by
  unfold withPollInterval
  split <;> rfl

theorem longText_withScale (e : AmmMappingEntry) :
    LongText (if e.scaleFactor = .fin 0 then { e with scaleFactor := .fin 1 } else e) ↔
      LongText e := by
  split <;> rfl

theorem loaded_whole_iff (dflt : UInt32) (e : AmmMappingEntry) :
    WholeWindow (loadedEntry dflt e) ↔ ¬ LongText e := by
  rw [loadedEntry, normalize_whole_iff, longText_withScale, longText_withPollInterval]

theorem imported_whole_iff (dflt : UInt32) (v : SeqId) (e : AmmMappingEntry) :
    WholeWindow (importEntry dflt v e) ↔ ¬ LongText e := by
  rw [importEntry, normalize_whole_iff, longText_withScale, longText_withPollInterval]
  rfl

theorem wholeWindow_stable : Stable WholeWindow where
  version e v := by
    rw [wholeWindow_iff, wholeWindow_iff]
    rfl
  interval e ms _ h := by
    rw [wholeWindow_iff] at h ⊢
    exact h

theorem whole_withPollInterval (dflt : UInt32) (e : AmmMappingEntry) :
    WholeWindow (withPollInterval dflt e) ↔ WholeWindow e := by
  unfold withPollInterval
  split
  · rw [wholeWindow_iff, wholeWindow_iff]
    rfl
  · rfl

theorem stored_whole_iff (a : AmmTable) (e : AmmMappingEntry) :
    WholeWindow (a.stored e) ↔ ¬ LongText e := by
  rw [AmmTable.stored, whole_withPollInterval, wholeWindow_stable.version, normalize_whole_iff]
  rfl

end Entry

/-! ## Staged entries -/

/-- An imported entry that no user's entry overlays is no long text; the window
of a user's text holds as much text as is imported. -/
def StagedWhole (table : List AmmMappingEntry) (e : AmmMappingEntry) : Prop :=
  match userEntry table e with
  | none => ¬ LongText e
  | some u => u.dataType = .ascii →
      u.valueRegisterIndex.toNat + textWidth e.stringLength ≤ u.readRegisterCount.toNat

theorem overlay_whole_iff {u x : AmmMappingEntry} (hu : WholeWindow u) :
    WholeWindow (ammOverlayUserSemantics u x) ↔ (u.dataType = .ascii →
      u.valueRegisterIndex.toNat + textWidth x.stringLength ≤ u.readRegisterCount.toNat) := by
  have hwidth : pointWidth (ammOverlayUserSemantics u x) =
      if u.dataType = .ascii then textWidth x.stringLength
      else modbusRegisterCountForType u.dataType := rfl
  rw [wholeWindow_iff, windowHolds_iff, hwidth]
  show 1 ≤ u.readRegisterCount.toNat ∧ u.readRegisterCount.toNat ≤ ammMaxReadRegisters ∧
    u.valueRegisterIndex.toNat + _ ≤ u.readRegisterCount.toNat ↔ _
  by_cases hascii : u.dataType = .ascii
  · rw [if_pos hascii]
    exact ⟨fun h _ => h.2.2, fun h => ⟨hu.pos, hu.le, h hascii⟩⟩
  · rw [if_neg hascii]
    refine iff_of_true ⟨hu.pos, hu.le, ?_⟩ fun h => absurd h hascii
    have hholds := hu.holds
    rwa [pointWidth, if_neg hascii] at hholds

theorem staged_whole_iff {a : AmmTable} (h : AllActive WholeWindow a.table) (v : SeqId)
    (e : AmmMappingEntry) :
    WholeWindow (overlayUser a.table (importEntry a.defaultPollMs v e)) ↔
      StagedWhole a.table e := by
  have huser := userEntry_importEntry a.table a.defaultPollMs v e
  unfold StagedWhole
  cases hu : userEntry a.table e with
  | none =>
    rw [overlayUser_of_none (huser.trans hu), imported_whole_iff]
  | some u =>
    obtain ⟨hmem, hactive⟩ := userEntry_active hu
    rw [overlayUser_of_some (huser.trans hu), overlay_whole_iff (h u hmem hactive),
      stringLength_isIdentity.importEntry]

/-! ## Runs -/

/-- No active slot below the stored count is a long text. -/
def StoredShort (f : NvsCalls) (n : AmmNvs) : Prop :=
  ∀ count, n.count = some count → ∀ (i : Nat) (blob : Blob) (e : AmmMappingEntry),
    (i : Int) < count → n.entry i = some blob → loadBlob (loadedSchema f n) blob = .ok e →
      e.active = true → ¬ LongText e

/-- What keeps the windows whole: no long text is added, updated or loaded, and
what is staged is no long text or fits into the user's window. -/
def KeepsWindows (s : AmmStore) : AmmStep → Prop
  | .call (.add e) f => ∀ next save, s.CarriesOut (.add e) f next save → ¬ LongText e
  | .call (.update index e) f =>
      ∀ next save, s.CarriesOut (.update index e) f next save → ¬ LongText e
  | .call (.import entries replaceDevices) f =>
      ∀ next save, s.CarriesOut (.import entries replaceDevices) f next save →
        ∀ e ∈ lasts AmmMappingEntry.key entries, StagedWhole s.ram.table e
  | .call _ _ => True
  | .load f => (s.load f).1 = .ok → StoredShort f s.nvs
  | .reboot f => (s.reboot f).1 = .ok → StoredShort f s.nvs

/-- After the step every active entry has a window that holds its point. -/
def WindowsAfter (s : AmmStore) (st : AmmStep) : Prop :=
  ∀ e ∈ (s.step st).ram.entries, WholeWindow e

theorem windowsAfter_iff (s : AmmStore) (st : AmmStep) :
    WindowsAfter s st ↔ TableAfter (AllActive WholeWindow) s st := by
  simp only [WindowsAfter, TableAfter, AllActive, AmmTable.entries, List.mem_filter, and_imp]

theorem storedAll_whole_iff (f : NvsCalls) (dflt : UInt32) (n : AmmNvs) :
    StoredAll WholeWindow f dflt n ↔ StoredShort f n := by
  unfold StoredAll StoredShort
  simp only [loaded_whole_iff]

theorem keepsEntries_whole_iff {s : AmmStore} (h : EntryInv WholeWindow s) (st : AmmStep) :
    KeepsEntries WholeWindow s st ↔ KeepsWindows s st := by
  cases st with
  | load f => simp only [KeepsEntries, KeepsWindows, storedAll_whole_iff]
  | reboot f => simp only [KeepsEntries, KeepsWindows, storedAll_whole_iff]
  | call call f =>
    cases call with
    | add e => simp only [KeepsEntries, KeepsWindows, stored_whole_iff]
    | update index e => simp only [KeepsEntries, KeepsWindows, stored_whole_iff]
    | «import» entries replaceDevices =>
      simp only [KeepsEntries, KeepsWindows, forall_lasts_staged (staged_whole_iff h.ram)]
    | remove | removeForChannel | clear | setPollIntervalAll | rollback => rfl

/-- **Read windows.** On a device with any stored slots, every active entry has
after every step a window of at most 64 registers that holds its point and that
the poller asks for, exactly when no step brings in a text that is too long. -/
theorem windows_run (capacity : Nat) (n : AmmNvs) (steps : List AmmStep) :
    AllSteps AmmStore.step WindowsAfter (.onSlots capacity n) steps ↔
      AllSteps AmmStore.step KeepsWindows (.onSlots capacity n) steps :=
  allSteps_iff (K := fun s _ => EntryInv WholeWindow s)
    (fun s st _ h hafter => h.step ((windowsAfter_iff s st).1 hafter))
    (fun s st _ h => (windowsAfter_iff s st).trans
      ((entries_step_iff wholeWindow_stable h st).trans (keepsEntries_whole_iff h st)))
    ⟨allActive_nil, fun _ h => absurd h nofun⟩

def longText : AmmMappingEntry :=
  { samplePoint with dataType := .ascii, stringLength := 130 }

/-- A text of 130 characters is stored with a window of 65 registers. -/
theorem long_text_exceeds_window :
    ¬ AllSteps AmmStore.step WindowsAfter (.onSlots 1000 .empty)
      [.call (.add longText) .ok] := by
  rintro ⟨h, -⟩
  revert h
  unfold WindowsAfter
  decide +kernel

end McpGateway.Scheduler
