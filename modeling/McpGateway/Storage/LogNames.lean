import McpGateway.Config
import McpGateway.Lib.LeastIndex
import McpGateway.Lib.StringOrder

/-!
# Names of rotated logs

`log_store.c` names a rotated file in `rotate_stream` and knows it again in `is_log_file`,
for the cleanup, and in `log_store_list_files`, for the export. `is_log_file` compares one
byte too many of a Modbus name, and the cleanup orders names as strings.
`rotated_logs_iff` says which names are known and which sets are cleaned up oldest first.
-/

namespace McpGateway.Storage

open McpGateway.Lib

def logDirectory : CStr := "/tf/logs".toList

/-- `"%s/%s"`, of the directory and a name. -/
def logPath (name : CStr) : CStr := logDirectory ++ '/' :: name

/-- `log_store_stream_t`. -/
inductive LogStream
  | system | modbus
  deriving DecidableEq

/-- The `path` of a stream. -/
def LogStream.path : LogStream → CStr
  | .system => "/tf/logs/system.log".toList
  | .modbus => "/tf/logs/modbus_comm.log".toList

def activeNames : List CStr := ["system.log".toList, "modbus_comm.log".toList]

/-- `strncmp(a, b, n) == 0`: the zeros at the ends are compared too. -/
def strncmpEq (n : Nat) (a b : CStr) : Bool :=
  decide ((a ++ ['\x00']).take n = (b ++ ['\x00']).take n)

/-- `strstr(s, t) != NULL`. -/
def strstr (s t : CStr) : Bool := decide (t <:+: s)

/-! ## Names that are made -/

/-- `struct tm`, of a time after the year 1900. -/
structure Tm where
  year : Nat
  mon : Nat
  mday : Nat
  hour : Nat
  min : Nat
  sec : Nat
  year_le : year ≤ 2147483647
  mon_lt : mon < 12
  mday_le : mday ≤ 31
  hour_lt : hour < 24
  min_lt : min < 60
  sec_le : sec ≤ 60
  deriving DecidableEq

/-- `"%Y-%m-%d %H:%M:%S"`. -/
def Tm.text (t : Tm) : CStr :=
  printDecimal (1900 + t.year) ++ '-' :: (twoDigits (t.mon + 1) ++ '-' :: (twoDigits t.mday ++
    ' ' :: (twoDigits t.hour ++ ':' :: (twoDigits t.min ++ ':' :: twoDigits t.sec))))

/-- What `make_timestamp` reads: `time` and `localtime_r`, which can fail, and
`esp_timer_get_time`. -/
structure Clock where
  localtime : Option Tm
  espTimer : Nat
  espTimer_lt : espTimer < 2 ^ 63
  deriving DecidableEq

def makeTimestamp (len : Nat) (clock : Clock) : CStr :=
  match clock.localtime with
  | none => strlcpy len ("uptime-".toList ++ printDecimal (clock.espTimer / 1000000))
  | some t => strlcpy len t.text

/-- `base` in `rotate_stream`. -/
def rotateBase (path : CStr) : CStr :=
  if strstr path "modbus".toList then "modbus_comm_".toList else "system_".toList

/-- The end of a name for the `i`-th try. -/
def collisionText (i : Nat) : CStr :=
  if i = 1 then ".log".toList else '_' :: printDecimal i ++ ".log".toList

def rotatedName (path : CStr) (clock : Clock) (i : Nat) : CStr :=
  rotateBase path ++ makeTimestamp 32 clock ++ collisionText i

/-- `rotated`, in a buffer of 128 bytes. -/
def rotatedPath (path : CStr) (clock : Clock) (i : Nat) : CStr :=
  strlcpy 128 (logPath (rotatedName path clock i))

/-- The loop of `rotate_stream`, with `rounds` tries after the `i`-th. -/
def collisionSuffix (access : Nat → Bool) : Nat → Nat → Nat
  | 0, i => i
  | rounds + 1, i => if access i then collisionSuffix access rounds (i + 1) else i

/-- The path to which `rotate_stream` renames the active file. -/
def rotateTarget (path : CStr) (clock : Clock) (access : CStr → Bool) : CStr :=
  rotatedPath path clock (collisionSuffix (fun i => access (rotatedPath path clock i)) 998 1)

/-- A rotated file: its stream, and when and at which try it was named. -/
structure RotatedLog where
  stream : LogStream
  clock : Clock
  suffix : Nat
  suffix_pos : 1 ≤ suffix
  suffix_le : suffix ≤ 999
  deriving DecidableEq

def RotatedLog.name (f : RotatedLog) : CStr := rotatedName f.stream.path f.clock f.suffix

/-! ## Names that are read -/

def isLogFile (name : CStr) : Bool :=
  (strncmpEq 7 name "system_".toList || strncmpEq 13 name "modbus_comm_".toList) &&
    strstr name ".log".toList

/-- One entry of the directory in `delete_oldest`. -/
def noteOldest (oldest name : CStr) : CStr :=
  if isLogFile name = true ∧ (oldest = [] ∨ name < oldest) then strlcpy 64 name else oldest

/-- `delete_oldest`, with the names in the order of `readdir`: its result, and the names
that are left. -/
def deleteOldest (opened unlinked : Bool) (dir : List CStr) : EspErr × List CStr :=
  let oldest := dir.foldl noteOldest []
  if opened = false ∨ oldest = [] then (.notFound, dir)
  else if unlinked = false then (.fail, dir)
  else (.ok, dir.filter fun name => decide (logPath name ≠ strlcpy 128 (logPath oldest)))

/-- `base` in `log_store_list_files`. -/
def listBase : LogStream → CStr
  | .system => "system_".toList
  | .modbus => "modbus_comm_".toList

/-- The checks of `log_store_list_files` on a name. -/
def isListed (base name : CStr) : Bool :=
  decide (base.length + 4 ≤ name.length) && strncmpEq base.length name base &&
    strncmpEq 4 (name.drop (name.length - 4)) ".log".toList &&
    !(strncmpEq (base.length - 1) name base &&
      strncmpEq 4 (name.drop (base.length - 1)) ".log".toList)

/-- The loop over the directory; `alloc k` says whether there is memory for one name more
than `k`. -/
def collectNames (alloc : Nat → Bool) (base : CStr) : List CStr → List CStr → List CStr
  | [], names => names
  | name :: dir, names =>
    if isListed base name = false then collectNames alloc base dir names
    else if alloc names.length = false then names
    else collectNames alloc base dir (names ++ [name])

/-- `log_store_list_files`: the paths it reports, in order; `dir` is what `readdir` gives if
the directory can be opened. -/
def logStoreListFiles (mounted : Bool) (dir : Option (List CStr)) (alloc : Nat → Bool)
    (stream : LogStream) : List CStr :=
  match mounted, dir with
  | true, some dir =>
    ((collectNames alloc (listBase stream) dir []).mergeSort fun a b => decide (a ≤ b)).map
      (fun name => strlcpy 160 (logPath name)) ++ [stream.path]
  | _, _ => []

/-! ## The parts of a name -/

theorem Tm.text_length (t : Tm) : t.text.length ≤ 25 := by
  have hyear : (printDecimal (1900 + t.year)).length ≤ 10 := by
    have hle := t.year_le
    exact printDecimal_length_le (by decide) (by omega)
  simp only [text, twoDigits, List.length_append, List.length_cons, List.length_nil]
  omega

def Clock.text (clock : Clock) : CStr :=
  match clock.localtime with
  | none => "uptime-".toList ++ printDecimal (clock.espTimer / 1000000)
  | some t => t.text

theorem Clock.text_length (clock : Clock) : clock.text.length ≤ 25 := by
  unfold text
  split
  · have hlt := clock.espTimer_lt
    have hdigits : (printDecimal (clock.espTimer / 1000000)).length ≤ 13 :=
      printDecimal_length_le (by decide) (by omega)
    have hword : "uptime-".toList.length = 7 := by decide
    rw [List.length_append]
    omega
  · exact Tm.text_length _

theorem makeTimestamp_eq (clock : Clock) : makeTimestamp 32 clock = clock.text := by
  have hlength := clock.text_length
  unfold makeTimestamp Clock.text at *
  split <;> rename_i h <;> simp only [h] at hlength <;> exact strlcpy_of_lt (by omega)

theorem Tm.text_head (t : Tm) : ∃ c rest, t.text = c :: rest ∧ '0' ≤ c ∧ c ≤ '9' := by
  obtain ⟨c, digits, hdigits⟩ := List.exists_cons_of_ne_nil
    (Nat.toDigits_ne_nil (n := 1900 + t.year) (b := 10))
  have hc := digit_bounds (show c ∈ printDecimal (1900 + t.year) by
    unfold printDecimal
    rw [hdigits]
    exact List.mem_cons_self)
  unfold text printDecimal
  rw [hdigits]
  exact ⟨c, _, rfl, hc⟩

theorem Clock.text_head (clock : Clock) : ∃ c rest, clock.text = c :: rest ∧ '0' ≤ c := by
  unfold text
  split
  · exact ⟨'u', _, rfl, by decide⟩
  · rename_i t ht
    obtain ⟨c, rest, htext, hc, -⟩ := t.text_head
    exact ⟨c, rest, htext, hc⟩

theorem collisionText_length {i : Nat} (h : i ≤ 999) : (collisionText i).length ≤ 8 := by
  have hdigits : (printDecimal i).length ≤ 3 := printDecimal_length_le (by decide) (by omega)
  have hend : ".log".toList.length = 4 := by decide
  unfold collisionText
  split
  · omega
  · rw [List.length_append, List.length_cons]
    omega

theorem collisionText_end (i : Nat) : ∃ s, collisionText i = s ++ ".log".toList := by
  unfold collisionText
  split
  · exact ⟨[], rfl⟩
  · exact ⟨_, rfl⟩

theorem rotateBase_path (stream : LogStream) : rotateBase stream.path = listBase stream := by
  cases stream <;> decide

namespace RotatedLog

variable (f : RotatedLog)

theorem name_eq : f.name = listBase f.stream ++ f.clock.text ++ collisionText f.suffix := by
  unfold name rotatedName
  rw [rotateBase_path, makeTimestamp_eq]

theorem name_length : f.name.length ≤ 45 := by
  have htext := f.clock.text_length
  have hend := collisionText_length f.suffix_le
  have hbase : (listBase f.stream).length ≤ 12 := by
    cases f.stream <;> decide
  rw [name_eq, List.length_append, List.length_append]
  omega

theorem path_length : (logPath f.name).length ≤ 54 := by
  have hname := f.name_length
  have hdirectory : logDirectory.length = 8 := by decide
  unfold logPath
  rw [List.length_append, List.length_cons]
  omega

end RotatedLog

/-- **`rotate_stream` makes one of these names**, at one of its tries. -/
theorem rotateTarget_name (stream : LogStream) (clock : Clock) (access : CStr → Bool) :
    ∃ f : RotatedLog, f.stream = stream ∧ f.clock = clock ∧
      rotateTarget stream.path clock access = logPath f.name := by
  have hrange (tries : Nat → Bool) (rounds i : Nat) : i ≤ collisionSuffix tries rounds i ∧
      collisionSuffix tries rounds i ≤ i + rounds := by
    induction rounds generalizing i with
    | zero => exact ⟨Nat.le_refl i, Nat.le_refl i⟩
    | succ rounds ih =>
      have hnext := ih (i + 1)
      unfold collisionSuffix
      split
      · omega
      · omega
  have hsuffix := hrange (fun i => access (rotatedPath stream.path clock i)) 998 1
  let f : RotatedLog := ⟨stream, clock, _, hsuffix.1, hsuffix.2⟩
  have hlength := f.path_length
  exact ⟨f, rfl, rfl, strlcpy_of_lt (show (logPath f.name).length < 128 by omega)⟩

/-! ## Known names -/

theorem strncmpEq_append (base rest : CStr) : strncmpEq base.length (base ++ rest) base = true := by
  unfold strncmpEq
  rw [decide_eq_true_eq, List.append_assoc, List.take_left, List.take_left]

namespace RotatedLog

variable (f : RotatedLog)

theorem name_head : ∃ c rest, f.name = listBase f.stream ++ c :: rest ∧ '0' ≤ c := by
  obtain ⟨c, rest, htext, hc⟩ := f.clock.text_head
  exact ⟨c, rest ++ collisionText f.suffix, by rw [name_eq, htext, List.append_assoc]; rfl, hc⟩

theorem name_ne_nil : f.name ≠ [] := by
  obtain ⟨c, rest, hname, -⟩ := f.name_head
  rw [hname]
  exact List.append_ne_nil_of_right_ne_nil _ (List.cons_ne_nil c rest)

theorem name_end : ∃ s, f.name = s ++ ".log".toList := by
  obtain ⟨s, hs⟩ := collisionText_end f.suffix
  exact ⟨listBase f.stream ++ f.clock.text ++ s, by rw [name_eq, hs, List.append_assoc _ s]⟩

/-- **The cleanup knows the names of the system stream only**: 13 bytes of a Modbus name
are never those of the 12-byte prefix and its zero. -/
theorem isLogFile_iff : isLogFile f.name = true ↔ f.stream = .system := by
  obtain ⟨c, rest, hname, hc⟩ := f.name_head
  obtain ⟨s, hend⟩ := f.name_end
  have hlog : strstr f.name ".log".toList = true := by
    unfold strstr
    rw [decide_eq_true_eq, hend]
    exact ⟨s, [], List.append_nil _⟩
  unfold isLogFile
  rw [hlog, Bool.and_true, hname]
  cases f.stream with
  | system =>
    have hsystem : strncmpEq 7 (listBase .system ++ c :: rest) "system_".toList = true :=
      strncmpEq_append "system_".toList _
    rw [hsystem]
    exact iff_of_true rfl rfl
  | modbus =>
    have hsystem : strncmpEq 7 (listBase .modbus ++ c :: rest) "system_".toList = false :=
      decide_eq_false fun h => absurd (List.cons.inj h).1 (by decide)
    have hmodbus : strncmpEq 13 (listBase .modbus ++ c :: rest) "modbus_comm_".toList = false := by
      refine decide_eq_false fun h => ?_
      have htake : (listBase .modbus ++ c :: rest ++ ['\x00']).take 13 =
          "modbus_comm_".toList ++ [c] := rfl
      have hlast : ("modbus_comm_".toList ++ ['\x00']).take 13 = "modbus_comm_".toList ++ ['\x00'] :=
        rfl
      rw [htake, hlast] at h
      obtain rfl := (List.cons.inj (List.append_cancel_left h)).1
      exact absurd hc (by decide)
    rw [hsystem, hmodbus]
    exact iff_of_false (by decide) (by decide)

theorem isListed_self : isListed (listBase f.stream) f.name = true := by
  obtain ⟨c, rest, hname, hc⟩ := f.name_head
  obtain ⟨s, hend⟩ := f.name_end
  have hlength : (listBase f.stream).length + 4 ≤ f.name.length := by
    have hpos : 4 ≤ (collisionText f.suffix).length := by
      obtain ⟨t, ht⟩ := collisionText_end f.suffix
      have hlog : ".log".toList.length = 4 := by decide
      rw [ht, List.length_append]
      omega
    rw [name_eq, List.length_append, List.length_append]
    omega
  have hbase : strncmpEq (listBase f.stream).length f.name (listBase f.stream) = true := by
    rw [hname]
    exact strncmpEq_append _ _
  have hsuffix : strncmpEq 4 (f.name.drop (f.name.length - 4)) ".log".toList = true := by
    have hdrop : f.name.drop (f.name.length - 4) = ".log".toList := by
      have hlog : ".log".toList.length = 4 := by decide
      rw [hend, List.length_append, hlog, Nat.add_sub_cancel, List.drop_left]
    rw [hdrop]
    decide
  have hactive : strncmpEq 4 (f.name.drop ((listBase f.stream).length - 1)) ".log".toList = false := by
    rw [hname]
    cases f.stream with
    | system => exact decide_eq_false fun h => absurd (List.cons.inj h).1 (by decide)
    | modbus => exact decide_eq_false fun h => absurd (List.cons.inj h).1 (by decide)
  unfold isListed
  rw [decide_eq_true hlength, hbase, hsuffix, hactive, Bool.and_false]
  rfl

theorem isListed_other {stream : LogStream} (h : stream ≠ f.stream) :
    isListed (listBase stream) f.name = false := by
  obtain ⟨c, rest, hname, hc⟩ := f.name_head
  have hbase : strncmpEq (listBase stream).length f.name (listBase stream) = false := by
    rw [hname]
    cases hs : f.stream <;> cases stream <;> simp only [hs, ne_eq, not_true_eq_false] at h <;>
      exact decide_eq_false fun heq => absurd (List.cons.inj heq).1 (by decide)
  unfold isListed
  rw [hbase, Bool.and_false]
  rfl

end RotatedLog

theorem collectNames_eq (base : CStr) (dir names : List CStr) :
    collectNames (fun _ => true) base dir names = names ++ dir.filter (isListed base) := by
  induction dir generalizing names with
  | nil => exact (List.append_nil names).symm
  | cons name dir ih =>
    unfold collectNames
    cases hlisted : isListed base name with
    | false => rw [if_pos rfl, ih, List.filter_cons_of_neg (by rw [hlisted]; decide)]
    | true =>
      rw [if_neg (by decide), if_neg (by decide), ih,
        List.filter_cons_of_pos (by rw [hlisted]), List.append_assoc]
      rfl

theorem mem_logStoreListFiles {dir : List CStr} {stream : LogStream} {path : CStr} :
    path ∈ logStoreListFiles true (some dir) (fun _ => true) stream ↔
      (∃ name ∈ dir, isListed (listBase stream) name = true ∧ strlcpy 160 (logPath name) = path) ∨
        path = stream.path := by
  show path ∈ ((collectNames _ _ dir []).mergeSort _).map _ ++ [stream.path] ↔ _
  rw [collectNames_eq, List.nil_append, List.mem_append, List.mem_map, List.mem_singleton]
  simp only [List.mem_mergeSort, List.mem_filter, and_assoc]

/-- `log_store_list_files` reports a file for its stream and for no other. -/
def Reported (f : RotatedLog) : Prop :=
  ∀ (dir : List CStr) (stream : LogStream), f.name ∈ dir →
    (logPath f.name ∈ logStoreListFiles true (some dir) (fun _ => true) stream ↔
      stream = f.stream)

theorem rotated_reported (f : RotatedLog) : Reported f := by
  intro dir stream hmem
  have hlength := f.path_length
  rw [mem_logStoreListFiles]
  constructor
  · intro h
    by_contra hother
    rcases h with ⟨name, -, hlisted, hpath⟩ | hactive
    · have hwhole : strlcpy 160 (logPath name) = logPath name := by
        have hcut := congrArg List.length hpath
        unfold strlcpy at hcut ⊢
        rw [List.length_take] at hcut
        exact List.take_of_length_le (by omega)
      rw [hwhole] at hpath
      obtain rfl := (List.cons.inj (List.append_cancel_left hpath)).2
      rw [f.isListed_other hother] at hlisted
      cases hlisted
    · obtain ⟨c, rest, hname, -⟩ := f.name_head
      rw [hname] at hactive
      cases hs : f.stream <;> rw [hs] at hactive hother <;> cases stream
      · exact hother rfl
      · exact absurd (congrArg (List.drop 9) hactive) fun h =>
          absurd (List.cons.inj h).1 (by decide)
      · exact absurd (congrArg (List.drop 9) hactive) fun h =>
          absurd (List.cons.inj h).1 (by decide)
      · exact hother rfl
  · rintro rfl
    exact .inl ⟨f.name, hmem, f.isListed_self, strlcpy_of_lt (by omega)⟩

/-! ## The order of names -/

/-- Which of two files of one time is named first by the order of names: the first try, and
then by the digits of the try. -/
def TryBefore (i j : Nat) : Prop := j ≠ 1 ∧ (i = 1 ∨ DigitsBefore i j)

instance (i j : Nat) : Decidable (TryBefore i j) := inferInstanceAs (Decidable (_ ∧ _))

/-- The order of names on two times of the calendar: years by their digits. -/
def Tm.Before (t u : Tm) : Prop :=
  DigitsBefore (1900 + t.year) (1900 + u.year) ∨
    t.year = u.year ∧ [t.mon, t.mday, t.hour, t.min, t.sec] < [u.mon, u.mday, u.hour, u.min, u.sec]

/-- The order of names on two uptimes in seconds, with the tries: by digits, but where one
number begins the other it is the try that decides. -/
def UptimeBefore (m i n j : Nat) : Prop :=
  if m = n then TryBefore i j
  else if printDecimal m <+: printDecimal n then i = 1
  else if printDecimal n <+: printDecimal m then j ≠ 1
  else DigitsBefore m n

/-- The order of names on files of one stream: all uptimes come after all calendar times. -/
def SortsBefore (f g : RotatedLog) : Prop :=
  match f.clock.localtime, g.clock.localtime with
  | some t, some u => t.Before u ∨ t = u ∧ TryBefore f.suffix g.suffix
  | some _, none => True
  | none, some _ => False
  | none, none =>
    UptimeBefore (f.clock.espTimer / 1000000) f.suffix (g.clock.espTimer / 1000000) g.suffix

theorem collisionText_lt {i j : Nat} : collisionText i < collisionText j ↔ TryBefore i j := by
  unfold collisionText TryBefore
  by_cases hi : i = 1 <;> by_cases hj : j = 1
  · simp [hi, hj]
  · rw [if_pos hi, if_neg hj]
    exact iff_of_true (.rel (by decide)) ⟨hj, .inl hi⟩
  · rw [if_neg hi, if_pos hj]
    refine iff_of_false (fun h => ?_) fun h => h.1 hj
    rcases List.cons_lt_cons_iff.1 h with hlt | ⟨heq, -⟩
    · exact absurd hlt (show ¬ '_' < '.' by decide)
    · exact absurd heq (show ¬ '_' = '.' by decide)
  · rw [if_neg hi, if_neg hj, List.cons_append, List.cons_append, List.cons_lt_cons_self]
    rcases eq_or_ne i j with rfl | hne
    · refine iff_of_false (lt_irrefl _) ?_
      rintro ⟨-, hfirst | hdigits⟩
      · exact hi hfirst
      · exact lt_irrefl _ hdigits
    · rw [show printDecimal i ++ ".log".toList = printDecimal i ++ '.' :: "log".toList from rfl,
        show printDecimal j ++ ".log".toList = printDecimal j ++ '.' :: "log".toList from rfl,
        printDecimal_append_lt_below hne (by decide)]
      simp [hi, hj]

theorem Tm.text_append_lt {t u : Tm} {a b : CStr} :
    t.text ++ a < u.text ++ b ↔ t.Before u ∨ t = u ∧ a < b := by
  have ht := And.intro t.mon_lt (And.intro t.hour_lt t.min_lt)
  have hu := And.intro u.mon_lt (And.intro u.hour_lt u.min_lt)
  have hday := And.intro t.mday_le u.mday_le
  have hsec := And.intro t.sec_le u.sec_le
  unfold Tm.text Tm.Before
  simp only [List.append_assoc, List.cons_append]
  by_cases hyear : t.year = u.year
  · have hsame : t = u ↔ t.mon = u.mon ∧ t.mday = u.mday ∧ t.hour = u.hour ∧ t.min = u.min ∧
        t.sec = u.sec := by
      rw [Tm.mk.injEq]
      tauto
    have hirrefl : ¬ DigitsBefore (1900 + u.year) (1900 + u.year) := lt_irrefl _
    rw [hyear, append_lt_append_left, List.cons_lt_cons_self,
      twoDigits_append_lt (by omega) (by omega), List.cons_lt_cons_self,
      twoDigits_append_lt (by omega) (by omega), List.cons_lt_cons_self,
      twoDigits_append_lt (by omega) (by omega), List.cons_lt_cons_self,
      twoDigits_append_lt (by omega) (by omega), List.cons_lt_cons_self,
      twoDigits_append_lt (by omega) (by omega), hsame]
    simp only [List.cons_lt_cons_iff, List.not_lt_nil, and_false, or_false, hirrefl, false_or,
      true_and, Nat.add_lt_add_iff_right, Nat.add_right_cancel_iff, lex_part]
  · have hne : 1900 + t.year ≠ 1900 + u.year := by omega
    have hdiffer : t ≠ u := fun h => hyear (congrArg Tm.year h)
    rw [printDecimal_append_lt_below hne (by decide)]
    simp [hyear, hdiffer]

theorem uptime_append_lt {m n i j : Nat} :
    printDecimal m ++ collisionText i < printDecimal n ++ collisionText j ↔
      UptimeBefore m i n j := by
  have hend (k : Nat) : ∃ c rest, collisionText k = c :: rest ∧ (c < '0' ∨ '9' < c) ∧
      (c < '0' ↔ k = 1) ∧ ('9' < c ↔ k ≠ 1) := by
    unfold collisionText
    split
    · rename_i hk
      exact ⟨'.', _, rfl, by decide, iff_of_true (by decide) hk, iff_of_false (by decide) (by simpa)⟩
    · rename_i hk
      exact ⟨'_', _, rfl, by decide, iff_of_false (by decide) hk, iff_of_true (by decide) hk⟩
  unfold UptimeBefore
  by_cases hmn : m = n
  · rw [if_pos hmn, hmn, append_lt_append_left, collisionText_lt]
  · obtain ⟨c, a, hi, hc, hci, -⟩ := hend i
    obtain ⟨d, b, hj, hd, -, hdj⟩ := hend j
    rw [if_neg hmn, hi, hj, printDecimal_append_lt hmn hc hd]
    simp only [hci, hdj]

/-- **The order of names**, on what the names are made of. -/
theorem name_lt_iff {f g : RotatedLog} (h : f.stream = g.stream) :
    f.name < g.name ↔ SortsBefore f g := by
  rw [f.name_eq, g.name_eq, h, List.append_assoc, List.append_assoc, append_lt_append_left]
  unfold SortsBefore Clock.text
  cases hf : f.clock.localtime with
  | none =>
    cases hg : g.clock.localtime with
    | none =>
      simp only [List.append_assoc, append_lt_append_left]
      exact uptime_append_lt
    | some u =>
      obtain ⟨d, rest, htext, -, hd⟩ := u.text_head
      simp only [htext, List.cons_append]
      refine iff_of_false (fun hlt => ?_) id
      rcases List.cons_lt_cons_iff.1 hlt with hhead | ⟨heq, -⟩
      · exact absurd (lt_of_lt_of_le hhead hd) (show ¬ 'u' < '9' by decide)
      · obtain rfl : 'u' = d := heq
        exact absurd hd (by decide)
  | some t =>
    cases hg : g.clock.localtime with
    | none =>
      obtain ⟨c, rest, htext, -, hc⟩ := t.text_head
      simp only [htext, List.cons_append]
      exact iff_of_true (.rel (lt_of_le_of_lt hc (show '9' < 'u' by decide))) trivial
    | some u => simp only [Tm.text_append_lt, collisionText_lt]

/-! ## The cleanup -/

/-- The directory: rotated files, maybe active ones, in the order of `readdir`. -/
def Lists (dir : List CStr) (files : List RotatedLog) : Prop :=
  ∃ active, List.Sublist active activeNames ∧ dir.Perm (files.map RotatedLog.name ++ active)

/-- No file of this stream was rotated earlier; `files` is in the order of rotation. -/
def IsOldest (f : RotatedLog) (files : List RotatedLog) : Prop :=
  files.find? (fun g => decide (g.stream = f.stream)) = some f

/-- In whatever order `readdir` gives the names, `delete_oldest` removes one file, and it is
the oldest of its stream. -/
def RemovesOldest (files : List RotatedLog) : Prop :=
  ∀ dir, Lists dir files → ∃ f ∈ files, IsOldest f files ∧
    deleteOldest true true dir = (.ok, dir.filter fun name => decide (name ≠ f.name))

/-- There is a file of the system stream, and among these the name of the oldest comes
first. -/
def OldestSortsFirst (files : List RotatedLog) : Prop :=
  ∃ f rest, files.filter (fun g => decide (g.stream = .system)) = f :: rest ∧
    ∀ g ∈ rest, SortsBefore f g

theorem foldl_noteOldest {dir : List CStr}
    (h : ∀ name ∈ dir, isLogFile name = true → name ≠ [] ∧ name.length < 64) {o : Option CStr}
    (ho : o ≠ some []) :
    dir.foldl noteOldest (o.getD []) = ((dir.filter isLogFile).foldl noteInsert o).getD [] := by
  induction dir generalizing o with
  | nil => rfl
  | cons name dir ih =>
    have hrest := fun x hx => h x (List.mem_cons_of_mem name hx)
    rw [List.foldl_cons]
    cases hlog : isLogFile name with
    | false =>
      rw [List.filter_cons_of_neg (by rw [hlog]; decide), ← ih hrest ho, noteOldest, hlog,
        if_neg (by simp)]
    | true =>
      obtain ⟨hne, hshort⟩ := h name List.mem_cons_self hlog
      have hcopy : strlcpy 64 name = name := strlcpy_of_lt hshort
      have hnote : noteOldest (o.getD []) name = (noteInsert o name).getD [] := by
        unfold noteOldest noteInsert
        cases o with
        | none => rw [hlog, hcopy, if_pos ⟨rfl, .inl rfl⟩]; rfl
        | some b =>
          have hb : b ≠ [] := fun h => ho (congrArg some h)
          simp only [hlog, hcopy, Option.getD_some, true_and, hb, false_or]
          split_ifs <;> rfl
      have hnext : noteInsert o name ≠ some [] := by
        unfold noteInsert
        cases o with
        | none => exact fun h => hne (Option.some.inj h)
        | some b =>
          simp only
          split_ifs
          · exact fun h => hne (Option.some.inj h)
          · exact ho
      rw [List.filter_cons_of_pos hlog, List.foldl_cons, hnote, ih hrest hnext]

theorem activeNames_unknown {name : CStr} (h : name ∈ activeNames) : isLogFile name = false := by
  have hall : activeNames.all fun name => !isLogFile name := by decide
  simpa using List.all_eq_true.1 hall name h

namespace Lists

variable {dir : List CStr} {files : List RotatedLog}

theorem self (files : List RotatedLog) : Lists (files.map RotatedLog.name) files :=
  ⟨[], List.nil_sublist _, by rw [List.append_nil]⟩

theorem mem (h : Lists dir files) {f : RotatedLog} (hf : f ∈ files) : f.name ∈ dir := by
  obtain ⟨active, -, hperm⟩ := h
  exact hperm.mem_iff.2 (List.mem_append_left _ (List.mem_map_of_mem hf))

theorem filter_perm (h : Lists dir files) : (dir.filter isLogFile).Perm
    ((files.filter fun f => decide (f.stream = .system)).map RotatedLog.name) := by
  obtain ⟨active, hactive, hperm⟩ := h
  have hnone : active.filter isLogFile = [] :=
    List.filter_eq_nil_iff.2 fun name hname => by
      rw [activeNames_unknown (hactive.subset hname)]
      decide
  have hstream : isLogFile ∘ RotatedLog.name = fun f => decide (f.stream = .system) := by
    funext f
    exact Bool.eq_iff_iff.2 (f.isLogFile_iff.trans decide_eq_true_iff.symm)
  refine (hperm.filter isLogFile).trans (List.Perm.of_eq ?_)
  rw [List.filter_append, hnone, List.append_nil, List.filter_map, hstream]

theorem oldest_eq (h : Lists dir files) :
    dir.foldl noteOldest [] = (scanLeast (dir.filter isLogFile)).getD [] := by
  have hshort : ∀ name ∈ dir, isLogFile name = true → name ≠ [] ∧ name.length < 64 := by
    intro name hname hlog
    obtain ⟨f, -, rfl⟩ := List.mem_map.1 (h.filter_perm.mem_iff.1 (List.mem_filter.2 ⟨hname, hlog⟩))
    exact ⟨f.name_ne_nil, Nat.lt_of_le_of_lt f.name_length (by decide)⟩
  exact foldl_noteOldest hshort (o := none) (by simp)

/-- Without a file of the system stream nothing is removed. -/
theorem deleteOldest_none (h : Lists dir files) (hnone : ∀ f ∈ files, f.stream ≠ .system) :
    deleteOldest true true dir = (.notFound, dir) := by
  have hfilter : files.filter (fun f => decide (f.stream = .system)) = [] :=
    List.filter_eq_nil_iff.2 fun f hf => by simpa using hnone f hf
  have hempty : dir.filter isLogFile = [] := by
    have hperm := h.filter_perm
    rw [hfilter] at hperm
    exact hperm.eq_nil
  unfold deleteOldest
  rw [h.oldest_eq, hempty]
  exact if_pos (.inr rfl)

/-- The file whose name comes first is removed. -/
theorem deleteOldest_least (h : Lists dir files) (hdistinct : (files.map RotatedLog.name).Nodup)
    {f : RotatedLog} (hf : f ∈ files) (hsystem : f.stream = .system)
    (hleast : ∀ g ∈ files, g.stream = .system → f.name ≤ g.name) :
    deleteOldest true true dir = (.ok, dir.filter fun name => decide (name ≠ f.name)) := by
  have hnodup : (dir.filter isLogFile).Nodup := by
    refine h.filter_perm.nodup_iff.2 (hdistinct.sublist ?_)
    exact List.filter_sublist.map _
  have hmem {name : CStr} : name ∈ dir.filter isLogFile ↔
      ∃ g ∈ files, g.stream = .system ∧ g.name = name := by
    rw [h.filter_perm.mem_iff]
    simp [and_assoc]
  have hscan : scanLeast (dir.filter isLogFile) = some f.name := by
    refine (scanLeast_eq_some_iff hnodup).2 ⟨hmem.2 ⟨f, hf, hsystem, rfl⟩, fun name hname => ?_⟩
    obtain ⟨g, hg, hgs, rfl⟩ := hmem.1 hname
    exact hleast g hg hgs
  have hne := f.name_ne_nil
  have hpath : strlcpy 128 (logPath f.name) = logPath f.name :=
    strlcpy_of_lt (Nat.lt_of_le_of_lt f.path_length (by decide))
  unfold deleteOldest
  simp only [h.oldest_eq, hscan, Option.getD_some, hne, hpath, Bool.true_eq_false, or_self,
    if_false]
  congr 2
  funext name
  refine Bool.eq_iff_iff.2 ?_
  simp [logPath]

end Lists

/-- The oldest file of a stream is the first of those in the order of rotation. -/
theorem isOldest_iff {f : RotatedLog} {files : List RotatedLog} :
    IsOldest f files ↔
      ∃ rest, files.filter (fun g => decide (g.stream = f.stream)) = f :: rest := by
  unfold IsOldest
  rw [← List.head?_filter]
  cases files.filter (fun g => decide (g.stream = f.stream)) with
  | nil => simp
  | cons g rest => simp

section Cleanup

variable {files : List RotatedLog}

theorem eq_of_name (hdistinct : (files.map RotatedLog.name).Nodup) {f g : RotatedLog}
    (hf : f ∈ files) (hg : g ∈ files) (h : f.name = g.name) : f = g :=
  List.inj_on_of_nodup_map hdistinct hf hg h

/-- **When the cleanup removes the oldest file.** -/
theorem removesOldest_iff (hdistinct : (files.map RotatedLog.name).Nodup) :
    RemovesOldest files ↔ OldestSortsFirst files := by
  have hsystem {f : RotatedLog} :
      f ∈ files.filter (fun g => decide (g.stream = .system)) ↔ f ∈ files ∧ f.stream = .system := by
    simp
  constructor
  · intro h
    have hself := Lists.self files
    obtain ⟨f, hf, holdest, hremoved⟩ := h _ hself
    by_cases hany : ∃ g ∈ files, g.stream = .system
    · obtain ⟨g₀, hg₀, hs₀⟩ := hany
      have hnonempty : (files.filter fun g => decide (g.stream = .system)).toFinset.Nonempty :=
        ⟨g₀, List.mem_toFinset.2 (hsystem.2 ⟨hg₀, hs₀⟩)⟩
      obtain ⟨g, hg, hleast⟩ := Finset.exists_min_image _ RotatedLog.name hnonempty
      obtain ⟨hg, hgs⟩ := hsystem.1 (List.mem_toFinset.1 hg)
      have hleast' : ∀ x ∈ files, x.stream = .system → g.name ≤ x.name := fun x hx hxs =>
        hleast x (List.mem_toFinset.2 (hsystem.2 ⟨hx, hxs⟩))
      have hcleanup := hself.deleteOldest_least hdistinct hg hgs hleast'
      have hsame : f.name = g.name := by
        by_contra hne
        have hkept : f.name ∈ (files.map RotatedLog.name).filter
            fun name => decide (name ≠ g.name) :=
          List.mem_filter.2 ⟨hself.mem hf, decide_eq_true hne⟩
        rw [← (Prod.mk.inj (hremoved.symm.trans hcleanup)).2] at hkept
        simpa using (List.mem_filter.1 hkept).2
      obtain rfl := eq_of_name hdistinct hf hg hsame
      obtain ⟨rest, hrest⟩ := isOldest_iff.1 holdest
      rw [hgs] at hrest
      refine ⟨f, rest, hrest, fun x hx => ?_⟩
      have hxmem := List.mem_cons_of_mem f hx
      rw [← hrest] at hxmem
      obtain ⟨hxf, hxs⟩ := hsystem.1 hxmem
      have hne : f ≠ x := by
        have hnodup : (f :: rest).Nodup := hrest ▸ (hdistinct.of_map _).filter _
        exact fun h => (List.nodup_cons.1 hnodup).1 (h ▸ hx)
      refine (name_lt_iff (hgs.trans hxs.symm)).1 (lt_of_le_of_ne (hleast' x hxf hxs) fun h => ?_)
      exact hne (eq_of_name hdistinct hf hxf h)
    · have hnone := hself.deleteOldest_none fun g hg hgs => hany ⟨g, hg, hgs⟩
      exact absurd (Prod.mk.inj (hremoved.symm.trans hnone)).1 (by decide)
  · rintro ⟨f, rest, hrest, hfirst⟩ dir hlists
    obtain ⟨hf, hfs⟩ := hsystem.1 (hrest ▸ List.mem_cons_self)
    refine ⟨f, hf, isOldest_iff.2 ⟨rest, hfs ▸ hrest⟩, ?_⟩
    refine hlists.deleteOldest_least hdistinct hf hfs fun g hg hgs => ?_
    have hgmem := hsystem.2 ⟨hg, hgs⟩
    rw [hrest] at hgmem
    rcases List.mem_cons.1 hgmem with rfl | hg
    · exact le_refl _
    · exact le_of_lt ((name_lt_iff (hfs.trans hgs.symm)).2 (hfirst g hg))

end Cleanup

/-- `is_log_file` accepts the name, and the listing reports it for its stream only. -/
def Recognised (f : RotatedLog) : Prop := isLogFile f.name = true ∧ Reported f

/-- **Which rotated logs are known, and which sets are cleaned up oldest first.** -/
theorem rotated_logs_iff (f : RotatedLog) (files : List RotatedLog)
    (hdistinct : (files.map RotatedLog.name).Nodup) :
    (Recognised f ↔ f.stream = .system) ∧ (RemovesOldest files ↔ OldestSortsFirst files) := by
  refine ⟨?_, removesOldest_iff hdistinct⟩
  unfold Recognised
  rw [f.isLogFile_iff]
  exact and_iff_left (rotated_reported f)

def noon : Clock := ⟨some ⟨126, 6, 30, 12, 0, 0, by decide, by decide, by decide, by decide,
  by decide, by decide⟩, 0, by decide⟩

/-- Two files of one second, and the Modbus file between them. -/
def noonLogs : List RotatedLog :=
  [⟨.system, noon, 1, by decide, by decide⟩, ⟨.modbus, noon, 1, by decide, by decide⟩,
    ⟨.system, noon, 2, by decide, by decide⟩]

theorem rotated_logs_iff_noon : RemovesOldest noonLogs :=
  (rotated_logs_iff ⟨.system, noon, 1, by decide, by decide⟩ noonLogs (by decide +kernel)).2.2
    ⟨_, [⟨.system, noon, 2, by decide, by decide⟩], rfl, by
      intro g hg
      obtain rfl := List.mem_singleton.1 hg
      exact .inr ⟨rfl, by decide⟩⟩

/-- **A rotated Modbus log is not known**, and the cleanup leaves it. -/
theorem modbus_log_unknown :
    ¬ Recognised ⟨.modbus, noon, 1, by decide, by decide⟩ ∧
      ¬ RemovesOldest [⟨.modbus, noon, 1, by decide, by decide⟩] := by
  refine ⟨fun h => absurd h.1 (by decide +kernel), fun h => ?_⟩
  have hlists := Lists.self [⟨.modbus, noon, 1, by decide, by decide⟩]
  obtain ⟨f, -, -, hremoved⟩ := h _ hlists
  have hnone := hlists.deleteOldest_none fun f hf => by
    obtain rfl := List.mem_singleton.1 hf
    decide
  exact absurd (Prod.mk.inj (hremoved.symm.trans hnone)).1 (by decide)

/-! ## A clock that goes forward -/

def Tm.parts (t : Tm) : List Nat := [t.year, t.mon, t.mday, t.hour, t.min, t.sec]

/-- The files are named by the calendar, before the year 10000, and at one of nine tries. -/
def PlainlyNamed (f : RotatedLog) : Prop :=
  ∃ t, f.clock.localtime = some t ∧ t.year < 8100 ∧ f.suffix ≤ 9

/-- The later file has a later time, or at the same time a later try. -/
def NamedLater (f g : RotatedLog) : Prop :=
  ∀ t u, f.clock.localtime = some t → g.clock.localtime = some u →
    t.parts < u.parts ∨ t = u ∧ f.suffix < g.suffix

theorem sortsBefore_of_later {f g : RotatedLog} (hf : PlainlyNamed f) (hg : PlainlyNamed g)
    (h : NamedLater f g) : SortsBefore f g := by
  obtain ⟨t, ht, htyear, htries⟩ := hf
  obtain ⟨u, hu, huyear, hutries⟩ := hg
  have hdigits (k : Nat) (hk : k < 8100) : (printDecimal (1900 + k)).length = 4 := by
    have hle : (printDecimal (1900 + k)).length ≤ 4 := printDecimal_length_le (by decide) (by omega)
    have hge : ¬ (printDecimal (1900 + k)).length ≤ 3 := fun h => by
      have hsmall := (Nat.length_toDigits_le_iff (by decide) (by decide)).1 h
      omega
    omega
  have hyears := digitsBefore_iff_lt ((hdigits _ htyear).trans (hdigits _ huyear).symm)
  have hone (i : Nat) (hi : 1 ≤ i) (hi' : i ≤ 9) : (printDecimal i).length = 1 := by
    have hle : (printDecimal i).length ≤ 1 := printDecimal_length_le (by decide) (by omega)
    have hpos : 0 < (printDecimal i).length := Nat.length_toDigits_pos
    omega
  unfold SortsBefore
  rw [ht, hu]
  rcases h t u ht hu with hlater | ⟨rfl, hlater⟩
  · left
    unfold Tm.Before
    rw [hyears]
    rcases List.cons_lt_cons_iff.1 hlater with hyear | ⟨hyear, hrest⟩
    · exact .inl (by omega)
    · exact .inr ⟨hyear, hrest⟩
  · have htry := digitsBefore_iff_lt
      ((hone _ f.suffix_pos htries).trans (hone _ g.suffix_pos hutries).symm)
    have hpos := f.suffix_pos
    exact .inr ⟨rfl, by omega, .inr (htry.2 hlater)⟩

/-- **With a clock that goes forward the cleanup removes the oldest system log.** -/
theorem removesOldest_forward {files : List RotatedLog}
    (hdistinct : (files.map RotatedLog.name).Nodup)
    (hany : ∃ f ∈ files, f.stream = .system)
    (hplain : ∀ f ∈ files, f.stream = .system → PlainlyNamed f)
    (hforward : files.Pairwise fun f g => f.stream = .system → g.stream = .system → NamedLater f g) :
    RemovesOldest files := by
  refine (removesOldest_iff hdistinct).2 ?_
  have hsystem {f : RotatedLog} :
      f ∈ files.filter (fun g => decide (g.stream = .system)) ↔ f ∈ files ∧ f.stream = .system := by
    simp
  have hpairs := hforward.sublist (List.filter_sublist (p := fun g => decide (g.stream = .system)))
  cases hlist : files.filter (fun g => decide (g.stream = .system)) with
  | nil =>
    obtain ⟨f, hf, hfs⟩ := hany
    have hmem := hsystem.2 ⟨hf, hfs⟩
    rw [hlist] at hmem
    cases hmem
  | cons f rest =>
    refine ⟨f, rest, hlist, fun g hg => ?_⟩
    rw [hlist] at hsystem hpairs
    obtain ⟨hf, hfs⟩ := hsystem.1 List.mem_cons_self
    obtain ⟨hgf, hgs⟩ := hsystem.1 (List.mem_cons_of_mem f hg)
    exact sortsBefore_of_later (hplain f hf hfs) (hplain g hgf hgs)
      ((List.pairwise_cons.1 hpairs).1 g hg hfs hgs)

end McpGateway.Storage
