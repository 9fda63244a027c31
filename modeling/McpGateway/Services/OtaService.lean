import McpGateway.Lib.Run
import McpGateway.Runtime.Settings
import McpGateway.Storage.LogNames

/-!
# Firmware updates

`ota_service.c` with the two partitions it updates. `esp_https_ota` leaves an image in the
partition that does not run and makes it the one to boot; the task then compares its digest with
the one that the request named. `ready_verified` says what a reported success means. What runs
after a restart is for the bootloader to choose.
-/

namespace McpGateway.Services

open McpGateway.Lib McpGateway.Runtime McpGateway.Storage

/-! ## Digests -/

def hexDigit (c : Char) : Option UInt8 :=
  let c := c.toLower
  if '0' ≤ c ∧ c ≤ '9' then some (UInt8.ofNat (c.toNat - 48))
  else if 'a' ≤ c ∧ c ≤ 'f' then some (UInt8.ofNat (c.toNat - 97 + 10))
  else none

def hexBytes : CStr → Option (List UInt8)
  | [] => some []
  | [_] => none
  | high :: low :: text =>
    match hexDigit high, hexDigit low, hexBytes text with
    | some hi, some lo, some rest => some ((hi <<< 4 ||| lo) :: rest)
    | _, _, _ => none

def parseSha256 (text : Option CStr) : Option (List UInt8) :=
  match text with
  | none => none
  | some t => if t.length = 64 then hexBytes t else none

/-! ## The partitions -/

inductive OtaSlot
  | ota0 | ota1
  deriving DecidableEq

def OtaSlot.other : OtaSlot → OtaSlot
  | ota0 => ota1
  | ota1 => ota0

/-- What is in the partitions, the one that runs, and the one that `otadata` names. -/
structure OtaFlash (Image : Type*) where
  image : OtaSlot → Image
  running : OtaSlot
  boot : OtaSlot

namespace OtaFlash

variable {Image : Type*}

/-- `esp_ota_get_next_update_partition`. -/
def target (f : OtaFlash Image) : OtaSlot := f.running.other

def write (f : OtaFlash Image) (image : Image) : OtaFlash Image :=
  { f with image := Function.update f.image f.target image }

end OtaFlash

/-! ## The service -/

/-- `ota_state_t`. -/
inductive OtaState
  | idle | downloading | verifying | readyToReboot | failed
  deriving DecidableEq

/-- `ota_status_t`. -/
structure OtaStatus where
  state : OtaState
  lastError : EspErr
  message : CBuf 96

/-- Where `ota_task` stands: not there, not begun, in `esp_https_ota`, or behind it. -/
inductive OtaTask
  | none | created | downloading | verifying
  deriving DecidableEq

structure OtaService (Image : Type*) where
  status : OtaStatus
  task : OtaTask
  url : CBuf 256
  expected : List UInt8
  hasExpected : Bool
  flash : OtaFlash Image

/-- A call of `ota_service_start`, and the steps of its task with what the ESP-IDF answers.
A power loss can leave another image in the partition that is being written. The bootloader,
which can roll back, decides what runs then and what is booted next. -/
inductive OtaStep (Image : Type*)
  | start (config : RuntimeConfig) (url sha : Option CStr) (created : Bool)
  | begin
  | download (err : EspErr) (image : Image)
  | verify (read : EspErr) (restored : Bool)
  | restart (written : Option Image) (running boot : OtaSlot)

namespace OtaService

variable {Image : Type*} (digest : Image → List UInt8)

/-- `ota_service_init`. -/
def boot (flash : OtaFlash Image) : OtaService Image where
  status := ⟨.idle, .ok, .copy 96 "idle".toList⟩
  task := .none
  url := .empty
  expected := List.replicate 32 0
  hasExpected := false
  flash := flash

/-- `ota_service_start`. -/
def start (s : OtaService Image) (config : RuntimeConfig) (url sha : Option CStr) (created : Bool) :
    EspErr × OtaService Image :=
  match url with
  | none => (.invalidState, s)
  | some url =>
    if config.security.otaEnabled = false ∨ s.task ≠ .none then (.invalidState, s)
    else
      let https := strncmpEq 8 url "https://".toList
      let http := strncmpEq 7 url "http://".toList
      if https = false ∧ ¬ (http = true ∧ config.security.otaAllowHttp = true) then (.notAllowed, s)
      else
        match parseSha256 sha with
        | none => (.invalidArg, { s with hasExpected := false })
        | some expected =>
          let s := { s with hasExpected := true, expected := expected, url := .copy 256 url }
          if created then (.ok, { s with task := .created }) else (.noMem, s)

def setStatus (s : OtaService Image) (state : OtaState) (err : EspErr) (message : CStr) :
    OtaService Image :=
  { s with status := ⟨state, err, .copy 96 message⟩ }

/-- The end of `ota_task`. -/
def conclude (s : OtaService Image) (err : EspErr) : OtaService Image :=
  { (if err = .ok then
      s.setStatus .readyToReboot .ok "verified image ready; reboot required".toList
    else s.setStatus .failed err err.name) with task := .none }

/-- `esp_https_ota` returns. -/
def download (s : OtaService Image) (err : EspErr) (image : Image) : OtaService Image :=
  if s.task ≠ .downloading then s
  else
    let s := { s with flash := s.flash.write image }
    if err ≠ .ok then s.conclude err
    else
      let s := { s with flash := { s.flash with boot := s.flash.target } }
      if s.hasExpected then
        { s.setStatus .verifying .ok "verifying SHA-256".toList with task := .verifying }
      else s.conclude .ok

/-- The digest is compared; `restored` is whether `esp_ota_set_boot_partition` succeeds. -/
def verify (s : OtaService Image) (read : EspErr) (restored : Bool) : OtaService Image :=
  if s.task ≠ .verifying then s
  else
    let err :=
      if read ≠ .ok then read
      else if digest (s.flash.image s.flash.target) ≠ s.expected then .invalidCrc
      else .ok
    let boot := if err ≠ .ok ∧ restored = true then s.flash.running else s.flash.boot
    conclude { s with flash := { s.flash with boot := boot } } err

def step (s : OtaService Image) : OtaStep Image → OtaService Image
  | .start config url sha created => (s.start config url sha created).2
  | .begin =>
    if s.task = .created then
      { s.setStatus .downloading .ok "downloading and validating image".toList with
        task := .downloading }
    else s
  | .download err image => s.download err image
  | .verify read restored => s.verify digest read restored
  | .restart written running boot =>
    let flash :=
      match s.task, written with
      | .downloading, some image => s.flash.write image
      | _, _ => s.flash
    .boot { flash with running := running, boot := boot }

end OtaService

/-! ## Digests in text -/

theorem hexBytes_length {text : CStr} {bytes : List UInt8} (h : hexBytes text = some bytes) :
    text.length = 2 * bytes.length := by
  fun_induction hexBytes text generalizing bytes with
  | case1 =>
    cases h
    rfl
  | case2 c => cases h
  | case3 high low text hi lo rest hrest hlow hhigh ih =>
    cases h
    rw [List.length_cons, List.length_cons, List.length_cons, ih hrest]
    omega
  | case4 => cases h

theorem parseSha256_length {text : Option CStr} {bytes : List UInt8}
    (h : parseSha256 text = some bytes) : bytes.length = 32 := by
  unfold parseSha256 at h
  split at h
  · cases h
  · split at h
    · have hlength := hexBytes_length h
      omega
    · cases h

/-! ## Runs -/

/-- The service with the digests that accepted requests named. -/
structure OtaRun (Image : Type*) where
  service : OtaService Image
  accepted : List (List UInt8)

namespace OtaRun

section Runs

variable {Image : Type*} (digest : Image → List UInt8)

def step (r : OtaRun Image) (a : OtaStep Image) : OtaRun Image where
  service := r.service.step digest a
  accepted :=
    match a with
    | .start config url sha created =>
      if (r.service.start config url sha created).1 = .ok then
        r.accepted ++ (parseSha256 sha).toList
      else r.accepted
    | _ => r.accepted

variable {digest} {r : OtaRun Image}

theorem start_cases (s : OtaService Image) (config : RuntimeConfig) (url sha : Option CStr)
    (created : Bool) :
    (∃ expected url', s.task = .none ∧ parseSha256 sha = some expected ∧
      s.start config url sha created =
        (.ok, { s with hasExpected := true, expected := expected, url := url', task := .created })) ∨
    ((s.start config url sha created).1 ≠ .ok ∧
      (s.start config url sha created).2.status = s.status ∧
      (s.start config url sha created).2.task = s.task ∧
      (s.start config url sha created).2.flash = s.flash ∧
      (s.task ≠ .none → (s.start config url sha created).2 = s)) := by
  unfold OtaService.start
  split
  · exact .inr ⟨nofun, rfl, rfl, rfl, fun _ => rfl⟩
  · split
    · exact .inr ⟨nofun, rfl, rfl, rfl, fun _ => rfl⟩
    · rename_i hfree
      obtain ⟨-, hfree⟩ := not_or.1 hfree
      have hnone : s.task = .none := not_not.1 hfree
      dsimp only
      split
      · exact .inr ⟨nofun, rfl, rfl, rfl, fun _ => rfl⟩
      · split
        · exact .inr ⟨nofun, rfl, rfl, rfl, fun h => absurd hnone h⟩
        · rename_i expected hparse
          split
          · exact .inl ⟨expected, _, hnone, hparse, rfl⟩
          · exact .inr ⟨nofun, rfl, rfl, rfl, fun h => absurd hnone h⟩

/-- A download that fails ends the task; one that succeeds goes on to the digest. -/
theorem download_cases {s : OtaService Image} (htask : s.task = .downloading)
    (hexpected : s.hasExpected = true) (err : EspErr) (image : Image) :
    (err ≠ .ok ∧ ∃ status : OtaStatus, status.state = .failed ∧ s.download err image =
      { s with status := status, task := .none, flash := s.flash.write image }) ∨
    (err = .ok ∧ ∃ status : OtaStatus, status.state = .verifying ∧ s.download err image =
      { s with
        status := status
        task := .verifying
        flash := { s.flash.write image with boot := s.flash.target } }) := by
  unfold OtaService.download
  rw [if_neg (not_not.2 htask)]
  by_cases hok : err = .ok
  · refine .inr ⟨hok, ⟨.verifying, .ok, .copy 96 "verifying SHA-256".toList⟩, rfl, ?_⟩
    simp only [hok, ne_eq, not_true_eq_false, if_false, hexpected, if_true]
    rfl
  · refine .inl ⟨hok, ⟨.failed, err, .copy 96 err.name⟩, rfl, ?_⟩
    simp only [ne_eq, hok, not_false_eq_true, if_true, OtaService.conclude, if_false]
    rfl

variable (digest) in
/-- An image with the expected digest is ready; another one is not booted, if that can be undone. -/
theorem verify_cases {s : OtaService Image} (htask : s.task = .verifying) (read : EspErr)
    (restored : Bool) :
    (digest (s.flash.image s.flash.target) = s.expected ∧
      ∃ status : OtaStatus, s.verify digest read restored =
        { s with status := status, task := .none }) ∨
    ∃ status : OtaStatus, status.state = .failed ∧ s.verify digest read restored =
      { s with
        status := status
        task := .none
        flash := { s.flash with boot := if restored then s.flash.running else s.flash.boot } } := by
  unfold OtaService.verify
  rw [if_neg (not_not.2 htask)]
  dsimp only
  generalize herr : (if read ≠ .ok then read
    else if digest (s.flash.image s.flash.target) ≠ s.expected then .invalidCrc else .ok) = err
  by_cases hok : err = .ok
  · left
    have hsame : digest (s.flash.image s.flash.target) = s.expected := by
      by_contra hne
      rw [hok] at herr
      split at herr
      · rename_i hread
        exact hread herr
      · cases herr
    refine ⟨hsame,
      ⟨.readyToReboot, .ok, .copy 96 "verified image ready; reboot required".toList⟩, ?_⟩
    simp only [hok, ne_eq, not_true_eq_false, false_and, if_false, OtaService.conclude, if_true]
    rfl
  · right
    refine ⟨⟨.failed, err, .copy 96 err.name⟩, rfl, ?_⟩
    simp only [ne_eq, hok, not_false_eq_true, true_and, OtaService.conclude, if_false]
    rfl

/-- The task has a digest to compare, and what is ready was compared. -/
structure ReadyInv (digest : Image → List UInt8) (r : OtaRun Image) : Prop where
  named : r.service.task ≠ .none → r.service.hasExpected = true ∧ r.service.expected ∈ r.accepted
  boots : r.service.task = .verifying → r.service.flash.boot = r.service.flash.target
  ready : r.service.status.state = .readyToReboot →
    (r.service.task = .none ∨ r.service.task = .created) ∧
      r.service.flash.boot = r.service.flash.target ∧
      digest (r.service.flash.image r.service.flash.target) ∈ r.accepted

theorem ReadyInv.step (h : ReadyInv digest r) (a : OtaStep Image) :
    ReadyInv digest (r.step digest a) := by
  cases a with
  | start config url sha created =>
    rcases start_cases r.service config url sha created with
      ⟨expected, url', hnone, hparse, hstart⟩ | ⟨hfail, hstatus, htask, hflash, hsame⟩
    · simp only [OtaRun.step, OtaService.step, hstart, hparse, if_true, Option.toList_some]
      refine ⟨fun _ => ⟨rfl, List.mem_append_right _ (List.mem_singleton_self _)⟩, nofun,
        fun hready => ?_⟩
      obtain ⟨-, hboot, hdigest⟩ := h.ready hready
      exact ⟨.inr rfl, hboot, List.mem_append_left _ hdigest⟩
    · simp only [OtaRun.step, OtaService.step, if_neg hfail]
      refine ⟨fun hbusy => ?_, ?_, ?_⟩
      · rw [htask] at hbusy
        rw [hsame hbusy]
        exact h.named hbusy
      · simp only [htask, hflash]
        exact h.boots
      · simp only [hstatus, htask, hflash]
        exact h.ready
  | begin =>
    simp only [OtaRun.step, OtaService.step]
    split
    · rename_i hcreated
      exact ⟨fun _ => h.named (by rw [hcreated]; decide), nofun, nofun⟩
    · exact h
  | download err image =>
    simp only [OtaRun.step, OtaService.step]
    by_cases htask : r.service.task = .downloading
    · have hexpected := h.named (by rw [htask]; decide)
      rcases download_cases htask hexpected.1 err image with
        ⟨-, status, hstatus, heq⟩ | ⟨-, status, hstatus, heq⟩
      · rw [heq]
        exact ⟨fun hbusy => absurd rfl hbusy, nofun, fun hready => absurd (hstatus.symm.trans hready)
          (by decide)⟩
      · rw [heq]
        exact ⟨fun _ => hexpected, fun _ => rfl, fun hready => absurd (hstatus.symm.trans hready)
          (by decide)⟩
    · rw [OtaService.download, if_pos htask]
      exact h
  | verify read restored =>
    simp only [OtaRun.step, OtaService.step]
    by_cases htask : r.service.task = .verifying
    · have hexpected := h.named (by rw [htask]; decide)
      rcases verify_cases digest htask read restored with
        ⟨hdigest, status, heq⟩ | ⟨status, hstatus, heq⟩
      · rw [heq]
        refine ⟨fun hbusy => absurd rfl hbusy, nofun, fun _ => ⟨.inl rfl, h.boots htask, ?_⟩⟩
        show digest (r.service.flash.image r.service.flash.target) ∈ r.accepted
        rw [hdigest]
        exact hexpected.2
      · rw [heq]
        exact ⟨fun hbusy => absurd rfl hbusy, nofun, fun hready => absurd (hstatus.symm.trans hready)
          (by decide)⟩
    · rw [OtaService.verify, if_pos htask]
      exact h
  | restart written running boot =>
    exact ⟨fun hbusy => absurd rfl hbusy, nofun, nofun⟩

theorem readyInv_boot (digest : Image → List UInt8) (flash : OtaFlash Image) :
    ReadyInv digest ⟨.boot flash, []⟩ :=
  ⟨fun hbusy => absurd rfl hbusy, nofun, nofun⟩

/-- An update that is reported ready is the one that will be booted, and its digest was named. -/
def ReadyVerified (digest : Image → List UInt8) (r : OtaRun Image) : Prop :=
  r.service.status.state = .readyToReboot →
    r.service.flash.boot = r.service.flash.target ∧
      digest (r.service.flash.image r.service.flash.target) ∈ r.accepted

/-- **Ready is verified**, in every run with any failures and power losses. -/
theorem ready_verified (digest : Image → List UInt8) (flash : OtaFlash Image)
    (steps : List (OtaStep Image)) :
    ReadyVerified digest (run (OtaRun.step digest) ⟨.boot flash, []⟩ steps) := by
  have hkeep : ∀ s a, ReadyInv digest s → True → ReadyInv digest (s.step digest a) :=
    fun s a h _ => h.step a
  have hend : ReadyInv digest (run (OtaRun.step digest) ⟨.boot flash, []⟩ steps) :=
    inv_run hkeep (readyInv_boot digest flash) (allSteps_of_forall (fun _ _ => trivial) _)
  exact fun hready => (hend.ready hready).2

end Runs

end OtaRun

end McpGateway.Services
