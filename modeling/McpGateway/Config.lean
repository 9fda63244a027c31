import Mathlib.Algebra.Order.Ring.Nat
import Mathlib.Data.Fin.Basic
import Mathlib.Data.Finset.Max
import Mathlib.Data.Rat.Floor
import Mathlib.Order.Fin.Basic
import Mathlib.Order.Lattice
import Mathlib.Tactic.Linarith
import McpGateway.Lib.CString

/-!
# Shared configuration

The error codes the firmware returns and the constants of
`gateway_config.h` that the modelled functions read.
-/

namespace McpGateway

open McpGateway.Lib

/-- `esp_err_t`. -/
inductive EspErr
  | ok
  | fail
  | noMem
  | invalidArg
  | invalidState
  | invalidSize
  | notFound
  | notSupported
  | timeout
  | invalidResponse
  | invalidCrc
  | notAllowed
  | nvsNotFound
  | nvsInvalidLength
  deriving DecidableEq, Repr

/-- `esp_err_to_name`. -/
def EspErr.name : EspErr → CStr
  | .ok => "ESP_OK".toList
  | .fail => "ESP_FAIL".toList
  | .noMem => "ESP_ERR_NO_MEM".toList
  | .invalidArg => "ESP_ERR_INVALID_ARG".toList
  | .invalidState => "ESP_ERR_INVALID_STATE".toList
  | .invalidSize => "ESP_ERR_INVALID_SIZE".toList
  | .notFound => "ESP_ERR_NOT_FOUND".toList
  | .notSupported => "ESP_ERR_NOT_SUPPORTED".toList
  | .timeout => "ESP_ERR_TIMEOUT".toList
  | .invalidResponse => "ESP_ERR_INVALID_RESPONSE".toList
  | .invalidCrc => "ESP_ERR_INVALID_CRC".toList
  | .notAllowed => "ESP_ERR_NOT_ALLOWED".toList
  | .nvsNotFound => "ESP_ERR_NVS_NOT_FOUND".toList
  | .nvsInvalidLength => "ESP_ERR_NVS_INVALID_LENGTH".toList

/-- `uint32_t` sequence ids; `+` wraps. -/
abbrev SeqId := Fin (2 ^ 32)

instance seqIdNeZero : NeZero (2 ^ 32) := ⟨by decide⟩

/-! The sizes of buffers. -/

instance neZero8 : NeZero 8 := ⟨by decide⟩
instance neZero12 : NeZero 12 := ⟨by decide⟩
instance neZero16 : NeZero 16 := ⟨by decide⟩
instance neZero32 : NeZero 32 := ⟨by decide⟩
instance neZero33 : NeZero 33 := ⟨by decide⟩
instance neZero40 : NeZero 40 := ⟨by decide⟩
instance neZero48 : NeZero 48 := ⟨by decide⟩
instance neZero64 : NeZero 64 := ⟨by decide⟩
instance neZero65 : NeZero 65 := ⟨by decide⟩
instance neZero96 : NeZero 96 := ⟨by decide⟩
instance neZero128 : NeZero 128 := ⟨by decide⟩

def tcmMaxJsonLen : Nat := 1024
def ammMaxMappingEntries : Nat := 1000
def ammFallbackMappingEntries : Nat := 64
def uifCacheMaxRecords : Nat := 512
def queueRawDataSize : Nat := 8
def queueContextSize : Nat := 4

end McpGateway
