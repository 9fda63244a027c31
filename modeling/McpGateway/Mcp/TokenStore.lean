import Mathlib.Data.UInt
import McpGateway.Config
import McpGateway.Lib.Keyed
import McpGateway.Lib.Run

/-!
# The token store

`mcp_token_store.c`: eight slots of bearer tokens in RAM, each persisted under
its own NVS key, and the administrator's token that is seeded into an empty
store at boot. `token_store_run` says what holds of every run of the store's
operations and reboots.
-/

namespace McpGateway.Mcp

open McpGateway.Lib

/-! ## Data -/

def mcpTokenMax : Nat := 8
def mcpScopeRead : UInt8 := 1
def mcpScopeWrite : UInt8 := 2
def mcpScopeAdmin : UInt8 := 4

/-- `mcp_token_t`. -/
structure McpToken where
  valid : Bool
  enabled : Bool
  id : CBuf 33
  scope : UInt8
  createdAtMs : Nat
  rotatedAtMs : Nat
  digest : CBuf 65
  deriving DecidableEq

def McpToken.zero : McpToken := ⟨false, false, .empty, 0, 0, 0, .empty⟩

/-- `mcp_token_has_scope`. -/
def McpToken.hasScope (t : McpToken) (scope : UInt8) : Bool := decide (t.scope &&& scope ≠ 0)

/-- `s_tokens`, `s_initialised`, whether `s_nvs` is open, and the blobs `tok0`
to `tok7`. -/
structure TokenStore where
  tokens : List McpToken
  initialised : Bool
  nvsOpen : Bool
  nvs : List (Option McpToken)
  deriving DecidableEq

/-- What `mcp_token_store_init` reads of the configuration and the clock, and
whether `nvs_open` succeeds. -/
structure BootEnv where
  passwordSha256 : CBuf 65
  authEnabled : Bool
  nowMs : Nat
  nvsOpens : Bool
  deriving DecidableEq

/-! ## Functions -/

def digestEqual (a b : CStr) : Bool := decide (a.take 64 = b.take 64)

def isHexDigit (c : Char) : Bool :=
  ('0' ≤ c && c ≤ '9') || ('a' ≤ c && c ≤ 'f') || ('A' ≤ c && c ≤ 'F')

def digestIsValid (hex : CStr) : Bool := decide (hex.length = 64) && hex.all isHexDigit

def findEmptySlot (tokens : List McpToken) : Option Nat := tokens.findIdx? (fun t => !t.valid)

def findById (id : CStr) (tokens : List McpToken) : Option Nat :=
  tokens.findIdx? fun t => t.valid && decide (t.id.str = id)

def McpToken.blob (t : McpToken) : Option McpToken := if t.valid then some t else none

/-- A slot changed in RAM and, if NVS is open, persisted by `persist_slot`;
`written` is false when the write fails. -/
def TokenStore.putSlot (s : TokenStore) (i : Nat) (t : McpToken) (written : Bool) : TokenStore :=
  { s with
    tokens := s.tokens.set i t
    nvs := if s.nvsOpen && written then s.nvs.set i t.blob else s.nvs }

/-- A slot as it is read at boot: a blob that is missing or not valid is zeroed. -/
def loadSlot (blob : Option McpToken) : McpToken :=
  match blob with
  | some t => if t.valid then t else .zero
  | none => .zero

def loadTokens (nvs : List (Option McpToken)) : List McpToken := nvs.map loadSlot

def bootstrapToken (env : BootEnv) : McpToken where
  valid := true
  enabled := true
  id := .copy 33 "admin".toList
  scope := mcpScopeRead ||| mcpScopeWrite ||| mcpScopeAdmin
  createdAtMs := env.nowMs
  rotatedAtMs := env.nowMs
  digest := env.passwordSha256

def seeds (env : BootEnv) (tokens : List McpToken) : Bool :=
  !tokens.any McpToken.valid && digestIsValid env.passwordSha256.str && env.authEnabled

/-- The first half of `mcp_token_store_init`: the slots from NVS. -/
def TokenStore.load (env : BootEnv) (s : TokenStore) : TokenStore :=
  { s with
    tokens := if env.nvsOpens then loadTokens s.nvs else List.replicate mcpTokenMax .zero
    nvsOpen := env.nvsOpens
    initialised := true }

def TokenStore.bootstrap (env : BootEnv) (written : Bool) (s : TokenStore) : TokenStore :=
  if seeds env s.tokens then
    match findEmptySlot s.tokens with
    | some i => s.putSlot i (bootstrapToken env) written
    | none => s
  else s

def mcpTokenStoreInit (env : BootEnv) (written : Bool) (s : TokenStore) : TokenStore :=
  if s.initialised then s else (s.load env).bootstrap env written

/-- `mcp_token_authenticate`: the first token found. -/
def mcpTokenAuthenticate (digestHex : CStr) (tokens : List McpToken) :
    EspErr × Option McpToken :=
  if digestIsValid digestHex = false then (.invalidArg, none)
  else
    match tokens.find? fun t => t.valid && t.enabled && digestEqual t.digest.str digestHex with
    | some t => (.ok, some t)
    | none => (.notAllowed, none)

section Sha

variable (sha256Hex : CStr → CBuf 65)

def createdToken (id : CStr) (scope : UInt8) (secret : CStr) (nowMs : Nat) : McpToken where
  valid := true
  enabled := true
  id := .copy 33 id
  scope := scope &&& (mcpScopeRead ||| mcpScopeWrite ||| mcpScopeAdmin)
  createdAtMs := nowMs
  rotatedAtMs := nowMs
  digest := sha256Hex secret

/-- `mcp_token_create`; `none` is a null pointer. -/
def mcpTokenCreate (id : Option CStr) (scope : UInt8) (secret : Option CStr) (nowMs : Nat)
    (written : Bool) (s : TokenStore) : EspErr × TokenStore :=
  match id, secret with
  | some id, some secret =>
    if id = [] ∨ 33 ≤ id.length ∨ secret = [] ∨ scope = 0 then (.invalidArg, s)
    else if (findById id s.tokens).isSome then (.invalidState, s)
    else
      match findEmptySlot s.tokens with
      | none => (.invalidState, s)
      | some i => (.ok, s.putSlot i (createdToken sha256Hex id scope secret nowMs) written)
  | _, _ => (.invalidArg, s)

def McpToken.isAdmin (t : McpToken) : Bool := t.hasScope mcpScopeAdmin

/-- The enabled administrators, as the last-administrator rule counts them. -/
def adminCount (tokens : List McpToken) : Nat :=
  tokens.countP fun t => t.valid && t.enabled && t.isAdmin

def mcpTokenDelete (id : CStr) (written : Bool) (s : TokenStore) : EspErr × TokenStore :=
  match findById id s.tokens with
  | none => (.notFound, s)
  | some i =>
    let lastAdmin := (s.tokens[i]?.getD .zero).isAdmin && decide (adminCount s.tokens ≤ 1)
    if lastAdmin then (.invalidState, s) else (.ok, s.putSlot i .zero written)

def McpToken.rotated (secret : CStr) (nowMs : Nat) (t : McpToken) : McpToken :=
  { t with digest := sha256Hex secret, rotatedAtMs := nowMs }

def mcpTokenRotate (id : CStr) (newSecret : Option CStr) (nowMs : Nat) (written : Bool)
    (s : TokenStore) : EspErr × TokenStore :=
  match findById id s.tokens with
  | none => (.notFound, s)
  | some i =>
    match newSecret with
    | none => (.invalidArg, s)
    | some secret =>
      if secret = [] then (.invalidArg, s)
      else
        let t := (s.tokens[i]?.getD .zero).rotated sha256Hex secret nowMs
        (.ok, s.putSlot i t written)

/-! ## Runs -/

def TokenStore.powerCycle (s : TokenStore) : TokenStore where
  tokens := List.replicate mcpTokenMax .zero
  initialised := false
  nvsOpen := false
  nvs := s.nvs

/-- A call of the store, or a reboot; `written` says whether the slot it changes
is written to NVS. -/
inductive TokenStep
  | create (id : Option CStr) (scope : UInt8) (secret : Option CStr) (nowMs : Nat)
      (written : Bool)
  | delete (id : CStr) (written : Bool)
  | rotate (id : CStr) (newSecret : Option CStr) (nowMs : Nat) (written : Bool)
  | authenticate (digestHex : CStr)
  | init (env : BootEnv) (written : Bool)
  | reboot (env : BootEnv) (written : Bool)
  deriving DecidableEq

def tokenStep (s : TokenStore) : TokenStep → TokenStore
  | .create id scope secret nowMs written =>
    (mcpTokenCreate sha256Hex id scope secret nowMs written s).2
  | .delete id written => (mcpTokenDelete id written s).2
  | .rotate id newSecret nowMs written => (mcpTokenRotate sha256Hex id newSecret nowMs written s).2
  | .authenticate _ => s
  | .init env written => mcpTokenStoreInit env written s
  | .reboot env written => mcpTokenStoreInit env written s.powerCycle

def TokenStep.nvsWorks : TokenStep → Bool
  | .create _ _ _ _ written => written
  | .delete _ written => written
  | .rotate _ _ _ written => written
  | .authenticate _ => true
  | .init env written => env.nvsOpens && written
  | .reboot env written => env.nvsOpens && written

/-- The store of a device whose NVS was erased, before its first boot. -/
def TokenStore.erased : TokenStore where
  tokens := List.replicate mcpTokenMax .zero
  initialised := false
  nvsOpen := false
  nvs := List.replicate mcpTokenMax none

def firstBoot (env : BootEnv) : TokenStore := mcpTokenStoreInit env true .erased

/-! ## What is to hold -/

/-- The valid ids are distinct, and the next boot loads what is in RAM, or seeds
an empty store. -/
structure Consistent (s : TokenStore) : Prop where
  ids : Distinct McpToken.valid (fun t => t.id.str) s.tokens
  nextInit : ∀ env written, env.nvsOpens = true →
    (mcpTokenStoreInit env written s.powerCycle).tokens = s.tokens ∨
      s.tokens.any McpToken.valid = false ∧
        ∃ i, (mcpTokenStoreInit env written s.powerCycle).tokens =
          s.tokens.set i (bootstrapToken env)

/-- The step deletes the token of slot `i`, whose digest is `d`, or gives it
another digest. -/
def Revokes (d : CBuf 65) (i : Nat) (s : TokenStore) : TokenStep → Prop
  | .delete id written =>
    findById id s.tokens = some i ∧ s.tokens[i]?.map McpToken.digest = some d ∧
      (mcpTokenDelete id written s).1 = .ok
  | .rotate id newSecret nowMs written =>
    findById id s.tokens = some i ∧ s.tokens[i]?.map McpToken.digest = some d ∧
      (mcpTokenRotate sha256Hex id newSecret nowMs written s).1 = .ok ∧
        newSecret.map sha256Hex ≠ some d
  | _ => False

/-- The step gives a token the digest `d`. -/
def Installs (d : CBuf 65) (s : TokenStore) : TokenStep → Prop
  | .create id scope secret nowMs written =>
    (mcpTokenCreate sha256Hex id scope secret nowMs written s).1 = .ok ∧
      secret.map sha256Hex = some d
  | .rotate id newSecret nowMs written =>
    (mcpTokenRotate sha256Hex id newSecret nowMs written s).1 = .ok ∧
      newSecret.map sha256Hex = some d
  | .reboot env _ => seeds env (loadTokens s.nvs) = true ∧ env.passwordSha256 = d
  | _ => False

end Sha

/-! ## Loading and searching -/

/-- What holds between the steps. -/
structure StoreInv (s : TokenStore) : Prop where
  initialised : s.initialised = true
  nvsOpen : s.nvsOpen = true
  ids : Distinct McpToken.valid (fun t => t.id.str) s.tokens
  loaded : loadTokens s.nvs = s.tokens

section Search

variable {s : TokenStore} {t : McpToken} {i : Nat} {id : CStr} {env : BootEnv} {written : Bool}

theorem loadSlot_blob (h : t.valid = true ∨ t = .zero) : loadSlot t.blob = t := by
  rcases h with hvalid | rfl
  · unfold McpToken.blob
    rw [if_pos hvalid]
    exact if_pos hvalid
  · rfl

theorem findById_some (h : findById id s.tokens = some i) :
    ∃ t, s.tokens[i]? = some t ∧ t.valid = true ∧ t.id.str = id := by
  obtain ⟨hlt, hfound, -⟩ := List.findIdx?_eq_some_iff_getElem.1 h
  rw [Bool.and_eq_true, decide_eq_true_eq] at hfound
  exact ⟨_, List.getElem?_eq_getElem hlt, hfound⟩

theorem findById_none (h : findById id s.tokens = none) (ht : t ∈ s.tokens)
    (hvalid : t.valid = true) : t.id.str ≠ id := by
  intro hid
  have hnone := List.findIdx?_eq_none_iff.1 h t ht
  rw [hvalid, hid, decide_eq_true rfl] at hnone
  cases hnone

theorem findEmptySlot_some (h : findEmptySlot s.tokens = some i) :
    ∃ t, s.tokens[i]? = some t ∧ t.valid = false := by
  obtain ⟨hlt, hfound, -⟩ := List.findIdx?_eq_some_iff_getElem.1 h
  rw [Bool.not_eq_true'] at hfound
  exact ⟨_, List.getElem?_eq_getElem hlt, hfound⟩

theorem digestEqual_iff (a b : CBuf 65) : digestEqual a.str b.str = true ↔ a = b := by
  have hwhole : ∀ c : CBuf 65, c.str.take 64 = c.str := fun c =>
    List.take_of_length_le (Nat.le_of_lt_succ c.lt)
  unfold digestEqual
  rw [hwhole, hwhole, decide_eq_true_eq]
  constructor
  · intro h
    cases a
    cases b
    cases h
    rfl
  · rintro rfl
    rfl

/-- A digest no valid token has does not authenticate. -/
theorem authenticate_fails {d : CBuf 65} {tokens : List McpToken}
    (h : ∀ t ∈ tokens, t.valid = true → t.digest ≠ d) :
    (mcpTokenAuthenticate d.str tokens).1 ≠ .ok := by
  have hnone : tokens.find? (fun t => t.valid && t.enabled && digestEqual t.digest.str d.str) =
      none := by
    rw [List.find?_eq_none]
    intro t ht hmatch
    rw [Bool.and_eq_true, Bool.and_eq_true, digestEqual_iff] at hmatch
    exact h t ht hmatch.1.1 hmatch.2
  unfold mcpTokenAuthenticate
  rw [hnone]
  split <;> exact EspErr.noConfusion

end Search

/-! ## What a step can do -/

section Steps

variable {sha256Hex : CStr → CBuf 65}

/-- All that a step does to a consistent store while NVS works. -/
inductive Effect (sha256Hex : CStr → CBuf 65) (s : TokenStore) : TokenStep → TokenStore → Prop
  | keep (st) : Effect sha256Hex s st s
  | created {id secret : CStr} {i : Nat} {old : McpToken} (scope nowMs)
      (hslot : s.tokens[i]? = some old) (hempty : old.valid = false) (hshort : id.length < 33)
      (hfree : findById id s.tokens = none)
      (hok : (mcpTokenCreate sha256Hex (some id) scope (some secret) nowMs true s).1 = .ok) :
      Effect sha256Hex s (.create (some id) scope (some secret) nowMs true)
        (s.putSlot i (createdToken sha256Hex id scope secret nowMs) true)
  | deleted {id : CStr} {i : Nat} {old : McpToken} (hfind : findById id s.tokens = some i)
      (hslot : s.tokens[i]? = some old) (hadmin : old.isAdmin = true → 1 < adminCount s.tokens) :
      Effect sha256Hex s (.delete id true) (s.putSlot i .zero true)
  | rotated {id secret : CStr} {i : Nat} {old : McpToken} (nowMs)
      (hfind : findById id s.tokens = some i) (hslot : s.tokens[i]? = some old)
      (hok : (mcpTokenRotate sha256Hex id (some secret) nowMs true s).1 = .ok) :
      Effect sha256Hex s (.rotate id (some secret) nowMs true)
        (s.putSlot i (old.rotated sha256Hex secret nowMs) true)
  | seeded {env : BootEnv} {i : Nat} {old : McpToken} (hseeds : seeds env s.tokens = true)
      (hslot : s.tokens[i]? = some old) (hempty : old.valid = false) :
      Effect sha256Hex s (.reboot env true) (s.putSlot i (bootstrapToken env) true)

variable {s : TokenStore} {st : TokenStep} {env : BootEnv} {written : Bool}

theorem init_powerCycle (h : StoreInv s) (hopens : env.nvsOpens = true) :
    mcpTokenStoreInit env written s.powerCycle = s.bootstrap env written := by
  have hload : s.powerCycle.load env = s := by
    obtain ⟨tokens, initialised, nvsOpen, nvs⟩ := s
    obtain ⟨hinit, hopen, -, hloaded⟩ := h
    dsimp only at hinit hopen hloaded
    subst hinit hopen
    unfold TokenStore.load
    rw [if_pos hopens, hopens]
    dsimp only [TokenStore.powerCycle]
    rw [hloaded]
  unfold mcpTokenStoreInit
  rw [hload]
  exact if_neg Bool.false_ne_true

theorem bootstrap_effect : Effect sha256Hex s (.reboot env true) (s.bootstrap env true) := by
  unfold TokenStore.bootstrap
  split
  · rename_i hseeds
    cases hempty : findEmptySlot s.tokens with
    | none => exact .keep _
    | some i =>
      obtain ⟨old, hslot, hold⟩ := findEmptySlot_some hempty
      exact .seeded hseeds hslot hold
  · exact .keep _

theorem mcpTokenCreate_some (sha256Hex : CStr → CBuf 65) (s : TokenStore) (id secret : CStr)
    (scope : UInt8) (nowMs : Nat) (written : Bool) :
    mcpTokenCreate sha256Hex (some id) scope (some secret) nowMs written s =
      if id = [] ∨ 33 ≤ id.length ∨ secret = [] ∨ scope = 0 then (.invalidArg, s)
      else if (findById id s.tokens).isSome then (.invalidState, s)
      else
        (findEmptySlot s.tokens).elim (.invalidState, s) fun i =>
          (.ok, s.putSlot i (createdToken sha256Hex id scope secret nowMs) written) := by
  unfold mcpTokenCreate
  cases findEmptySlot s.tokens <;> rfl

theorem create_effect (id secret : Option CStr) (scope : UInt8) (nowMs : Nat) :
    Effect sha256Hex s (.create id scope secret nowMs true)
      (mcpTokenCreate sha256Hex id scope secret nowMs true s).2 := by
  cases id with
  | none => exact .keep _
  | some id =>
    cases secret with
    | none => exact .keep _
    | some secret =>
      have hcreate := mcpTokenCreate_some sha256Hex s id secret scope nowMs true
      split at hcreate
      · rw [hcreate]
        exact .keep _
      · rename_i hargs
        rw [not_or, not_or, Nat.not_le] at hargs
        split at hcreate
        · rw [hcreate]
          exact .keep _
        · rename_i hfree
          cases hempty : findEmptySlot s.tokens with
          | none =>
            rw [hcreate, hempty]
            exact .keep _
          | some i =>
            rw [hempty, Option.elim_some] at hcreate
            obtain ⟨old, hslot, hold⟩ := findEmptySlot_some hempty
            have hok := congrArg Prod.fst hcreate
            rw [hcreate]
            exact .created scope nowMs hslot hold hargs.2.1 (Option.not_isSome_iff_eq_none.1 hfree)
              hok

theorem delete_effect (id : CStr) :
    Effect sha256Hex s (.delete id true) (mcpTokenDelete id true s).2 := by
  unfold mcpTokenDelete
  cases hfind : findById id s.tokens with
  | none => exact .keep _
  | some i =>
    obtain ⟨old, hslot, -⟩ := findById_some hfind
    show Effect sha256Hex s _ (if (_ && decide (adminCount s.tokens ≤ 1)) = true then _ else _ :
      EspErr × TokenStore).2
    split
    · exact .keep _
    · rename_i hrule
      refine .deleted hfind hslot fun hadmin => ?_
      rw [hslot, Option.getD_some, hadmin, Bool.true_and, decide_eq_true_eq] at hrule
      omega

theorem rotate_effect (id : CStr) (newSecret : Option CStr) (nowMs : Nat) :
    Effect sha256Hex s (.rotate id newSecret nowMs true)
      (mcpTokenRotate sha256Hex id newSecret nowMs true s).2 := by
  cases hfind : findById id s.tokens with
  | none =>
    have hsame : (mcpTokenRotate sha256Hex id newSecret nowMs true s).2 = s := by
      unfold mcpTokenRotate
      rw [hfind]
    rw [hsame]
    exact .keep _
  | some i =>
    obtain ⟨old, hslot, -⟩ := findById_some hfind
    cases newSecret with
    | none =>
      have hsame : (mcpTokenRotate sha256Hex id none nowMs true s).2 = s := by
        unfold mcpTokenRotate
        rw [hfind]
      rw [hsame]
      exact .keep _
    | some secret =>
      by_cases hempty : secret = []
      · have hsame : (mcpTokenRotate sha256Hex id (some secret) nowMs true s).2 = s := by
          unfold mcpTokenRotate
          rw [hfind]
          dsimp only
          rw [if_pos hempty]
        rw [hsame]
        exact .keep _
      · have hrotated : mcpTokenRotate sha256Hex id (some secret) nowMs true s =
            (.ok, s.putSlot i (old.rotated sha256Hex secret nowMs) true) := by
          unfold mcpTokenRotate
          rw [hfind]
          dsimp only
          rw [if_neg hempty, hslot]
          rfl
        have hok := congrArg Prod.fst hrotated
        rw [hrotated]
        exact .rotated nowMs hfind hslot hok

/-- **The effect of a step.** -/
theorem token_step (h : StoreInv s) (hworks : st.nvsWorks = true) :
    Effect sha256Hex s st (tokenStep sha256Hex s st) := by
  cases st with
  | create id scope secret nowMs written =>
    obtain rfl : written = true := hworks
    exact create_effect id secret scope nowMs
  | delete id written =>
    obtain rfl : written = true := hworks
    exact delete_effect id
  | rotate id newSecret nowMs written =>
    obtain rfl : written = true := hworks
    exact rotate_effect id newSecret nowMs
  | authenticate digestHex => exact .keep _
  | init env written =>
    have hsame : mcpTokenStoreInit env written s = s := if_pos h.initialised
    show Effect sha256Hex s _ (mcpTokenStoreInit env written s)
    rw [hsame]
    exact .keep _
  | reboot env written =>
    obtain ⟨hopens, rfl⟩ := (Bool.and_eq_true _ _).mp hworks
    show Effect sha256Hex s _ (mcpTokenStoreInit env true s.powerCycle)
    rw [init_powerCycle h hopens]
    exact bootstrap_effect

end Steps

/-! ## What the effects keep -/

section Invariant

variable {sha256Hex : CStr → CBuf 65} {s s' : TokenStore} {st : TokenStep} {t old : McpToken}
  {i : Nat} {d : CBuf 65} {env : BootEnv}

@[simp] theorem putSlot_tokens (s : TokenStore) (i : Nat) (t : McpToken) (written : Bool) :
    (s.putSlot i t written).tokens = s.tokens.set i t := rfl

theorem StoreInv.putSlot (h : StoreInv s) (hslot : s.tokens[i]? = some old)
    (ht : t.valid = true ∨ t = .zero)
    (hid : t.valid = true → ∀ (j : Nat) (b : McpToken), j ≠ i → s.tokens[j]? = some b →
      b.valid = true → b.id.str ≠ t.id.str) : StoreInv (s.putSlot i t true) where
  initialised := h.initialised
  nvsOpen := h.nvsOpen
  ids := by
    obtain ⟨hlt, -⟩ := List.getElem?_eq_some_iff.1 hslot
    exact (distinct_set_iff h.ids hlt).2 hid
  loaded := by
    have hnvs : (s.putSlot i t true).nvs = s.nvs.set i t.blob := by
      show (if (s.nvsOpen && true) = true then _ else _) = _
      rw [h.nvsOpen]
      rfl
    rw [hnvs, putSlot_tokens, loadTokens, List.map_set, loadSlot_blob ht]
    exact congrArg (fun l => l.set i t) h.loaded

theorem valid_of_seeds (hseeds : seeds env s.tokens = true) (ht : t ∈ s.tokens) :
    t.valid = false := by
  unfold seeds at hseeds
  rw [Bool.and_eq_true, Bool.and_eq_true, Bool.not_eq_true', List.any_eq_false] at hseeds
  exact Bool.eq_false_iff.2 (hseeds.1.1 t ht)

theorem Effect.inv (heffect : Effect sha256Hex s st s') (h : StoreInv s) : StoreInv s' := by
  cases heffect with
  | keep => exact h
  | @created id secret i old scope nowMs hslot hempty hshort hfree hok =>
    refine h.putSlot hslot (.inl rfl) fun _ j b _ hb hvalid => ?_
    show b.id.str ≠ (CBuf.copy 33 id).str
    rw [CBuf.copy_str_of_lt hshort]
    exact findById_none hfree (List.mem_of_getElem? hb) hvalid
  | deleted hfind hslot hadmin =>
    exact h.putSlot hslot (.inr rfl) fun hfalse => absurd hfalse Bool.false_ne_true
  | @rotated id secret i old nowMs hfind hslot hok =>
    obtain ⟨t, ht, hvalid, hid⟩ := findById_some hfind
    obtain rfl := Option.some.inj (hslot.symm.trans ht)
    refine h.putSlot hslot (.inl hvalid) fun _ j b hj hb hbvalid heq => ?_
    exact hj (h.ids.eq_index hb hslot hbvalid hvalid heq)
  | seeded hseeds hslot hempty =>
    refine h.putSlot hslot (.inl rfl) fun _ j b _ hb hvalid => ?_
    rw [valid_of_seeds hseeds (List.mem_of_getElem? hb)] at hvalid
    cases hvalid

theorem StoreInv.consistent (h : StoreInv s) : Consistent s where
  ids := h.ids
  nextInit env written hopens := by
    rw [init_powerCycle h hopens]
    unfold TokenStore.bootstrap
    split
    · rename_i hseeds
      cases findEmptySlot s.tokens with
      | none => exact .inl rfl
      | some i =>
        have hnone : s.tokens.any McpToken.valid = false := by
          rw [List.any_eq_false]
          exact fun t ht => Bool.eq_false_iff.1 (valid_of_seeds hseeds ht)
        exact .inr ⟨hnone, i, rfl⟩
    · exact .inl rfl

/-- An administrator is left: a slot that counts as one is only emptied while
another one does. -/
theorem Effect.admin (heffect : Effect sha256Hex s st s') (hone : 1 ≤ adminCount s.tokens) :
    1 ≤ adminCount s'.tokens := by
  have hset : ∀ {i : Nat} {old t : McpToken}, s.tokens[i]? = some old →
      adminCount (s.tokens.set i t) = adminCount s.tokens -
        (if (old.valid && old.enabled && old.isAdmin) = true then 1 else 0) +
          if (t.valid && t.enabled && t.isAdmin) = true then 1 else 0 := by
    intro i old t hslot
    obtain ⟨hlt, rfl⟩ := List.getElem?_eq_some_iff.1 hslot
    exact List.countP_set hlt
  cases heffect with
  | keep => exact hone
  | created scope nowMs hslot hempty =>
    rw [putSlot_tokens, hset hslot, hempty]
    exact Nat.le_add_right_of_le hone
  | deleted hfind hslot hadmin =>
    rw [putSlot_tokens, hset hslot]
    split
    · rename_i hcounted
      rw [Bool.and_eq_true] at hcounted
      have hmore := hadmin hcounted.2
      omega
    · omega
  | @rotated id secret i old nowMs hfind hslot =>
    have hsame : (old.rotated sha256Hex secret nowMs).valid = old.valid ∧
        (old.rotated sha256Hex secret nowMs).enabled = old.enabled ∧
          (old.rotated sha256Hex secret nowMs).isAdmin = old.isAdmin := ⟨rfl, rfl, rfl⟩
    rw [putSlot_tokens, hset hslot, hsame.1, hsame.2.1, hsame.2.2]
    split <;> omega
  | seeded hseeds hslot hempty =>
    rw [putSlot_tokens, hset hslot, hempty]
    exact Nat.le_add_right_of_le hone

/-- No valid token has the digest. -/
def Unused (d : CBuf 65) (s : TokenStore) : Prop :=
  ∀ t ∈ s.tokens, t.valid = true → t.digest ≠ d

theorem unused_set (h : ∀ (j : Nat) (b : McpToken), j ≠ i → s.tokens[j]? = some b →
      b.valid = true → b.digest ≠ d)
    (ht : t.valid = true → t.digest ≠ d) (written : Bool) : Unused d (s.putSlot i t written) := by
  intro b hb hvalid
  obtain ⟨j, hj⟩ := List.mem_iff_getElem?.1 hb
  rw [putSlot_tokens, List.getElem?_set] at hj
  split at hj
  · split at hj
    · obtain rfl := Option.some.inj hj
      exact ht hvalid
    · cases hj
  · rename_i hne
    exact h j b (Ne.symm hne) hj hvalid

theorem Effect.unused (heffect : Effect sha256Hex s st s') (h : StoreInv s) (hd : Unused d s)
    (hinstalls : ¬ Installs sha256Hex d s st) : Unused d s' := by
  have hothers : ∀ {i : Nat}, ∀ (j : Nat) (b : McpToken), j ≠ i → s.tokens[j]? = some b →
      b.valid = true → b.digest ≠ d :=
    fun j b _ hb hvalid => hd b (List.mem_of_getElem? hb) hvalid
  cases heffect with
  | keep => exact hd
  | created scope nowMs hslot hempty hshort hfree hok =>
    exact unused_set hothers (fun _ heq => hinstalls ⟨hok, congrArg some heq⟩) true
  | deleted hfind hslot hadmin =>
    exact unused_set hothers (fun hfalse => absurd hfalse Bool.false_ne_true) true
  | rotated nowMs hfind hslot hok =>
    exact unused_set hothers (fun _ heq => hinstalls ⟨hok, congrArg some heq⟩) true
  | seeded hseeds hslot hempty =>
    refine unused_set hothers (fun _ heq => hinstalls ⟨?_, heq⟩) true
    rwa [h.loaded]

theorem mcpTokenDelete_ok {id : CStr} {written : Bool} (hfind : findById id s.tokens = some i)
    (hok : (mcpTokenDelete id written s).1 = .ok) :
    (mcpTokenDelete id written s).2 = s.putSlot i .zero written := by
  unfold mcpTokenDelete at hok ⊢
  rw [hfind] at hok ⊢
  dsimp only at hok ⊢
  split at hok
  · cases hok
  · rename_i hrule
    rw [if_neg hrule]

theorem mcpTokenRotate_ok {id secret : CStr} {nowMs : Nat} {written : Bool}
    (hfind : findById id s.tokens = some i) (hslot : s.tokens[i]? = some old)
    (hok : (mcpTokenRotate sha256Hex id (some secret) nowMs written s).1 = .ok) :
    (mcpTokenRotate sha256Hex id (some secret) nowMs written s).2 =
      s.putSlot i (old.rotated sha256Hex secret nowMs) written := by
  unfold mcpTokenRotate at hok ⊢
  rw [hfind] at hok ⊢
  dsimp only at hok ⊢
  split at hok
  · cases hok
  · rename_i hsecret
    rw [if_neg hsecret, hslot]
    rfl

/-- After a revocation only another valid token can have the digest. -/
theorem revoked_unused (hrevokes : Revokes sha256Hex d i s st)
    (hothers : ∀ (j : Nat) (b : McpToken), j ≠ i → s.tokens[j]? = some b → b.valid = true →
      b.digest ≠ d) : Unused d (tokenStep sha256Hex s st) := by
  cases st with
  | delete id written =>
    obtain ⟨hfind, -, hok⟩ := hrevokes
    show Unused d (mcpTokenDelete id written s).2
    rw [mcpTokenDelete_ok hfind hok]
    exact unused_set hothers (fun hfalse => absurd hfalse Bool.false_ne_true) written
  | rotate id newSecret nowMs written =>
    obtain ⟨hfind, hdigest, hok, hnew⟩ := hrevokes
    obtain ⟨old, hslot, -⟩ := Option.map_eq_some_iff.1 hdigest
    show Unused d (mcpTokenRotate sha256Hex id newSecret nowMs written s).2
    cases newSecret with
    | none =>
      unfold mcpTokenRotate at hok
      rw [hfind] at hok
      cases hok
    | some secret =>
      rw [mcpTokenRotate_ok hfind hslot hok]
      exact unused_set hothers (fun _ heq => hnew (congrArg some heq)) written
  | create => cases hrevokes
  | authenticate => cases hrevokes
  | init => cases hrevokes
  | reboot => cases hrevokes

theorem firstBoot_inv (hopens : env.nvsOpens = true) : StoreInv (firstBoot env) := by
  have hloaded : StoreInv (TokenStore.erased.load env) := by
    unfold TokenStore.load
    rw [if_pos hopens, hopens]
    refine ⟨rfl, rfl, ?_, rfl⟩
    rw [distinct_iff]
    intro i j a b _ ha _ hvalid
    have hzero : a ∈ List.replicate mcpTokenMax McpToken.zero := List.mem_of_getElem? ha
    rw [List.eq_of_mem_replicate hzero] at hvalid
    cases hvalid
  have hboot : firstBoot env = (TokenStore.erased.load env).bootstrap env true := rfl
  rw [hboot]
  have heffect : Effect (fun _ => .empty) (TokenStore.erased.load env) (.reboot env true)
      ((TokenStore.erased.load env).bootstrap env true) := bootstrap_effect
  exact heffect.inv hloaded

end Invariant

/-! ## Runs -/

section Runs

variable {sha256Hex : CStr → CBuf 65}

theorem inv_step (s : TokenStore) (st : TokenStep) (h : StoreInv s)
    (hworks : st.nvsWorks = true) : StoreInv (tokenStep sha256Hex s st) :=
  (token_step h hworks).inv h

theorem inv_steps {s : TokenStore} {steps : List TokenStep} (h : StoreInv s)
    (hworks : ∀ st ∈ steps, st.nvsWorks = true) : StoreInv (run (tokenStep sha256Hex) s steps) :=
  inv_run inv_step h (allSteps_of_forall hworks s)

/-- As long as no step installs it, an unused digest stays unused. -/
theorem unused_steps {d : CBuf 65} {s : TokenStore} {steps : List TokenStep} (h : StoreInv s)
    (hd : Unused d s) (hworks : ∀ st ∈ steps, st.nvsWorks = true)
    (hinstalls : AllSteps (tokenStep sha256Hex) (fun s st => ¬ Installs sha256Hex d s st) s steps) :
    Unused d (run (tokenStep sha256Hex) s steps) := by
  have hkeep : ∀ s st, StoreInv s ∧ Unused d s →
      (TokenStep.nvsWorks st = true ∧ ¬ Installs sha256Hex d s st) →
        StoreInv (tokenStep sha256Hex s st) ∧ Unused d (tokenStep sha256Hex s st) := by
    rintro s st ⟨hinv, hunused⟩ ⟨hst, hnot⟩
    have heffect : Effect sha256Hex s st (tokenStep sha256Hex s st) := token_step hinv hst
    exact ⟨heffect.inv hinv, heffect.unused hinv hunused hnot⟩
  exact (inv_run hkeep ⟨h, hd⟩ ((allSteps_of_forall hworks s).and hinstalls)).2

/-- **The token store over runs.** While NVS works, every step leaves distinct
ids and a flash from which the next boot loads what is in RAM, and never takes
the last enabled administrator away. A digest whose token is deleted or rotated
does not authenticate any more, unless another valid token has it, or a later
call or boot installs it. -/
theorem token_store_run (sha256Hex : CStr → CBuf 65) (env : BootEnv) (hopens : env.nvsOpens = true)
    (steps : List TokenStep) (hworks : ∀ st ∈ steps, st.nvsWorks = true) :
    Consistent (firstBoot env) ∧
    AllSteps (tokenStep sha256Hex)
      (fun s st => Consistent (tokenStep sha256Hex s st) ∧
        (1 ≤ adminCount s.tokens → 1 ≤ adminCount (tokenStep sha256Hex s st).tokens))
      (firstBoot env) steps ∧
    ∀ (before after : List TokenStep) (st : TokenStep) (s : TokenStore) (d : CBuf 65) (i : Nat),
      steps = before ++ st :: after → s = run (tokenStep sha256Hex) (firstBoot env) before →
      Revokes sha256Hex d i s st →
      (∀ (j : Nat) (t : McpToken), j ≠ i → s.tokens[j]? = some t → t.valid = true →
        t.digest ≠ d) →
      AllSteps (tokenStep sha256Hex) (fun s st => ¬ Installs sha256Hex d s st)
        (tokenStep sha256Hex s st) after →
      (mcpTokenAuthenticate d.str
        (run (tokenStep sha256Hex) (firstBoot env) steps).tokens).1 ≠ .ok := by
  have hboot := firstBoot_inv hopens
  refine ⟨hboot.consistent, ?_, ?_⟩
  · refine allSteps_of_inv inv_step (fun s st hinv hst => ?_) hboot (allSteps_of_forall hworks _)
    have heffect : Effect sha256Hex s st (tokenStep sha256Hex s st) := token_step hinv hst
    exact ⟨(inv_step s st hinv hst).consistent, heffect.admin⟩
  · rintro before after st s d i rfl rfl hrevokes hothers hinstalls
    have hbefore : StoreInv (run (tokenStep sha256Hex) (firstBoot env) before) :=
      inv_steps hboot fun a ha => hworks a (List.mem_append_left _ ha)
    have hst : st.nvsWorks = true :=
      hworks st (List.mem_append_right before List.mem_cons_self)
    have hunused := unused_steps (inv_step _ st hbefore hst)
      (revoked_unused hrevokes hothers)
      (fun a ha => hworks a (List.mem_append_right before (List.mem_cons_of_mem st ha)))
      hinstalls
    rw [run_append, run_cons]
    exact authenticate_fails hunused

/-- A digest of 64 times the first character of a secret. -/
def letterDigest (secret : CStr) : CBuf 65 := .copy 65 (List.replicate 64 (secret.headD '0'))

/-- A device whose administrator has the digest of `f`. -/
def letterEnv : BootEnv := ⟨letterDigest ['f'], true, 5, true⟩

/-- Two tokens are created with the secrets `a` and `b`. -/
def tokensCreated : List TokenStep :=
  [.create (some ['r']) mcpScopeRead (some ['a']) 7 true,
    .create (some ['w']) (mcpScopeRead ||| mcpScopeWrite) (some ['b']) 8 true]

/-- The first one gets the secret `c`. -/
def firstRotated : TokenStep := .rotate ['r'] (some ['c']) 9 true

/-- The second one is deleted, a third one created, and the device rebooted. -/
def thirdCreated : List TokenStep :=
  [.delete ['w'] true, .create (some ['v']) mcpScopeRead (some ['d']) 10 true,
    .reboot letterEnv true]

theorem token_store_run_rotated :
    (mcpTokenAuthenticate (letterDigest ['a']).str
      (run (tokenStep letterDigest) (firstBoot letterEnv)
        (tokensCreated ++ firstRotated :: thirdCreated)).tokens).1 ≠ .ok ∧
      (mcpTokenAuthenticate (letterDigest ['c']).str
        (run (tokenStep letterDigest) (firstBoot letterEnv)
          (tokensCreated ++ firstRotated :: thirdCreated)).tokens).1 = .ok := by
  have hothers : ∀ j < 8, j ≠ 1 →
      ((run (tokenStep letterDigest) (firstBoot letterEnv) tokensCreated).tokens[j]?.all fun t =>
        decide (t.digest ≠ letterDigest ['a'])) = true := by
    decide +kernel
  have hstore := (token_store_run letterDigest letterEnv rfl
    (tokensCreated ++ firstRotated :: thirdCreated) (by decide)).2.2
  refine ⟨hstore tokensCreated thirdCreated firstRotated _ (letterDigest ['a']) 1 rfl rfl
    ⟨by decide +kernel, by decide +kernel, by decide +kernel, by decide +kernel⟩ ?_ ?_,
    by decide +kernel⟩
  · intro j t hj ht _
    by_cases hlt : j < 8
    · have hdigest := hothers j hlt hj
      rw [ht] at hdigest
      exact of_decide_eq_true hdigest
    · rw [List.getElem?_eq_none (Nat.not_lt.1 hlt)] at ht
      cases ht
  · refine ⟨id, fun h => ?_, fun h => ?_, trivial⟩
    · exact absurd h.2 (by decide +kernel)
    · exact absurd h.2 (by decide +kernel)

end Runs

end McpGateway.Mcp
