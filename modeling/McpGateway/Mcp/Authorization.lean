import McpGateway.Mcp.TokenStore

/-!
# Authorization

The per-peer rate limiting of `mcp_http.c` and `require_mcp_authorization`:
sixteen buckets count the failed attempts of a peer, and eight of them lock the
peer out for thirty seconds. `refused_own_failures_run` says that a peer is
refused for its own failures only; `lockouts_last_run` says in which runs a
lockout lasts.
-/

namespace McpGateway.Mcp

open McpGateway.Lib

/-! ## Buckets -/

def mcpRlBuckets : Nat := 16
def mcpRlMaxFailures : UInt8 := 8
def mcpRlLockoutMs : Nat := 30000

/-- `mcp_rl_t`; the peer is an IPv4 address, 0 for an empty bucket. -/
structure RlBucket where
  peer : UInt32
  failures : UInt8
  lockUntilMs : Nat
  deriving DecidableEq

/-- `s_rl` in a fresh program. -/
def rlBoot : List RlBucket := List.replicate mcpRlBuckets ⟨0, 0, 0⟩

/-- The bucket `mcp_rl_check` and `mcp_rl_fail` use for a peer: its own, else
the first empty one, else one chosen by the address. -/
def rlIndex (peer : UInt32) (rl : List RlBucket) : Nat :=
  match rl.findIdx? fun b => decide (b.peer = peer) with
  | some i => i
  | none => (rl.findIdx? fun b => decide (b.peer = 0)).getD (peer.toNat % mcpRlBuckets)

/-- That bucket, cleared if it was another peer's. -/
def rlBucket (peer : UInt32) (rl : List RlBucket) : RlBucket :=
  let b := rl[rlIndex peer rl]?.getD ⟨0, 0, 0⟩
  if b.peer ≠ peer then ⟨peer, 0, 0⟩ else b

/-- `mcp_rl_check`: how long the peer is still locked out, if it is. -/
def mcpRlCheck (peer : UInt32) (nowMs : Nat) (rl : List RlBucket) : List RlBucket × Option Nat :=
  let b := rlBucket peer rl
  (rl.set (rlIndex peer rl) b,
    if b.lockUntilMs > nowMs then some (b.lockUntilMs - nowMs) else none)

/-- A bucket after one more failure; the counter wraps. -/
def RlBucket.fail (nowMs : Nat) (b : RlBucket) : RlBucket :=
  let failures := b.failures + 1
  { b with
    failures := failures
    lockUntilMs :=
      if failures ≥ mcpRlMaxFailures then nowMs + mcpRlLockoutMs else b.lockUntilMs }

def mcpRlFail (peer : UInt32) (nowMs : Nat) (rl : List RlBucket) : List RlBucket :=
  rl.set (rlIndex peer rl) ((rlBucket peer rl).fail nowMs)

def RlBucket.clear (b : RlBucket) : RlBucket := { b with failures := 0, lockUntilMs := 0 }

def mcpRlOk (peer : UInt32) (rl : List RlBucket) : List RlBucket :=
  match rl.findIdx? fun b => decide (b.peer = peer) with
  | some i => rl.modify i RlBucket.clear
  | none => rl

/-! ## Attempts -/

/-- `s_rl` and the counters of the status page. -/
structure McpAuth where
  rl : List RlBucket
  authorizedRequests : UInt32
  authFailureTotal : UInt32
  lastAuthorizedMs : Nat
  deriving DecidableEq

def McpAuth.boot : McpAuth := ⟨rlBoot, 0, 0, 0⟩

/-- A request as `require_mcp_authorization` sees it: the switch, the peer and
the clock, the `Authorization` header if there is one, and the tokens. -/
structure Attempt where
  authEnabled : Bool
  peer : UInt32
  nowMs : Nat
  authorization : Option CStr
  tokens : List McpToken
  deriving DecidableEq

/-- What `require_mcp_authorization` answers; `authorized` lets the request pass. -/
inductive AuthAnswer
  | disabled
  | tooMany (retryAfter : Nat)
  | unauthorized
  | authorized (token : McpToken)
  deriving DecidableEq

section Sha

variable (sha256Hex : CStr → CBuf 65)

/-- The token the bearer authenticates as. A header longer than the buffer of
192 bytes is not read. -/
def Attempt.accepted (a : Attempt) : Option McpToken :=
  match a.authorization with
  | some h =>
    if h.length < 192 ∧ h.take 7 = "Bearer ".toList then
      (mcpTokenAuthenticate (sha256Hex (h.drop 7)).str a.tokens).2
    else none
  | none => none

def requireMcpAuthorization (a : Attempt) (s : McpAuth) : McpAuth × AuthAnswer :=
  if a.authEnabled = false then (s, .disabled)
  else
    let (rl, lock) := mcpRlCheck a.peer a.nowMs s.rl
    match lock with
    | some remaining => ({ s with rl := rl }, .tooMany (remaining / 1000 + 1))
    | none =>
      match a.accepted sha256Hex with
      | none =>
        ({ s with
            rl := mcpRlFail a.peer a.nowMs rl
            authFailureTotal := s.authFailureTotal + 1 }, .unauthorized)
      | some token =>
        ({ s with
            rl := mcpRlOk a.peer rl
            authorizedRequests := s.authorizedRequests + 1
            lastAuthorizedMs := a.nowMs }, .authorized token)

/-! ## The record of a run -/

structure RlEntry where
  peer : UInt32
  nowMs : Nat
  answer : AuthAnswer
  deriving DecidableEq

/-- The state, and beside it the attempts so far, newest first. -/
structure RlRun where
  auth : McpAuth
  log : List RlEntry
  deriving DecidableEq

def RlRun.boot : RlRun := ⟨.boot, []⟩

def attemptStep (s : RlRun) (a : Attempt) : RlRun :=
  let (auth, answer) := requireMcpAuthorization sha256Hex a s.auth
  ⟨auth, ⟨a.peer, a.nowMs, answer⟩ :: s.log⟩

end Sha

def RlEntry.failed (peer : UInt32) (e : RlEntry) : Bool :=
  decide (e.peer = peer ∧ e.answer = .unauthorized)

def RlEntry.succeeded (peer : UInt32) (e : RlEntry) : Bool :=
  match e.answer with
  | .authorized _ => decide (e.peer = peer)
  | _ => false

/-- How often a peer failed since its own last success. -/
def ownFailures (peer : UInt32) (log : List RlEntry) : Nat :=
  (log.takeWhile fun e => !e.succeeded peer).countP (RlEntry.failed peer)

def lastFailureMs (peer : UInt32) (log : List RlEntry) : Option Nat :=
  (log.find? (RlEntry.failed peer)).map RlEntry.nowMs

/-! ## The bucket of a peer -/

def RlBucket.used (b : RlBucket) : Bool := decide (b.peer ≠ 0)

section Buckets

variable {rl : List RlBucket} {peer other : UInt32} {b : RlBucket}

theorem rlBucket_peer (peer : UInt32) (rl : List RlBucket) : (rlBucket peer rl).peer = peer := by
  unfold rlBucket
  dsimp only
  split
  · rfl
  · rename_i hpeer
    exact not_not.1 hpeer

theorem used_iff : b.used = true ↔ b.peer ≠ 0 := decide_eq_true_iff

theorem rlIndex_lt (hlen : rl.length = mcpRlBuckets) : rlIndex peer rl < rl.length := by
  unfold rlIndex
  cases hown : rl.findIdx? fun b => decide (b.peer = peer) with
  | some i => exact (List.findIdx?_eq_some_iff_getElem.1 hown).1
  | none =>
    cases hempty : rl.findIdx? fun b => decide (b.peer = 0) with
    | some i => exact (List.findIdx?_eq_some_iff_getElem.1 hempty).1
    | none =>
      rw [hlen]
      exact Nat.mod_lt _ (by decide)

theorem before_rlIndex {j : Nat} (hj : j < rlIndex peer rl) (hget : rl[j]? = some b) :
    b.peer ≠ peer := by
  intro hpeer
  unfold rlIndex at hj
  cases hown : rl.findIdx? fun b => decide (b.peer = peer) with
  | some i =>
    rw [hown] at hj
    obtain ⟨hlt, -, hbefore⟩ := List.findIdx?_eq_some_iff_getElem.1 hown
    have hfree := hbefore j hj
    obtain ⟨hjlt, rfl⟩ := List.getElem?_eq_some_iff.1 hget
    rw [hpeer] at hfree
    exact hfree (decide_eq_true rfl)
  | none =>
    have hfree := List.findIdx?_eq_none_iff.1 hown b (List.mem_of_getElem? hget)
    rw [hpeer] at hfree
    exact absurd hfree (by simp)

/-- Once written with the peer's address, the same bucket is found again. -/
theorem findIdx?_set (hlen : rl.length = mcpRlBuckets) (hpeer : b.peer = peer) :
    (rl.set (rlIndex peer rl) b).findIdx? (fun c => decide (c.peer = peer)) =
      some (rlIndex peer rl) := by
  have hlt : rlIndex peer rl < rl.length := rlIndex_lt hlen
  rw [List.findIdx?_eq_some_iff_getElem]
  refine ⟨by rwa [List.length_set], ?_, fun j hj => ?_⟩
  · rw [List.getElem_set_self, hpeer]
    exact decide_eq_true rfl
  · rw [List.getElem_set_ne (Nat.ne_of_gt hj), decide_eq_true_eq]
    exact before_rlIndex hj (List.getElem?_eq_getElem _)

theorem rlIndex_set (hlen : rl.length = mcpRlBuckets) (hpeer : b.peer = peer) :
    rlIndex peer (rl.set (rlIndex peer rl) b) = rlIndex peer rl := by
  have hfound := findIdx?_set hlen hpeer
  generalize rlIndex peer rl = i at hfound ⊢
  unfold rlIndex
  rw [hfound]

theorem rlBucket_set (hlen : rl.length = mcpRlBuckets) (hpeer : b.peer = peer) :
    rlBucket peer (rl.set (rlIndex peer rl) b) = b := by
  have hlt : rlIndex peer rl < rl.length := rlIndex_lt hlen
  unfold rlBucket
  rw [rlIndex_set hlen hpeer, List.getElem?_set_self hlt, Option.getD_some]
  dsimp only
  rw [if_neg (not_not.2 hpeer)]

theorem own_found {c : RlBucket} (hc : c ∈ rl) (hpeer : c.peer = peer) :
    ∃ d, rl[rlIndex peer rl]? = some d ∧ d.peer = peer := by
  unfold rlIndex
  cases hown : rl.findIdx? fun b => decide (b.peer = peer) with
  | some i =>
    obtain ⟨hi, hfound, -⟩ := List.findIdx?_eq_some_iff_getElem.1 hown
    exact ⟨rl[i], List.getElem?_eq_getElem hi, of_decide_eq_true hfound⟩
  | none =>
    have hfree := List.findIdx?_eq_none_iff.1 hown c hc
    rw [decide_eq_false_iff_not] at hfree
    exact absurd hpeer hfree

/-- Writing the bucket of a peer keeps the peers of the buckets apart. -/
theorem distinct_set (h : Distinct RlBucket.used RlBucket.peer rl)
    (hlen : rl.length = mcpRlBuckets) (hpeer : b.peer = peer) :
    Distinct RlBucket.used RlBucket.peer (rl.set (rlIndex peer rl) b) := by
  rw [distinct_set_iff h (rlIndex_lt hlen)]
  intro hused j c hj hc hcused hsame
  have hcpeer : c.peer = peer := hsame.trans hpeer
  obtain ⟨d, hd, hdpeer⟩ := own_found (List.mem_of_getElem? hc) hcpeer
  have hpeers : d.peer = c.peer := hdpeer.trans hcpeer.symm
  have hdused : d.used = true := by
    rw [used_iff, hpeers]
    exact used_iff.1 hcused
  exact hj (h.eq_index hd hc hdused hcused hpeers).symm

theorem lookup_own (h : Distinct RlBucket.used RlBucket.peer rl)
    (hlen : rl.length = mcpRlBuckets) (hpeer : b.peer = peer) (hne : peer ≠ 0) :
    lookup RlBucket.used RlBucket.peer (rl.set (rlIndex peer rl) b) peer = some b := by
  have hused : b.used = true := by
    rw [used_iff, hpeer]
    exact hne
  have hfound := lookup_set_self (distinct_set h hlen hpeer) (rlIndex_lt hlen) hused
  rwa [hpeer] at hfound

/-- The bucket used for a peer is the peer's own, or a fresh one. -/
theorem rlBucket_eq (h : Distinct RlBucket.used RlBucket.peer rl)
    (hlen : rl.length = mcpRlBuckets) (hpeer : peer ≠ 0) :
    rlBucket peer rl = (lookup RlBucket.used RlBucket.peer rl peer).getD ⟨peer, 0, 0⟩ := by
  obtain ⟨c, hget⟩ : ∃ c, rl[rlIndex peer rl]? = some c :=
    ⟨_, List.getElem?_eq_getElem (rlIndex_lt hlen)⟩
  unfold rlBucket
  rw [hget, Option.getD_some]
  dsimp only
  split
  · rename_i hother
    have hnone : lookup RlBucket.used RlBucket.peer rl peer = none := by
      rw [Option.eq_none_iff_forall_ne_some]
      intro b hb
      obtain ⟨hmem, -, hbpeer⟩ := lookup_mem hb
      obtain ⟨d, hd, hdpeer⟩ := own_found hmem hbpeer
      obtain rfl := Option.some.inj (hget.symm.trans hd)
      exact hother hdpeer
    rw [hnone]
    rfl
  · rename_i hsame
    have hown := not_not.1 hsame
    have hfound : lookup RlBucket.used RlBucket.peer rl peer = some c := by
      rw [lookup_eq_some_iff h, used_iff, hown]
      exact ⟨List.mem_of_getElem? hget, hpeer, rfl⟩
    rw [hfound]
    rfl

end Buckets

/-! ## What an attempt does -/

section Attempts

variable {sha256Hex : CStr → CBuf 65} {s : RlRun} {a : Attempt}

/-- All that an attempt does to the buckets, and its answer. -/
inductive RlEffect (sha256Hex : CStr → CBuf 65) (rl : List RlBucket) (a : Attempt) :
    List RlBucket → AuthAnswer → Prop
  | disabled (hoff : a.authEnabled = false) : RlEffect sha256Hex rl a rl .disabled
  | refused (retry) (hon : a.authEnabled = true) (hlock : a.nowMs <
      (rlBucket a.peer rl).lockUntilMs) :
      RlEffect sha256Hex rl a (rl.set (rlIndex a.peer rl) (rlBucket a.peer rl)) (.tooMany retry)
  | failed (hon : a.authEnabled = true) (hlock : (rlBucket a.peer rl).lockUntilMs ≤ a.nowMs)
      (hno : a.accepted sha256Hex = none) :
      RlEffect sha256Hex rl a
        (rl.set (rlIndex a.peer rl) ((rlBucket a.peer rl).fail a.nowMs)) .unauthorized
  | passed (token) (hon : a.authEnabled = true)
      (hlock : (rlBucket a.peer rl).lockUntilMs ≤ a.nowMs)
      (hyes : a.accepted sha256Hex = some token) :
      RlEffect sha256Hex rl a (rl.set (rlIndex a.peer rl) (rlBucket a.peer rl).clear)
        (.authorized token)

/-- **The effect of an attempt.** -/
theorem attempt_effect (hlen : s.auth.rl.length = mcpRlBuckets) :
    RlEffect sha256Hex s.auth.rl a (attemptStep sha256Hex s a).auth.rl
      (requireMcpAuthorization sha256Hex a s.auth).2 := by
  have hpeer := rlBucket_peer a.peer s.auth.rl
  show RlEffect sha256Hex s.auth.rl a (requireMcpAuthorization sha256Hex a s.auth).1.rl
    (requireMcpAuthorization sha256Hex a s.auth).2
  unfold requireMcpAuthorization
  cases hon : a.authEnabled with
  | false => exact .disabled hon
  | true =>
    rw [if_neg Bool.false_ne_true.symm]
    unfold mcpRlCheck
    dsimp only
    by_cases hlock : (rlBucket a.peer s.auth.rl).lockUntilMs > a.nowMs
    · rw [if_pos hlock]
      exact .refused _ hon hlock
    · have hopen := Nat.not_lt.1 hlock
      rw [if_neg hlock]
      cases haccepted : a.accepted sha256Hex with
      | none =>
        have hfail : mcpRlFail a.peer a.nowMs
            (s.auth.rl.set (rlIndex a.peer s.auth.rl) (rlBucket a.peer s.auth.rl)) =
              s.auth.rl.set (rlIndex a.peer s.auth.rl)
                ((rlBucket a.peer s.auth.rl).fail a.nowMs) := by
          unfold mcpRlFail
          rw [rlIndex_set hlen hpeer, rlBucket_set hlen hpeer, List.set_set]
        dsimp only
        rw [hfail]
        exact .failed hon hopen haccepted
      | some token =>
        have hok : mcpRlOk a.peer
            (s.auth.rl.set (rlIndex a.peer s.auth.rl) (rlBucket a.peer s.auth.rl)) =
              s.auth.rl.set (rlIndex a.peer s.auth.rl) (rlBucket a.peer s.auth.rl).clear := by
          unfold mcpRlOk
          rw [findIdx?_set hlen hpeer]
          dsimp only
          rw [List.modify_eq_set_getElem?, List.getElem?_set_self (rlIndex_lt hlen)]
          exact List.set_set _
        dsimp only
        rw [hok]
        exact .passed token hon hopen haccepted

/-! ## The record -/

variable {peer : UInt32} {e : RlEntry} {log : List RlEntry}

theorem ownFailures_cons (peer : UInt32) (e : RlEntry) (log : List RlEntry) :
    ownFailures peer (e :: log) =
      if e.succeeded peer then 0
      else (if e.failed peer then 1 else 0) + ownFailures peer log := by
  unfold ownFailures
  rw [List.takeWhile_cons]
  cases e.succeeded peer with
  | true => rfl
  | false =>
    show (e :: _).countP _ = _
    rw [List.countP_cons, Nat.add_comm]
    rfl

theorem ownFailures_other (hne : e.peer ≠ peer) : ownFailures peer (e :: log) =
    ownFailures peer log := by
  have hsucceeded : e.succeeded peer = false := by
    unfold RlEntry.succeeded
    split
    · exact decide_eq_false hne
    · rfl
  have hfailed : e.failed peer = false := decide_eq_false fun h => hne h.1
  rw [ownFailures_cons, hsucceeded, hfailed]
  exact Nat.zero_add _

theorem ownFailures_failed (peer : UInt32) (nowMs : Nat) (log : List RlEntry) :
    ownFailures peer (⟨peer, nowMs, .unauthorized⟩ :: log) = ownFailures peer log + 1 := by
  have hfailed : RlEntry.failed peer ⟨peer, nowMs, .unauthorized⟩ = true :=
    decide_eq_true ⟨rfl, rfl⟩
  rw [ownFailures_cons, hfailed]
  exact Nat.add_comm 1 _

theorem ownFailures_passed (peer : UInt32) (nowMs : Nat) (token : McpToken)
    (log : List RlEntry) : ownFailures peer (⟨peer, nowMs, .authorized token⟩ :: log) = 0 := by
  have hpassed : RlEntry.succeeded peer ⟨peer, nowMs, .authorized token⟩ = true :=
    decide_eq_true rfl
  rw [ownFailures_cons, hpassed]
  rfl

theorem ownFailures_disabled (peer other : UInt32) (nowMs : Nat) (log : List RlEntry) :
    ownFailures peer (⟨other, nowMs, .disabled⟩ :: log) = ownFailures peer log := by
  have hfailed : RlEntry.failed peer ⟨other, nowMs, .disabled⟩ = false :=
    decide_eq_false fun h => AuthAnswer.noConfusion h.2
  rw [ownFailures_cons, hfailed]
  exact Nat.zero_add _

theorem ownFailures_refused (peer other : UInt32) (nowMs retry : Nat) (log : List RlEntry) :
    ownFailures peer (⟨other, nowMs, .tooMany retry⟩ :: log) = ownFailures peer log := by
  have hfailed : RlEntry.failed peer ⟨other, nowMs, .tooMany retry⟩ = false :=
    decide_eq_false fun h => AuthAnswer.noConfusion h.2
  rw [ownFailures_cons, hfailed]
  exact Nat.zero_add _

/-! ## Refusals -/

/-- The buckets of different peers differ, and none counts more than the peer's
own failures since its last success. -/
structure RlInv (s : RlRun) : Prop where
  length : s.auth.rl.length = mcpRlBuckets
  distinct : Distinct RlBucket.used RlBucket.peer s.auth.rl
  counted : ∀ b ∈ s.auth.rl, b.used = true → b.failures.toNat ≤ ownFailures b.peer s.log ∧
    (0 < b.lockUntilMs → 8 ≤ ownFailures b.peer s.log)

theorem boot_inv : RlInv .boot where
  length := List.length_replicate
  distinct := by
    rw [distinct_iff]
    intro i j b c _ hb _ hused
    have hzero : b ∈ rlBoot := List.mem_of_getElem? hb
    rw [List.eq_of_mem_replicate hzero] at hused
    cases hused
  counted b hb hused := by
    rw [List.eq_of_mem_replicate hb] at hused
    cases hused

/-- The bucket used for a peer counts no more than the peer's own failures. -/
theorem RlInv.bucket (h : RlInv s) (hpeer : peer ≠ 0) :
    (rlBucket peer s.auth.rl).failures.toNat ≤ ownFailures peer s.log ∧
      (0 < (rlBucket peer s.auth.rl).lockUntilMs → 8 ≤ ownFailures peer s.log) := by
  rw [rlBucket_eq h.distinct h.length hpeer]
  cases hown : lookup RlBucket.used RlBucket.peer s.auth.rl peer with
  | none => exact ⟨Nat.zero_le _, fun hlock => absurd hlock (Nat.lt_irrefl 0)⟩
  | some b =>
    obtain ⟨hb, hused, rfl⟩ := lookup_mem hown
    exact h.counted b hb hused

theorem RlInv.write (h : RlInv s) {b : RlBucket} {auth : McpAuth}
    (hrl : auth.rl = s.auth.rl.set (rlIndex peer s.auth.rl) b) (hpeer : b.peer = peer)
    (hcount : peer ≠ 0 → b.failures.toNat ≤ ownFailures peer (e :: s.log) ∧
      (0 < b.lockUntilMs → 8 ≤ ownFailures peer (e :: s.log)))
    (he : e.peer = peer) : RlInv ⟨auth, e :: s.log⟩ := by
  have hdistinct := distinct_set h.distinct h.length hpeer
  refine ⟨?_, ?_, fun c hc hused => ?_⟩
  · rw [hrl, List.length_set]
    exact h.length
  · rw [hrl]
    exact hdistinct
  · rw [hrl] at hc
    by_cases hcpeer : c.peer = peer
    · have hne : peer ≠ 0 := hcpeer ▸ used_iff.1 hused
      have hown := lookup_own h.distinct h.length hpeer hne
      obtain rfl := Option.some.inj
        (hown.symm.trans ((lookup_eq_some_iff hdistinct).2 ⟨hc, hused, hcpeer⟩))
      rw [hcpeer]
      exact hcount hne
    · rcases List.mem_or_eq_of_mem_set hc with hold | rfl
      · rw [ownFailures_other (fun heq => hcpeer (heq.symm.trans he))]
        exact h.counted c hold hused
      · exact absurd hpeer hcpeer

theorem RlInv.step (h : RlInv s) (a : Attempt) : RlInv (attemptStep sha256Hex s a) := by
  have heffect : RlEffect sha256Hex s.auth.rl a (attemptStep sha256Hex s a).auth.rl
    (requireMcpAuthorization sha256Hex a s.auth).2 := attempt_effect h.length
  show RlInv ⟨(attemptStep sha256Hex s a).auth,
    ⟨a.peer, a.nowMs, (requireMcpAuthorization sha256Hex a s.auth).2⟩ :: s.log⟩
  generalize (attemptStep sha256Hex s a).auth = auth at heffect ⊢
  generalize (requireMcpAuthorization sha256Hex a s.auth).2 = answer at heffect ⊢
  have hpeer := rlBucket_peer a.peer s.auth.rl
  generalize hrl : auth.rl = rl at heffect
  cases heffect with
  | disabled =>
    refine ⟨hrl ▸ h.length, hrl ▸ h.distinct, fun b hb hused => ?_⟩
    rw [ownFailures_disabled]
    exact h.counted b (hrl ▸ hb) hused
  | refused retry =>
    refine h.write hrl hpeer (fun hne => ?_) rfl
    rw [ownFailures_refused]
    exact h.bucket hne
  | failed hon hlock =>
    refine h.write hrl hpeer (fun hne => ?_) rfl
    obtain ⟨hfailures, hlocked⟩ := h.bucket hne
    rw [ownFailures_failed]
    have hcounter : ((rlBucket a.peer s.auth.rl).fail a.nowMs).failures.toNat ≤
        ownFailures a.peer s.log + 1 := by
      show ((rlBucket a.peer s.auth.rl).failures + 1).toNat ≤ _
      rw [UInt8.toNat_add]
      exact (Nat.mod_le _ _).trans (Nat.add_le_add_right hfailures 1)
    refine ⟨hcounter, fun hlock => ?_⟩
    by_cases hmax : (rlBucket a.peer s.auth.rl).failures + 1 ≥ mcpRlMaxFailures
    · exact (UInt8.le_iff_toNat_le.1 hmax).trans hcounter
    · have hsame : ((rlBucket a.peer s.auth.rl).fail a.nowMs).lockUntilMs =
          (rlBucket a.peer s.auth.rl).lockUntilMs := if_neg hmax
      rw [hsame] at hlock
      exact (hlocked hlock).trans (Nat.le_succ _)
  | passed token =>
    exact h.write hrl hpeer (fun _ => ⟨Nat.zero_le _, fun hlock => absurd hlock (Nat.lt_irrefl 0)⟩)
      rfl

/-- **A peer is refused for its own failures.** In every run of attempts, at any
times, a peer with an address is refused only after eight failures of its own
since its last success. -/
theorem refused_own_failures_run (attempts : List Attempt) :
    AllSteps (attemptStep sha256Hex)
      (fun s a => a.peer ≠ 0 → ∀ retry,
        (requireMcpAuthorization sha256Hex a s.auth).2 = .tooMany retry →
          8 ≤ ownFailures a.peer s.log) .boot attempts := by
  refine allSteps_of_inv (G := fun _ _ => True) (fun s a hinv _ => hinv.step a)
    (fun s a hinv _ hne retry hrefused => ?_) boot_inv (allSteps_of_forall (fun _ _ => trivial) _)
  have heffect : RlEffect sha256Hex s.auth.rl a (attemptStep sha256Hex s a).auth.rl
    (requireMcpAuthorization sha256Hex a s.auth).2 := attempt_effect hinv.length
  rw [hrefused] at heffect
  generalize (attemptStep sha256Hex s a).auth.rl = rl at heffect
  cases heffect with
  | refused _ _ hlock => exact (hinv.bucket hne).2 (Nat.zero_lt_of_lt hlock)

/-! ## Lockouts -/

/-- The peer failed eight times in a row, the last time less than thirty seconds
before `nowMs`. -/
def LockoutRuns (peer : UInt32) (nowMs : Nat) (log : List RlEntry) : Prop :=
  8 ≤ ownFailures peer log ∧
    ∃ last, lastFailureMs peer log = some last ∧ nowMs < last + mcpRlLockoutMs

def lastMs (log : List RlEntry) : Nat := log.head?.elim 0 RlEntry.nowMs

variable (sha256Hex) in
/-- Whatever a peer with an address sends while its lockout runs is refused. -/
def LockoutsLast (s : RlRun) : Prop :=
  ∀ a : Attempt, a.authEnabled = true → a.peer ≠ 0 → lastMs s.log ≤ a.nowMs →
    LockoutRuns a.peer a.nowMs s.log →
      ∃ retry, (requireMcpAuthorization sha256Hex a s.auth).2 = .tooMany retry

/-- The attempt takes over the bucket of a peer whose lockout still runs. -/
def TakesLockedBucket (s : RlRun) (a : Attempt) : Prop :=
  ∃ b, s.auth.rl[rlIndex a.peer s.auth.rl]? = some b ∧ b.peer ≠ 0 ∧ b.peer ≠ a.peer ∧
    LockoutRuns b.peer a.nowMs s.log

variable (sha256Hex) in
/-- The bucket of a peer that fails for at least the eighth time in a row has
counted seven failures before, and not 255. -/
def CountedFailures (s : RlRun) (a : Attempt) : Prop :=
  a.peer ≠ 0 → a.accepted sha256Hex = none →
    (rlBucket a.peer s.auth.rl).lockUntilMs ≤ a.nowMs → 7 ≤ ownFailures a.peer s.log →
      7 ≤ (rlBucket a.peer s.auth.rl).failures.toNat ∧
        (rlBucket a.peer s.auth.rl).failures.toNat ≤ 254

variable (sha256Hex) in
/-- When an attempt leaves the lockouts in force. -/
def KeepsLockouts (s : RlRun) (a : Attempt) : Prop :=
  a.authEnabled = true → ¬ TakesLockedBucket s a ∧ CountedFailures sha256Hex s a

/-- The peer's bucket locks it out at least until `untilMs`. -/
def LockedUntil (peer : UInt32) (untilMs : Nat) (rl : List RlBucket) : Prop :=
  ∃ b, lookup RlBucket.used RlBucket.peer rl peer = some b ∧ untilMs ≤ b.lockUntilMs

theorem lastFailureMs_failed (peer : UInt32) (nowMs : Nat) (log : List RlEntry) :
    lastFailureMs peer (⟨peer, nowMs, .unauthorized⟩ :: log) = some nowMs := by
  have hfailed : RlEntry.failed peer ⟨peer, nowMs, .unauthorized⟩ = true :=
    decide_eq_true ⟨rfl, rfl⟩
  unfold lastFailureMs
  rw [List.find?_cons, hfailed]
  rfl

theorem lastFailureMs_cons (h : e.failed peer = false) :
    lastFailureMs peer (e :: log) = lastFailureMs peer log := by
  unfold lastFailureMs
  rw [List.find?_cons, h]

theorem refused_iff (h : RlInv s) (hon : a.authEnabled = true) :
    (∃ retry, (requireMcpAuthorization sha256Hex a s.auth).2 = .tooMany retry) ↔
      a.nowMs < (rlBucket a.peer s.auth.rl).lockUntilMs := by
  have heffect : RlEffect sha256Hex s.auth.rl a (attemptStep sha256Hex s a).auth.rl
    (requireMcpAuthorization sha256Hex a s.auth).2 := attempt_effect h.length
  generalize (attemptStep sha256Hex s a).auth.rl = rl at heffect
  generalize (requireMcpAuthorization sha256Hex a s.auth).2 = answer at heffect ⊢
  cases heffect with
  | disabled hoff =>
    rw [hon] at hoff
    cases hoff
  | refused retry _ hlock => exact ⟨fun _ => hlock, fun _ => ⟨retry, rfl⟩⟩
  | failed _ hlock =>
    refine ⟨?_, fun hlt => absurd hlt (Nat.not_lt.2 hlock)⟩
    rintro ⟨retry, hfalse⟩
    cases hfalse
  | passed token _ hlock =>
    refine ⟨?_, fun hlt => absurd hlt (Nat.not_lt.2 hlock)⟩
    rintro ⟨retry, hfalse⟩
    cases hfalse

/-- Lockouts last if the buckets lock out the peers whose lockout runs. -/
theorem lockoutsLast_iff (h : RlInv s) : LockoutsLast sha256Hex s ↔
    ∀ peer, peer ≠ 0 → 8 ≤ ownFailures peer s.log →
      ∀ last, lastFailureMs peer s.log = some last → lastMs s.log < last + mcpRlLockoutMs →
        LockedUntil peer (last + mcpRlLockoutMs) s.auth.rl := by
  constructor
  · intro hlast peer hne hmany last hfailed hnow
    have hruns : LockoutRuns peer (last + mcpRlLockoutMs - 1) s.log :=
      ⟨hmany, last, hfailed, by omega⟩
    have hrefused := hlast ⟨true, peer, last + mcpRlLockoutMs - 1, none, []⟩ rfl hne
      (Nat.le_sub_one_of_lt hnow) hruns
    have hlock := (refused_iff h rfl).1 hrefused
    dsimp only at hlock
    rw [rlBucket_eq h.distinct h.length hne] at hlock
    cases hown : lookup RlBucket.used RlBucket.peer s.auth.rl peer with
    | none =>
      rw [hown] at hlock
      exact absurd hlock (Nat.not_lt_zero _)
    | some b =>
      rw [hown, Option.getD_some] at hlock
      exact ⟨b, hown, by omega⟩
  · rintro hlocked a hon hne hnow ⟨hmany, last, hfailed, hruns⟩
    obtain ⟨b, hown, huntil⟩ := hlocked a.peer hne hmany last hfailed (hnow.trans_lt hruns)
    rw [refused_iff h hon, rlBucket_eq h.distinct h.length hne, hown]
    exact hruns.trans_le huntil

/-- What `lockoutsLast_iff` asks for one peer. -/
def PeerLocked (peer : UInt32) (nowMs : Nat) (log : List RlEntry) (rl : List RlBucket) : Prop :=
  8 ≤ ownFailures peer log → ∀ last, lastFailureMs peer log = some last →
    nowMs < last + mcpRlLockoutMs → LockedUntil peer (last + mcpRlLockoutMs) rl

/-- The other peers stay locked out if no locked bucket is taken over. -/
theorem others_locked_iff (h : RlInv s) {b : RlBucket} (hb : b.peer = a.peer)
    (hheld : ∀ peer, peer ≠ 0 → PeerLocked peer a.nowMs s.log s.auth.rl) :
    (∀ peer, peer ≠ 0 → peer ≠ a.peer →
      PeerLocked peer a.nowMs s.log (s.auth.rl.set (rlIndex a.peer s.auth.rl) b)) ↔
        ¬ TakesLockedBucket s a := by
  obtain ⟨c, hget⟩ : ∃ c, s.auth.rl[rlIndex a.peer s.auth.rl]? = some c :=
    ⟨_, List.getElem?_eq_getElem (rlIndex_lt h.length)⟩
  have hlookup : ∀ peer, peer ≠ a.peer →
      lookup RlBucket.used RlBucket.peer (s.auth.rl.set (rlIndex a.peer s.auth.rl) b) peer =
        if c.used = true ∧ c.peer = peer then none
        else lookup RlBucket.used RlBucket.peer s.auth.rl peer := by
    intro peer hother
    exact lookup_set_other h.distinct (distinct_set h.distinct h.length hb) hget
      fun _ heq => hother (heq.symm.trans hb)
  constructor
  · rintro hlocked ⟨d, hd, hne, hother, hmany, last, hfailed, hruns⟩
    obtain rfl := Option.some.inj (hget.symm.trans hd)
    obtain ⟨b', hb', -⟩ := hlocked c.peer hne hother hmany last hfailed hruns
    rw [hlookup c.peer hother, if_pos ⟨used_iff.2 hne, rfl⟩] at hb'
    cases hb'
  · intro hfree peer hne hother hmany last hfailed hruns
    obtain ⟨b', hb', huntil⟩ := hheld peer hne hmany last hfailed hruns
    refine ⟨b', ?_, huntil⟩
    rw [hlookup peer hother, if_neg, hb']
    rintro ⟨hused, rfl⟩
    exact hfree ⟨c, hget, hne, hother, hmany, last, hfailed, hruns⟩

/-- A failure locks its peer out for thirty seconds if the counter says so. -/
theorem failed_locked_iff (h : RlInv s) (hne : a.peer ≠ 0)
    (hopen : (rlBucket a.peer s.auth.rl).lockUntilMs ≤ a.nowMs) :
    LockedUntil a.peer (a.nowMs + mcpRlLockoutMs)
        (s.auth.rl.set (rlIndex a.peer s.auth.rl) ((rlBucket a.peer s.auth.rl).fail a.nowMs)) ↔
      7 ≤ (rlBucket a.peer s.auth.rl).failures.toNat ∧
        (rlBucket a.peer s.auth.rl).failures.toNat ≤ 254 := by
  have hpeer := rlBucket_peer a.peer s.auth.rl
  generalize rlBucket a.peer s.auth.rl = b at hopen hpeer ⊢
  have hown : lookup RlBucket.used RlBucket.peer
      (s.auth.rl.set (rlIndex a.peer s.auth.rl) (b.fail a.nowMs)) a.peer =
        some (b.fail a.nowMs) := lookup_own h.distinct h.length hpeer hne
  have hcounter : b.failures + 1 ≥ mcpRlMaxFailures ↔
      7 ≤ b.failures.toNat ∧ b.failures.toNat ≤ 254 := by
    have hlt := b.failures.toNat_lt
    have hmax : mcpRlMaxFailures.toNat = 8 := rfl
    have hone : (1 : UInt8).toNat = 1 := rfl
    rw [ge_iff_le, UInt8.le_iff_toNat_le, UInt8.toNat_add, hmax, hone]
    omega
  rw [← hcounter]
  constructor
  · rintro ⟨b', hb', huntil⟩
    obtain rfl := Option.some.inj (hown.symm.trans hb')
    by_contra hfew
    have hsame : (b.fail a.nowMs).lockUntilMs = b.lockUntilMs := if_neg hfew
    rw [hsame] at huntil
    have hpos : 0 < mcpRlLockoutMs := by decide
    omega
  · intro hmany
    exact ⟨_, hown, Nat.le_of_eq (if_pos hmany).symm⟩

/-- An attempt concerns the lockout of its own peer, and the buckets of the others. -/
theorem peersLocked_cons {rl : List RlBucket} {answer : AuthAnswer} :
    (∀ peer, peer ≠ 0 → PeerLocked peer a.nowMs (⟨a.peer, a.nowMs, answer⟩ :: s.log) rl) ↔
      (∀ peer, peer ≠ 0 → peer ≠ a.peer → PeerLocked peer a.nowMs s.log rl) ∧
        (a.peer ≠ 0 → PeerLocked a.peer a.nowMs (⟨a.peer, a.nowMs, answer⟩ :: s.log) rl) := by
  have hother : ∀ peer, peer ≠ a.peer →
      (PeerLocked peer a.nowMs (⟨a.peer, a.nowMs, answer⟩ :: s.log) rl ↔
        PeerLocked peer a.nowMs s.log rl) := by
    intro peer hne
    unfold PeerLocked
    rw [ownFailures_other (Ne.symm hne),
      lastFailureMs_cons (decide_eq_false fun hfailed => hne hfailed.1.symm)]
  constructor
  · intro hall
    exact ⟨fun peer hne hnot => (hother peer hnot).1 (hall peer hne), hall a.peer⟩
  · rintro ⟨hothers, hown⟩ peer hne
    by_cases hsame : peer = a.peer
    · rw [hsame] at hne ⊢
      exact hown hne
    · exact (hother peer hsame).2 (hothers peer hne hsame)

theorem refused_own (h : RlInv s) {retry : Nat} (hne : a.peer ≠ 0)
    (hheld : PeerLocked a.peer a.nowMs s.log s.auth.rl) :
    PeerLocked a.peer a.nowMs (⟨a.peer, a.nowMs, .tooMany retry⟩ :: s.log)
      (s.auth.rl.set (rlIndex a.peer s.auth.rl) (rlBucket a.peer s.auth.rl)) := by
  intro hmany last hfailed hruns
  rw [ownFailures_refused] at hmany
  rw [lastFailureMs_cons (decide_eq_false fun hfalse => AuthAnswer.noConfusion hfalse.2)]
    at hfailed
  obtain ⟨b, hb, huntil⟩ := hheld hmany last hfailed hruns
  refine ⟨_, lookup_own h.distinct h.length (rlBucket_peer a.peer s.auth.rl) hne, ?_⟩
  rwa [rlBucket_eq h.distinct h.length hne, hb]

/-- A failing peer is locked out, if it has to be, when its failures are counted. -/
theorem failed_own_iff (h : RlInv s)
    (hopen : (rlBucket a.peer s.auth.rl).lockUntilMs ≤ a.nowMs)
    (hno : a.accepted sha256Hex = none) :
    (a.peer ≠ 0 → PeerLocked a.peer a.nowMs (⟨a.peer, a.nowMs, .unauthorized⟩ :: s.log)
      (s.auth.rl.set (rlIndex a.peer s.auth.rl) ((rlBucket a.peer s.auth.rl).fail a.nowMs))) ↔
        CountedFailures sha256Hex s a := by
  unfold PeerLocked
  rw [ownFailures_failed, lastFailureMs_failed]
  constructor
  · intro hlocked hne _ _ hmany
    refine (failed_locked_iff h hne hopen).1 ?_
    exact hlocked hne (by omega) a.nowMs rfl (Nat.lt_add_of_pos_right (by decide))
  · intro hcounted hne hmany last hlast _
    rw [← Option.some.inj hlast]
    exact (failed_locked_iff h hne hopen).2 (hcounted hne hno hopen (by omega))

theorem lockoutsLast_step (h : RlInv s) (hlast : LockoutsLast sha256Hex s)
    (hnow : lastMs s.log ≤ a.nowMs) :
    LockoutsLast sha256Hex (attemptStep sha256Hex s a) ↔ KeepsLockouts sha256Hex s a := by
  have hheld : ∀ peer, peer ≠ 0 → PeerLocked peer a.nowMs s.log s.auth.rl :=
    fun peer hne hmany last hfailed hruns =>
      (lockoutsLast_iff h).1 hlast peer hne hmany last hfailed (hnow.trans_lt hruns)
  have heffect : RlEffect sha256Hex s.auth.rl a (attemptStep sha256Hex s a).auth.rl
    (requireMcpAuthorization sha256Hex a s.auth).2 := attempt_effect h.length
  have hpeer := rlBucket_peer a.peer s.auth.rl
  rw [lockoutsLast_iff (h.step a)]
  show (∀ peer, peer ≠ 0 → PeerLocked peer a.nowMs
    (⟨a.peer, a.nowMs, (requireMcpAuthorization sha256Hex a s.auth).2⟩ :: s.log)
    (attemptStep sha256Hex s a).auth.rl) ↔ _
  generalize (attemptStep sha256Hex s a).auth.rl = rl at heffect ⊢
  generalize (requireMcpAuthorization sha256Hex a s.auth).2 = answer at heffect ⊢
  rw [peersLocked_cons]
  cases heffect with
  | disabled hoff =>
    constructor
    · intro _ hon
      rw [hon] at hoff
      cases hoff
    · intro _
      refine ⟨fun peer hne _ => hheld peer hne, fun hne => ?_⟩
      unfold PeerLocked
      rw [ownFailures_disabled,
        lastFailureMs_cons (decide_eq_false fun hfailed => AuthAnswer.noConfusion hfailed.2)]
      exact hheld a.peer hne
  | refused retry hon hlock =>
    have hcounted : CountedFailures sha256Hex s a :=
      fun _ _ hopen => absurd hopen (Nat.not_le.2 hlock)
    rw [others_locked_iff h hpeer hheld]
    constructor
    · exact fun hkept _ => ⟨hkept.1, hcounted⟩
    · exact fun hkept => ⟨(hkept hon).1, fun hne => refused_own h hne (hheld a.peer hne)⟩
  | failed hon hlock hno =>
    have hfail : ((rlBucket a.peer s.auth.rl).fail a.nowMs).peer = a.peer := hpeer
    rw [others_locked_iff h hfail hheld, failed_own_iff h hlock hno]
    exact ⟨fun hkept _ => hkept, fun hkept => hkept hon⟩
  | passed token hon hlock hyes =>
    have hcounted : CountedFailures sha256Hex s a := by
      intro _ hno
      rw [hyes] at hno
      cases hno
    have hown : a.peer ≠ 0 → PeerLocked a.peer a.nowMs
        (⟨a.peer, a.nowMs, .authorized token⟩ :: s.log)
        (s.auth.rl.set (rlIndex a.peer s.auth.rl) (rlBucket a.peer s.auth.rl).clear) := by
      intro _ hmany
      rw [ownFailures_passed] at hmany
      omega
    have hclear : (rlBucket a.peer s.auth.rl).clear.peer = a.peer := hpeer
    rw [others_locked_iff h hclear hheld]
    exact ⟨fun hkept _ => ⟨hkept.1, hcounted⟩, fun hkept => ⟨(hkept hon).1, hown⟩⟩

variable (sha256Hex) in
/-- **When lockouts last.** At non-decreasing times, every peer that failed eight
times in a row is refused for thirty seconds after its last failure, in every
state of the run, if and only if no attempt takes over the bucket of a peer whose
lockout runs, and every failure after seven in a row finds between 7 and 254 of
them counted. -/
theorem lockouts_last_run (attempts : List Attempt)
    (htimes : (attempts.map Attempt.nowMs).Pairwise (· ≤ ·)) :
    AllSteps (attemptStep sha256Hex)
        (fun s a => LockoutsLast sha256Hex (attemptStep sha256Hex s a)) .boot attempts ↔
      AllSteps (attemptStep sha256Hex) (KeepsLockouts sha256Hex) .boot attempts := by
  have hboot : LockoutsLast sha256Hex .boot := fun _ _ _ _ hruns =>
    absurd hruns.1 (Nat.not_succ_le_zero 7)
  refine allSteps_iff (K := fun s as => RlInv s ∧ LockoutsLast sha256Hex s ∧
      (∀ a ∈ as, lastMs s.log ≤ a.nowMs) ∧ (as.map Attempt.nowMs).Pairwise (· ≤ ·))
    (fun s a as hK hlast => ?_) (fun s a as hK => ?_)
    ⟨boot_inv, hboot, fun a _ => Nat.zero_le _, htimes⟩
  · obtain ⟨hinv, -, -, hpairwise⟩ := hK
    obtain ⟨hfirst, hrest⟩ := List.pairwise_cons.1 hpairwise
    exact ⟨hinv.step a, hlast, fun b hb => hfirst _ (List.mem_map_of_mem hb), hrest⟩
  · obtain ⟨hinv, hlast, hnow, -⟩ := hK
    exact lockoutsLast_step hinv hlast (hnow a List.mem_cons_self)

instance lockoutRunsDecidable (peer : UInt32) (nowMs : Nat) (log : List RlEntry) :
    Decidable (LockoutRuns peer nowMs log) :=
  decidable_of_iff (8 ≤ ownFailures peer log ∧
      ∃ last ∈ lastFailureMs peer log, nowMs < last + mcpRlLockoutMs) Iff.rfl

instance takesLockedBucketDecidable (s : RlRun) (a : Attempt) :
    Decidable (TakesLockedBucket s a) :=
  decidable_of_iff (∃ b ∈ s.auth.rl[rlIndex a.peer s.auth.rl]?, b.peer ≠ 0 ∧ b.peer ≠ a.peer ∧
      LockoutRuns b.peer a.nowMs s.log) Iff.rfl

instance keepsLockoutsDecidable (sha256Hex : CStr → CBuf 65) (s : RlRun) (a : Attempt) :
    Decidable (KeepsLockouts sha256Hex s a) :=
  inferInstanceAs (Decidable (a.authEnabled = true → ¬ TakesLockedBucket s a ∧
    (a.peer ≠ 0 → a.accepted sha256Hex = none →
      (rlBucket a.peer s.auth.rl).lockUntilMs ≤ a.nowMs → 7 ≤ ownFailures a.peer s.log →
        7 ≤ (rlBucket a.peer s.auth.rl).failures.toNat ∧
          (rlBucket a.peer s.auth.rl).failures.toNat ≤ 254)))

/-- Peer 1 fails eight times within a second. Its next attempts come during the lockout and
after it, and another peer fails in between. -/
def lockedOutAttempts : List Attempt :=
  (List.range 8).map (fun i => ⟨true, 1, 100 * i, none, []⟩) ++
    [⟨true, 1, 1000, none, []⟩, ⟨true, 2, 2000, none, []⟩, ⟨true, 1, 31000, none, []⟩]

theorem lockouts_last_run_eighth :
    AllSteps (attemptStep fun _ => .empty)
      (fun s a => LockoutsLast (fun _ => .empty) (attemptStep (fun _ => .empty) s a)) .boot
      lockedOutAttempts :=
  (lockouts_last_run (fun _ => .empty) lockedOutAttempts (by decide)).2 (by decide +kernel)

theorem not_lockoutsLast (a : Attempt) (last : Nat)
    (h : a.authEnabled = true ∧ a.peer ≠ 0 ∧ lastMs s.log ≤ a.nowMs ∧
      8 ≤ ownFailures a.peer s.log ∧ lastFailureMs a.peer s.log = some last ∧
        a.nowMs < last + mcpRlLockoutMs ∧
          (requireMcpAuthorization sha256Hex a s.auth).2 = .unauthorized) :
    ¬ LockoutsLast sha256Hex s := by
  obtain ⟨hon, hne, hnow, hmany, hlast, hruns, hanswer⟩ := h
  intro hlocked
  obtain ⟨retry, hrefused⟩ := hlocked a hon hne hnow ⟨hmany, last, hlast, hruns⟩
  rw [hanswer] at hrefused
  cases hrefused

/-- Peer 1 fails eight times, fifteen other peers fail once each, and an attempt
of peer 32 takes the bucket of peer 1, whose next attempt is not refused. And
after 256 failures, each as soon as the lockout before it ends, the counter is
back at zero. -/
theorem lockouts_end_early :
    ¬ AllSteps (attemptStep fun _ => .empty)
        (fun s a => LockoutsLast (fun _ => .empty) (attemptStep (fun _ => .empty) s a)) .boot
        (List.replicate 8 ⟨true, 1, 0, none, []⟩ ++
          (List.range 15).map (fun i => ⟨true, UInt32.ofNat (i + 2), 0, none, []⟩) ++
          [⟨true, 32, 0, none, []⟩]) ∧
      ¬ AllSteps (attemptStep fun _ => .empty)
        (fun s a => LockoutsLast (fun _ => .empty) (attemptStep (fun _ => .empty) s a)) .boot
        ((List.range 255).map (fun i => ⟨true, 1, mcpRlLockoutMs * i, none, []⟩) ++
          [⟨true, 1, mcpRlLockoutMs * 255, none, []⟩]) := by
  constructor
  · intro hall
    exact not_lockoutsLast ⟨true, 1, 0, none, []⟩ 0 (by decide +kernel) (allSteps_reached hall)
  · intro hall
    exact not_lockoutsLast ⟨true, 1, mcpRlLockoutMs * 255, none, []⟩ (mcpRlLockoutMs * 255)
      (by decide +kernel) (allSteps_reached hall)

end Attempts

end McpGateway.Mcp
