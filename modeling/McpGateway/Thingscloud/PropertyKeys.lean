import McpGateway.Thingscloud.Adapter

/-!
# Property keys of the gateway

What `build_gateway_property_key` prints, and that it can be read back:
`generated_keys_injective`.
-/

namespace McpGateway.Thingscloud

open McpGateway.Lib McpGateway.Tcm

/-- The text of `"p%u_s%u_%s"`. -/
def generatedKey (portId slaveId : UInt8) (propertyKey : CStr) : CStr :=
  'p' :: printDecimal portId.toNat ++ "_s".toList ++ printDecimal slaveId.toNat ++
    '_' :: propertyKey

section Keys

variable {portId portId' slaveId slaveId' : UInt8} {propertyKey propertyKey' key : CStr}
  {n n' : Nat}

theorem buildGatewayPropertyKey_ok
    (h : buildGatewayPropertyKey portId slaveId propertyKey n = .ok key) :
    gatewayKeyValid propertyKey = true ∧ key = generatedKey portId slaveId propertyKey ∧
      key.length < n := by
  unfold buildGatewayPropertyKey at h
  split at h
  · cases h
  · split at h
    · cases h
    · rename_i hvalid
      simp only at h
      split at h
      · cases h
      · rename_i hlength
        obtain rfl := Except.ok.inj h
        exact ⟨by simpa using hvalid, rfl, Nat.lt_of_not_le hlength⟩

/-- Every key under which a point is reported fits its field and is not empty. -/
theorem gatewayKey_bounds {ctx : TcmContext} (h : gatewayKey ctx = .ok key) :
    key ≠ [] ∧ key.length < 64 := by
  unfold gatewayKey at h
  split at h
  · rename_i hcustom
    split at h
    · rw [← Except.ok.inj h]
      exact ⟨hcustom, ctx.gatewayPropertyKey.lt⟩
    · cases h
  · obtain ⟨-, rfl, hlength⟩ := buildGatewayPropertyKey_ok h
    exact ⟨List.cons_ne_nil _ _, hlength⟩

theorem printDecimal_valid (m : Nat) : (printDecimal m).all tcKeyCharValid = true := by
  rw [List.all_eq_true]
  intro c hc
  have hdigit := isDigit_of_mem_printDecimal hc
  simp only [Char.isDigit, Bool.and_eq_true, decide_eq_true_eq] at hdigit
  simp only [tcKeyCharValid, Bool.or_eq_true, Bool.and_eq_true, decide_eq_true_eq]
  exact .inl (.inr ⟨hdigit.1, hdigit.2⟩)

theorem generatedKey_valid (h : gatewayKeyValid propertyKey = true) :
    gatewayKeyValid (generatedKey portId slaveId propertyKey) = true := by
  have hp : tcKeyCharValid 'p' = true := by decide
  have hs : ("_s".toList).all tcKeyCharValid = true := by decide
  have hunderscore : tcKeyCharValid '_' = true := by decide
  simp only [gatewayKeyValid, Bool.and_eq_true] at h ⊢
  refine ⟨by simp [generatedKey], ?_⟩
  simp only [generatedKey, List.all_append, List.all_cons, printDecimal_valid, hp, hs,
    hunderscore, h.2, Bool.and_self]

theorem generatedKey_inj
    (h : generatedKey portId slaveId propertyKey = generatedKey portId' slaveId' propertyKey') :
    portId = portId' ∧ slaveId = slaveId' ∧ propertyKey = propertyKey' := by
  have hunderscore : Char.isDigit '_' = false := by decide
  unfold generatedKey at h
  simp only [List.cons_append, List.append_assoc, List.cons.injEq, true_and] at h
  obtain ⟨hport, -, hrest⟩ := printDecimal_append_inj hunderscore hunderscore h
  obtain ⟨hslave, -, hkey⟩ :=
    printDecimal_append_inj hunderscore hunderscore (List.cons.inj hrest).2
  exact ⟨UInt8.toNat_inj.1 hport, UInt8.toNat_inj.1 hslave, hkey⟩

/-- **Generated keys are injective**, whatever the buffers they are built in, and pass the
check of custom keys. -/
theorem generated_keys_injective
    (h : buildGatewayPropertyKey portId slaveId propertyKey n = .ok key) :
    gatewayKeyValid key = true ∧
      (buildGatewayPropertyKey portId' slaveId' propertyKey' n' = .ok key →
        portId = portId' ∧ slaveId = slaveId' ∧ propertyKey = propertyKey') := by
  obtain ⟨hvalid, rfl, -⟩ := buildGatewayPropertyKey_ok h
  refine ⟨generatedKey_valid hvalid, fun h' => ?_⟩
  obtain ⟨-, hkey, -⟩ := buildGatewayPropertyKey_ok h'
  exact generatedKey_inj hkey

/-- A property key that looks like a prefix itself. -/
theorem generated_keys_injective_prefixed :
    gatewayKeyValid "p1_s1_s1_1".toList = true ∧
      (buildGatewayPropertyKey 11 1 "1".toList 64 = .ok "p1_s1_s1_1".toList →
        (1 : UInt8) = 11 ∧ (1 : UInt8) = 1 ∧ "s1_1".toList = "1".toList) :=
  generated_keys_injective
    (show buildGatewayPropertyKey 1 1 "s1_1".toList 64 = .ok "p1_s1_s1_1".toList from rfl)

end Keys

end McpGateway.Thingscloud
