import McpGateway.Lib.Run
import McpGateway.Mcp.Authorization
import McpGateway.Mcp.Tools

/-!
# Requests

`mcp_post_handler`: authorization, the body, the JSON-RPC method and, for
`tools/call`, the scope of the token before the tool. `privileges_run` says what
a request can do without the WRITE scope, and with the write switch off.
-/

namespace McpGateway.Mcp

open McpGateway.Lib McpGateway.Tcm McpGateway.Services

/-! ## The tool list -/

def typed (type : String) (more : List (CStr × Json)) : Json :=
  .obj (field "type" (jsonText type) :: more)

def oneOf (names : List String) : Json :=
  typed "string" [field "enum" (.arr (names.map jsonText))]

def addTool (name description : String) (properties : List (CStr × Json))
    (required : List String) : Json :=
  .obj [field "name" (jsonText name), field "description" (jsonText description),
    field "inputSchema" (typed "object" (field "properties" (.obj properties) ::
      if required = [] then [] else [field "required" (.arr (required.map jsonText))]))]

/-- `rule_props`. -/
def ruleProperties : List (CStr × Json) :=
  [field "rule_name" (typed "string" []), field "source_device" (typed "string" []),
    field "source_point" (typed "string" []),
    field "operator" (oneOf ["gt", "gte", "lt", "lte", "eq", "neq"]),
    field "threshold" (typed "number" []),
    field "hysteresis" (typed "number" [field "minimum" (jsonNat 0)]),
    field "hold_ms" (typed "integer" [field "minimum" (jsonNat 0)]),
    field "cooldown_ms" (typed "integer" [field "minimum" (jsonNat 200)]),
    field "action" (oneOf ["mqtt_alert", "write_point"]),
    field "target_device" (typed "string" []), field "target_point" (typed "string" []),
    field "target_value" (typed "number" []), field "alert_topic" (typed "string" []),
    field "alert_message" (typed "string" []), field "interlock_device" (typed "string" []),
    field "interlock_point" (typed "string" []),
    field "interlock_required_state" (typed "boolean" []), field "enabled" (typed "boolean" [])]

def ruleRequired : List String :=
  ["rule_name", "source_device", "source_point", "operator", "threshold", "action"]

def toolsListResult : Json :=
  .obj [field "tools" (.arr [
    addTool "list_points" "List AMM semantic points and latest values" [] [],
    addTool "read_point" "Read the latest TCM context for a semantic point"
      [field "device_id" (typed "string" []), field "point_id" (typed "string" [])]
      ["device_id", "point_id"],
    addTool "write_point" "Write a point through AMM safety constraints"
      [field "device_id" (typed "string" []), field "point_id" (typed "string" []),
        field "value" (typed "number" [])] ["device_id", "point_id", "value"],
    addTool "discover_modbus_devices" "Start asynchronous Modbus RTU device discovery"
      (["slave_start", "slave_end"].map fun key => field key (typed "integer"
        [field "minimum" (jsonNat 1), field "maximum" (jsonNat 247)])) [],
    addTool "get_gateway_config" "Read non-secret gateway runtime configuration" [] [],
    addTool "get_cache_status" "Read UIF offline cache and replay status" [] [],
    addTool "list_rules" "List configured local automation rules and execution statistics" [] [],
    addTool "rule_preview" ("Validate a natural-language rule and return a structured preview " ++
      "without persisting it. Always call this first and show the result " ++
      "to the user before rule_commit.") ruleProperties ruleRequired,
    addTool "rule_commit" ("Persist a previously previewed rule. Re-validates all numeric " ++
      "boundaries before writing.") ruleProperties ruleRequired,
    addTool "rule_delete" "Delete a local automation rule by identifier"
      [field "rule_id" (typed "integer" [field "minimum" (jsonNat 1)])] ["rule_id"],
    addTool "export_logs" "Read a bounded tail of persisted gateway logs"
      [field "stream" (oneOf ["system", "modbus"]), field "max_lines" (typed "integer"
        [field "minimum" (jsonNat 1), field "maximum" (jsonNat 200)])] []])]

def initializeResult : Json :=
  .obj [field "protocolVersion" (jsonText "2025-03-26"),
    field "capabilities" (.obj [field "tools" (.obj [])]),
    field "serverInfo" (.obj [field "name" (jsonText "esp32s3-industrial-gateway"),
      field "version" (jsonText "1.0.0")])]

/-! ## The handler -/

/-- A POST to `/mcp`: where it comes from, its `Authorization` header, its body
(`none` if it does not arrive in full), and what a tool will find. -/
structure McpRequest where
  peer : UInt32
  nowMs : Nat
  authorization : Option CStr
  contentLen : Nat
  body : Option CStr
  env : ToolEnv

/-- `read_body`; the text ends at the first NUL. -/
def readBody (lib : JsonLib) (r : McpRequest) : Option Json :=
  if r.contentLen = 0 ∨ 8192 < r.contentLen then none
  else r.body.bind fun body => lib.parse (cutAt ['\x00'] body)

/-- The `result` or the `error` of a response. -/
inductive RpcResult
  | result (value : Json)
  | error (code : Int) (message : String)

def sendRpc (lib : JsonLib) (id : Option Json) (r : RpcResult) : CStr :=
  let answer := match r with
    | .result value => field "result" value
    | .error code message =>
      field "error" (.obj [field "code" (.num (.fin code)), field "message" (jsonText message)])
  lib.printUnformatted
    (.obj [field "jsonrpc" (jsonText "2.0"), field "id" (id.getD .null), answer])

/-- `tool_text_result`; a null pointer is printed as the empty object. -/
def toolTextResult (lib : JsonLib) (value : Option Json) (isError : Bool) : Json :=
  let text := (value.map lib.printUnformatted).getD "\x7b\x7d".toList
  .obj [field "content" (.arr [.obj [field "type" (jsonText "text"), field "text" (.str text)]]),
    field "isError" (.bool isError)]

/-- A response, the gateway after it and the Modbus write sent. -/
structure Handled where
  result : RpcResult
  gateway : Gateway
  sent : Option ModbusWrite

/-- The branch of `tools/call`. -/
def toolsCall (lib : JsonLib) (env : ToolEnv) (g : Gateway) (token : McpToken) (request : Json) :
    Handled :=
  let params := (request.getObjectItem "params".toList).getD .null
  match Json.string? (params.getObjectItem "name".toList) with
  | none => ⟨.error (-32602) "Missing tool name", g, none⟩
  | some name =>
    if token.hasScope (toolRequiredScope name) = false then
      ⟨.error (-32602) "Token scope is insufficient for this tool", g, none⟩
    else
      let arguments := match params.getObjectItem "arguments".toList with
        | some (.obj fields) => .obj fields
        | _ => .obj []
      let o := toolCall lib env g name arguments
      ⟨.result (toolTextResult lib o.value o.isError), o.gateway, o.sent⟩

/-- The dispatch on the method; `notifications/initialized` is answered apart. -/
def handleMethod (lib : JsonLib) (env : ToolEnv) (g : Gateway) (token : McpToken)
    (request : Json) (method : CStr) : Handled :=
  if method = "initialize".toList then ⟨.result initializeResult, g, none⟩
  else if method = "tools/list".toList then ⟨.result toolsListResult, g, none⟩
  else if method = "tools/call".toList then toolsCall lib env g token request
  else ⟨.error (-32601) "Method not found", g, none⟩

inductive McpAnswer
  | refused (answer : AuthAnswer)
  | rpc (text : CStr)
  | accepted

/-- The gateway with the access data, and the writes of all requests, newest first. -/
structure McpState where
  auth : McpAuth
  tokens : TokenStore
  gateway : Gateway
  sent : List ModbusWrite

/-- A request as `require_mcp_authorization` sees it. -/
def McpRequest.attempt (r : McpRequest) (s : McpState) : Attempt where
  authEnabled := s.gateway.config.security.authEnabled
  peer := r.peer
  nowMs := r.nowMs
  authorization := r.authorization
  tokens := s.tokens.tokens

section Requests

variable (sha256Hex : CStr → CBuf 65) (lib : JsonLib)

/-- The rest of `mcp_post_handler` for a request that was authorized. -/
def handleAuthorized (s : McpState) (token : McpToken) (r : McpRequest) : McpState × McpAnswer :=
  match readBody lib r with
  | none => (s, .rpc (sendRpc lib none (.error (-32700) "Parse error")))
  | some request =>
    let id := request.getObjectItem "id".toList
    match Json.string? (request.getObjectItem "method".toList) with
    | none => (s, .rpc (sendRpc lib id (.error (-32600) "Invalid Request")))
    | some method =>
      if method = "notifications/initialized".toList then (s, .accepted)
      else
        let h := handleMethod lib r.env s.gateway token request method
        ({ s with gateway := h.gateway, sent := h.sent.toList ++ s.sent },
          .rpc (sendRpc lib id h.result))

def mcpPostHandler (r : McpRequest) (s : McpState) : McpState × McpAnswer :=
  let access := requireMcpAuthorization sha256Hex (r.attempt s) s.auth
  let s := { s with auth := access.1 }
  match access.2 with
  | .authorized token => handleAuthorized lib s token r
  | refusal => (s, .refused refusal)

/-- A request, or whatever the rest of the program does to the tokens and to the
gateway between two requests. -/
inductive McpStep
  | request (r : McpRequest)
  | elsewhere (tokens : TokenStore → TokenStore) (gateway : Gateway → Gateway)

def mcpStep (s : McpState) : McpStep → McpState
  | .request r => (mcpPostHandler sha256Hex lib r s).1
  | .elsewhere tokens gateway =>
    { s with tokens := tokens s.tokens, gateway := gateway s.gateway }

/-! ## Privileges -/

/-- The request is authorized, with a token that has the WRITE scope. -/
def Privileged (s : McpState) (r : McpRequest) : Prop :=
  ∃ token, (requireMcpAuthorization sha256Hex (r.attempt s) s.auth).2 = .authorized token ∧
    token.hasScope mcpScopeWrite = true

/-- Access is configured, and the request carries the secret of a valid and
enabled token with the WRITE scope. -/
def HoldsWriteToken (s : McpState) (r : McpRequest) : Prop :=
  s.gateway.config.security.authEnabled = true ∧
    ∃ secret token, r.authorization = some ("Bearer ".toList ++ secret) ∧
      token ∈ s.tokens.tokens ∧ token.valid = true ∧ token.enabled = true ∧
      token.hasScope mcpScopeWrite = true ∧
      digestEqual token.digest.str (sha256Hex secret).str = true

/-- The request changes neither the mapping table nor the rules, and writes nothing. -/
def KeepsPlant (s : McpState) (r : McpRequest) : Prop :=
  (mcpStep sha256Hex lib s (.request r)).gateway.amm = s.gateway.amm ∧
    (mcpStep sha256Hex lib s (.request r)).gateway.automation = s.gateway.automation ∧
    (mcpStep sha256Hex lib s (.request r)).sent = s.sent

/-- What holds of every request: without privilege nothing of the gateway
changes, the privileged hold a token for it, and with the switch off nothing is
written. -/
def PrivilegesEnforced (s : McpState) : McpStep → Prop
  | .request r =>
    (¬ Privileged sha256Hex s r → KeepsPlant sha256Hex lib s r ∧
      (mcpStep sha256Hex lib s (.request r)).gateway = s.gateway) ∧
    (Privileged sha256Hex s r → HoldsWriteToken sha256Hex s r) ∧
    (s.gateway.config.mcpWriteEnabled = false → KeepsPlant sha256Hex lib s r)
  | .elsewhere _ _ => True

def Unprivileged (s : McpState) : McpStep → Prop
  | .request r => ¬ Privileged sha256Hex s r
  | .elsewhere _ _ => True

end Requests

def McpStep.isElsewhere : McpStep → Bool
  | .request _ => false
  | .elsewhere _ _ => true

section Proofs

variable {sha256Hex : CStr → CBuf 65} {lib : JsonLib} {s : McpState} {r : McpRequest}
variable {token : McpToken}

theorem accepted_token {a : Attempt} (h : a.accepted sha256Hex = some token) :
    ∃ secret, a.authorization = some ("Bearer ".toList ++ secret) ∧ token ∈ a.tokens ∧
      token.valid = true ∧ token.enabled = true ∧
      digestEqual token.digest.str (sha256Hex secret).str = true := by
  unfold Attempt.accepted at h
  split at h
  · rename_i header hheader
    split at h
    · rename_i hbearer
      unfold mcpTokenAuthenticate at h
      split at h
      · cases h
      · split at h
        · rename_i found hfound
          obtain rfl := Option.some.inj h
          have hgood := List.find?_some hfound
          rw [Bool.and_eq_true, Bool.and_eq_true] at hgood
          refine ⟨header.drop 7, ?_, List.mem_of_find?_eq_some hfound, hgood.1.1, hgood.1.2,
            hgood.2⟩
          rw [hheader, ← hbearer.2, List.take_append_drop]
        · cases h
    · cases h
  · cases h

theorem authorized_token {a : Attempt} {auth : McpAuth}
    (h : (requireMcpAuthorization sha256Hex a auth).2 = .authorized token) :
    a.authEnabled = true ∧ a.accepted sha256Hex = some token := by
  unfold requireMcpAuthorization at h
  split at h
  · cases h
  · rename_i hon
    dsimp only at h
    split at h
    · cases h
    · split at h
      · cases h
      · rename_i found hfound
        obtain rfl := AuthAnswer.authorized.inj h
        exact ⟨eq_true_of_ne_false hon, hfound⟩

theorem Privileged.holds (h : Privileged sha256Hex s r) : HoldsWriteToken sha256Hex s r := by
  obtain ⟨token, hanswer, hscope⟩ := h
  obtain ⟨hon, haccepted⟩ := authorized_token hanswer
  obtain ⟨secret, hheader, hmem, hvalid, henabled, hdigest⟩ := accepted_token haccepted
  exact ⟨hon, secret, token, hheader, hmem, hvalid, henabled, hscope, hdigest⟩

/-- A method changes nothing, or it calls a tool that the token may call. -/
theorem method_effect (lib : JsonLib) (env : ToolEnv) (g : Gateway) (token : McpToken)
    (request : Json) (method : CStr) :
    ((handleMethod lib env g token request method).gateway = g ∧
      (handleMethod lib env g token request method).sent = none) ∨
    ∃ name, token.hasScope (toolRequiredScope name) = true ∧
      ToolEffect g name (handleMethod lib env g token request method).gateway
        (handleMethod lib env g token request method).sent := by
  unfold handleMethod
  by_cases hinit : method = "initialize".toList
  · rw [if_pos hinit]
    exact .inl ⟨rfl, rfl⟩
  rw [if_neg hinit]
  by_cases hlist : method = "tools/list".toList
  · rw [if_pos hlist]
    exact .inl ⟨rfl, rfl⟩
  rw [if_neg hlist]
  by_cases hcall : method = "tools/call".toList
  · rw [if_pos hcall]
    unfold toolsCall
    dsimp only
    split
    · exact .inl ⟨rfl, rfl⟩
    · rename_i name _
      by_cases hscope : token.hasScope (toolRequiredScope name) = false
      · rw [if_pos hscope]
        exact .inl ⟨rfl, rfl⟩
      · rw [if_neg hscope]
        exact .inr ⟨name, eq_true_of_ne_false hscope, tool_effect lib env g name _⟩
  · rw [if_neg hcall]
    exact .inl ⟨rfl, rfl⟩

theorem authorized_effect (lib : JsonLib) (s : McpState) (token : McpToken) (r : McpRequest) :
    ((handleAuthorized lib s token r).1.gateway = s.gateway ∧
      (handleAuthorized lib s token r).1.sent = s.sent) ∨
    ∃ name sent, token.hasScope (toolRequiredScope name) = true ∧
      ToolEffect s.gateway name (handleAuthorized lib s token r).1.gateway sent ∧
      (handleAuthorized lib s token r).1.sent = sent.toList ++ s.sent := by
  unfold handleAuthorized
  cases hbody : readBody lib r with
  | none => exact .inl ⟨rfl, rfl⟩
  | some request =>
    dsimp only
    cases hmethod : Json.string? (request.getObjectItem "method".toList) with
    | none => exact .inl ⟨rfl, rfl⟩
    | some method =>
      dsimp only
      by_cases hnote : method = "notifications/initialized".toList
      · rw [if_pos hnote]
        exact .inl ⟨rfl, rfl⟩
      · rw [if_neg hnote]
        rcases method_effect lib r.env s.gateway token request method with
          ⟨hgateway, hsent⟩ | ⟨name, hscope, heffect⟩
        · refine .inl ⟨hgateway, ?_⟩
          dsimp only
          rw [hsent]
          rfl
        · exact .inr ⟨name, _, hscope, heffect, rfl⟩

/-- **What a request can do**: nothing to the gateway, or what a tool does that
its token may call. -/
theorem request_effect (sha256Hex : CStr → CBuf 65) (lib : JsonLib) (s : McpState)
    (r : McpRequest) :
    ((mcpStep sha256Hex lib s (.request r)).gateway = s.gateway ∧
      (mcpStep sha256Hex lib s (.request r)).sent = s.sent) ∨
    ∃ token name sent,
      (requireMcpAuthorization sha256Hex (r.attempt s) s.auth).2 = .authorized token ∧
      token.hasScope (toolRequiredScope name) = true ∧
      ToolEffect s.gateway name (mcpStep sha256Hex lib s (.request r)).gateway sent ∧
      (mcpStep sha256Hex lib s (.request r)).sent = sent.toList ++ s.sent := by
  unfold mcpStep mcpPostHandler
  dsimp only
  cases hanswer : (requireMcpAuthorization sha256Hex (r.attempt s) s.auth).2 with
  | disabled => exact .inl ⟨rfl, rfl⟩
  | tooMany retryAfter => exact .inl ⟨rfl, rfl⟩
  | unauthorized => exact .inl ⟨rfl, rfl⟩
  | authorized token =>
    rcases authorized_effect lib { s with auth := (requireMcpAuthorization sha256Hex
      (r.attempt s) s.auth).1 } token r with hsame | ⟨name, sent, hscope, heffect, hsent⟩
    · exact .inl hsame
    · exact .inr ⟨token, name, sent, rfl, hscope, heffect, hsent⟩

theorem unprivileged_request (lib : JsonLib) (h : ¬ Privileged sha256Hex s r) :
    (mcpStep sha256Hex lib s (.request r)).gateway = s.gateway ∧
      (mcpStep sha256Hex lib s (.request r)).sent = s.sent := by
  rcases request_effect sha256Hex lib s r with
    hsame | ⟨token, name, sent, hanswer, hscope, heffect, hsent⟩
  · exact hsame
  · have hread : toolRequiredScope name ≠ mcpScopeWrite := fun hwrite =>
      h ⟨token, hanswer, hwrite ▸ hscope⟩
    obtain ⟨hgateway, rfl⟩ := heffect.unprivileged hread
    exact ⟨hgateway, hsent⟩

/-- With the switch off a request writes nothing and changes no rule. -/
theorem disabled_request (hoff : s.gateway.config.mcpWriteEnabled = false) :
    KeepsPlant sha256Hex lib s r := by
  rcases request_effect sha256Hex lib s r with
    ⟨hgateway, hsent⟩ | ⟨token, name, sent, -, -, heffect, hsent⟩
  · exact ⟨congrArg Gateway.amm hgateway, congrArg Gateway.automation hgateway, hsent⟩
  · obtain ⟨hrules, rfl⟩ := heffect.disabled hoff
    exact ⟨heffect.kept.1, hrules, hsent⟩

theorem request_tokens (sha256Hex : CStr → CBuf 65) (lib : JsonLib) (s : McpState)
    (r : McpRequest) : (mcpStep sha256Hex lib s (.request r)).tokens = s.tokens := by
  unfold mcpStep mcpPostHandler
  dsimp only
  split
  · unfold handleAuthorized
    split
    · rfl
    · dsimp only
      split
      · rfl
      · split <;> rfl
  · rfl

theorem privileges_step (sha256Hex : CStr → CBuf 65) (lib : JsonLib) (s : McpState)
    (st : McpStep) : PrivilegesEnforced sha256Hex lib s st := by
  cases st with
  | elsewhere tokens gateway => exact trivial
  | request r =>
    refine ⟨fun h => ?_, Privileged.holds, disabled_request⟩
    obtain ⟨hgateway, hsent⟩ := unprivileged_request lib h
    exact ⟨⟨congrArg Gateway.amm hgateway, congrArg Gateway.automation hgateway, hsent⟩, hgateway⟩

theorem unprivileged_run {steps : List McpStep} {t : McpState}
    (h : AllSteps (mcpStep sha256Hex lib) (Unprivileged sha256Hex) s steps)
    (hgateway : s.gateway = t.gateway) (htokens : s.tokens = t.tokens) :
    (run (mcpStep sha256Hex lib) s steps).gateway =
        (run (mcpStep sha256Hex lib) t (steps.filter McpStep.isElsewhere)).gateway ∧
      (run (mcpStep sha256Hex lib) s steps).sent = s.sent := by
  induction steps generalizing s t with
  | nil => exact ⟨hgateway, rfl⟩
  | cons st steps ih =>
    cases st with
    | request r =>
      obtain ⟨hsame, hquiet⟩ := unprivileged_request lib h.1
      have hrest := ih h.2 (hsame.trans hgateway)
        ((request_tokens sha256Hex lib s r).trans htokens)
      rwa [hquiet] at hrest
    | elsewhere tokens gateway =>
      exact ih h.2 (congrArg gateway hgateway) (congrArg tokens htokens)

/-- **MCP privileges are enforced**, in every run of requests between which the
rest of the program changes tokens and gateway as it likes. A run of
unprivileged requests leaves the gateway to the rest of the program. -/
theorem privileges_run (sha256Hex : CStr → CBuf 65) (lib : JsonLib) (s : McpState)
    (steps : List McpStep) :
    AllSteps (mcpStep sha256Hex lib) (PrivilegesEnforced sha256Hex lib) s steps ∧
    (AllSteps (mcpStep sha256Hex lib) (Unprivileged sha256Hex) s steps →
      (run (mcpStep sha256Hex lib) s steps).gateway =
          (run (mcpStep sha256Hex lib) s (steps.filter McpStep.isElsewhere)).gateway ∧
        (run (mcpStep sha256Hex lib) s steps).sent = s.sent) := by
  refine ⟨?_, fun h => unprivileged_run h rfl rfl⟩
  rw [allSteps_iff_split]
  intro before st after _
  exact privileges_step sha256Hex lib (run (mcpStep sha256Hex lib) s before) st

end Proofs

end McpGateway.Mcp
