import McpGateway.Lib.Run
import McpGateway.Lib.Transport
import McpGateway.Modbus.TcpWire

/-!
# Sessions of the Modbus TCP server

`client_task` over a connection that delivers its bytes in any pieces and takes them in any
pieces. Between two requests the gateway's data may change: `servers k` is what the `k`-th
request of the connection meets.
-/

namespace McpGateway.Modbus

open McpGateway.Lib McpGateway.Tcm McpGateway.Amm McpGateway.Services

/-- The counters of `modbus_tcp_server_status_t`. -/
structure ServerCounters where
  requests : UInt32
  exceptions : UInt32
  writes : UInt32
  deriving DecidableEq

/-- What `client_task` notes about the response that it sent. -/
def ServerCounters.note (c : ServerCounters) (response : List UInt8) : ServerCounters :=
  let first := response.headD 0
  { requests := c.requests + 1
    exceptions := if first &&& 0x80 ≠ 0 then c.exceptions + 1 else c.exceptions
    writes :=
      if first &&& 0x80 = 0 ∧ (first = 5 ∨ first = 6 ∨ first = 15 ∨ first = 16) then c.writes + 1
      else c.writes }

/-- The two `receive_all` calls of a round: the header, the PDU, and what is left. -/
def receiveRequest (segs : List (List UInt8)) :
    Option (List UInt8 × List UInt8 × List (List UInt8)) :=
  match receiveAll 7 segs with
  | (some header, rest) =>
    let length := (beWord (header.getD 4 0) (header.getD 5 0)).toNat
    if length < 2 ∨ 254 < length then none
    else
      match receiveAll (length - 1) rest with
      | (some pdu, rest) => some (header, pdu, rest)
      | (none, _) => none
  | (none, _) => none

/-! ## Requests of a stream -/

/-- A whole request: its header but for the length, and its PDU. -/
structure TcpRequest where
  header0 : UInt8
  header1 : UInt8
  header2 : UInt8
  header3 : UInt8
  unit : UInt8
  pdu : List UInt8
  size : 1 ≤ pdu.length ∧ pdu.length ≤ 253

namespace TcpRequest

def header (q : TcpRequest) (size : Nat) : List UInt8 :=
  let length := UInt16.ofNat (size + 1)
  [q.header0, q.header1, q.header2, q.header3, highByte length, lowByte length, q.unit]

def frameOf (q : TcpRequest) (pdu : List UInt8) : List UInt8 := q.header pdu.length ++ pdu

def frame (q : TcpRequest) : List UInt8 := q.frameOf q.pdu

/-- What `process_pdu` makes of the request: its response and the writes. -/
def answer (s : TcpServer) (q : TcpRequest) : List UInt8 × List ModbusWrite :=
  (processPdu s q.unit q.pdu).getD ([], [])

end TcpRequest

theorem frame_size {n : Nat} (h : n ≤ 253) :
    (beWord (highByte (UInt16.ofNat (n + 1))) (lowByte (UInt16.ofNat (n + 1)))).toNat = n + 1 := by
  rw [beWord_bytes, UInt16.toNat_ofNat']
  omega

section Rounds

variable {segs : List (List UInt8)}

theorem receiveRequest_frame {q : TcpRequest} {more : List UInt8}
    (h : stream segs = q.frame ++ more) :
    ∃ rest, receiveRequest segs = some (q.header q.pdu.length, q.pdu, rest) ∧
      stream rest = more := by
  have hsize := frame_size q.size.2
  have hlength : ¬ (q.pdu.length + 1 < 2 ∨ 254 < q.pdu.length + 1) := by
    have := q.size
    omega
  have hseven : 7 ≤ (stream segs).length := by
    rw [h]
    exact Nat.le_add_left 7 _
  obtain ⟨hheader, hbody⟩ := receiveAll_some hseven
  rw [h] at hheader hbody
  have hbody' : stream (receiveAll 7 segs).2 = q.pdu ++ more := hbody
  have hwhole : q.pdu.length ≤ (stream (receiveAll 7 segs).2).length := by
    rw [hbody', List.length_append]
    exact Nat.le_add_right _ _
  obtain ⟨hpdu, hrest⟩ := receiveAll_some hwhole
  rw [hbody', List.take_left] at hpdu
  rw [hbody', List.drop_left] at hrest
  refine ⟨(receiveAll q.pdu.length (receiveAll 7 segs).2).2, ?_, hrest⟩
  have hfirst : receiveAll 7 segs = (some (q.header q.pdu.length), (receiveAll 7 segs).2) :=
    Prod.ext hheader rfl
  have hsecond : receiveAll q.pdu.length (receiveAll 7 segs).2 =
      (some q.pdu, (receiveAll q.pdu.length (receiveAll 7 segs).2).2) := Prod.ext hpdu rfl
  unfold receiveRequest
  rw [hfirst]
  dsimp only
  have hfield : (beWord ((q.header q.pdu.length).getD 4 0) ((q.header q.pdu.length).getD 5 0)).toNat =
      q.pdu.length + 1 := hsize
  rw [hfield, if_neg hlength, Nat.add_sub_cancel, hsecond]

theorem receiveRequest_inv {header pdu : List UInt8} {rest : List (List UInt8)}
    (h : receiveRequest segs = some (header, pdu, rest)) :
    ∃ q : TcpRequest, header = q.header q.pdu.length ∧ pdu = q.pdu ∧
      stream segs = q.frame ++ stream rest := by
  unfold receiveRequest at h
  split at h
  · rename_i received body hfirst
    obtain ⟨hseven, hheader, hbody⟩ := receiveAll_inv hfirst
    dsimp only at h
    split at h
    · cases h
    · rename_i hlength
      split at h
      · rename_i received' rest' hsecond
        obtain ⟨hwhole, hpdu, hrest⟩ := receiveAll_inv hsecond
        obtain ⟨rfl, rfl, rfl⟩ : received = header ∧ received' = pdu ∧ rest' = rest := by
          simpa using h
        have hseven' : received.length = 7 := by
          rw [hheader, List.length_take, Nat.min_eq_left hseven]
        obtain ⟨h0, h1, h2, h3, l1, l0, unit, rfl⟩ : ∃ h0 h1 h2 h3 l1 l0 unit,
            received = [h0, h1, h2, h3, l1, l0, unit] := by
          match received, hseven' with
          | [h0, h1, h2, h3, l1, l0, unit], _ => exact ⟨h0, h1, h2, h3, l1, l0, unit, rfl⟩
        have hfield : ¬ ((beWord l1 l0).toNat < 2 ∨ 254 < (beWord l1 l0).toNat) := hlength
        have hpduLength : received'.length = (beWord l1 l0).toNat - 1 := by
          rw [hpdu, List.length_take]
          exact Nat.min_eq_left hwhole
        have hword := beWord_toNat l1 l0
        have hlow := l0.toNat_lt
        have hhigh : highByte (UInt16.ofNat (received'.length + 1)) = l1 := by
          apply UInt8.toNat_inj.1
          rw [highByte_toNat, UInt16.toNat_ofNat']
          omega
        have hlow' : lowByte (UInt16.ofNat (received'.length + 1)) = l0 := by
          apply UInt8.toNat_inj.1
          rw [lowByte_toNat, UInt16.toNat_ofNat']
          omega
        let q : TcpRequest := ⟨h0, h1, h2, h3, unit, received', by omega⟩
        have hq : q.header received'.length = [h0, h1, h2, h3, l1, l0, unit] := by
          show [h0, h1, h2, h3, highByte (UInt16.ofNat (received'.length + 1)),
            lowByte (UInt16.ofNat (received'.length + 1)), unit] = _
          rw [hhigh, hlow']
        refine ⟨q, hq.symm, rfl, ?_⟩
        show stream segs = q.header received'.length ++ received' ++ stream rest'
        rw [hq, List.append_assoc, hrest, hpdu, List.take_append_drop, hbody, hheader,
          List.take_append_drop]
      · cases h
  · cases h

end Rounds

/-- What a connection leaves behind: the bytes sent, the writes to the devices, and the
counters. -/
structure ClientRun where
  wire : List UInt8
  writes : List ModbusWrite
  counters : ServerCounters

def responseFrame (header : List UInt8) (unit : UInt8) (response : List UInt8) : List UInt8 :=
  let size := UInt16.ofNat (response.length + 1)
  header.take 4 ++ highByte size :: lowByte size :: unit :: response

/-- `client_task` from its `k`-th request and the `calls`-th call of `send` on. -/
def clientTask (servers : Nat → TcpServer) (accepts : Nat → Nat) (k calls : Nat)
    (counters : ServerCounters) (segs : List (List UInt8)) : ClientRun :=
  match _ : receiveRequest segs with
  | none => ⟨[], [], counters⟩
  | some (header, pdu, rest) =>
    let unit := header.getD 6 0
    match processPdu (servers k) unit pdu with
    | none => ⟨[], [], counters⟩
    | some (response, writes) =>
      let sent := sendAll accepts calls (responseFrame header unit response)
      if sent.all then
        let later := clientTask servers accepts (k + 1) sent.calls (counters.note response) rest
        { later with
          wire := sent.wire ++ later.wire
          writes := writes ++ later.writes }
      else ⟨sent.wire, writes, counters⟩
termination_by (stream segs).length
decreasing_by
  obtain ⟨q, -, -, hstream⟩ := receiveRequest_inv ‹receiveRequest segs = _›
  rw [hstream, List.length_append]
  exact Nat.lt_add_of_pos_left (Nat.succ_pos _)

section Streams

theorem answer_spec (s : TcpServer) (q : TcpRequest) :
    processPdu s q.unit q.pdu = some (q.answer s) ∧ 2 ≤ (q.answer s).1.length ∧
      (q.answer s).1.length ≤ 253 := by
  have hanswer : ∃ response sent, processPdu s q.unit q.pdu = some (response, sent) ∧
      2 ≤ response.length ∧ response.length ≤ 253 := by
    rcases Nat.lt_or_ge q.pdu.length 5 with hshort | hlong
    · exact ⟨_, _, short_request s q.unit hshort, le_refl 2, Nat.le_add_left 2 251⟩
    · obtain ⟨functionCode, address1, address0, quantity1, quantity0, rest, hpdu⟩ :=
        long_request hlong
      obtain ⟨response, sent, hresponse, hlow, hhigh, -⟩ :=
        long_answers s q.unit functionCode address1 address0 quantity1 quantity0 rest
      exact ⟨response, sent, hpdu ▸ hresponse, hlow, hhigh⟩
  obtain ⟨response, sent, hresponse, hlow, hhigh⟩ := hanswer
  have heq : q.answer s = (response, sent) := by
    unfold TcpRequest.answer
    rw [hresponse]
    rfl
  rw [heq]
  exact ⟨hresponse, hlow, hhigh⟩

/-- The bytes begin with no whole request. -/
def NoRequest (bytes : List UInt8) : Prop := ∀ q : TcpRequest, ¬ q.frame <+: bytes

theorem requests_of_stream (bytes : List UInt8) : ∃ (qs : List TcpRequest) (tail : List UInt8),
    bytes = qs.flatMap TcpRequest.frame ++ tail ∧ NoRequest tail := by
  induction hn : bytes.length using Nat.strong_induction_on generalizing bytes with
  | _ n ih =>
    by_cases hnone : NoRequest bytes
    · exact ⟨[], bytes, rfl, hnone⟩
    · obtain ⟨q, more, hmore⟩ : ∃ q : TcpRequest, q.frame <+: bytes := by
        unfold NoRequest at hnone
        simpa using hnone
      have hlength : more.length < n := by
        rw [← hn, ← hmore, List.length_append]
        have hpos : 0 < q.frame.length := by
          exact Nat.succ_pos _
        omega
      obtain ⟨qs, tail, htail, hrest⟩ := ih more.length hlength more rfl
      refine ⟨q :: qs, tail, ?_, hrest⟩
      rw [List.flatMap_cons, List.append_assoc, ← htail, hmore]

section Sessions

variable (servers : Nat → TcpServer) (accepts : Nat → Nat)

theorem clientTask_frame (k calls : Nat) (counters : ServerCounters) {segs : List (List UInt8)}
    {q : TcpRequest} {more : List UInt8} (h : stream segs = q.frame ++ more) :
    ∃ rest, stream rest = more ∧ clientTask servers accepts k calls counters segs =
      let response := q.answer (servers k)
      let sent := sendAll accepts calls (q.frameOf response.1)
      if sent.all then
        let later :=
          clientTask servers accepts (k + 1) sent.calls (counters.note response.1) rest
        ⟨sent.wire ++ later.wire, response.2 ++ later.writes, later.counters⟩
      else ⟨sent.wire, response.2, counters⟩ := by
  obtain ⟨rest, hreceived, hrest⟩ := receiveRequest_frame h
  obtain ⟨hanswer, -, -⟩ := answer_spec (servers k) q
  have hframe : responseFrame (q.header q.pdu.length) q.unit (q.answer (servers k)).1 =
      q.frameOf (q.answer (servers k)).1 := rfl
  have hunit : (q.header q.pdu.length).getD 6 0 = q.unit := rfl
  refine ⟨rest, hrest, ?_⟩
  rw [clientTask]
  split
  · rename_i heq
    rw [hreceived] at heq
    cases heq
  · rename_i header pdu rest' heq
    rw [hreceived] at heq
    obtain ⟨rfl, rfl, rfl⟩ : header = q.header q.pdu.length ∧ pdu = q.pdu ∧ rest' = rest := by
      simpa [eq_comm] using heq
    rw [hunit]
    dsimp only
    rw [hanswer]
    dsimp only
    rw [hframe]

theorem clientTask_none (k calls : Nat) (counters : ServerCounters) {segs : List (List UInt8)}
    (h : NoRequest (stream segs)) :
    clientTask servers accepts k calls counters segs = ⟨[], [], counters⟩ := by
  rw [clientTask]
  split
  · rfl
  · rename_i header pdu rest heq
    obtain ⟨q, -, -, hstream⟩ := receiveRequest_inv heq
    exact absurd ⟨stream rest, hstream.symm⟩ (h q)

/-- The answers to the requests of a connection from the `k`-th on. -/
def answersFrom : Nat → List TcpRequest → List (TcpRequest × List UInt8 × List ModbusWrite)
  | _, [] => []
  | k, q :: qs => (q, q.answer (servers k)) :: answersFrom (k + 1) qs

/-- The response frames to these requests, one after the other. -/
def responsesFrom (k : Nat) (qs : List TcpRequest) : List UInt8 :=
  (answersFrom servers k qs).flatMap fun a => a.1.frameOf a.2.1

def writesFrom (k : Nat) (qs : List TcpRequest) : List ModbusWrite :=
  (answersFrom servers k qs).flatMap fun a => a.2.2

def countedFrom (k : Nat) (qs : List TcpRequest) (counters : ServerCounters) : ServerCounters :=
  (answersFrom servers k qs).foldl (fun c a => c.note a.2.1) counters

theorem clientTask_requests {qs : List TcpRequest} {tail : List UInt8} (hnone : NoRequest tail)
    (k calls : Nat) (counters : ServerCounters) {segs : List (List UInt8)}
    (h : stream segs = qs.flatMap TcpRequest.frame ++ tail) :
    (clientTask servers accepts k calls counters segs).wire <+: responsesFrom servers k qs ∧
      (clientTask servers accepts k calls counters segs).writes <+: writesFrom servers k qs ∧
      ((∀ n, 0 < accepts n) → clientTask servers accepts k calls counters segs =
        ⟨responsesFrom servers k qs, writesFrom servers k qs, countedFrom servers k qs counters⟩) := by
  induction qs generalizing k calls counters segs with
  | nil =>
    have hended : clientTask servers accepts k calls counters segs = ⟨[], [], counters⟩ := by
      apply clientTask_none
      rw [h]
      exact hnone
    rw [hended]
    exact ⟨List.nil_prefix, List.nil_prefix, fun _ => rfl⟩
  | cons q qs ih =>
    rw [List.flatMap_cons, List.append_assoc] at h
    obtain ⟨rest, hrest, hround⟩ := clientTask_frame servers accepts k calls counters h
    rw [hround]
    dsimp only
    obtain ⟨hfront, hall, hsent⟩ :=
      sendAll_spec accepts calls (q.frameOf (q.answer (servers k)).1)
    have hresponses : responsesFrom servers k (q :: qs) =
        q.frameOf (q.answer (servers k)).1 ++ responsesFrom servers (k + 1) qs := rfl
    have hwrites : writesFrom servers k (q :: qs) =
        (q.answer (servers k)).2 ++ writesFrom servers (k + 1) qs := rfl
    rw [hresponses, hwrites]
    split
    · rename_i hsentAll
      rw [hall hsentAll]
      obtain ⟨hwire, hlater, heq⟩ := ih (k + 1) _ (counters.note (q.answer (servers k)).1) hrest
      refine ⟨?_, ?_, fun haccepts => ?_⟩
      · exact (List.prefix_append_right_inj _).2 hwire
      · exact (List.prefix_append_right_inj _).2 hlater
      · rw [heq haccepts]
        rfl
    · rename_i hfailed
      refine ⟨?_, ?_, fun haccepts => absurd (hsent haccepts) hfailed⟩
      · exact hfront.trans (List.prefix_append _ _)
      · exact List.prefix_append _ _

end Sessions

end Streams

def isException (response : List UInt8) : Bool := response.headD 0 &&& 0x80 ≠ 0

def isWrite (response : List UInt8) : Bool :=
  response.headD 0 &&& 0x80 = 0 ∧ response.headD 0 ∈ ([5, 6, 15, 16] : List UInt8)

theorem add_count (c : UInt32) (b : Bool) (n : Nat) :
    (if b then c + 1 else c) + UInt32.ofNat n = c + UInt32.ofNat (n + if b then 1 else 0) := by
  cases b with
  | false => rfl
  | true =>
    rw [if_pos rfl, if_pos rfl, UInt32.ofNat_add, UInt32.add_assoc, UInt32.add_comm 1]
    rfl

theorem note_eq (c : ServerCounters) (response : List UInt8) : c.note response =
    ⟨c.requests + 1, if isException response then c.exceptions + 1 else c.exceptions,
      if isWrite response then c.writes + 1 else c.writes⟩ := by
  unfold ServerCounters.note isException isWrite
  simp only [decide_eq_true_eq, List.mem_cons, List.not_mem_nil, or_false]

theorem countedFrom_eq (servers : Nat → TcpServer) (k : Nat) (qs : List TcpRequest)
    (c : ServerCounters) :
    countedFrom servers k qs c =
      { requests := c.requests + UInt32.ofNat qs.length
        exceptions := c.exceptions +
          UInt32.ofNat ((answersFrom servers k qs).countP fun a => isException a.2.1)
        writes := c.writes +
          UInt32.ofNat ((answersFrom servers k qs).countP fun a => isWrite a.2.1) } := by
  induction qs generalizing k c with
  | nil =>
    show c = ⟨c.requests + 0, c.exceptions + 0, c.writes + 0⟩
    rw [UInt32.add_zero, UInt32.add_zero, UInt32.add_zero]
  | cons q qs ih =>
    show countedFrom servers (k + 1) qs (c.note (q.answer (servers k)).1) = _
    have hone : c.requests + 1 + UInt32.ofNat qs.length =
        c.requests + UInt32.ofNat (qs.length + 1) := add_count c.requests true qs.length
    rw [ih, note_eq, add_count, add_count, hone]
    simp only [answersFrom, List.countP_cons, List.length_cons]

/-- **Every request of a connection is answered once, in order.** However the network cuts the
bytes, a connection is a sequence of whole requests and a rest that begins with none. The
responses on the wire are the first ones of the sequence of their answers, each behind the
first four bytes and the unit of its request; and as long as no `send` fails they are all of
them, the writes are all that the requests ask for, and the counters say how many there were. -/
theorem every_request_answered (servers : Nat → TcpServer) (accepts : Nat → Nat)
    (segs : List (List UInt8)) :
    ∃ (qs : List TcpRequest) (tail : List UInt8),
      stream segs = qs.flatMap TcpRequest.frame ++ tail ∧ NoRequest tail ∧
        let r := clientTask servers accepts 0 0 ⟨0, 0, 0⟩ segs
        let answers := answersFrom servers 0 qs
        let responses := answers.flatMap fun a => a.1.frameOf a.2.1
        let writes := answers.flatMap fun a => a.2.2
        r.wire <+: responses ∧ r.writes <+: writes ∧
          ((∀ n, 0 < accepts n) → r.wire = responses ∧ r.writes = writes ∧
            r.counters.requests = UInt32.ofNat qs.length ∧
            r.counters.exceptions = UInt32.ofNat (answers.countP fun a => isException a.2.1) ∧
            r.counters.writes = UInt32.ofNat (answers.countP fun a => isWrite a.2.1)) := by
  obtain ⟨qs, tail, hstream, hnone⟩ := requests_of_stream (stream segs)
  obtain ⟨hwire, hwrites, hall⟩ :=
    clientTask_requests servers accepts hnone 0 0 ⟨0, 0, 0⟩ hstream
  refine ⟨qs, tail, hstream, hnone, hwire, hwrites, fun haccepts => ?_⟩
  have hcounted := countedFrom_eq servers 0 qs ⟨0, 0, 0⟩
  rw [hall haccepts, hcounted]
  exact ⟨rfl, rfl, UInt32.zero_add _, UInt32.zero_add _, UInt32.zero_add _⟩

/-! ## The master on a connection -/

/-- `tcp_exchange` once it is connected; `segs` is what it can receive. -/
def exchangeOver (accepts : Nat → Nat) (tid : UInt16) (unit : UInt8) (pdu : List UInt8)
    (room : Nat) (segs : List (List UInt8)) : Except EspErr (List UInt8) :=
  let size := UInt16.ofNat (pdu.length + 1)
  let request := highByte tid :: lowByte tid :: 0 :: 0 :: highByte size :: lowByte size :: unit :: pdu
  if (sendAll accepts 0 request).all = false then .error .fail
  else
    match receiveAll 7 segs with
    | (none, _) => .error .invalidResponse
    | (some header, rest) =>
      let bodySize := (beWord (header.getD 4 0) (header.getD 5 0)).toNat
      if bodySize < 2 ∨ room < bodySize - 1 ∨ header.getD 0 0 ≠ highByte tid ∨
          header.getD 1 0 ≠ lowByte tid then .error .invalidResponse
      else
        match receiveAll (bodySize - 1) rest with
        | (none, _) => .error .invalidResponse
        | (some response, _) =>
          if response.headD 0 &&& 0x80 ≠ 0 then .error .invalidResponse else .ok response

/-- **The exchange of frames is what the sockets do.** Whatever the pieces in which the request
reaches the server and the response the master, an exchange over a connection on which no call
fails is the exchange of one frame for another. -/
theorem exchange_over_segments (s : TcpServer) (tid : UInt16) (unit : UInt8) (pdu : List UInt8)
    (room : Nat) (hsize : 1 ≤ pdu.length ∧ pdu.length ≤ 253) (accepts accepts' : Nat → Nat)
    (haccepts : ∀ n, 0 < accepts n) (haccepts' : ∀ n, 0 < accepts' n)
    (counters : ServerCounters) (segs segs' : List (List UInt8))
    (hrequest : stream segs = highByte tid :: lowByte tid :: 0 :: 0 ::
      highByte (UInt16.ofNat (pdu.length + 1)) :: lowByte (UInt16.ofNat (pdu.length + 1)) ::
        unit :: pdu)
    (hresponse : stream segs' = (clientTask (fun _ => s) accepts' 0 0 counters segs).wire) :
    exchangeOver accepts tid unit pdu room segs' = tcpExchange (serverPeer s) tid unit pdu room := by
  let q : TcpRequest := ⟨highByte tid, lowByte tid, 0, 0, unit, pdu, hsize⟩
  obtain ⟨hanswer, hlow, hhigh⟩ := answer_spec s q
  have hwire : stream segs' = q.frameOf (q.answer s).1 := by
    have hnone : NoRequest ([] : List UInt8) := fun q hq =>
      absurd (List.prefix_nil.1 hq) (List.cons_ne_nil _ _)
    have hstream : stream segs = [q].flatMap TcpRequest.frame ++ [] := by
      rw [hrequest]
      simp [TcpRequest.frame, TcpRequest.frameOf, TcpRequest.header, q]
    rw [hresponse, (clientTask_requests (fun _ => s) accepts' hnone 0 0 counters hstream).2.2
      haccepts']
    exact List.append_nil _
  generalize q.answer s = answer at hanswer hlow hhigh hwire
  obtain ⟨response, writes⟩ := answer
  have hfield := frame_size hhigh
  have hpeer : serverPeer s (highByte tid :: lowByte tid :: 0 :: 0 ::
      highByte (UInt16.ofNat (pdu.length + 1)) :: lowByte (UInt16.ofNat (pdu.length + 1)) ::
        unit :: pdu) = some (q.header response.length ++ response) := by
    have hlength : ¬ (pdu.length + 1 < 2 ∨ 254 < pdu.length + 1 ∨
        pdu.length < pdu.length + 1 - 1) := by omega
    unfold serverPeer serveFrame
    dsimp only
    rw [frame_size hsize.2, if_neg hlength, Nat.add_sub_cancel, List.take_length, hanswer]
    rfl
  have hseven : 7 ≤ (stream segs').length := by
    rw [hwire]
    exact Nat.le_add_left 7 _
  obtain ⟨hheader, hbody⟩ := receiveAll_some hseven
  rw [hwire] at hheader hbody
  have hbody' : stream (receiveAll 7 segs').2 = response := hbody
  have hfirst : receiveAll 7 segs' = (some (q.header response.length), (receiveAll 7 segs').2) :=
    Prod.ext hheader rfl
  obtain ⟨hpdu, -⟩ := receiveAll_some (le_refl (stream (receiveAll 7 segs').2).length)
  rw [List.take_length, hbody'] at hpdu
  have hsecond : receiveAll response.length (receiveAll 7 segs').2 =
      (some response, (receiveAll response.length (receiveAll 7 segs').2).2) := Prod.ext hpdu rfl
  have hsent := (sendAll_spec accepts 0 (highByte tid :: lowByte tid :: 0 :: 0 ::
    highByte (UInt16.ofNat (pdu.length + 1)) :: lowByte (UInt16.ofNat (pdu.length + 1)) ::
      unit :: pdu)).2.2 haccepts
  unfold exchangeOver tcpExchange
  dsimp only
  rw [hsent, if_neg Bool.noConfusion, hpeer, hfirst]
  have hfield' : (beWord ((q.header response.length).getD 4 0)
      ((q.header response.length).getD 5 0)).toNat = response.length + 1 := hfield
  have hpartner : (beWord (highByte (UInt16.ofNat (response.length + 1)))
      (lowByte (UInt16.ofNat (response.length + 1)))).toNat = response.length + 1 := hfield
  dsimp only
  rw [hfield', Nat.add_sub_cancel, hsecond]
  show _ = (if _ then _ else _)
  rw [hpartner, Nat.add_sub_cancel]
  have hheads : (q.header response.length).getD 0 0 = highByte tid ∧
      (q.header response.length).getD 1 0 = lowByte tid := ⟨rfl, rfl⟩
  rw [hheads.1, hheads.2]
  split
  · rfl
  · have hnil : ([] : List UInt8).append response = response := rfl
    rw [hnil, if_neg (Nat.lt_irrefl _), List.take_length]

def meterState (point : CStr) (raw : ℚ) : TcmContext :=
  { TcmContext.zero with
    deviceId := .copy 32 "meter".toList
    pointId := .copy 32 point
    rawValue := .fin raw
    qualityState := .good }

/-- The power of a meter in one register, and its energy in the two behind it. -/
def meterServer : TcpServer :=
  { idleServer with
    table := { AmmTable.empty 8 with
      table := [{ samplePoint with active := true },
        { holdingPoint 1 "meter".toList "energy".toList with dataType := .uint32, active := true }] }
    pool := ⟨[meterState "power".toList 230, meterState "energy".toList 70000], 8, by decide⟩ }

def readSegments : List (List UInt8) := [[0, 7, 0], [0, 0, 6, 1, 3], [0, 0, 0, 3]]

/-- What the server sends back, in two pieces. -/
def meterReply : List (List UInt8) :=
  let wire := (clientTask (fun _ => meterServer) (fun _ => 1) 0 0 ⟨0, 0, 0⟩ readSegments).wire
  [wire.take 4, wire.drop 4]

theorem exchange_over_segments_meter :
    exchangeOver (fun _ => 2) 7 1 [3, 0, 0, 0, 3] 260 meterReply =
      .ok [3, 6, 0, 230, 0, 1, 17, 112] := by
  have hsame : exchangeOver (fun _ => 2) 7 1 [3, 0, 0, 0, 3] 260 meterReply =
      tcpExchange (serverPeer meterServer) 7 1 [3, 0, 0, 0, 3] 260 :=
    exchange_over_segments meterServer 7 1 [3, 0, 0, 0, 3] 260 (by decide) (fun _ => 2)
      (fun _ => 1) (fun _ => by decide) (fun _ => by decide) ⟨0, 0, 0⟩ readSegments meterReply
      (by decide) (by decide +kernel)
  exact hsame.trans (by decide +kernel)

/-! ## The slots of the clients -/

/-- Where `server_task` stands; after a refused `xTaskCreate` the slot is given back. -/
inductive ServerTask
  | accepting
  | creating
  | refused
  | ended
  deriving DecidableEq

/-- `server_task` and the tasks of its clients: `clients` serve a connection, `leaving` have
closed it and not given their slot back. -/
structure Listener where
  maxClients : UInt8
  activeClients : UInt8
  server : ServerTask
  clients : Nat
  leaving : Nat

/-- `modbus_tcp_server_start` with the configured number of clients. -/
def Listener.start (configured : UInt8) : Listener where
  maxClients := if configured > 0 then configured else 4
  activeClients := 0
  server := .accepting
  clients := 0
  leaving := 0

inductive ListenerStep
  /-- `accept` returns a connection, or fails. -/
  | accept (connected : Bool)
  /-- `xTaskCreate`. -/
  | create (created : Bool)
  | giveBack
  /-- A client task leaves its loop. -/
  | leave
  /-- The decrement of a client task that has left. -/
  | release
  deriving DecidableEq

namespace Listener

def accept (l : Listener) (connected : Bool) : Listener :=
  if l.server = .accepting then
    if connected = false then { l with server := .ended }
    else if l.activeClients ≥ l.maxClients then l
    else { l with activeClients := l.activeClients + 1, server := .creating }
  else l

def create (l : Listener) (created : Bool) : Listener :=
  if l.server = .creating then
    if created then { l with server := .accepting, clients := l.clients + 1 }
    else { l with server := .refused }
  else l

def giveBack (l : Listener) : Listener :=
  if l.server = .refused then
    { l with activeClients := l.activeClients - 1, server := .accepting }
  else l

def leave (l : Listener) : Listener :=
  if 0 < l.clients then { l with clients := l.clients - 1, leaving := l.leaving + 1 } else l

def release (l : Listener) : Listener :=
  if 0 < l.leaving then
    { l with
      activeClients := if l.activeClients > 0 then l.activeClients - 1 else l.activeClients
      leaving := l.leaving - 1 }
  else l

def step (l : Listener) : ListenerStep → Listener
  | .accept connected => l.accept connected
  | .create created => l.create created
  | .giveBack => l.giveBack
  | .leave => l.leave
  | .release => l.release

def slots (l : Listener) : Nat :=
  l.clients + l.leaving + if l.server = .creating ∨ l.server = .refused then 1 else 0

/-- The counter is the number of slots in use, and there are not more than configured. -/
structure SlotInv (limit : UInt8) (l : Listener) : Prop where
  configured : l.maxClients = limit
  exact : l.activeClients.toNat = l.slots
  le : l.activeClients.toNat ≤ limit.toNat

section Slots

variable {limit : UInt8} {l : Listener}

theorem slotInv_start (configured : UInt8) :
    SlotInv (start configured).maxClients (start configured) :=
  ⟨rfl, rfl, Nat.zero_le _⟩

theorem sub_one_toNat {n : UInt8} (h : 0 < n.toNat) : (n - 1).toNat = n.toNat - 1 :=
  UInt8.toNat_sub_of_le n 1 (UInt8.le_iff_toNat_le.2 h)

theorem SlotInv.accept (h : SlotInv limit l) (connected : Bool) : SlotInv limit (l.accept connected) := by
  have hexact := h.exact
  have hle := h.le
  unfold Listener.accept
  unfold slots at hexact
  split
  · rename_i haccepting
    rw [haccepting] at hexact
    split
    · exact ⟨h.configured, hexact, hle⟩
    · split
      · exact h
      · rename_i hfree
        have hlt : l.activeClients.toNat < limit.toNat := by
          rw [← h.configured]
          exact Nat.not_le.1 fun hfull => hfree (UInt8.le_iff_toNat_le.2 hfull)
        have hnext : (l.activeClients + 1).toNat = l.activeClients.toNat + 1 := by
          have hlimit := limit.toNat_lt
          have hone : (1 : UInt8).toNat = 1 := rfl
          rw [UInt8.toNat_add, hone]
          exact Nat.mod_eq_of_lt (by omega)
        refine ⟨h.configured, ?_, ?_⟩
        · show (l.activeClients + 1).toNat = l.clients + l.leaving + 1
          rw [hnext, hexact]
          rfl
        · rw [hnext]
          exact hlt
  · exact h

theorem SlotInv.create (h : SlotInv limit l) (created : Bool) : SlotInv limit (l.create created) := by
  have hexact := h.exact
  unfold Listener.create
  unfold slots at hexact
  split
  · rename_i hcreating
    rw [hcreating, if_pos (.inl rfl)] at hexact
    split
    · refine ⟨h.configured, ?_, h.le⟩
      show l.activeClients.toNat = l.clients + 1 + l.leaving + 0
      omega
    · exact ⟨h.configured, hexact, h.le⟩
  · exact h

theorem SlotInv.giveBack (h : SlotInv limit l) : SlotInv limit l.giveBack := by
  have hexact := h.exact
  have hle := h.le
  unfold Listener.giveBack
  unfold slots at hexact
  split
  · rename_i hrefused
    rw [hrefused, if_pos (.inr rfl)] at hexact
    have hpos : 0 < l.activeClients.toNat := by omega
    have hless := sub_one_toNat hpos
    refine ⟨h.configured, ?_, ?_⟩
    · show (l.activeClients - 1).toNat = l.clients + l.leaving + 0
      omega
    · show (l.activeClients - 1).toNat ≤ _
      omega
  · exact h

theorem SlotInv.leave (h : SlotInv limit l) : SlotInv limit l.leave := by
  have hexact := h.exact
  unfold Listener.leave
  unfold slots at hexact
  split
  · refine ⟨h.configured, ?_, h.le⟩
    unfold slots
    dsimp only
    omega
  · exact h

theorem SlotInv.release (h : SlotInv limit l) : SlotInv limit l.release := by
  have hexact := h.exact
  have hle := h.le
  unfold Listener.release
  unfold slots at hexact
  split
  · have hpos : 0 < l.activeClients.toNat := by omega
    have hless := sub_one_toNat hpos
    have hguard : l.activeClients > 0 := UInt8.lt_iff_toNat_lt.2 hpos
    rw [if_pos hguard]
    refine ⟨h.configured, ?_, ?_⟩
    · unfold slots
      dsimp only
      omega
    · show (l.activeClients - 1).toNat ≤ _
      omega
  · exact h

theorem SlotInv.step (h : SlotInv limit l) (a : ListenerStep) : SlotInv limit (l.step a) := by
  cases a with
  | accept connected => exact h.accept connected
  | create created => exact h.create created
  | giveBack => exact h.giveBack
  | leave => exact h.leave
  | release => exact h.release

end Slots

end Listener

open Listener

/-- **The server never serves more clients than configured.** In every interleaving of the
server task and its clients, `active_clients` is the number of slots in use, clients that are
served, that are leaving and the one being created, and it never exceeds the configured limit;
a new connection is taken exactly if a slot is free. -/
theorem client_slots (configured : UInt8) (as : List ListenerStep) :
    let limit := if configured > 0 then configured else 4
    let l := run step (start configured) as
    l.activeClients.toNat = l.slots ∧ l.slots ≤ limit.toNat ∧
      (l.server = .accepting →
        ((l.accept true).server = .creating ↔ l.slots < limit.toNat)) := by
  intro limit l
  have hinv : SlotInv limit l := by
    have hkeep : ∀ l a, SlotInv limit l → True → SlotInv limit (step l a) := fun _ a h _ => h.step a
    exact inv_run hkeep (slotInv_start configured) (allSteps_of_forall (fun _ _ => trivial) _)
  refine ⟨hinv.exact, hinv.exact ▸ hinv.le, fun haccepting => ?_⟩
  unfold accept
  rw [if_pos haccepting, if_neg Bool.noConfusion, hinv.configured, ← hinv.exact]
  split
  · rename_i hfull
    rw [haccepting]
    exact iff_of_false ServerTask.noConfusion (Nat.not_lt.2 (UInt8.le_iff_toNat_le.1 hfull))
  · rename_i hfree
    refine iff_of_true rfl (Nat.not_le.1 fun hfull => hfree (UInt8.le_iff_toNat_le.2 hfull))

end McpGateway.Modbus
