import McpGateway.Thingscloud.Adapter

/-!
# Cutting and sending

Both aggregated publishers cut their buffer into packets and send these. Where
the cuts lie depends on the buffer alone: `publishGwAttrChunked_eq` and
`publishSubdeviceAggregated_eq` split each publisher into a list of packets and
a sender. The gateway's sender goes on after an error, the other one stops.
-/

namespace McpGateway.Thingscloud

open McpGateway.Lib McpGateway.Tcm

/-! ## Packets -/

/-- The packets of `publish_gw_attr_chunked`, with `root` begun. -/
def gwAttrPackets (lib : JsonLib) :
    List CloudProperty → List (CStr × Json) → Nat → List Json
  | [], root, inPack => if inPack > 0 then [.obj root] else []
  | p :: props, root, inPack =>
    if p.propertyKey.str = [] then gwAttrPackets lib props root inPack
    else if (lib.printUnformatted (.obj (addProperty root p))).length > maxPayloadBytes ∧
        inPack + 1 > 1 then
      .obj (deleteItem (addProperty root p) p.propertyKey.str) ::
        gwAttrPackets lib props (addProperty [] p) 1
    else gwAttrPackets lib props (addProperty root p) (inPack + 1)

/-- The packets of `publish_subdevice_aggregated`, with `root` begun, and the
error that ends them. -/
def subdevicePackets (lib : JsonLib) :
    List CloudProperty → DeviceFields → Nat → List Json × EspErr
  | [], root, inPack => (if inPack > 0 then [devicesJson root] else [], .ok)
  | p :: props, root, inPack =>
    if (lib.printUnformatted (devicesJson (addToDevice root p))).length ≤ maxPayloadBytes then
      subdevicePackets lib props (addToDevice root p) (inPack + 1)
    else
      let closed :=
        if inPack > 0 then [devicesJson (dropFromDevice (addToDevice root p) p)] else []
      if (lib.printUnformatted (devicesJson (addToDevice [] p))).length > maxPayloadBytes then
        (closed, .invalidSize)
      else
        let rest := subdevicePackets lib props (addToDevice [] p) 1
        (closed ++ rest.1, rest.2)

/-! ## Senders -/

/-- Sends packet after packet; the first error is returned at the end. -/
def sendAll (env : LinkEnv) (topic : TcTopic) : List Json → Adapter → Out
  | [], a => ⟨.ok, a, []⟩
  | d :: ds, a =>
    let first := tcPublishTelemetry env a ⟨topic, .json d⟩
    let rest := sendAll env topic ds first.adapter
    ⟨firstError first.err rest.err, rest.adapter, first.sent ++ rest.sent⟩

/-- Sends packets until an error; `last` is the result behind the last one. -/
def sendWhileOk (lib : JsonLib) (env : LinkEnv) (topic : TcTopic) :
    List Json → EspErr → Adapter → Out
  | [], last, a => ⟨last, a, []⟩
  | d :: ds, last, a =>
    let first := publishJsonObject lib env a d topic
    if first.err ≠ .ok then first
    else
      let rest := sendWhileOk lib env topic ds last first.adapter
      ⟨rest.err, rest.adapter, first.sent ++ rest.sent⟩

section Split

variable {lib : JsonLib} {env : LinkEnv} {a : Adapter}

theorem firstError_ok (e : EspErr) : firstError .ok e = e := if_pos rfl

theorem firstError_of_ok (e : EspErr) : firstError e .ok = e := by
  unfold firstError
  split
  · rename_i he
    exact he.symm
  · rfl

theorem firstError_assoc (e f g : EspErr) :
    firstError (firstError e f) g = firstError e (firstError f g) := by
  unfold firstError
  by_cases he : e = .ok
  · rw [if_pos he, if_pos he]
  · rw [if_neg he, if_neg he, if_neg he]

/-- The result of the gateway loop, with the last packet sent. -/
def gwAttrFinish (env : LinkEnv) (st : Pack Json) : Out :=
  if st.inPack > 0 then
    let out := tcPublishTelemetry env st.adapter ⟨.attributes, .json (.obj st.root)⟩
    ⟨firstError st.firstErr out.err, out.adapter, st.sent ++ out.sent⟩
  else ⟨st.firstErr, st.adapter, st.sent⟩

theorem gwAttrLoop_eq (props : List CloudProperty) (st : Pack Json) :
    gwAttrFinish env (gwAttrLoop lib env props st) =
      let out := sendAll env .attributes (gwAttrPackets lib props st.root st.inPack) st.adapter
      ⟨firstError st.firstErr out.err, out.adapter, st.sent ++ out.sent⟩ := by
  induction props generalizing st with
  | nil =>
    rw [gwAttrLoop, gwAttrPackets, gwAttrFinish]
    split
    · simp only [sendAll, firstError_of_ok, List.append_nil]
    · simp only [sendAll, firstError_of_ok, List.append_nil]
  | cons p props ih =>
    rw [gwAttrLoop, gwAttrPackets]
    simp only
    split
    · exact ih st
    · split
      · rw [ih]
        simp only [sendAll, firstError_assoc, List.append_assoc]
      · rw [ih]

/-- **The gateway's attributes.** -/
theorem publishGwAttrChunked_eq (props : List CloudProperty) :
    publishGwAttrChunked lib env a props =
      sendAll env .attributes (gwAttrPackets lib props [] 0) a := by
  have hloop := @gwAttrLoop_eq lib env props
    { root := [], inPack := 0, firstErr := .ok, adapter := a, sent := [] }
  simp only [firstError_ok, List.nil_append] at hloop
  exact hloop

/-- The result of the sub-device loop, with the last packet sent. -/
def subdeviceFinish (lib : JsonLib) (env : LinkEnv) (st : Pack (List (CStr × Json))) : Out :=
  if st.firstErr = .ok ∧ st.inPack > 0 then
    let out := publishJsonObject lib env st.adapter (devicesJson st.root) .gatewayAttributes
    ⟨out.err, out.adapter, st.sent ++ out.sent⟩
  else ⟨st.firstErr, st.adapter, st.sent⟩

theorem subdeviceLoop_eq (props : List CloudProperty) (st : Pack (List (CStr × Json)))
    (hok : st.firstErr = .ok) :
    subdeviceFinish lib env (subdeviceLoop lib env props st) =
      let packets := subdevicePackets lib props st.root st.inPack
      let out := sendWhileOk lib env .gatewayAttributes packets.1 packets.2 st.adapter
      ⟨out.err, out.adapter, st.sent ++ out.sent⟩ := by
  induction props generalizing st with
  | nil =>
    rw [subdeviceLoop, subdevicePackets, subdeviceFinish]
    by_cases hn : st.inPack > 0
    · rw [if_pos ⟨hok, hn⟩, if_pos hn]
      simp only [sendWhileOk]
      split
      · rfl
      · rename_i herr
        rw [not_not.1 herr, List.append_nil]
    · rw [if_neg fun h => hn h.2, if_neg hn]
      simp only [sendWhileOk, hok, List.append_nil]
  | cons p props ih =>
    rw [subdeviceLoop, subdevicePackets]
    simp only
    split
    · exact ih _ hok
    · by_cases hn : st.inPack > 0
      · simp only [closePack, if_pos hn]
        split
        · rename_i herr
          rw [subdeviceFinish, if_neg fun h => herr h.1]
          split
          · simp only [sendWhileOk, if_pos herr]
          · simp only [List.singleton_append, sendWhileOk, if_pos herr]
        · rename_i herr
          split
          · rw [subdeviceFinish, if_neg (by simp)]
            simp only [sendWhileOk, if_neg herr, List.append_nil]
          · refine (ih _ ?_).trans ?_
            · exact hok
            · simp only [List.singleton_append, sendWhileOk, if_neg herr, List.append_assoc]
      · simp only [closePack, if_neg hn, ne_eq, not_true_eq_false, if_false, List.append_nil,
          List.nil_append]
        split
        · rw [subdeviceFinish, if_neg (by simp)]
          simp only [sendWhileOk, List.append_nil]
        · exact ih _ hok

/-- **The sub-devices' attributes.** -/
theorem publishSubdeviceAggregated_eq {props : List CloudProperty} (hprops : props ≠ [])
    (hconnected : env.connected = true) :
    publishSubdeviceAggregated lib env a props =
      let packets := subdevicePackets lib props [] 0
      sendWhileOk lib env .gatewayAttributes packets.1 packets.2 a := by
  have hloop := @subdeviceLoop_eq lib env props
    { root := [], inPack := 0, firstErr := .ok, adapter := a, sent := [] } rfl
  rw [publishSubdeviceAggregated, if_neg hprops, hconnected, if_neg (by simp)]
  simp only [List.nil_append] at hloop
  exact hloop

/-! ## Publishing -/

/-- Telemetry on one topic, message after message: the statics before and after
it, and what is sent. -/
inductive Publishes (env : LinkEnv) (topic : TcTopic) : Adapter → Adapter → List Publish → Prop
  | nothing (a : Adapter) : Publishes env topic a a []
  | more {a b : Adapter} {sent : List Publish} (doc : Json)
      (rest : Publishes env topic (tcPublishTelemetry env a ⟨topic, .json doc⟩).adapter b sent) :
      Publishes env topic a b ((tcPublishTelemetry env a ⟨topic, .json doc⟩).sent ++ sent)

theorem Publishes.one (env : LinkEnv) (a : Adapter) (topic : TcTopic) (doc : Json) :
    Publishes env topic a (tcPublishTelemetry env a ⟨topic, .json doc⟩).adapter
      (tcPublishTelemetry env a ⟨topic, .json doc⟩).sent := by
  have hlast := Publishes.more doc
    (.nothing (tcPublishTelemetry env a ⟨topic, .json doc⟩).adapter : Publishes env topic _ _ _)
  rwa [List.append_nil] at hlast

theorem sendAll_publishes (topic : TcTopic) (ds : List Json) (a : Adapter) :
    Publishes env topic a (sendAll env topic ds a).adapter (sendAll env topic ds a).sent := by
  induction ds generalizing a with
  | nil => exact .nothing a
  | cons d ds ih => exact .more d (ih _)

theorem sendWhileOk_publishes (topic : TcTopic) (ds : List Json) (last : EspErr) (a : Adapter) :
    Publishes env topic a (sendWhileOk lib env topic ds last a).adapter
      (sendWhileOk lib env topic ds last a).sent := by
  induction ds generalizing a with
  | nil => exact .nothing a
  | cons d ds ih =>
    rw [sendWhileOk]
    unfold publishJsonObject
    by_cases hlong : (lib.printUnformatted d).length > maxPayloadBytes
    · rw [if_pos hlong]
      exact .nothing a
    · rw [if_neg hlong]
      dsimp only
      split
      · exact .one env a topic d
      · exact .more d (ih _)

theorem publishGatewayAttributes_publishes (a : Adapter) (props : List CloudProperty) :
    Publishes env .attributes a (publishGatewayAttributes lib env a props).adapter
      (publishGatewayAttributes lib env a props).sent := by
  unfold publishGatewayAttributes
  split
  · exact .nothing a
  · rw [publishGwAttrChunked_eq]
    exact sendAll_publishes _ _ a

theorem publishSubdeviceAggregated_publishes (a : Adapter) (props : List CloudProperty) :
    Publishes env .gatewayAttributes a (publishSubdeviceAggregated lib env a props).adapter
      (publishSubdeviceAggregated lib env a props).sent := by
  by_cases hprops : props = []
  · rw [publishSubdeviceAggregated, if_pos hprops]
    exact .nothing a
  · cases hconnected : env.connected with
    | false =>
      rw [publishSubdeviceAggregated, if_neg hprops, if_pos hconnected]
      exact .nothing a
    | true =>
      rw [publishSubdeviceAggregated_eq hprops hconnected]
      exact sendWhileOk_publishes _ _ _ a

end Split

end McpGateway.Thingscloud
