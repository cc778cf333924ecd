import MicroserviceCommon.Communication.Framing

/-!
# Framing over a round trip

The header has sixteen bytes, and the length of the message counts only one of them.

* `message_of_sent` — a message comes back with the fifteen bytes behind the payload
* `framing_iff` — no package is given back, and only the smallest payloads are read inside
* `framing_message_differs` — a message of two bytes
-/

namespace MicroserviceCommon

open Infra

/-! ## Channels -/

/-- The callbacks that expect a header. -/
inductive Channel where
  | websocket (connectionId : TConnectionId)
  | objreprServer (connId : TConnectionId) (listenedObjectId : TSensorId)
  | objreprClient (connId : TConnectionId) (listenedObjectId : TSensorId)
  deriving DecidableEq, Repr

namespace Channel

/-- A payload arrives with the opcode or the content type that the callback accepts. -/
def decode (payload : Buffer) : Channel → Traced Delivery
  | websocket connectionId => callbackIncomingMessage connectionId .binary payload
  | objreprServer connId listenedObjectId =>
    ObjreprListener.callbackFromObjreprServerMode ⟨connId, true, listenedObjectId⟩ .client payload
  | objreprClient connId listenedObjectId =>
    ObjreprListener.callbackFromObjreprClientMode ⟨connId, true, listenedObjectId⟩ .server payload

/-- Only the client mode looks at the initiative. -/
def makesRequest (payload : Buffer) : Channel → Bool
  | websocket _ | objreprServer _ _ => true
  | objreprClient _ _ => payload.byteAt 0 == 0

end Channel

/-- The message that is delivered. -/
def Delivery.message? : Delivery → Option (List UInt8)
  | request r => some r.incomingMessage
  | response message => some message
  | ignored | lengthError => none

/-- A response comes without its header. -/
def Delivery.header? : Delivery → Option SHeader
  | request r => some r.header
  | response _ | ignored | lengthError => none

/-- The package that was sent is delivered. -/
def Delivery.GivesBack (d : Delivery) (package : SNetworkPackage) : Prop :=
  d.message? = some package.msg ∧ ∀ header ∈ d.header?, header = package.header

/-- Only bytes of the payload are read, and one that is too short makes no request. -/
def Channel.ReadsInside (channel : Channel) (payload : Buffer) : Prop :=
  payload.Inside (channel.decode payload).offsets ∧
    (payload.size < sizeofHeader → (channel.decode payload).value.header? = none)

section Decode

variable {channel : Channel} {payload : Buffer}

/-- An empty payload is refused, by `assign` or by the callback itself. -/
theorem decode_of_empty (channel : Channel) (h : payload.size = 0) :
    (channel.decode payload).offsets = [] ∧ (channel.decode payload).value.header? = none := by
  cases channel <;>
    simp [Channel.decode, callbackIncomingMessage, ObjreprListener.callbackFromObjreprServerMode,
      ObjreprListener.callbackFromObjreprClientMode, assignMessage_of_empty h, h, Delivery.header?]

theorem zero_mem_framedOffsets (payload : Buffer) : 0 ∈ framedOffsets payload :=
  List.mem_append_right _ List.mem_cons_self

theorem decode_of_makesRequest (hpos : 0 < payload.size) (hmax : payload.size ≤ maxSize)
    (hreq : channel.makesRequest payload = true) :
    ∃ r : FramedRequest, (channel.decode payload).value = .request r ∧
      r.header = (readHeader payload).value ∧
      r.incomingMessage = payload.slice sizeofHeader (payload.size - 1) ∧
      (payload.Inside (channel.decode payload).offsets ↔
        payload.Inside (framedOffsets payload)) := by
  cases channel with
  | websocket connectionId =>
    rw [Channel.decode, callbackIncomingMessage_binary hpos hmax]
    exact ⟨_, rfl, rfl, rfl, Iff.rfl⟩
  | objreprServer connId listenedObjectId =>
    rw [Channel.decode, callbackFromObjreprServerMode_framed hpos hmax]
    exact ⟨_, rfl, rfl, rfl, Iff.rfl⟩
  | objreprClient connId listenedObjectId =>
    rw [Channel.decode, callbackFromObjreprClientMode_framed hpos hmax,
      if_pos (beq_iff_eq.mp hreq)]
    refine ⟨_, rfl, rfl, rfl, ?_⟩
    exact List.forall_mem_cons.trans
      (and_iff_right_of_imp fun h => h 0 (zero_mem_framedOffsets payload))

theorem decode_of_response (hpos : 0 < payload.size) (hmax : payload.size ≤ maxSize)
    (hreq : channel.makesRequest payload = false) :
    (channel.decode payload).value =
        .response (payload.slice sizeofHeader (payload.size - 1)) ∧
      (channel.decode payload).offsets =
        0 :: List.range' sizeofHeader (payload.size - 1) := by
  cases channel with
  | websocket connectionId => cases hreq
  | objreprServer connId listenedObjectId => cases hreq
  | objreprClient connId listenedObjectId =>
    rw [Channel.decode, callbackFromObjreprClientMode_framed hpos hmax,
      if_neg (beq_eq_false_iff_ne.mp hreq)]
    exact ⟨rfl, rfl⟩

/-- A payload that is not empty always delivers a message. -/
theorem message_of_pos (channel : Channel) (hpos : 0 < payload.size)
    (hmax : payload.size ≤ maxSize) :
    (channel.decode payload).value.message? =
      some (payload.slice sizeofHeader (payload.size - 1)) := by
  cases hreq : channel.makesRequest payload with
  | true =>
    obtain ⟨r, hr, _, hmsg, _⟩ := decode_of_makesRequest hpos hmax hreq
    rw [hr, Delivery.message?, hmsg]
  | false => rw [(decode_of_response hpos hmax hreq).1, Delivery.message?]

end Decode

/-! ## Packages and payloads -/

/--
**A message comes back with the fifteen bytes behind the payload.**

Where a header comes back with it, that is the one which was sent.
-/
theorem message_of_sent (channel : Channel) {package : SNetworkPackage} {padding : Vector UInt8 7}
    {payload : Buffer} (hsent : payload.bytes = sendAsyncRequest package padding)
    (hmax : payload.size ≤ maxSize) :
    (channel.decode payload).value.message? =
        some (package.msg ++ (List.range 15).map payload.beyond) ∧
      ∀ header ∈ (channel.decode payload).value.header?, header = package.header := by
  have hsize := size_of_sent hsent
  have hpos : 0 < payload.size := by
    rw [hsize, sizeofHeader]
    omega
  constructor
  · have hcount : payload.size - 1 = package.msg.length + 15 := by
      rw [hsize, sizeofHeader]
      omega
    rw [message_of_pos channel hpos hmax, hcount, Buffer.slice_over hsize.symm, hsent,
      sendAsyncRequest, List.drop_left' (length_objectBytes _ _)]
  · intro header hheader
    cases hreq : channel.makesRequest payload with
    | true =>
      obtain ⟨r, hr, hrheader, _, _⟩ := decode_of_makesRequest hpos hmax hreq
      rw [hr] at hheader
      cases hheader
      rw [hrheader, readHeader_of_sent hsent]
    | false =>
      rw [(decode_of_response hpos hmax hreq).1] at hheader
      cases hheader

/-- The message alone reaches over the end, as soon as it is not empty. -/
theorem inside_message_iff {payload : Buffer} (hpos : 0 < payload.size) :
    payload.Inside (List.range' sizeofHeader (payload.size - 1)) ↔ payload.size = 1 := by
  rw [Buffer.inside_range', sizeofHeader]
  omega

theorem not_inside_framedOffsets {payload : Buffer} (hpos : 0 < payload.size) :
    ¬ payload.Inside (framedOffsets payload) := by
  rw [framedOffsets, Buffer.inside_append, inside_message_iff hpos]
  rintro ⟨hone, hheader⟩
  -- a payload of one byte does not hold the last byte of the header
  have hlast := hheader 15 (show 15 ∈ 0 :: List.range' 8 8 by decide)
  omega

/-- **Which payloads are read inside their bounds.** -/
theorem readsInside_iff (channel : Channel) {payload : Buffer} (hmax : payload.size ≤ maxSize) :
    channel.ReadsInside payload ↔
      payload.size = 0 ∨ payload.size = 1 ∧ channel.makesRequest payload = false := by
  rw [Channel.ReadsInside]
  by_cases hempty : payload.size = 0
  · obtain ⟨hoffsets, hheader⟩ := decode_of_empty channel hempty
    rw [hoffsets, hheader]
    exact iff_of_true ⟨Buffer.inside_nil, fun _ => rfl⟩ (Or.inl hempty)
  · have hpos : 0 < payload.size := by omega
    rw [or_iff_right hempty]
    cases hreq : channel.makesRequest payload with
    | true =>
      obtain ⟨r, _, _, _, hinside⟩ := decode_of_makesRequest hpos hmax hreq
      rw [hinside]
      exact iff_of_false (fun h => not_inside_framedOffsets hpos h.1) (fun h => by cases h.2)
    | false =>
      obtain ⟨hvalue, hoffsets⟩ := decode_of_response hpos hmax hreq
      rw [hvalue, hoffsets, Buffer.Inside, List.forall_mem_cons, and_iff_right hpos]
      exact (and_iff_left fun _ => rfl).trans
        ((inside_message_iff hpos).trans (and_iff_left rfl).symm)

/--
**No package is given back, and only the smallest payloads are read inside their bounds.**

These are the empty one, and in client mode one byte that claims the initiative of the client.
-/
theorem framing_iff (channel : Channel) {payload : Buffer} (hmax : payload.size ≤ maxSize) :
    (∀ package padding, payload.bytes = sendAsyncRequest package padding →
        ¬ (channel.decode payload).value.GivesBack package) ∧
      (channel.ReadsInside payload ↔
        payload.size = 0 ∨ payload.size = 1 ∧ channel.makesRequest payload = false) := by
  refine ⟨fun package padding hsent hback => ?_, readsInside_iff channel hmax⟩
  have hmsg := hback.1
  rw [(message_of_sent channel hsent hmax).1, Option.some.injEq,
    List.append_right_eq_self] at hmsg
  cases hmsg

/-- The message `ok` behind a header. -/
theorem framing_iff_websocket :
    let payload : Buffer :=
      ⟨sendAsyncRequest ⟨⟨true, 5⟩, [111, 107]⟩ (Vector.replicate 7 0), fun _ => 0⟩
    (∀ package padding, payload.bytes = sendAsyncRequest package padding →
        ¬ ((Channel.websocket 1).decode payload).value.GivesBack package) ∧
      ((Channel.websocket 1).ReadsInside payload ↔
        payload.size = 0 ∨ payload.size = 1 ∧ (Channel.websocket 1).makesRequest payload = false) :=
  framing_iff (.websocket 1) (by decide)

/-- The message `ok`, with zeros behind the payload. -/
theorem framing_message_differs :
    ¬ ((Channel.websocket 1).decode
      ⟨sendAsyncRequest ⟨⟨true, 5⟩, [111, 107]⟩ (Vector.replicate 7 0), fun _ => 0⟩).value.GivesBack
        ⟨⟨true, 5⟩, [111, 107]⟩ := by
  intro h
  exact absurd h.1 (by decide)

end MicroserviceCommon
