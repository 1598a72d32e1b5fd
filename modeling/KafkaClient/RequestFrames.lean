import KafkaClient.Encoder
import KafkaClient.ConnectionRuns

/-! The request frame, built two ways: by `BrokerConnection.send` with the `RequestHeader` of
`network/protocol/Headers`, and by `Request.toBuffer` with the `RequestHeader` of the protocol
layer, written on an `Encoder`. What `send` writes to the socket, what `RequestHeader.decode`
reads back from it, and where the two headers part: the empty client id, which the network
header writes as null, and the tag the protocol header adds from version 2 on. -/

namespace KafkaClient

/-! ## The protocol layer's header and `Request.toBuffer` -/

/-- The protocol `RequestHeader`; its `tag` starts at 0 and only `decode` changes it. -/
structure RequestHeader (Text : Type) where
  apiKey : Int
  apiVersion : Int
  correlationId : Int
  clientId : Option Text
  tag : Int := 0

/-- `encode(encoder)`: the header's writes on the encoder it is given. -/
def RequestHeader.encode {Text : Type} (utf8 : Utf8 Text) (header : RequestHeader Text)
    (enc : Encoder) : Option Encoder := do
  let enc ← enc.writeInt16 header.apiKey
  let enc ← enc.writeInt16 header.apiVersion
  let enc ← enc.writeInt32 header.correlationId
  let enc ← enc.writeString utf8 header.clientId
  if header.apiVersion ≥ 2 then enc.writeUInt16 header.tag else pure enc

/-- `Request.toBuffer`: a zero size, the header, and the body that `encodeBody` (the request's
own `encode(encoder)`) writes; then the size written over the first four bytes. -/
def Request.toBuffer {Text : Type} (utf8 : Utf8 Text) (apiKey apiVersion correlationId : Int)
    (clientId : Option Text) (encodeBody : Encoder → Option Encoder) : Option Bytes := do
  let encoder ← Encoder.empty.writeInt32 0
  let encoder ← RequestHeader.encode utf8 ⟨apiKey, apiVersion, correlationId, clientId, 0⟩ encoder
  let encoder ← encodeBody encoder
  let buffer := encoder.build
  writeIntBEAt 4 buffer (buffer.length - 4) 0

/-- The size `Request.toBuffer` writes over the four zero bytes it started with. -/
theorem writeIntBEAt_size (rest : Bytes) :
    writeIntBEAt 4 ([0, 0, 0, 0] ++ rest) (([0, 0, 0, 0] ++ rest).length - 4) 0 =
      (writeIntBE 4 rest.length).map (· ++ rest) := by
  have size : (([0, 0, 0, 0] ++ rest).length : Int) - 4 = rest.length := by simp; omega
  rw [writeIntBEAt, size]
  rcases written : writeIntBE 4 rest.length with _ | sizeBytes
  · rfl
  · exact writeAt_frame [] [0, 0, 0, 0] sizeBytes rest (by rw [length_of_writeIntBE written]; rfl)

/-- What `Request.toBuffer` builds around a body that appends `body`: the size of the rest, then
the header, with the client id as a nullable string and, from version 2 on, the tag, then the
body. -/
theorem toBuffer_eq {Text : Type} (utf8 : Utf8 Text) {apiKey apiVersion correlationId : Int}
    {clientId : Option Text} {body k v c id : Bytes}
    (hk : writeIntBE 2 apiKey = some k) (hv : writeIntBE 2 apiVersion = some v)
    (hc : writeIntBE 4 correlationId = some c)
    (hid : BasicTypes.encodeString utf8 clientId = some id) :
    Request.toBuffer utf8 apiKey apiVersion correlationId clientId
        (fun encoder => some (encoder.push body)) =
      (writeIntBE 4 (k ++ v ++ c ++ id ++ (if 2 ≤ apiVersion then [0, 0] else []) ++ body).length).map
        (· ++ (k ++ v ++ c ++ id ++ (if 2 ≤ apiVersion then [0, 0] else []) ++ body)) := by
  have zero : writeIntBE 4 0 = some [0, 0, 0, 0] := rfl
  have tag : writeUIntBE 2 0 = some [0, 0] := rfl
  simp only [Request.toBuffer, RequestHeader.encode, Encoder.writeInt32, Encoder.writeInt16,
    Encoder.writeString, Encoder.writeUInt16, Encoder.write, BasicTypes.encodeInt32,
    BasicTypes.encodeInt16, BasicTypes.encodeUInt16, BasicTypes.encodeFixed, if_true,
    Bool.false_eq_true, if_false, zero, tag, hk, hv, hc, hid, Option.map_some', Option.bind_eq_bind,
    Option.some_bind]
  have built (encoder : Encoder) (rest : Bytes) (bytes : encoder.build = [0, 0, 0, 0] ++ rest) :
      (encoder.push body).build = [0, 0, 0, 0] ++ (rest ++ body) := by
    rw [Encoder.build_push, bytes, List.append_assoc]
  have started : Encoder.empty.build = [] := rfl
  by_cases versioned : 2 ≤ apiVersion
  · simp only [ge_iff_le, versioned, if_true, Option.some_bind]
    rw [built _ (k ++ v ++ c ++ id ++ [0, 0])
      (by simp only [Encoder.build_push, started, List.nil_append, List.append_assoc]),
      writeIntBEAt_size]
  · simp only [ge_iff_le, versioned, if_false, Option.pure_def, Option.some_bind, List.append_nil]
    rw [built _ (k ++ v ++ c ++ id)
      (by simp only [Encoder.build_push, started, List.nil_append, List.append_assoc]),
      writeIntBEAt_size]

/-- `Request.toBuffer` builds the frame `send` wrote exactly when its client id field, followed by
its tag, is the network header's client id field. -/
theorem toBuffer_eq_sent_iff {Text : Type} (utf8 : Utf8 Text) {apiKey apiVersion correlationId : Int}
    {clientId : Option Text} {body k v c id protocolId sizeBytes : Bytes}
    (hk : writeIntBE 2 apiKey = some k) (hv : writeIntBE 2 apiVersion = some v)
    (hc : writeIntBE 4 correlationId = some c)
    (hid : BasicTypes.encodeString utf8 clientId = some protocolId)
    (sized : writeIntBE 4 ((k ++ v ++ c ++ id).length + body.length) = some sizeBytes) :
    Request.toBuffer utf8 apiKey apiVersion correlationId clientId
        (fun encoder => some (encoder.push body)) = some (sizeBytes ++ (k ++ v ++ c ++ id) ++ body) ↔
      protocolId ++ (if 2 ≤ apiVersion then [0, 0] else []) = id := by
  rw [toBuffer_eq utf8 hk hv hc hid]
  constructor
  · intro built
    obtain ⟨sizeBytes', sized', glued⟩ := Option.map_eq_some'.mp built
    have same := List.append_inj (by simpa [List.append_assoc] using glued)
      (by rw [length_of_writeIntBE sized', length_of_writeIntBE sized])
    exact (List.append_left_inj body).mp (by simpa [List.append_assoc] using same.2)
  · intro tagged
    subst tagged
    have total : (((k ++ v ++ c ++ (protocolId ++ (if 2 ≤ apiVersion then [0, 0] else []))).length
        : Int) + body.length) = ((k ++ v ++ c ++ protocolId ++
          (if 2 ≤ apiVersion then [0, 0] else []) ++ body).length : Nat) := by
      simp only [List.length_append]; push_cast; ring
    rw [total] at sized
    rw [sized]
    simp

namespace BrokerConnection

/-! ## What `send` writes -/

/-- Code that leaves the connection's socket, and every socket, as they are. -/
def KeepsSockets {α : Type} (code : JS α) : Prop :=
  ∀ w, (code.run.run w).2.socket = w.socket ∧ (code.run.run w).2.sockets = w.sockets

namespace KeepsSockets

theorem bind {α β : Type} {x : JS α} {f : α → JS β} (first : KeepsSockets x)
    (rest : ∀ a, KeepsSockets (f a)) : KeepsSockets (x >>= f) := by
  intro w
  rw [run_bind]
  rcases h : x.run.run w with ⟨_ | a, next⟩
  · simpa [h] using first w
  · have := first w
    rw [h] at this
    simpa [← this.1, ← this.2] using rest a next

theorem modify {f : World → World} (keeps : ∀ w, (f w).socket = w.socket ∧ (f w).sockets = w.sockets) :
    KeepsSockets (modify f : JS Unit) := by
  intro w; simpa using keeps w

theorem throw {α : Type} (e : Failure) : KeepsSockets (throw e : JS α) := fun _ => ⟨rfl, rfl⟩

theorem pure {α : Type} (a : α) : KeepsSockets (pure a : JS α) := fun _ => ⟨rfl, rfl⟩

theorem settle (promise : Nat) (settlement : Settlement) :
    KeepsSockets (BrokerConnection.settle promise settlement) :=
  modify fun w => by split <;> exact ⟨rfl, rfl⟩

theorem callListener (event : Event) (arg : Option Failure) (listener : Listener) :
    KeepsSockets (BrokerConnection.callListener event arg listener) := by
  cases listener with
  | program throws => cases throws <;> [exact pure (); exact throw _]
  | joiner promise =>
      refine bind (modify fun _ => ⟨rfl, rfl⟩) fun _ => ?_
      cases arg <;> exact settle _ _

theorem forM {α : Type} (items : List α) (body : α → JS Unit) (each : ∀ a, KeepsSockets (body a)) :
    KeepsSockets (items.forM body) := by
  induction items with
  | nil => exact pure ()
  | cons a items ih => exact bind (each a) fun _ => ih

theorem emit (event : Event) (arg : Option Failure) : KeepsSockets (BrokerConnection.emit event arg) := by
  refine bind (fun _ => ⟨rfl, rfl⟩) fun w => bind (modify fun _ => ⟨rfl, rfl⟩) fun _ => ?_
  split
  · exact throw _
  · exact forM _ _ (callListener event arg)

end KeepsSockets

/-- The sockets after `sendExecutor`: as they were, or with the request written to the
connection's socket. -/
theorem sendExecutor_sockets (config : Config) (promise correlationId : Nat) (request : Bytes)
    (timeout : Int) (w : World) :
    ((sendExecutor config promise correlationId request timeout).run.run w).2.sockets = w.sockets ∨
    ∃ s, w.socket = some s ∧ ((sendExecutor config promise correlationId request timeout).run.run w).2.sockets =
      w.sockets.modify (fun k => { k with written := k.written ++ [request] }) s := by
  simp only [sendExecutor, run_bind, run_get, run_modify]
  generalize hw : { w with inFlightRequests := _ } = w₁
  have kept := KeepsSockets.emit .request none w₁
  rcases h : (emit .request none).run.run w₁ with ⟨_ | _, next⟩
  · rw [h] at kept
    subst hw
    exact .inl kept.2
  · rw [h] at kept
    subst hw
    obtain ⟨same, unchanged⟩ := kept
    dsimp only at same unchanged ⊢
    rw [same]
    rcases w.socket with _ | s
    · exact .inl unchanged
    · exact .inr ⟨s, rfl, by simp [updateSocket, unchanged]⟩

theorem tryCatch_settle_sockets (code : JS Unit) (promise : Nat) (w : World) :
    ((tryCatch code fun error => settle promise (.rejected error)).run.run w).2.sockets =
      (code.run.run w).2.sockets := by
  rw [run_tryCatch]
  rcases code.run.run w with ⟨_ | _, next⟩
  · exact (KeepsSockets.settle promise _ next).2
  · rfl

/-- The sockets after `send`: as they were, or with the frame written to the connection's
socket, when the header and the size could be written. -/
theorem send_sockets (config : Config) (promise : Nat) (apiKey apiVersion : Int)
    (requestData : Bytes) (timeout : Int) (w : World) :
    ((send config promise apiKey apiVersion requestData timeout).run.run w).2.sockets = w.sockets ∨
    ∃ s header sizeBytes, w.socket = some s ∧
      requestHeaderEncode apiKey apiVersion ((w.correlationIdCounter + 1) % 2147483647 : Nat)
        config.clientId = some header ∧
      writeIntBE 4 (header.length + requestData.length) = some sizeBytes ∧
      ((send config promise apiKey apiVersion requestData timeout).run.run w).2.sockets =
        w.sockets.modify (fun k => { k with written := k.written ++ [sizeBytes ++ header ++ requestData] }) s := by
  simp only [send, run_bind, run_get, nextCorrelationId, run_modifyGet]
  split
  · exact .inl rfl
  simp only [run_bind, run_pure, run_modifyGet]
  rcases encoded : requestHeaderEncode apiKey apiVersion ((w.correlationIdCounter + 1) % 2147483647 : Nat)
    config.clientId with _ | header
  · exact .inl rfl
  dsimp only
  split
  · exact .inl rfl
  have total : 4 + (header.length : Int) + requestData.length - 4 = header.length + requestData.length := by
    omega
  simp only [run_bind, run_pure, total]
  rcases sized : writeIntBE 4 (header.length + requestData.length) with _ | sizeBytes
  · exact .inl rfl
  dsimp only
  generalize hw : { w with correlationIdCounter := _ } = w₁
  have same : w₁.socket = w.socket ∧ w₁.sockets = w.sockets := hw ▸ ⟨rfl, rfl⟩
  have kept := KeepsSockets.emit .bytesOut none w₁
  simp only [run_bind]
  rcases h : (emit .bytesOut none).run.run w₁ with ⟨_ | _, next⟩ <;> rw [h] at kept
  · exact .inl (kept.2.trans same.2)
  dsimp only at kept ⊢
  rw [tryCatch_settle_sockets]
  rcases sendExecutor_sockets config promise ((w.correlationIdCounter + 1) % 2147483647)
    (sizeBytes ++ header ++ requestData) timeout next with unchanged | ⟨s, connected, written⟩
  · exact .inl (unchanged.trans (kept.2.trans same.2))
  · exact .inr ⟨s, header, sizeBytes, connected ▸ (kept.1.trans same.1).symm, rfl, sized,
      by rw [written, kept.2, same.2]⟩

/-- A frame that `send` wrote to a socket: the header and the request data, after the size of
the two. -/
theorem send_frame {config : Config} {promise : Nat} {apiKey apiVersion : Int}
    {requestData : Bytes} {timeout : Int} {w w' : World} {result : Except Failure Unit} {s : Nat}
    {socket : Socket} {frame : Bytes}
    (sent : (send config promise apiKey apiVersion requestData timeout).run.run w = (result, w'))
    (opened : w.sockets[s]? = some socket)
    (accepted : w'.sockets[s]?.map (·.written) = some (socket.written ++ [frame])) :
    ∃ header sizeBytes,
      requestHeaderEncode apiKey apiVersion ((w.correlationIdCounter + 1) % 2147483647 : Nat)
        config.clientId = some header ∧
      writeIntBE 4 (header.length + requestData.length) = some sizeBytes ∧
      frame = sizeBytes ++ header ++ requestData := by
  have sockets := send_sockets config promise apiKey apiVersion requestData timeout w
  rw [sent] at sockets
  rcases sockets with unchanged | ⟨s', header, sizeBytes, -, encoded, sized, written⟩
  · simp only at unchanged
    simp [unchanged, opened] at accepted
  · refine ⟨header, sizeBytes, encoded, sized, ?_⟩
    rw [written, List.getElem?_modify, opened] at accepted
    by_cases same : s' = s <;> simp [same] at accepted
    simpa using accepted.symm

/-! ## The network header -/

theorem readIntBE_at {width : Nat} {value offset : Int} {p bytes q : Bytes} (hwidth : 0 < width)
    (written : writeIntBE width value = some bytes) (at_offset : (p.length : Int) = offset) :
    readIntBE width (p ++ bytes ++ q) offset = some value :=
  at_offset ▸ readIntBE_writeIntBE width value p q bytes hwidth written

/-- What `requestHeaderEncode` writes: the three fields, then the client id's length and bytes,
or `-1` when the client id is empty. -/
theorem requestHeaderEncode_eq {apiKey apiVersion correlationId : Int} {clientId header : Bytes}
    (encoded : requestHeaderEncode apiKey apiVersion correlationId clientId = some header) :
    ∃ apiKeyBytes apiVersionBytes correlationIdBytes idBytes,
      writeIntBE 2 apiKey = some apiKeyBytes ∧ writeIntBE 2 apiVersion = some apiVersionBytes ∧
      writeIntBE 4 correlationId = some correlationIdBytes ∧
      (if clientId = [] then some [0xFF, 0xFF]
        else (writeIntBE 2 clientId.length).map (· ++ clientId)) = some idBytes ∧
      header = apiKeyBytes ++ apiVersionBytes ++ correlationIdBytes ++ idBytes := by
  simp only [requestHeaderEncode, Option.bind_eq_bind, Option.bind_eq_some] at encoded
  obtain ⟨apiKeyBytes, hk, apiVersionBytes, hv, correlationIdBytes, hc, rest⟩ := encoded
  by_cases empty : clientId = []
  · have null : writeIntBE 2 (-1) = some [0xFF, 0xFF] := rfl
    simp only [empty, ne_eq, not_true_eq_false, if_false, null, Option.some_bind] at rest
    exact ⟨_, _, _, _, hk, hv, hc, if_pos empty, (Option.some.inj rest).symm⟩
  · simp only [empty, ne_eq, not_false_eq_true, if_true] at rest
    rcases hl : writeIntBE 2 clientId.length with _ | lengthBytes <;> rw [hl] at rest
    · cases rest
    · refine ⟨_, _, _, _, hk, hv, hc, by rw [if_neg empty]; rfl, ?_⟩
      simpa using (Option.some.inj rest).symm

/-- `RequestHeader.decode` reads back what `RequestHeader.encode` wrote, whatever follows it; an
empty client id, written as null, comes back as `''`. -/
theorem requestHeaderDecode_encode {Text : Type} (utf8 : Utf8 Text)
    {apiKey apiVersion correlationId : Int} {clientId : Text} {header : Bytes} (rest : Bytes)
    (encoded : requestHeaderEncode apiKey apiVersion correlationId (utf8.encode clientId) = some header) :
    requestHeaderDecode utf8 (header ++ rest) = some (apiKey, apiVersion, correlationId, clientId) := by
  obtain ⟨k, v, c, id, hk, hv, hc, hid, rfl⟩ := requestHeaderEncode_eq encoded
  have lk := length_of_writeIntBE hk
  have lv := length_of_writeIntBE hv
  have lc := length_of_writeIntBE hc
  have readKey : readIntBE 2 (k ++ v ++ c ++ id ++ rest) 0 = some apiKey := by
    simpa using readIntBE_at (p := []) (q := v ++ c ++ id ++ rest) (by decide) hk rfl
  have readVersion : readIntBE 2 (k ++ v ++ c ++ id ++ rest) 2 = some apiVersion := by
    simpa using readIntBE_at (p := k) (q := c ++ id ++ rest) (by decide) hv (by simp [lk])
  have readCorrelation : readIntBE 4 (k ++ v ++ c ++ id ++ rest) 4 = some correlationId := by
    simpa using readIntBE_at (p := k ++ v) (q := id ++ rest) (by decide) hc (by simp [lk, lv])
  by_cases empty : utf8.encode clientId = []
  · rw [if_pos empty] at hid
    cases hid
    have readNull : readIntBE 2 (k ++ v ++ c ++ [0xFF, 0xFF] ++ rest) 8 = some (-1) :=
      readIntBE_at (by decide) rfl (by simp [lk, lv, lc])
    simp only [requestHeaderDecode, readKey, readVersion, readCorrelation, readNull,
      Option.bind_eq_bind, Option.some_bind]
    rw [if_neg (by decide), ← empty, utf8.decode_encode]
    rfl
  · rw [if_neg empty] at hid
    rcases hl : writeIntBE 2 (utf8.encode clientId).length with _ | l <;> rw [hl] at hid <;>
      cases hid
    have ll := length_of_writeIntBE hl
    dsimp only at readKey readVersion readCorrelation ⊢
    have readLength : readIntBE 2 (k ++ v ++ c ++ (l ++ utf8.encode clientId) ++ rest) 8 =
        some ((utf8.encode clientId).length : Int) := by
      simpa using readIntBE_at (p := k ++ v ++ c) (q := utf8.encode clientId ++ rest) (by decide) hl
        (by simp [lk, lv, lc])
    have text : utf8.toString (k ++ v ++ c ++ (l ++ utf8.encode clientId) ++ rest) 10
        (10 + (utf8.encode clientId).length) = clientId := by
      have framed := utf8.toString_frame (k ++ v ++ c ++ l) (utf8.encode clientId) rest 10
        (by simp [lk, lv, lc, ll])
      rw [utf8.decode_encode] at framed
      simpa using framed
    simp only [requestHeaderDecode, readKey, readVersion, readCorrelation, readLength, text,
      Option.bind_eq_bind, Option.some_bind]
    rw [if_pos (by omega)]
    rfl

/-! ## The frame of the contract -/

open BasicTypes in
/-- The request frame as the connection's contract lays it out with the `BasicTypes` encoders:
the size of the rest, the api key, the api version, the correlation id, the client id as a
nullable string, and the payload. -/
def contractFrame {Text : Type} (utf8 : Utf8 Text) (size apiKey apiVersion correlationId : Int)
    (clientId : Option Text) (payload : Bytes) : Option Bytes := do
  let sizeBytes ← encodeInt32 size
  let apiKeyBytes ← encodeInt16 apiKey
  let apiVersionBytes ← encodeInt16 apiVersion
  let correlationIdBytes ← encodeInt32 correlationId
  let clientIdBytes ← encodeString utf8 clientId
  pure (sizeBytes ++ apiKeyBytes ++ apiVersionBytes ++ correlationIdBytes ++ clientIdBytes ++ payload)

theorem contractFrame_eq {Text : Type} (utf8 : Utf8 Text) {size apiKey apiVersion correlationId : Int}
    {clientId : Option Text} {payload sizeBytes k v c id : Bytes}
    (hs : writeIntBE 4 size = some sizeBytes) (hk : writeIntBE 2 apiKey = some k)
    (hv : writeIntBE 2 apiVersion = some v) (hc : writeIntBE 4 correlationId = some c)
    (hid : BasicTypes.encodeString utf8 clientId = some id) :
    contractFrame utf8 size apiKey apiVersion correlationId clientId payload =
      some (sizeBytes ++ k ++ v ++ c ++ id ++ payload) := by
  simp only [contractFrame, BasicTypes.encodeInt32, BasicTypes.encodeInt16, BasicTypes.encodeFixed,
    if_true, hs, hk, hv, hc, hid, Option.bind_eq_bind, Option.some_bind]
  rfl

/-- The contract's nullable string for an empty client id: its length `0`. -/
theorem encodeString_empty {Text : Type} (utf8 : Utf8 Text) {clientId : Text}
    (empty : utf8.encode clientId = []) : BasicTypes.encodeString utf8 (some clientId) = some [0, 0] := by
  simp only [BasicTypes.encodeString, empty]; rfl

/-- The contract's nullable string for a client id that is not empty: what the network header
writes for it. -/
theorem encodeString_named {Text : Type} (utf8 : Utf8 Text) {clientId : Text} {id : Bytes}
    (named : (writeIntBE 2 (utf8.encode clientId).length).map (· ++ utf8.encode clientId) = some id) :
    BasicTypes.encodeString utf8 (some clientId) = some id := by
  simpa [BasicTypes.encodeString] using named

/-- Every frame `send` writes, for a client id given as text: the contract's layout, except that
an empty client id goes out as null, whose `int16` length is `-1` where the empty string's is
`0`; `RequestHeader.decode` reads every field back, the empty client id included, since it
reads null as `''`. -/
theorem send_frame_nulls_empty_client_id {Text : Type} (utf8 : Utf8 Text) (config : Config)
    (promise : Nat) (apiKey apiVersion : Int) (requestData : Bytes) (timeout : Int) (w w' : World)
    (result : Except Failure Unit) (s : Nat) (socket : Socket) (frame : Bytes) (clientId : Text)
    (named : config.clientId = utf8.encode clientId)
    (sent : (send config promise apiKey apiVersion requestData timeout).run.run w = (result, w'))
    (opened : w.sockets[s]? = some socket)
    (accepted : w'.sockets[s]?.map (·.written) = some (socket.written ++ [frame])) :
    some frame = contractFrame utf8 (frame.length - 4) apiKey apiVersion
        ((w.correlationIdCounter + 1) % 2147483647 : Nat)
        (if utf8.encode clientId = [] then none else some clientId) requestData ∧
    requestHeaderDecode utf8 (frame.drop 4) =
      some (apiKey, apiVersion, (((w.correlationIdCounter + 1) % 2147483647 : Nat) : Int), clientId) ∧
    (utf8.encode clientId = [] → some frame ≠ contractFrame utf8 (frame.length - 4) apiKey apiVersion
        ((w.correlationIdCounter + 1) % 2147483647 : Nat) (some clientId) requestData) := by
  obtain ⟨header, sizeBytes, encoded, sized, rfl⟩ := send_frame sent opened accepted
  rw [named] at encoded
  have ls := length_of_writeIntBE sized
  have decoded := requestHeaderDecode_encode utf8 requestData encoded
  obtain ⟨k, v, c, id, hk, hv, hc, hid, rfl⟩ := requestHeaderEncode_eq encoded
  have size : ((sizeBytes ++ (k ++ v ++ c ++ id) ++ requestData).length : Int) - 4 =
      (k ++ v ++ c ++ id).length + requestData.length := by
    simp only [List.length_append, ls]; push_cast; ring
  rw [size]
  refine ⟨?_, by simpa [ls] using decoded, fun empty => ?_⟩
  · have idString : BasicTypes.encodeString utf8
        (if utf8.encode clientId = [] then none else some clientId) = some id := by
      by_cases empty : utf8.encode clientId = [] <;> simp only [empty, if_true, if_false] at hid ⊢
      · exact hid
      · exact encodeString_named utf8 hid
    rw [contractFrame_eq utf8 sized hk hv hc idString]
    simp
  · rw [if_pos empty] at hid
    cases hid
    rw [contractFrame_eq utf8 sized hk hv hc (encodeString_empty utf8 empty)]
    simp

theorem empty_client_id_sent_as_null :
    some [0, 0, 0, 10, 0, 18, 0, 0, 0, 0, 0, 1, 0xFF, 0xFF] =
        contractFrame Utf8.raw 10 18 0 1 none [] ∧
    requestHeaderDecode Utf8.raw [0, 18, 0, 0, 0, 0, 0, 1, 0xFF, 0xFF] = some (18, 0, 1, []) ∧
    ([] = ([] : Bytes) → some [0, 0, 0, 10, 0, 18, 0, 0, 0, 0, 0, 1, 0xFF, 0xFF] ≠
        contractFrame Utf8.raw 10 18 0 1 (some []) []) :=
  send_frame_nulls_empty_client_id Utf8.raw defaults 0 18 0 [] 0
    ⟨.connected, some 0, 0, [], none, none, none, [],
      [⟨0, true, true, true, false, false, false, false, []⟩], [], [], [], 0, 0, [], [], false⟩
    _ _ 0 ⟨0, true, true, true, false, false, false, false, []⟩ _ [] rfl rfl rfl rfl

/-- `Request.toBuffer` builds the frame `send` wrote only below version 2, with the client id
given as the same text when it is not empty, and as null when it is: from version 2 on the
protocol header carries a two-byte tag the network header lacks, and the network header writes
the empty client id as null, where the protocol header writes the empty string. -/
theorem toBuffer_matches_send_only_below_version_two {Text : Type} (utf8 : Utf8 Text)
    (config : Config) (promise : Nat) (apiKey apiVersion : Int) (requestData : Bytes)
    (timeout : Int) (w w' : World) (result : Except Failure Unit) (s : Nat) (socket : Socket)
    (frame : Bytes) (clientId : Text) (named : config.clientId = utf8.encode clientId)
    (sent : (send config promise apiKey apiVersion requestData timeout).run.run w = (result, w'))
    (opened : w.sockets[s]? = some socket)
    (accepted : w'.sockets[s]?.map (·.written) = some (socket.written ++ [frame])) :
    (Request.toBuffer utf8 apiKey apiVersion (((w.correlationIdCounter + 1) % 2147483647 : Nat) : Int)
        (some clientId) (fun encoder => some (encoder.push requestData)) = some frame ↔
      apiVersion < 2 ∧ utf8.encode clientId ≠ []) ∧
    (Request.toBuffer utf8 apiKey apiVersion (((w.correlationIdCounter + 1) % 2147483647 : Nat) : Int)
        none (fun encoder => some (encoder.push requestData)) = some frame ↔
      apiVersion < 2 ∧ utf8.encode clientId = []) := by
  obtain ⟨header, sizeBytes, encoded, sized, rfl⟩ := send_frame sent opened accepted
  rw [named] at encoded
  obtain ⟨k, v, c, id, hk, hv, hc, hid, rfl⟩ := requestHeaderEncode_eq encoded
  have untagged : (if 2 ≤ apiVersion then [(0 : UInt8), 0] else []) = [] ↔ apiVersion < 2 := by
    split <;> simp <;> omega
  have null : BasicTypes.encodeString utf8 none = some [0xFF, 0xFF] := rfl
  by_cases empty : utf8.encode clientId = []
  · rw [if_pos empty] at hid
    cases hid
    rw [toBuffer_eq_sent_iff utf8 hk hv hc (encodeString_empty utf8 empty) sized,
      toBuffer_eq_sent_iff utf8 hk hv hc null sized]
    simp [empty, untagged]
  · rw [if_neg empty] at hid
    rw [toBuffer_eq_sent_iff utf8 hk hv hc (encodeString_named utf8 hid) sized,
      toBuffer_eq_sent_iff utf8 hk hv hc null sized]
    refine ⟨by simp [empty, untagged], ?_⟩
    simp only [empty, and_false, iff_false]
    intro glued
    obtain ⟨l, hl, rfl⟩ := Option.map_eq_some'.mp hid
    have lengthRead := readIntBE_at (p := []) (q := utf8.encode clientId) (by decide) hl rfl
    have nullRead := readIntBE_at (p := []) (q := if 2 ≤ apiVersion then [(0 : UInt8), 0] else [])
      (by decide) (show writeIntBE 2 (-1) = some [0xFF, 0xFF] from rfl) rfl
    simp only [List.nil_append] at lengthRead nullRead
    rw [glued, lengthRead] at nullRead
    have := Option.some.inj nullRead
    omega

theorem versioned_request_frames_differ :
    (Request.toBuffer Utf8.raw 18 2 1 (some [107]) (fun encoder => some (encoder.push [])) =
        some [0, 0, 0, 11, 0, 18, 0, 2, 0, 0, 0, 1, 0, 1, 107] ↔ (2 : Int) < 2 ∧ [107] ≠ ([] : Bytes)) ∧
    (Request.toBuffer Utf8.raw 18 2 1 none (fun encoder => some (encoder.push [])) =
        some [0, 0, 0, 11, 0, 18, 0, 2, 0, 0, 0, 1, 0, 1, 107] ↔ (2 : Int) < 2 ∧ [107] = ([] : Bytes)) :=
  toBuffer_matches_send_only_below_version_two Utf8.raw (Config.withDefaults [107] 0 0) 0 18 2 [] 0
    ⟨.connected, some 0, 0, [], none, none, none, [],
      [⟨0, true, true, true, false, false, false, false, []⟩], [], [], [], 0, 0, [], [], false⟩
    _ _ 0 ⟨0, true, true, true, false, false, false, false, []⟩ _ [107] rfl rfl rfl rfl

end BrokerConnection

end KafkaClient
