import KafkaClient.Responses

/-! The request bodies of `network/protocol/requests`. Each `encode()` computes a size, allocates
a zeroed buffer of it, and writes its fields at a threaded offset, some of them through the
`Protocol` helpers. The Metadata body fills its buffer exactly, and the `Protocol` readers read
its fields back; the ApiVersions body allocates four bytes for its tagged fields and writes one,
so three zero bytes never written trail it. -/

namespace KafkaClient

open BasicTypes

/-! ## `Protocol` -/

namespace Protocol

/-- `Protocol.writeBoolean`: 1 or 0 as an int8 at `offset`, and the offset after it. -/
def writeBoolean (buffer : Bytes) (value : Bool) (offset : Int) : Option (Bytes × Int) :=
  (writeIntBEAt 1 buffer (if value then 1 else 0) offset).map fun buffer => (buffer, offset + 1)

/-- `Protocol.readBoolean`: `buffer.readInt8(offset) !== 0`, the read `decodeBoolean` makes. -/
def readBoolean (buffer : Bytes) (offset : Int) : Option (Bool × Int) :=
  decodeBoolean buffer offset

/-- `Protocol.readString`: a nullable string, the read `decodeString` makes. -/
def readString {Text : Type} (utf8 : Utf8 Text) (buffer : Bytes) (offset : Int) :
    Option (Option Text × Int) :=
  decodeString utf8 buffer offset

/-- `Protocol.readArray`: an int32 count, `null` when it is negative, else as many `readItem`
calls; the read `decodeArray` makes. -/
def readArray {α : Type} (buffer : Bytes) (offset : Int)
    (readItem : Bytes → Int → Option (α × Int)) : Option (Option (List α) × Int) :=
  decodeArray buffer readItem offset

end Protocol

/-- A write into the zeros that `Buffer.alloc` left after the bytes written so far. -/
theorem writeBoolean_alloc (written : Bytes) (rest : Nat) (value : Bool) {bytes : Bytes}
    (encoded : encodeBoolean value = some bytes) (fits : 1 ≤ rest) :
    Protocol.writeBoolean (written ++ List.replicate rest 0) value written.length =
      some (written ++ bytes ++ List.replicate (rest - 1) 0, (written.length : Int) + 1) := by
  have encoded : writeIntBE 1 (if value then 1 else 0) = some bytes := by
    rw [← encoded]; rfl
  rw [Protocol.writeBoolean, writeIntBEAt_alloc _ _ encoded fits, Option.map_some']

theorem length_of_encodeString {Text : Type} (utf8 : Utf8 Text) {text : Text} {bytes : Bytes}
    (encoded : encodeString utf8 (some text) = some bytes) :
    bytes.length = 2 + (utf8.encode text).length := by
  obtain ⟨length, counted, rfl⟩ := encodeString_some utf8 encoded
  rw [List.length_append, length_of_writeIntBE counted]

/-! ## The Metadata request -/

/-- A `MetadataRequest` with its constructor's defaults: every topic, and every flag off. -/
structure MetadataRequest (Text : Type) where
  topics : Option (List Text) := none
  allowAutoTopicCreation : Bool := false
  includeClusterAuthorizedOperations : Bool := false
  includeTopicAuthorizedOperations : Bool := false

namespace MetadataRequest

variable {Text : Type} (utf8 : Utf8 Text)

/-- The `size` that `encode` computes before it allocates: four bytes of count, two and the UTF-8
length for each topic, and a byte for each flag. -/
def size (request : MetadataRequest Text) : Nat :=
  let size := 4
  let size := match request.topics with
    | none => size
    | some topics => topics.foldl (fun size topic => size + 2 + (utf8.encode topic).length) size
  size + 1 + 1 + 1

/-- The topics loop of `encode`: each name's int16 length, then its bytes. -/
def writeTopics : List Text → Bytes → Int → Option (Bytes × Int)
  | [], buffer, offset => some (buffer, offset)
  | topic :: topics, buffer, offset => do
      let topicLength := (utf8.encode topic).length
      let buffer ← writeIntBEAt 2 buffer topicLength offset
      let offset := offset + 2
      let buffer ← writeTextAt buffer offset (utf8.encode topic)
      writeTopics topics buffer (offset + topicLength)

/-- The topics field of `encode`: `-1` for null, else the count and the topics loop. -/
def writeTopicsField (topics : Option (List Text)) (buffer : Bytes) (offset : Int) :
    Option (Bytes × Int) :=
  match topics with
  | none => do
      let buffer ← writeIntBEAt 4 buffer (-1) offset
      pure (buffer, offset + 4)
  | some topics => do
      let buffer ← writeIntBEAt 4 buffer topics.length offset
      writeTopics utf8 topics buffer (offset + 4)

/-- `MetadataRequest.encode`; a `RangeError` is `none`. -/
def encode (request : MetadataRequest Text) : Option Bytes := do
  let buffer := List.replicate (request.size utf8) 0
  let offset : Int := 0
  let (buffer, offset) ← writeTopicsField utf8 request.topics buffer offset
  let (buffer, _) ← Protocol.writeBoolean buffer request.allowAutoTopicCreation offset
  let offset := offset + 1
  let (buffer, _) ← Protocol.writeBoolean buffer request.includeClusterAuthorizedOperations offset
  let offset := offset + 1
  let (buffer, _) ← Protocol.writeBoolean buffer request.includeTopicAuthorizedOperations offset
  pure buffer

/-- The body laid out as `(topics:nullable-array<string>, allowAutoTopicCreation:bool,
includeClusterAuthorizedOperations:bool, includeTopicAuthorizedOperations:bool)`. -/
def layout (request : MetadataRequest Text) : Option Bytes := do
  let topics ← encodeArray (request.topics.map (List.map some)) (encodeString utf8)
  let allowAutoTopicCreation ← encodeBoolean request.allowAutoTopicCreation
  let includeCluster ← encodeBoolean request.includeClusterAuthorizedOperations
  let includeTopic ← encodeBoolean request.includeTopicAuthorizedOperations
  pure (topics ++ allowAutoTopicCreation ++ includeCluster ++ includeTopic)

/-- `Protocol.readArray(readString)`, then three `Protocol.readBoolean` reads, from `offset`. -/
def readFields (buffer : Bytes) (offset : Int) :
    Option ((Option (List (Option Text)) × Bool × Bool × Bool) × Int) := do
  let (topics, offset) ← Protocol.readArray buffer offset (Protocol.readString utf8)
  let (allowAutoTopicCreation, offset) ← Protocol.readBoolean buffer offset
  let (includeCluster, offset) ← Protocol.readBoolean buffer offset
  let (includeTopic, offset) ← Protocol.readBoolean buffer offset
  pure ((topics, allowAutoTopicCreation, includeCluster, includeTopic), offset)

/-! ### What `encode` writes -/

/-- One topic more for the loop of `encodeArray`: its length and bytes, before the others. -/
theorem mapM_encodeString_cons {topic : Text} {topics : List Text} {encoded : List Bytes}
    (mapped : ((topic :: topics).map some).mapM (encodeString utf8) = some encoded) :
    ∃ length others, writeIntBE 2 (utf8.encode topic).length = some length ∧
      (topics.map some).mapM (encodeString utf8) = some others ∧
      encoded = (length ++ utf8.encode topic) :: others := by
  simp only [List.map_cons, List.mapM_cons, Option.bind_eq_bind, Option.bind_eq_some,
    Option.pure_def, Option.some.injEq] at mapped
  obtain ⟨bytes, encoded, others, mapped, rfl⟩ := mapped
  obtain ⟨length, counted, rfl⟩ := encodeString_some utf8 encoded
  exact ⟨length, others, counted, mapped, rfl⟩

/-- A topic array as `encodeArray` lays it out: the count, then each topic. -/
theorem encodeArray_topics {topics : List Text} {laid : Bytes}
    (encoded : encodeArray (some (topics.map some)) (encodeString utf8) = some laid) :
    ∃ encoded count, (topics.map some).mapM (encodeString utf8) = some encoded ∧
      writeIntBE 4 topics.length = some count ∧ laid = count ++ encoded.flatten := by
  simp only [encodeArray, Option.bind_eq_bind, Option.bind_eq_some, Option.pure_def,
    Option.some.injEq, List.length_map] at encoded
  obtain ⟨encoded, mapped, count, counted, rfl⟩ := encoded
  exact ⟨encoded, count, mapped, counted, rfl⟩

theorem writeTopics_alloc : ∀ (topics : List Text) (encoded : List Bytes) (written : Bytes)
    (rest : Nat), (topics.map some).mapM (encodeString utf8) = some encoded →
    encoded.flatten.length ≤ rest →
    writeTopics utf8 topics (written ++ List.replicate rest 0) written.length =
      some (written ++ encoded.flatten ++ List.replicate (rest - encoded.flatten.length) 0,
        ((written ++ encoded.flatten).length : Int))
  | [], _, written, rest, mapped, _ => by
      cases mapped
      simp [writeTopics]
  | topic :: topics, _, written, rest, mapped, fits => by
      obtain ⟨length, others, counted, mappedRest, rfl⟩ := mapM_encodeString_cons utf8 mapped
      have two := length_of_writeIntBE counted
      simp only [List.flatten_cons, List.length_append, two] at fits
      have offset : (written.length : Int) + 2 = (written ++ length).length := by simp [two]
      have offset' : ((written ++ length).length : Int) + (utf8.encode topic).length =
          (written ++ length ++ utf8.encode topic).length := by simp [add_assoc]
      rw [writeTopics, writeIntBEAt_alloc _ _ counted (by omega)]
      simp only [Option.bind_eq_bind, Option.some_bind]
      rw [offset, writeTextAt_alloc _ _ _ (by omega), Option.some_bind, offset',
        writeTopics_alloc topics others _ _ mappedRest (by omega)]
      simp only [List.flatten_cons, List.append_assoc, List.length_append, two, Nat.sub_sub,
        Nat.add_assoc]

theorem foldl_size : ∀ (topics : List Text) (encoded : List Bytes) (size : Nat),
    (topics.map some).mapM (encodeString utf8) = some encoded →
    topics.foldl (fun size topic => size + 2 + (utf8.encode topic).length) size =
      size + encoded.flatten.length
  | [], _, size, mapped => by cases mapped; rfl
  | topic :: topics, _, size, mapped => by
      obtain ⟨length, others, counted, mappedRest, rfl⟩ := mapM_encodeString_cons utf8 mapped
      rw [List.foldl_cons, foldl_size topics others _ mappedRest, List.flatten_cons, List.length_append,
        List.length_append, length_of_writeIntBE counted]
      omega

theorem encodeBoolean_eq (value : Bool) : encodeBoolean value = some [if value then 1 else 0] := by
  cases value <;> rfl

theorem writeTopicsField_alloc (topics : Option (List Text)) {laid : Bytes} (written : Bytes)
    (rest : Nat) (encoded : encodeArray (topics.map (List.map some)) (encodeString utf8) = some laid)
    (fits : laid.length ≤ rest) :
    writeTopicsField utf8 topics (written ++ List.replicate rest 0) written.length =
      some (written ++ laid ++ List.replicate (rest - laid.length) 0,
        ((written ++ laid).length : Int)) := by
  cases topics with
  | none =>
      cases encoded
      simp only [writeTopicsField, writeIntBEAt_alloc written rest
        (rfl : writeIntBE 4 (-1) = some [255, 255, 255, 255]) fits]
      simp
      rfl
  | some topics =>
      rw [Option.map_some'] at encoded
      obtain ⟨elements, count, mapped, counted, rfl⟩ := encodeArray_topics utf8 encoded
      have four := length_of_writeIntBE counted
      simp only [List.length_append, four] at fits
      have offset : (written.length : Int) + 4 = (written ++ count).length := by simp [four]
      simp only [writeTopicsField, writeIntBEAt_alloc written rest counted (by omega), Option.bind_eq_bind,
        Option.some_bind]
      rw [offset, writeTopics_alloc utf8 topics elements _ (rest - 4) mapped (by omega)]
      simp only [List.append_assoc, List.length_append, four, Nat.sub_sub]

theorem size_eq (request : MetadataRequest Text) {laid : Bytes}
    (encoded : encodeArray (request.topics.map (List.map some)) (encodeString utf8) = some laid) :
    request.size utf8 = laid.length + 3 := by
  rcases request with ⟨_ | topics, _, _, _⟩
  · cases encoded; rfl
  · rw [Option.map_some'] at encoded
    obtain ⟨elements, count, mapped, counted, rfl⟩ := encodeArray_topics utf8 encoded
    simp only [size, foldl_size utf8 topics elements 4 mapped, List.length_append,
      length_of_writeIntBE counted]

theorem encode_eq (request : MetadataRequest Text) {laid : Bytes}
    (encoded : encodeArray (request.topics.map (List.map some)) (encodeString utf8) = some laid) :
    request.encode utf8 = some (laid ++ [if request.allowAutoTopicCreation then 1 else 0] ++
      [if request.includeClusterAuthorizedOperations then 1 else 0] ++
      [if request.includeTopicAuthorizedOperations then 1 else 0]) := by
  have allocated : List.replicate (request.size utf8) (0 : UInt8) =
      [] ++ List.replicate (laid.length + 3) 0 := by rw [size_eq utf8 request encoded]; rfl
  simp only [encode, allocated]
  rw [show (0 : Int) = (([] : Bytes).length : Int) from rfl,
    writeTopicsField_alloc utf8 _ _ _ encoded (by omega)]
  set a : UInt8 := if request.allowAutoTopicCreation then 1 else 0
  set b : UInt8 := if request.includeClusterAuthorizedOperations then 1 else 0
  set c : UInt8 := if request.includeTopicAuthorizedOperations then 1 else 0
  simp only [Option.bind_eq_bind, Option.some_bind, List.nil_append, Nat.add_sub_cancel_left]
  rw [writeBoolean_alloc _ _ _ (encodeBoolean_eq _ : _ = some [a]) (by omega), Option.some_bind,
    show (laid.length : Int) + 1 = (laid ++ [a]).length by simp,
    writeBoolean_alloc _ _ _ (encodeBoolean_eq _ : _ = some [b]) (by omega), Option.some_bind,
    show ((laid ++ [a]).length : Int) + 1 = (laid ++ [a] ++ [b]).length by simp; omega,
    writeBoolean_alloc _ _ _ (encodeBoolean_eq _ : _ = some [c]) (by omega)]
  simp

theorem readFields_reads (request : MetadataRequest Text) {laid : Bytes}
    (reads : Reads (fun buffer offset => decodeArray buffer (decodeString utf8) offset)
      (request.topics.map (List.map some)) laid) :
    Reads (readFields utf8) ((request.topics.map (List.map some), request.allowAutoTopicCreation,
        request.includeClusterAuthorizedOperations, request.includeTopicAuthorizedOperations))
      (laid ++ ([if request.allowAutoTopicCreation then 1 else 0] ++
        ([if request.includeClusterAuthorizedOperations then 1 else 0] ++
          [if request.includeTopicAuthorizedOperations then 1 else 0]))) := by
  refine Reads.bind reads ?_
  refine Reads.bind (boolean_reads_back _ _ (encodeBoolean_eq _)) ?_
  refine Reads.bind (boolean_reads_back _ _ (encodeBoolean_eq _)) ?_
  exact Reads.last (boolean_reads_back _ _ (encodeBoolean_eq _)) fun _ _ => rfl

theorem encode_reads_back (request : MetadataRequest Text)
    (fits : ∀ topics ∈ request.topics,
      topics.length < 2 ^ 31 ∧ ∀ topic ∈ topics, (utf8.encode topic).length ≤ 32767) :
    ∃ buffer, request.layout utf8 = some buffer ∧ request.encode utf8 = some buffer ∧
      buffer.length = request.size utf8 ∧
      readFields utf8 buffer 0 = some ((request.topics.map (List.map some),
        request.allowAutoTopicCreation, request.includeClusterAuthorizedOperations,
        request.includeTopicAuthorizedOperations), (buffer.length : Int)) := by
  have valid : ArrayWithin (NullableWithin (fun text => (utf8.encode text).length) 32767)
      (2 ^ 31 - 1) (request.topics.map (List.map some)) := by
    rcases listed : request.topics with _ | topics
    · trivial
    · obtain ⟨short, named⟩ := fits topics listed
      refine ⟨by simp; omega, fun name mapped => ?_⟩
      obtain ⟨topic, member, rfl⟩ := List.mem_map.mp mapped
      exact named topic member
  obtain ⟨laid, encoded, -⟩ := array_round_trip (string_round_trip utf8) _ valid
  have reads := (array_round_trip (string_round_trip utf8)).reads valid encoded
  refine ⟨_, ?_, encode_eq utf8 request encoded, ?_, ?_⟩
  · simp [layout, encoded, encodeBoolean_eq]
  · simp [size_eq utf8 request encoded]
  · simpa [List.append_assoc] using readFields_reads utf8 request reads [] []

theorem encode_of_long_topics (request : MetadataRequest Text) (topics : List Text)
    (listed : request.topics = some topics) (long : 2 ^ 31 ≤ topics.length) :
    request.encode utf8 = none := by
  have thrown : writeIntBE 4 topics.length = none := by
    simp only [writeIntBE, FitsSigned, ite_eq_right_iff]
    omega
  simp [encode, writeTopicsField, listed, writeIntBEAt, thrown]

end MetadataRequest

/-! ## The ApiVersions request -/

structure ApiVersionsRequest (Text : Type) where
  clientSoftwareName : Text
  clientSoftwareVersion : Text

namespace ApiVersionsRequest

variable {Text : Type} (utf8 : Utf8 Text)

/-- The `size` that `encode` computes: the two strings, and four bytes for the tagged fields. -/
def size (request : ApiVersionsRequest Text) : Nat :=
  2 + (utf8.encode request.clientSoftwareName).length + 2 +
    (utf8.encode request.clientSoftwareVersion).length + 4

/-- `ApiVersionsRequest.encode` (version 3); a `RangeError` is `none`. -/
def encode (request : ApiVersionsRequest Text) : Option Bytes := do
  let nameLength := (utf8.encode request.clientSoftwareName).length
  let versionLength := (utf8.encode request.clientSoftwareVersion).length
  let buffer := List.replicate (request.size utf8) 0
  let offset : Int := 0
  let buffer ← writeIntBEAt 2 buffer nameLength offset
  let offset := offset + 2
  let buffer ← writeTextAt buffer offset (utf8.encode request.clientSoftwareName)
  let offset := offset + nameLength
  let buffer ← writeIntBEAt 2 buffer versionLength offset
  let offset := offset + 2
  let buffer ← writeTextAt buffer offset (utf8.encode request.clientSoftwareVersion)
  let offset := offset + versionLength
  writeUIntBEAt 1 buffer 0 offset

/-- The body laid out as the two strings and the empty tagged fields, one zero byte. -/
def layout (request : ApiVersionsRequest Text) : Option Bytes := do
  let clientSoftwareName ← encodeString utf8 (some request.clientSoftwareName)
  let clientSoftwareVersion ← encodeString utf8 (some request.clientSoftwareVersion)
  let taggedFields ← encodeUInt8 0
  pure (clientSoftwareName ++ clientSoftwareVersion ++ taggedFields)

theorem encode_eq (request : ApiVersionsRequest Text) {name version : Bytes}
    (named : encodeString utf8 (some request.clientSoftwareName) = some name)
    (versioned : encodeString utf8 (some request.clientSoftwareVersion) = some version) :
    request.encode utf8 = some (name ++ version ++ [0] ++ [0, 0, 0]) := by
  obtain ⟨nameLength, hname, rfl⟩ := encodeString_some utf8 named
  obtain ⟨versionLength, hversion, rfl⟩ := encodeString_some utf8 versioned
  have two := length_of_writeIntBE hname
  have two' := length_of_writeIntBE hversion
  simp only [encode, size, zero_add, writeUIntBEAt, show writeUIntBE 1 0 = some [0] from rfl,
    Option.some_bind]
  generalize utf8.encode request.clientSoftwareName = text at hname ⊢
  generalize utf8.encode request.clientSoftwareVersion = text' at hversion ⊢
  have step₁ := writeIntBEAt_alloc [] (2 + text.length + 2 + text'.length + 4) hname (by omega)
  have step₂ := writeTextAt_alloc nameLength text (2 + text.length + 2 + text'.length + 4 - 2)
    (by omega)
  have step₃ := writeIntBEAt_alloc (nameLength ++ text)
    (2 + text.length + 2 + text'.length + 4 - 2 - text.length) hversion (by omega)
  have step₄ := writeTextAt_alloc (nameLength ++ text ++ versionLength) text'
    (2 + text.length + 2 + text'.length + 4 - 2 - text.length - 2) (by omega)
  have step₅ := writeAt_alloc (nameLength ++ text ++ versionLength ++ text') [0]
    (2 + text.length + 2 + text'.length + 4 - 2 - text.length - 2 - text'.length) (by simp; omega)
  simp only [List.nil_append, List.length_nil, List.length_append, two, two', Nat.cast_zero,
    Nat.cast_add, Nat.cast_ofNat] at step₁ step₂ step₃ step₄ step₅
  have rest : 2 + text.length + 2 + text'.length + 4 - 2 - text.length - 2 - text'.length -
      ([0] : Bytes).length = 3 := by simp; omega
  rw [step₁, Option.bind_eq_bind, Option.some_bind, step₂, Option.some_bind, step₃,
    Option.some_bind, step₄, Option.some_bind, step₅, rest]
  simp

theorem encode_layout (request : ApiVersionsRequest Text)
    (named : (utf8.encode request.clientSoftwareName).length ≤ 32767)
    (versioned : (utf8.encode request.clientSoftwareVersion).length ≤ 32767) :
    ∃ body, request.layout utf8 = some body ∧ request.encode utf8 = some (body ++ [0, 0, 0]) ∧
      request.size utf8 = body.length + 3 := by
  obtain ⟨name, hname, -⟩ := string_round_trip utf8 (some request.clientSoftwareName) named
  obtain ⟨version, hversion, -⟩ :=
    string_round_trip utf8 (some request.clientSoftwareVersion) versioned
  refine ⟨name ++ version ++ [0], ?_, encode_eq utf8 request hname hversion, ?_⟩
  · simp only [layout, hname, hversion]
    rfl
  · simp only [size, List.length_append, length_of_encodeString utf8 hname,
      length_of_encodeString utf8 hversion, List.length_singleton]
    omega

end ApiVersionsRequest

/-- `encode()` of a Metadata request writes its layout into a buffer of exactly the size it
computed, and the `Protocol` readers read every field back and stop at the end; a topic count
past int32 throws. `encode()` of an ApiVersions request writes its layout and leaves three zero
bytes after it: the size it computed is three more than the bytes it writes. -/
theorem request_bodies_and_their_sizes {Text : Type} (utf8 : Utf8 Text) :
    (∀ request : MetadataRequest Text,
      (∀ topics ∈ request.topics,
        topics.length < 2 ^ 31 ∧ ∀ topic ∈ topics, (utf8.encode topic).length ≤ 32767) →
      ∃ buffer, request.layout utf8 = some buffer ∧ request.encode utf8 = some buffer ∧
        buffer.length = request.size utf8 ∧
        MetadataRequest.readFields utf8 buffer 0 = some ((request.topics.map (List.map some),
          request.allowAutoTopicCreation, request.includeClusterAuthorizedOperations,
          request.includeTopicAuthorizedOperations), (buffer.length : Int))) ∧
    (∀ request : MetadataRequest Text, ∀ topics ∈ request.topics, 2 ^ 31 ≤ topics.length →
      request.encode utf8 = none) ∧
    (∀ request : ApiVersionsRequest Text,
      (utf8.encode request.clientSoftwareName).length ≤ 32767 →
      (utf8.encode request.clientSoftwareVersion).length ≤ 32767 →
      ∃ body, request.layout utf8 = some body ∧ request.encode utf8 = some (body ++ [0, 0, 0]) ∧
        request.size utf8 = body.length + 3) :=
  ⟨MetadataRequest.encode_reads_back utf8, MetadataRequest.encode_of_long_topics utf8,
    ApiVersionsRequest.encode_layout utf8⟩

/-- A Metadata request for one topic, whose buffer the `Protocol` readers read back whole; and an
ApiVersions request, whose buffer ends in three zero bytes past its layout. -/
theorem sample_request_bodies :
    ((∀ topics ∈ some [[116]], topics.length < 2 ^ 31 ∧
        ∀ topic ∈ topics, (Utf8.raw.encode topic).length ≤ 32767) ∧
      ∃ buffer, MetadataRequest.layout Utf8.raw ⟨some [[116]], true, false, true⟩ = some buffer ∧
        MetadataRequest.encode Utf8.raw ⟨some [[116]], true, false, true⟩ = some buffer ∧
        buffer.length = MetadataRequest.size Utf8.raw ⟨some [[116]], true, false, true⟩ ∧
        MetadataRequest.readFields Utf8.raw buffer 0 =
          some ((some [some [116]], true, false, true), (buffer.length : Int))) ∧
    (Utf8.raw.encode [107]).length ≤ 32767 ∧ (Utf8.raw.encode [49]).length ≤ 32767 ∧
      ∃ body, ApiVersionsRequest.layout Utf8.raw ⟨[107], [49]⟩ = some body ∧
        ApiVersionsRequest.encode Utf8.raw ⟨[107], [49]⟩ = some (body ++ [0, 0, 0]) ∧
        ApiVersionsRequest.size Utf8.raw ⟨[107], [49]⟩ = body.length + 3 :=
  ⟨⟨by decide, (request_bodies_and_their_sizes Utf8.raw).1 _ (by decide)⟩, by decide, by decide,
    (request_bodies_and_their_sizes Utf8.raw).2.2 _ (by decide) (by decide)⟩

end KafkaClient
