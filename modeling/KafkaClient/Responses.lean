import KafkaClient.RoundTrip

/-! The response bodies of `network/protocol/responses`. `MetadataResponse.parse` and
`ApiVersionsResponse.parse` read their fields with loops written out by hand over one threaded
offset. Against them stand the layouts of the protocol's response bodies, built from the
`BasicTypes` encoders: every body laid out so is read back whole, whatever bytes follow it. -/

namespace KafkaClient

open BasicTypes

/-! ## Reads in sequence -/

section Reads

variable {α β : Type}

/-- `decode` reads `value` from `bytes` wherever they stand, and stops just past them. -/
def Reads (decode : Bytes → Int → Option (α × Int)) (value : α) (bytes : Bytes) : Prop :=
  ∀ p q : Bytes, decode (p ++ bytes ++ q) p.length = some (value, (p.length : Int) + bytes.length)

/-- Every value that `encode` lays out, `decode` reads back. -/
def ReadsBack (encode : α → Option Bytes) (decode : Bytes → Int → Option (α × Int)) : Prop :=
  ∀ value bytes, encode value = some bytes → Reads decode value bytes

/-- A read, then the reads that follow it from the offset where it stopped. -/
theorem Reads.bind {decode : Bytes → Int → Option (α × Int)}
    {rest : Bytes → α × Int → Option (β × Int)} {a : α} {value : β} {first second : Bytes}
    (head : Reads decode a first)
    (tail : Reads (fun buffer offset => rest buffer (a, offset)) value second) :
    Reads (fun buffer offset => decode buffer offset >>= rest buffer) value (first ++ second) := by
  intro p q
  have read := head p (second ++ q)
  have next := tail (p ++ first) q
  simp only [List.append_assoc, List.length_append, Nat.cast_add] at read next ⊢
  simp only [read, Option.bind_eq_bind, Option.some_bind, next, add_assoc]

/-- The last read, whose result is put together with those before it. -/
theorem Reads.last {decode : Bytes → Int → Option (α × Int)}
    {rest : Bytes → α × Int → Option (β × Int)} {a : α} {value : β} {bytes : Bytes}
    (head : Reads decode a bytes)
    (tail : ∀ buffer offset, rest buffer (a, offset) = some (value, offset)) :
    Reads (fun buffer offset => decode buffer offset >>= rest buffer) value bytes := by
  intro p q
  simp only [head p q, Option.bind_eq_bind, Option.some_bind, tail]

theorem BasicTypes.RoundTrips.reads {valid : α → Prop} {encode : α → Option Bytes}
    {decode : Bytes → Int → Option (α × Int)} (law : RoundTrips valid encode decode) {value : α}
    {bytes : Bytes} (hvalid : valid value) (encoded : encode value = some bytes) :
    Reads decode value bytes := by
  obtain ⟨bytes', encoded', reads⟩ := law value hvalid
  rw [encoded, Option.some.injEq] at encoded'
  exact encoded' ▸ reads

theorem ReadsBack.of_round_trips {valid : α → Prop} {encode : α → Option Bytes}
    {decode : Bytes → Int → Option (α × Int)} (law : RoundTrips valid encode decode)
    (domain : ∀ value bytes, encode value = some bytes → valid value) :
    ReadsBack encode decode :=
  fun value bytes encoded => law.reads (domain value bytes encoded) encoded

theorem int_reads_back (width : Nat) (hwidth : 0 < width) :
    ReadsBack (encodeFixed true width) (decodeFixed true width) :=
  .of_round_trips (signed_round_trip width hwidth) fun value _ encoded => by
    by_contra outside
    simp [encodeFixed, writeIntBE, outside] at encoded

/-- The same for a count or a length written with `writeIntBE`. -/
theorem writeIntBE_reads {width : Nat} {value : Int} {bytes : Bytes} (hwidth : 0 < width)
    (encoded : writeIntBE width value = some bytes) : Reads (decodeFixed true width) value bytes :=
  int_reads_back width hwidth value bytes (by rw [encodeFixed, if_pos rfl]; exact encoded)

theorem boolean_reads_back : ReadsBack encodeBoolean decodeBoolean :=
  .of_round_trips boolean_round_trip fun _ _ _ => trivial

/-- The count-then-loop that `parse` writes out for each of its arrays: an int32 count, then as
many reads of an element; a negative count runs the loop no time. -/
def readCounted (read : Bytes → Int → Option (α × Int)) (buffer : Bytes) (offset : Int) :
    Option (List α × Int) := do
  let (length, offset) ← decodeInt32 buffer offset
  decodeElements read buffer length.toNat offset

theorem elements_reads {encode : α → Option Bytes} {decode : Bytes → Int → Option (α × Int)}
    (law : ReadsBack encode decode) :
    ∀ (values : List α) (encoded : List Bytes), values.mapM encode = some encoded →
      Reads (fun buffer offset => decodeElements decode buffer values.length offset) values
        encoded.flatten
  | [], _, mapped => by
      cases mapped
      intro p q
      simp [decodeElements]
  | value :: values, _, mapped => by
      simp only [List.mapM_cons, Option.bind_eq_bind, Option.bind_eq_some, Option.pure_def,
        Option.some.injEq] at mapped
      obtain ⟨bytes, encoded, rest, mapped, rfl⟩ := mapped
      exact Reads.bind (law value bytes encoded)
        (Reads.last (elements_reads law values rest mapped) fun _ _ => rfl)

theorem array_reads_back {encode : α → Option Bytes} {decode : Bytes → Int → Option (α × Int)}
    (law : ReadsBack encode decode) :
    ReadsBack (fun values => encodeArray (some values) encode) (readCounted decode) := by
  intro values bytes laid
  simp only [encodeArray, Option.bind_eq_bind, Option.bind_eq_some, Option.pure_def,
    Option.some.injEq] at laid
  obtain ⟨encoded, mapped, count, counted, rfl⟩ := laid
  refine Reads.bind (writeIntBE_reads (by decide) counted) ?_
  simpa only [Int.toNat_natCast] using elements_reads law values encoded mapped

section Text

variable {Text : Type} (utf8 : Utf8 Text)

/-- A string that is not null: its `int16` length, then its bytes. -/
theorem encodeString_some {text : Text} {bytes : Bytes}
    (encoded : encodeString utf8 (some text) = some bytes) :
    ∃ length, writeIntBE 2 (utf8.encode text).length = some length ∧
      bytes = length ++ utf8.encode text := by
  simp only [encodeString, Option.map_eq_some'] at encoded
  obtain ⟨length, counted, rfl⟩ := encoded
  exact ⟨length, counted, rfl⟩

theorem string_reads_back : ReadsBack (encodeString utf8) (decodeString utf8) :=
  .of_round_trips (string_round_trip utf8) fun
    | none, _, _ => trivial
    | some text, _, encoded => by
        have fits : FitsSigned 2 (utf8.encode text).length := by
          by_contra outside
          simp [encodeString, writeIntBE, outside] at encoded
        simp only [NullableWithin]
        unfold FitsSigned at fits
        norm_num at fits
        omega

end Text

end Reads

/-! ## The Metadata response -/

structure Broker (Text : Type) where
  nodeId : Int
  host : Text
  port : Int
  rack : Option Text
  deriving DecidableEq, Repr

structure PartitionMetadata where
  errorCode : Int
  partitionIndex : Int
  leaderId : Int
  leaderEpoch : Int
  replicaNodes : List Int
  isrNodes : List Int
  offlineReplicas : List Int
  deriving DecidableEq, Repr

structure TopicMetadata (Text : Type) where
  errorCode : Int
  name : Text
  isInternal : Bool
  partitions : List PartitionMetadata
  topicAuthorizedOperations : Int
  deriving DecidableEq, Repr

structure MetadataResponse (Text : Type) where
  throttleTimeMs : Int
  brokers : List (Broker Text)
  clusterId : Option Text
  controllerId : Int
  topics : List (TopicMetadata Text)
  clusterAuthorizedOperations : Int
  deriving DecidableEq, Repr

namespace MetadataResponse

variable {Text : Type} (utf8 : Utf8 Text)

/-- A host or a topic name as `parse` reads it: the int16 length, then the text up to it, with
no null case; a negative length reads the empty text and moves the offset back. -/
def readText (buffer : Bytes) (offset : Int) : Option (Text × Int) := do
  let (length, offset) ← decodeInt16 buffer offset
  pure (utf8.toString buffer offset (offset + length), offset + length)

/-- The body of the brokers loop; the rack is read as `decodeString` reads a nullable string. -/
def readBroker (buffer : Bytes) (offset : Int) : Option (Broker Text × Int) := do
  let (nodeId, offset) ← decodeInt32 buffer offset
  let (host, offset) ← readText utf8 buffer offset
  let (port, offset) ← decodeInt32 buffer offset
  let (rack, offset) ← decodeString utf8 buffer offset
  pure (⟨nodeId, host, port, rack⟩, offset)

/-- The body of the partitions loop, with its three loops over int32 node ids. -/
def readPartition (buffer : Bytes) (offset : Int) : Option (PartitionMetadata × Int) := do
  let (errorCode, offset) ← decodeInt16 buffer offset
  let (partitionIndex, offset) ← decodeInt32 buffer offset
  let (leaderId, offset) ← decodeInt32 buffer offset
  let (leaderEpoch, offset) ← decodeInt32 buffer offset
  let (replicaNodes, offset) ← readCounted decodeInt32 buffer offset
  let (isrNodes, offset) ← readCounted decodeInt32 buffer offset
  let (offlineReplicas, offset) ← readCounted decodeInt32 buffer offset
  pure (⟨errorCode, partitionIndex, leaderId, leaderEpoch, replicaNodes, isrNodes,
    offlineReplicas⟩, offset)

/-- The body of the topics loop; `isInternal` is `buffer.readInt8(offset) !== 0`. -/
def readTopic (buffer : Bytes) (offset : Int) : Option (TopicMetadata Text × Int) := do
  let (errorCode, offset) ← decodeInt16 buffer offset
  let (name, offset) ← readText utf8 buffer offset
  let (isInternal, offset) ← decodeBoolean buffer offset
  let (partitions, offset) ← readCounted readPartition buffer offset
  let (topicAuthorizedOperations, offset) ← decodeInt32 buffer offset
  pure (⟨errorCode, name, isInternal, partitions, topicAuthorizedOperations⟩, offset)

/-- The reads of `parse` from `offset`, and the offset after the last of them. -/
def read (buffer : Bytes) (offset : Int) : Option (MetadataResponse Text × Int) := do
  let (throttleTimeMs, offset) ← decodeInt32 buffer offset
  let (brokers, offset) ← readCounted (readBroker utf8) buffer offset
  let (clusterId, offset) ← decodeString utf8 buffer offset
  let (controllerId, offset) ← decodeInt32 buffer offset
  let (topics, offset) ← readCounted (readTopic utf8) buffer offset
  let (clusterAuthorizedOperations, offset) ← decodeInt32 buffer offset
  pure (⟨throttleTimeMs, brokers, clusterId, controllerId, topics, clusterAuthorizedOperations⟩,
    offset)

/-- `MetadataResponse.parse`: the reads from offset 0; a `RangeError` is `none`. -/
def parse (buffer : Bytes) : Option (MetadataResponse Text) :=
  (read utf8 buffer 0).map Prod.fst

/-! ### The layout of the body -/

/-- A broker laid out as `(nodeId:int32, host:string, port:int32, rack:nullable-string)`. -/
def brokerLayout (broker : Broker Text) : Option Bytes := do
  let nodeId ← encodeInt32 broker.nodeId
  let host ← encodeString utf8 (some broker.host)
  let port ← encodeInt32 broker.port
  let rack ← encodeString utf8 broker.rack
  pure (nodeId ++ host ++ port ++ rack)

/-- A partition laid out as `(errorCode:int16, partitionIndex:int32, leaderId:int32,
leaderEpoch:int32, replicas:array<int32>, isr:array<int32>, offlineReplicas:array<int32>)`. -/
def partitionLayout (partition : PartitionMetadata) : Option Bytes := do
  let errorCode ← encodeInt16 partition.errorCode
  let partitionIndex ← encodeInt32 partition.partitionIndex
  let leaderId ← encodeInt32 partition.leaderId
  let leaderEpoch ← encodeInt32 partition.leaderEpoch
  let replicaNodes ← encodeArray (some partition.replicaNodes) encodeInt32
  let isrNodes ← encodeArray (some partition.isrNodes) encodeInt32
  let offlineReplicas ← encodeArray (some partition.offlineReplicas) encodeInt32
  pure (errorCode ++ partitionIndex ++ leaderId ++ leaderEpoch ++ replicaNodes ++ isrNodes ++
    offlineReplicas)

/-- A topic laid out as `(errorCode:int16, name:string, isInternal:bool, partitions:array,
topicAuthorizedOperations:int32)`. -/
def topicLayout (topic : TopicMetadata Text) : Option Bytes := do
  let errorCode ← encodeInt16 topic.errorCode
  let name ← encodeString utf8 (some topic.name)
  let isInternal ← encodeBoolean topic.isInternal
  let partitions ← encodeArray (some topic.partitions) partitionLayout
  let topicAuthorizedOperations ← encodeInt32 topic.topicAuthorizedOperations
  pure (errorCode ++ name ++ isInternal ++ partitions ++ topicAuthorizedOperations)

/-- The response body laid out as `(throttleTimeMs:int32, brokers:array, clusterId:nullable-string,
controllerId:int32, topics:array, clusterAuthorizedOperations:int32)`. -/
def layout (response : MetadataResponse Text) : Option Bytes := do
  let throttleTimeMs ← encodeInt32 response.throttleTimeMs
  let brokers ← encodeArray (some response.brokers) (brokerLayout utf8)
  let clusterId ← encodeString utf8 response.clusterId
  let controllerId ← encodeInt32 response.controllerId
  let topics ← encodeArray (some response.topics) (topicLayout utf8)
  let clusterAuthorizedOperations ← encodeInt32 response.clusterAuthorizedOperations
  pure (throttleTimeMs ++ brokers ++ clusterId ++ controllerId ++ topics ++
    clusterAuthorizedOperations)

/-! ### Reading the layout back -/

theorem readText_reads_back : ReadsBack (fun text => encodeString utf8 (some text)) (readText utf8) := by
  intro text bytes encoded
  obtain ⟨length, counted, rfl⟩ := encodeString_some utf8 encoded
  refine Reads.bind (writeIntBE_reads (by decide) counted) fun p q => ?_
  simp only [Option.pure_def, Option.some.injEq, Prod.mk.injEq, and_true,
    utf8.toString_frame p _ q _ rfl, utf8.decode_encode]

theorem readBroker_reads_back : ReadsBack (brokerLayout utf8) (readBroker utf8) := by
  intro broker bytes laid
  simp only [brokerLayout, Option.bind_eq_bind, Option.bind_eq_some, Option.pure_def,
    Option.some.injEq] at laid
  obtain ⟨nodeId, hnodeId, host, hhost, port, hport, rack, hrack, rfl⟩ := laid
  simp only [List.append_assoc]
  refine Reads.bind (int_reads_back 4 (by decide) _ _ hnodeId) ?_
  refine Reads.bind (readText_reads_back utf8 _ _ hhost) ?_
  refine Reads.bind (int_reads_back 4 (by decide) _ _ hport) ?_
  exact Reads.last (string_reads_back utf8 _ _ hrack) fun _ _ => rfl

theorem readPartition_reads_back : ReadsBack partitionLayout readPartition := by
  intro partition bytes laid
  simp only [partitionLayout, Option.bind_eq_bind, Option.bind_eq_some, Option.pure_def,
    Option.some.injEq] at laid
  obtain ⟨errorCode, herrorCode, index, hindex, leaderId, hleaderId, epoch, hepoch, replicas,
    hreplicas, isr, hisr, offline, hoffline, rfl⟩ := laid
  simp only [List.append_assoc]
  refine Reads.bind (int_reads_back 2 (by decide) _ _ herrorCode) ?_
  refine Reads.bind (int_reads_back 4 (by decide) _ _ hindex) ?_
  refine Reads.bind (int_reads_back 4 (by decide) _ _ hleaderId) ?_
  refine Reads.bind (int_reads_back 4 (by decide) _ _ hepoch) ?_
  refine Reads.bind (array_reads_back (int_reads_back 4 (by decide)) _ _ hreplicas) ?_
  refine Reads.bind (array_reads_back (int_reads_back 4 (by decide)) _ _ hisr) ?_
  exact Reads.last (array_reads_back (int_reads_back 4 (by decide)) _ _ hoffline) fun _ _ => rfl

theorem readTopic_reads_back : ReadsBack (topicLayout utf8) (readTopic utf8) := by
  intro topic bytes laid
  simp only [topicLayout, Option.bind_eq_bind, Option.bind_eq_some, Option.pure_def,
    Option.some.injEq] at laid
  obtain ⟨errorCode, herrorCode, name, hname, internal, hinternal, partitions, hpartitions,
    operations, hoperations, rfl⟩ := laid
  simp only [List.append_assoc]
  refine Reads.bind (int_reads_back 2 (by decide) _ _ herrorCode) ?_
  refine Reads.bind (readText_reads_back utf8 _ _ hname) ?_
  refine Reads.bind (boolean_reads_back _ _ hinternal) ?_
  refine Reads.bind (array_reads_back readPartition_reads_back _ _ hpartitions) ?_
  exact Reads.last (int_reads_back 4 (by decide) _ _ hoperations) fun _ _ => rfl

theorem read_reads_back : ReadsBack (layout utf8) (read utf8) := by
  intro response bytes laid
  simp only [layout, Option.bind_eq_bind, Option.bind_eq_some, Option.pure_def,
    Option.some.injEq] at laid
  obtain ⟨throttle, hthrottle, brokers, hbrokers, clusterId, hclusterId, controller, hcontroller,
    topics, htopics, operations, hoperations, rfl⟩ := laid
  simp only [List.append_assoc]
  refine Reads.bind (int_reads_back 4 (by decide) _ _ hthrottle) ?_
  refine Reads.bind (array_reads_back (readBroker_reads_back utf8) _ _ hbrokers) ?_
  refine Reads.bind (string_reads_back utf8 _ _ hclusterId) ?_
  refine Reads.bind (int_reads_back 4 (by decide) _ _ hcontroller) ?_
  refine Reads.bind (array_reads_back (readTopic_reads_back utf8) _ _ htopics) ?_
  exact Reads.last (int_reads_back 4 (by decide) _ _ hoperations) fun _ _ => rfl

end MetadataResponse

/-! ## The ApiVersions response -/

structure ApiVersionRange where
  apiKey : Int
  minVersion : Int
  maxVersion : Int
  deriving DecidableEq, Repr

structure ApiVersionsResponse where
  errorCode : Int
  apiVersions : List ApiVersionRange
  throttleTimeMs : Int := 0
  deriving DecidableEq, Repr

namespace ApiVersionsResponse

/-- The body of the `apiVersions` loop. -/
def readRange (buffer : Bytes) (offset : Int) : Option (ApiVersionRange × Int) := do
  let (apiKey, offset) ← decodeInt16 buffer offset
  let (minVersion, offset) ← decodeInt16 buffer offset
  let (maxVersion, offset) ← decodeInt16 buffer offset
  pure (⟨apiKey, minVersion, maxVersion⟩, offset)

/-- The reads of `parse` from `offset`: the error code, the throttle time of version 1 on, and the
version ranges; tagged fields are not read. -/
def read (buffer : Bytes) (offset : Int) : Option (ApiVersionsResponse × Int) := do
  let (errorCode, offset) ← decodeInt16 buffer offset
  let (throttleTimeMs, offset) ← decodeInt32 buffer offset
  let (apiVersions, offset) ← readCounted readRange buffer offset
  pure (⟨errorCode, apiVersions, throttleTimeMs⟩, offset)

/-- `ApiVersionsResponse.parse`: the reads from offset 0. -/
def parse (buffer : Bytes) : Option ApiVersionsResponse :=
  (read buffer 0).map Prod.fst

/-- A version range laid out as `(apiKey:int16, minVersion:int16, maxVersion:int16)`. -/
def rangeLayout (range : ApiVersionRange) : Option Bytes := do
  let apiKey ← encodeInt16 range.apiKey
  let minVersion ← encodeInt16 range.minVersion
  let maxVersion ← encodeInt16 range.maxVersion
  pure (apiKey ++ minVersion ++ maxVersion)

/-- The response body laid out as `(errorCode:int16, throttleTimeMs:int32, apiVersions:array)`. -/
def layout (response : ApiVersionsResponse) : Option Bytes := do
  let errorCode ← encodeInt16 response.errorCode
  let throttleTimeMs ← encodeInt32 response.throttleTimeMs
  let apiVersions ← encodeArray (some response.apiVersions) rangeLayout
  pure (errorCode ++ throttleTimeMs ++ apiVersions)

theorem readRange_reads_back : ReadsBack rangeLayout readRange := by
  intro range bytes laid
  simp only [rangeLayout, Option.bind_eq_bind, Option.bind_eq_some, Option.pure_def,
    Option.some.injEq] at laid
  obtain ⟨apiKey, hapiKey, minVersion, hminVersion, maxVersion, hmaxVersion, rfl⟩ := laid
  simp only [List.append_assoc]
  refine Reads.bind (int_reads_back 2 (by decide) _ _ hapiKey) ?_
  refine Reads.bind (int_reads_back 2 (by decide) _ _ hminVersion) ?_
  exact Reads.last (int_reads_back 2 (by decide) _ _ hmaxVersion) fun _ _ => rfl

theorem read_reads_back : ReadsBack layout read := by
  intro response bytes laid
  simp only [layout, Option.bind_eq_bind, Option.bind_eq_some, Option.pure_def,
    Option.some.injEq] at laid
  obtain ⟨errorCode, herrorCode, throttle, hthrottle, versions, hversions, rfl⟩ := laid
  simp only [List.append_assoc]
  refine Reads.bind (int_reads_back 2 (by decide) _ _ herrorCode) ?_
  refine Reads.bind (int_reads_back 4 (by decide) _ _ hthrottle) ?_
  exact Reads.last (array_reads_back readRange_reads_back _ _ hversions) fun _ _ => rfl

end ApiVersionsResponse

/-- A parser that reads from offset 0 reads back every body laid out for its reads, whatever
follows. -/
theorem parse_of_reads_back {α : Type} {layout : α → Option Bytes}
    {read : Bytes → Int → Option (α × Int)} (law : ReadsBack layout read) {value : α}
    {bytes : Bytes} (laid : layout value = some bytes) (t : Bytes) :
    (read (bytes ++ t) 0).map Prod.fst = some value := by
  simpa using congrArg (Option.map Prod.fst) (law value bytes laid [] t)

/-- Both response parsers read back every body laid out as the protocol lays it out, whatever
bytes follow the body. -/
theorem parsers_read_laid_out_bodies {Text : Type} (utf8 : Utf8 Text) :
    (∀ (response : MetadataResponse Text) (bytes t : Bytes),
      MetadataResponse.layout utf8 response = some bytes →
        MetadataResponse.parse utf8 (bytes ++ t) = some response) ∧
    (∀ (response : ApiVersionsResponse) (bytes t : Bytes),
      ApiVersionsResponse.layout response = some bytes →
        ApiVersionsResponse.parse (bytes ++ t) = some response) :=
  ⟨fun _ _ t laid => parse_of_reads_back (MetadataResponse.read_reads_back utf8) laid t,
    fun _ _ t laid => parse_of_reads_back ApiVersionsResponse.read_reads_back laid t⟩

/-- A broker, a null cluster id and a topic with one partition, and one version range: each body
is laid out and read back with a byte after it. -/
theorem sample_bodies_read_back :
    MetadataResponse.layout Utf8.raw ⟨0, [⟨1, [104], 9092, none⟩], none, 1, [⟨0, [116], false, [⟨0, 0, 1, 5, [1], [], []⟩], 0⟩], 0⟩ =
      some [0, 0, 0, 0, 0, 0, 0, 1, 0, 0, 0, 1, 0, 1, 104, 0, 0, 35, 132, 255, 255, 255, 255, 0, 0, 0, 1,
      0, 0, 0, 1, 0, 0, 0, 1, 116, 0, 0, 0, 0, 1, 0, 0, 0, 0, 0, 0, 0, 0, 0, 1, 0, 0, 0, 5, 0, 0, 0, 1,
      0, 0, 0, 1, 0, 0, 0, 0, 0, 0, 0, 0, 0, 0, 0, 0, 0, 0, 0, 0] ∧
    MetadataResponse.parse Utf8.raw ([0, 0, 0, 0, 0, 0, 0, 1, 0, 0, 0, 1, 0, 1, 104, 0, 0, 35, 132, 255, 255, 255, 255, 0, 0, 0, 1,
      0, 0, 0, 1, 0, 0, 0, 1, 116, 0, 0, 0, 0, 1, 0, 0, 0, 0, 0, 0, 0, 0, 0, 1, 0, 0, 0, 5, 0, 0, 0, 1,
      0, 0, 0, 1, 0, 0, 0, 0, 0, 0, 0, 0, 0, 0, 0, 0, 0, 0, 0, 0] ++ [7]) =
      some ⟨0, [⟨1, [104], 9092, none⟩], none, 1, [⟨0, [116], false, [⟨0, 0, 1, 5, [1], [], []⟩], 0⟩], 0⟩ ∧
    ApiVersionsResponse.layout ⟨0, [⟨18, 0, 3⟩], 0⟩ = some [0, 0, 0, 0, 0, 0, 0, 0, 0, 1, 0, 18, 0, 0, 0, 3] ∧
    ApiVersionsResponse.parse ([0, 0, 0, 0, 0, 0, 0, 0, 0, 1, 0, 18, 0, 0, 0, 3] ++ [7]) = some ⟨0, [⟨18, 0, 3⟩], 0⟩ :=
  ⟨rfl, (parsers_read_laid_out_bodies Utf8.raw).1 _ _ _ rfl, rfl,
    (parsers_read_laid_out_bodies Utf8.raw).2 _ _ _ rfl⟩

end KafkaClient
