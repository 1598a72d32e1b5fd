import KafkaClient.RequestFrames
import KafkaClient.Requests
import KafkaClient.Codec

/-! The protocol layer's `RequestHeader` (`protocol/RequestEncoder`): `decode`, which reads the
fields back in the order `encode` writes them, and `size`, which counts them without writing.
A header `encode` accepts is read back by `decode`, and `size` is the number of bytes `encode`
wrote. -/

namespace KafkaClient

open BasicTypes

variable {Text : Type} (utf8 : Utf8 Text)

/-- `decode(decoder)` on `header`: the fields in the order `encode` writes them, and the tag from
version 2 on; below version 2 the header keeps the tag it had. -/
def RequestHeader.decode (header : RequestHeader Text) (decoder : Decoder) :
    Option (RequestHeader Text × Decoder) := do
  let (apiKey, decoder) ← decoder.readInt16
  let (apiVersion, decoder) ← decoder.readInt16
  let (correlationId, decoder) ← decoder.readInt32
  let (clientId, decoder) ← decoder.readString utf8
  if apiVersion ≥ 2 then
    let (tag, decoder) ← decoder.readUInt16
    pure ({ header with apiKey, apiVersion, correlationId, clientId, tag }, decoder)
  else pure ({ header with apiKey, apiVersion, correlationId, clientId }, decoder)

/-- `size()`: the fixed fields, the client id's length and bytes, and the tag from version 2 on. -/
def RequestHeader.size (header : RequestHeader Text) : Nat :=
  let size := 2 + 2 + 4 + 2
  let size := match header.clientId with
    | some clientId => size + (utf8.encode clientId).length
    | none => size
  if header.apiVersion ≥ 2 then size + 2 else size

/-- What `encode` can write: the api key and version as int16, the correlation id as int32, a
client id of at most 32767 UTF-8 bytes, and from version 2 on the tag as uint16. -/
structure RequestHeader.Encodable (header : RequestHeader Text) : Prop where
  apiKey : FitsSigned 2 header.apiKey
  apiVersion : FitsSigned 2 header.apiVersion
  correlationId : FitsSigned 4 header.correlationId
  clientId : NullableWithin (fun text => (utf8.encode text).length) 32767 header.clientId
  tag : header.apiVersion ≥ 2 → FitsUnsigned 2 header.tag

theorem fitsSigned_of_writeIntBE {width : Nat} {value : Int} {bytes : Bytes}
    (written : writeIntBE width value = some bytes) : FitsSigned width value := by
  by_contra outside
  simp [writeIntBE, outside] at written

theorem fitsSigned_of_encodeFixed {width : Nat} {value : Int} {bytes : Bytes}
    (encoded : encodeFixed true width value = some bytes) : FitsSigned width value := by
  rw [encodeFixed, if_pos rfl] at encoded
  exact fitsSigned_of_writeIntBE encoded

theorem fitsUnsigned_of_encodeFixed {width : Nat} {value : Int} {bytes : Bytes}
    (encoded : encodeFixed false width value = some bytes) : FitsUnsigned width value := by
  by_contra outside
  simp [encodeFixed, writeUIntBE, outside] at encoded

theorem nullableWithin_of_encodeString {clientId : Option Text} {bytes : Bytes}
    (encoded : encodeString utf8 clientId = some bytes) :
    NullableWithin (fun text => (utf8.encode text).length) 32767 clientId := by
  cases clientId with
  | none => trivial
  | some text =>
      obtain ⟨length, counted, -⟩ := encodeString_some utf8 encoded
      have fits := fitsSigned_of_writeIntBE counted
      simp only [FitsSigned, NullableWithin] at fits ⊢
      omega

/-- A value its codec round-trips: written through the encoder, it is read back through the
decoder at its start on any buffer that begins with what the encoder holds then. -/
theorem read_written {α : Type} {valid : α → Prop} {encode : α → Option Bytes}
    {decode : Bytes → Int → Option (α × Int)} (law : RoundTrips valid encode decode) {value : α}
    (hvalid : valid value) : ∃ bytes, encode value = some bytes ∧
      ∀ (encoder : Encoder) (buffer rest : Bytes), buffer = (encoder.push bytes).build ++ rest →
        Decoder.read decode ⟨buffer, encoder.build.length⟩ =
          some (value, ⟨buffer, (encoder.push bytes).build.length⟩) := by
  obtain ⟨bytes, encoded, decoded⟩ := law value hvalid
  refine ⟨bytes, encoded, fun encoder buffer rest framed => ?_⟩
  subst framed
  simp only [Decoder.read, Encoder.build_push, decoded, Option.map_some', List.length_append,
    Nat.cast_add]

theorem RequestHeader.decode_encode {header : RequestHeader Text} (encodable : header.Encodable utf8)
    (receiving : RequestHeader Text) (encoder : Encoder) :
    ∃ next, header.encode utf8 encoder = some next ∧
      next.build.length = encoder.build.length + header.size utf8 ∧
      ∀ rest, receiving.decode utf8 ⟨next.build ++ rest, encoder.build.length⟩ =
        some ({ header with tag := if header.apiVersion ≥ 2 then header.tag else receiving.tag },
          ⟨next.build ++ rest, next.build.length⟩) := by
  obtain ⟨k, hk, rk⟩ := read_written (signed_round_trip 2 (by decide)) encodable.apiKey
  obtain ⟨v, hv, rv⟩ := read_written (signed_round_trip 2 (by decide)) encodable.apiVersion
  obtain ⟨c, hc, rc⟩ := read_written (signed_round_trip 4 (by decide)) encodable.correlationId
  obtain ⟨id, hid, rid⟩ := read_written (string_round_trip utf8) encodable.clientId
  have written : header.encode utf8 encoder = (if header.apiVersion ≥ 2 then
      (encodeUInt16 header.tag).map ((((encoder.push k).push v).push c).push id).push
    else some ((((encoder.push k).push v).push c).push id)) := by
    simp only [RequestHeader.encode, Encoder.writeInt16, Encoder.writeInt32, Encoder.writeString,
      Encoder.writeUInt16, Encoder.write, encodeInt16, encodeInt32, hk, hv, hc, hid,
      Option.map_some', Option.some_bind]
    split <;> rfl
  have sized : k.length + v.length + c.length + id.length + 2 = header.size utf8 +
      (if header.apiVersion ≥ 2 then 0 else 2) := by
    rw [length_of_writeIntBE hk, length_of_writeIntBE hv, length_of_writeIntBE hc]
    rcases named : header.clientId with _ | text <;> rw [named] at hid <;>
      simp only [RequestHeader.size, named]
    · cases hid
      split <;> rfl
    · rw [length_of_encodeString utf8 hid]
      split <;> omega
  by_cases two : header.apiVersion ≥ 2
  · obtain ⟨t, ht, rt⟩ := read_written (unsigned_round_trip 2) (encodable.tag two)
    simp only [if_pos two, encodeUInt16, ht, Option.map_some'] at written
    refine ⟨_, written, ?_, fun rest => ?_⟩
    · have tagged : t.length = 2 := by
        simp only [encodeFixed, writeUIntBE, Bool.false_eq_true, if_false] at ht
        split at ht <;> cases ht
        exact length_beBytes _ _
      simp only [Encoder.build_push, List.length_append, if_pos two] at sized ⊢
      omega
    · obtain ⟨buffer, hbuffer⟩ : ∃ buffer,
          buffer = (((((encoder.push k).push v).push c).push id).push t).build ++ rest := ⟨_, rfl⟩
      rw [← hbuffer]
      simp only [RequestHeader.decode, Decoder.readInt16, Decoder.readInt32, Decoder.readString,
        Decoder.readUInt16, decodeInt16, decodeInt32, decodeUInt16,
        rk encoder buffer (v ++ c ++ id ++ t ++ rest)
          (by simp only [hbuffer, Encoder.build_push, List.append_assoc]),
        rv (encoder.push k) buffer (c ++ id ++ t ++ rest)
          (by simp only [hbuffer, Encoder.build_push, List.append_assoc]),
        rc ((encoder.push k).push v) buffer (id ++ t ++ rest)
          (by simp only [hbuffer, Encoder.build_push, List.append_assoc]),
        rid (((encoder.push k).push v).push c) buffer (t ++ rest)
          (by simp only [hbuffer, Encoder.build_push, List.append_assoc]),
        rt ((((encoder.push k).push v).push c).push id) buffer rest hbuffer,
        Option.bind_eq_bind, Option.some_bind, if_pos two]
      rfl
  · simp only [if_neg two] at written
    refine ⟨_, written, ?_, fun rest => ?_⟩
    · simp only [Encoder.build_push, List.length_append, if_neg two] at sized ⊢
      omega
    · obtain ⟨buffer, hbuffer⟩ : ∃ buffer,
          buffer = ((((encoder.push k).push v).push c).push id).build ++ rest := ⟨_, rfl⟩
      rw [← hbuffer]
      simp only [RequestHeader.decode, Decoder.readInt16, Decoder.readInt32, Decoder.readString,
        decodeInt16, decodeInt32,
        rk encoder buffer (v ++ c ++ id ++ rest)
          (by simp only [hbuffer, Encoder.build_push, List.append_assoc]),
        rv (encoder.push k) buffer (c ++ id ++ rest)
          (by simp only [hbuffer, Encoder.build_push, List.append_assoc]),
        rc ((encoder.push k).push v) buffer (id ++ rest)
          (by simp only [hbuffer, Encoder.build_push, List.append_assoc]),
        rid (((encoder.push k).push v).push c) buffer rest hbuffer,
        Option.bind_eq_bind, Option.some_bind, if_neg two]
      rfl

theorem RequestHeader.encodable_of_encode {header : RequestHeader Text} {encoder next : Encoder}
    (written : header.encode utf8 encoder = some next) : header.Encodable utf8 := by
  simp only [RequestHeader.encode, Encoder.writeInt16, Encoder.writeInt32, Encoder.writeString,
    Encoder.writeUInt16, Encoder.write, encodeInt16, encodeInt32, encodeUInt16, Option.bind_eq_bind,
    Option.bind_eq_some, Option.map_eq_some'] at written
  obtain ⟨_, ⟨k, hk, -⟩, _, ⟨v, hv, -⟩, _, ⟨c, hc, -⟩, _, ⟨id, hid, -⟩, tagged⟩ := written
  refine ⟨fitsSigned_of_encodeFixed hk, fitsSigned_of_encodeFixed hv, fitsSigned_of_encodeFixed hc,
    nullableWithin_of_encodeString utf8 hid, fun two => ?_⟩
  rw [if_pos two] at tagged
  obtain ⟨t, ht, -⟩ := Option.map_eq_some'.1 tagged
  exact fitsUnsigned_of_encodeFixed ht

/-- `encode` succeeds exactly on the headers whose fields fit their widths. On those it writes
`size()` bytes, and `decode` on any header reads the fields back from them, whatever follows,
stopping right after them; below version 2 no tag is written and the decoding header keeps its
own. -/
theorem requestHeader_round_trip (header receiving : RequestHeader Text) (encoder : Encoder) :
    ((∃ next, header.encode utf8 encoder = some next) ↔ header.Encodable utf8) ∧
    (header.Encodable utf8 → ∃ next, header.encode utf8 encoder = some next ∧
      next.build.length = encoder.build.length + header.size utf8 ∧
      ∀ rest, receiving.decode utf8 ⟨next.build ++ rest, encoder.build.length⟩ =
        some ({ header with tag := if header.apiVersion ≥ 2 then header.tag else receiving.tag },
          ⟨next.build ++ rest, next.build.length⟩)) :=
  ⟨⟨fun ⟨_, written⟩ => RequestHeader.encodable_of_encode utf8 written,
    fun encodable => (RequestHeader.decode_encode utf8 encodable receiving encoder).imp
      fun _ read => read.1⟩,
    fun encodable => RequestHeader.decode_encode utf8 encodable receiving encoder⟩

example : ((⟨0, 2, 7, some [97, 98], 0⟩ : RequestHeader Bytes).encode Utf8.raw .empty).map
    Encoder.build = some [0, 0, 0, 2, 0, 0, 0, 7, 0, 2, 97, 98, 0, 0] := by decide

end KafkaClient
