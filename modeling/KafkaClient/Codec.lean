import KafkaClient.Decoder

/-! The codec's round-trip law at both levels: every `BasicTypes` codec round-trips on its
domain, the `Encoder` writes produce the `BasicTypes` bytes, and a value written through the
`Encoder` is read back through the `Decoder`, whose cursor ends just past it. -/

namespace KafkaClient

open BasicTypes

/-- The round-trip law at the cursors: after any earlier writes, the value written through `write`
is read back by `read` from a decoder at the end of the earlier bytes, inside any trailing
bytes, and the decoder stops at the end of the written bytes. -/
def CursorRoundTrips {α : Type} (valid : α → Prop) (write : Encoder → α → Option Encoder)
    (read : Decoder → Option (α × Decoder)) : Prop :=
  ∀ value, valid value → ∀ encoder : Encoder, ∃ next, write encoder value = some next ∧
    ∀ q : Bytes, read ⟨next.build ++ q, encoder.build.length⟩ =
      some (value, ⟨next.build ++ q, next.build.length⟩)

section Cursor

variable {α : Type} {valid : α → Prop} {write : Encoder → α → Option Encoder}
  {encode : α → Option Bytes} {decode : Bytes → Int → Option (α × Int)}

theorem cursor_round_trip (appends : Encoder.Appends write encode)
    (law : RoundTrips valid encode decode) : CursorRoundTrips valid write (Decoder.read decode) := by
  intro value hvalid encoder
  obtain ⟨bytes, hencode, hdecode⟩ := law value hvalid
  have hwrite := appends encoder value
  rw [hencode, Option.map_some'] at hwrite
  cases hnext : write encoder value with
  | none => simp [hnext] at hwrite
  | some next =>
      simp only [hnext, Option.map_some', Option.some.injEq] at hwrite
      refine ⟨next, rfl, fun q => ?_⟩
      simp only [Decoder.read, hwrite, hdecode, Option.map_some', List.length_append, Nat.cast_add]

theorem array_cursor_round_trip {writeElement : Encoder → α → Option Encoder}
    (appends : Encoder.Appends writeElement encode) (law : RoundTrips valid encode decode) :
    CursorRoundTrips (ArrayWithin valid (2 ^ 31 - 1))
      (fun encoder values => encoder.writeArray values writeElement)
      (fun decoder => decoder.readArray (Decoder.read decode)) := by
  have hread : (fun decoder : Decoder => decoder.readArray (Decoder.read decode)) =
      Decoder.read (decodeArray · decode ·) := funext (Decoder.readArray_read decode)
  rw [hread]
  exact cursor_round_trip (Encoder.writeArray_appends appends) (array_round_trip law)

theorem compact_array_cursor_round_trip {writeElement : Encoder → α → Option Encoder}
    (appends : Encoder.Appends writeElement encode) (law : RoundTrips valid encode decode) :
    CursorRoundTrips (ArrayWithin valid (2 ^ 31 - 2))
      (fun encoder values => encoder.writeCompactArray values writeElement)
      (fun decoder => decoder.readCompactArray (Decoder.read decode)) := by
  have hread : (fun decoder : Decoder => decoder.readCompactArray (Decoder.read decode)) =
      Decoder.read (decodeCompactArray · decode ·) :=
    funext (Decoder.readCompactArray_read decode)
  rw [hread]
  exact cursor_round_trip (Encoder.writeCompactArray_appends appends) (compact_array_round_trip law)

end Cursor

theorem fixed_round_trips (width : Nat) (hwidth : width ∈ [1, 2, 4, 8]) :
    RoundTrips (FitsSigned width) (encodeFixed true width) (decodeFixed true width) ∧
      RoundTrips (FitsUnsigned width) (encodeFixed false width) (decodeFixed false width) :=
  ⟨signed_round_trip width (by simp at hwidth; omega), unsigned_round_trip width⟩

/-- Every `BasicTypes` codec round-trips on its domain, arrays whenever their elements do; the
`Encoder` writes produce exactly the `BasicTypes` bytes; and every value written through the
`Encoder` is read back through the `Decoder`, whose cursor advances by exactly its length. -/
theorem codec_round_trip {Text : Type} (utf8 : Utf8 Text) :
    (RoundTrips (fun _ => True) encodeBoolean decodeBoolean ∧
      (∀ width ∈ [1, 2, 4, 8],
        RoundTrips (FitsSigned width) (encodeFixed true width) (decodeFixed true width) ∧
        RoundTrips (FitsUnsigned width) (encodeFixed false width) (decodeFixed false width)) ∧
      RoundTrips (NullableWithin (fun text => (utf8.encode text).length) 32767)
        (encodeString utf8) (decodeString utf8) ∧
      RoundTrips (NullableWithin List.length (2 ^ 31 - 1)) encodeBytes decodeBytes ∧
      RoundTrips (NullableWithin (fun text => (utf8.encode text).length) (2 ^ 31 - 2))
        (some ∘ encodeCompactString utf8) (decodeCompactString utf8) ∧
      RoundTrips (NullableWithin List.length (2 ^ 31 - 2)) (some ∘ encodeCompactBytes)
        decodeCompactBytes) ∧
    (∀ {α : Type} (valid : α → Prop) (encodeFunc : α → Option Bytes)
        (decodeFunc : Bytes → Int → Option (α × Int)),
      RoundTrips valid encodeFunc decodeFunc →
        RoundTrips (ArrayWithin valid (2 ^ 31 - 1)) (encodeArray · encodeFunc)
          (decodeArray · decodeFunc ·) ∧
        RoundTrips (ArrayWithin valid (2 ^ 31 - 2)) (encodeCompactArray · encodeFunc)
          (decodeCompactArray · decodeFunc ·)) ∧
    (CursorRoundTrips (fun _ => True) Encoder.writeBoolean Decoder.readBoolean ∧
      (∀ width ∈ [1, 2, 4, 8],
        CursorRoundTrips (FitsSigned width) (Encoder.write (encodeFixed true width))
          (Decoder.read (decodeFixed true width)) ∧
        CursorRoundTrips (FitsUnsigned width) (Encoder.write (encodeFixed false width))
          (Decoder.read (decodeFixed false width))) ∧
      CursorRoundTrips (NullableWithin (fun text => (utf8.encode text).length) 32767)
        (Encoder.writeString utf8) (Decoder.readString utf8) ∧
      CursorRoundTrips (NullableWithin List.length (2 ^ 31 - 1)) Encoder.writeBytes
        Decoder.readBytes ∧
      CursorRoundTrips (NullableWithin (fun text => (utf8.encode text).length) (2 ^ 31 - 2))
        (Encoder.writeCompactString utf8) (Decoder.readCompactString utf8) ∧
      CursorRoundTrips (NullableWithin List.length (2 ^ 31 - 2)) Encoder.writeCompactBytes
        Decoder.readCompactBytes) ∧
    (∀ {α : Type} (valid : α → Prop) (writeElement : Encoder → α → Option Encoder)
        (encodeFunc : α → Option Bytes) (decodeFunc : Bytes → Int → Option (α × Int)),
      Encoder.Appends writeElement encodeFunc → RoundTrips valid encodeFunc decodeFunc →
        Encoder.Appends (fun encoder values => encoder.writeArray values writeElement)
          (encodeArray · encodeFunc) ∧
        Encoder.Appends (fun encoder values => encoder.writeCompactArray values writeElement)
          (encodeCompactArray · encodeFunc) ∧
        CursorRoundTrips (ArrayWithin valid (2 ^ 31 - 1))
          (fun encoder values => encoder.writeArray values writeElement)
          (fun decoder => decoder.readArray (Decoder.read decodeFunc)) ∧
        CursorRoundTrips (ArrayWithin valid (2 ^ 31 - 2))
          (fun encoder values => encoder.writeCompactArray values writeElement)
          (fun decoder => decoder.readCompactArray (Decoder.read decodeFunc))) :=
  ⟨⟨boolean_round_trip, fixed_round_trips, string_round_trip utf8, bytes_round_trip,
      compact_string_round_trip utf8, compact_bytes_round_trip⟩,
    fun _ _ _ law => ⟨array_round_trip law, compact_array_round_trip law⟩,
    ⟨cursor_round_trip (Encoder.write_appends _) boolean_round_trip,
      fun width hwidth => ⟨cursor_round_trip (Encoder.write_appends _) (fixed_round_trips width hwidth).1,
        cursor_round_trip (Encoder.write_appends _) (fixed_round_trips width hwidth).2⟩,
      cursor_round_trip (Encoder.write_appends _) (string_round_trip utf8),
      cursor_round_trip (Encoder.write_appends _) bytes_round_trip,
      cursor_round_trip (Encoder.write_appends _) (compact_string_round_trip utf8),
      cursor_round_trip (Encoder.write_appends _) compact_bytes_round_trip⟩,
    fun _ _ _ _ appends law => ⟨Encoder.writeArray_appends appends,
      Encoder.writeCompactArray_appends appends, array_cursor_round_trip appends law,
      compact_array_cursor_round_trip appends law⟩⟩

end KafkaClient
