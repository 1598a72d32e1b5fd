import KafkaClient.Buffer

/-! The serdes of `serde/`: the fixed-width integer pairs `IntegerSerializer`/`IntegerDeserializer`
and `LongSerializer`/`LongDeserializer`, and the string pair `StringSerializer`/`StringDeserializer`
with the encoding their `configure` reads. A serializer writes `null` as the empty buffer, and
every deserializer reads the empty buffer as its type's zero, so `null` comes back as `0`, `0n` or
`''`. The `topic` argument, which none of them reads, is left out. -/

namespace KafkaClient.Serde

/-- What a serializer or deserializer throws: `new Error(message)`, or the `RangeError` of a
`Buffer` write or read outside its range. -/
inductive SerdeError where
  | error (message : String)
  | rangeError
  deriving DecidableEq, Repr

def sizeMessage (name : String) (width got : Nat) : String :=
  "Size of data received by " ++ name ++ " is not " ++ toString width ++ " bytes (got " ++
    toString got ++ " bytes)"

-- Fixed-width integers

/-- `serialize(topic, data)` of the fixed-width serializers: `Buffer.alloc(0)` for `null`, and
otherwise `Buffer.alloc(width)` with `data` written big-endian in two's complement at 0. -/
def serializeFixed (width : Nat) (data : Option Int) : Except SerdeError Bytes :=
  match data with
  | none => .ok []
  | some data =>
      match writeIntBEAt width (List.replicate width 0) data 0 with
      | some buffer => .ok buffer
      | none => .error .rangeError

/-- `deserialize(topic, data)` of the fixed-width deserializers: 0 for `null` or empty data, the
size error for data of another length than `width`, and otherwise the big-endian two's
complement integer at 0. -/
def deserializeFixed (name : String) (width : Nat) (data : Option Bytes) :
    Except SerdeError Int :=
  match data with
  | none => .ok 0
  | some data =>
      if data.length = 0 then .ok 0
      else if data.length ≠ width then .error (.error (sizeMessage name width data.length))
      else
        match readIntBE width data 0 with
        | some value => .ok value
        | none => .error .rangeError

def IntegerSerializer.serialize : Option Int → Except SerdeError Bytes :=
  serializeFixed 4

def IntegerDeserializer.deserialize : Option Bytes → Except SerdeError Int :=
  deserializeFixed "IntegerDeserializer" 4

def LongSerializer.serialize : Option Int → Except SerdeError Bytes :=
  serializeFixed 8

def LongDeserializer.deserialize : Option Bytes → Except SerdeError Int :=
  deserializeFixed "LongDeserializer" 8

theorem byte_ofNat_toNat (byte : UInt8) : UInt8.ofNat byte.toNat = byte := by
  apply UInt8.toNat.inj
  rw [byte_toNat_ofNat]
  exact Nat.mod_eq_of_lt byte.toNat_lt_size

theorem beValue_lt (bytes : Bytes) : beValue bytes < 256 ^ bytes.length := by
  induction bytes using List.reverseRecOn with
  | nil => decide
  | append_singleton bytes byte ih =>
      have := byte.toNat_lt_size
      rw [beValue_append_byte, List.length_append, List.length_singleton, pow_succ]
      simp only [UInt8.size] at this
      omega

theorem beBytes_beValue (bytes : Bytes) : beBytes bytes.length (beValue bytes) = bytes := by
  induction bytes using List.reverseRecOn with
  | nil => rfl
  | append_singleton bytes byte ih =>
      have := byte.toNat_lt_size
      simp only [UInt8.size] at this
      have high : (beValue bytes * 256 + byte.toNat) / 256 = beValue bytes := by omega
      have low : (beValue bytes * 256 + byte.toNat) % 256 = byte.toNat := by omega
      rw [beValue_append_byte, List.length_append, List.length_singleton, beBytes, high, low, ih,
        byte_ofNat_toNat]

theorem writeIntBEAt_zeros {width : Nat} {value : Int} {bytes : Bytes}
    (written : writeIntBE width value = some bytes) :
    writeIntBEAt width (List.replicate width 0) value 0 = some bytes := by
  simpa using writeIntBEAt_alloc [] width written le_rfl

theorem serializeFixed_some (width : Nat) (data : Int) :
    serializeFixed width (some data) = if FitsSigned width data then
      .ok (beBytes width (data % 2 ^ (8 * width)).toNat) else .error .rangeError := by
  by_cases fits : FitsSigned width data
  · rw [serializeFixed, writeIntBEAt_zeros (if_pos fits), if_pos fits]
  · have refused : writeIntBE width data = none := if_neg fits
    rw [serializeFixed, writeIntBEAt, refused, Option.none_bind, if_neg fits]

theorem deserializeFixed_width (name : String) {width : Nat} (hwidth : 0 < width) {data : Bytes}
    (sized : data.length = width) :
    deserializeFixed name width (some data) = .ok (toSigned width (beValue data)) := by
  have read : readIntBE width data 0 = some (toSigned width (beValue data)) := by
    have framed := readUIntBE_frame width [] data [] sized
    simp only [List.nil_append, List.append_nil, List.length_nil, Nat.cast_zero] at framed
    rw [readIntBE, framed]
    rfl
  rw [deserializeFixed, if_neg (by omega), if_neg (by omega), read]

theorem fitsSigned_toSigned {width : Nat} (hwidth : 0 < width) {unsigned : Nat}
    (below : unsigned < 2 ^ (8 * width)) :
    FitsSigned width (toSigned width unsigned) ∧
      (toSigned width unsigned % 2 ^ (8 * width)).toNat = unsigned := by
  have half : (2 : Int) ^ (8 * width) = 2 * 2 ^ (8 * width - 1) := by
    rw [← pow_succ']; congr 1; omega
  have below' : (unsigned : Int) < 2 ^ (8 * width) := by exact_mod_cast below
  unfold FitsSigned toSigned
  rw [half] at below' ⊢
  generalize (2 : Int) ^ (8 * width - 1) = h at *
  split
  · refine ⟨⟨by omega, by omega⟩, ?_⟩
    rw [Int.emod_eq_of_lt (by omega) below', Int.toNat_natCast]
  · refine ⟨⟨by omega, by omega⟩, ?_⟩
    rw [sub_eq_add_neg, ← neg_one_mul, Int.add_mul_emod_self, Int.emod_eq_of_lt (by omega) below',
      Int.toNat_natCast]

/-- The fixed-width round trips: `serialize` throws a `RangeError` exactly on a value outside the
signed range of `width` bytes; what it writes `deserialize` reads back, `null` as 0; and any
`width` bytes are read as a value that `serialize` writes back as the same bytes. -/
theorem fixed_round_trip (name : String) {width : Nat} (hwidth : 0 < width) :
    (∀ data, serializeFixed width data = .error .rangeError ↔
      ∃ value, data = some value ∧ ¬ FitsSigned width value) ∧
    (∀ data buffer, serializeFixed width data = .ok buffer →
      deserializeFixed name width (some buffer) = .ok (data.getD 0)) ∧
    ∀ bytes : Bytes, bytes.length = width → ∃ value,
      deserializeFixed name width (some bytes) = .ok value ∧
        serializeFixed width (some value) = .ok bytes := by
  refine ⟨fun data => ?_, fun data buffer written => ?_, fun bytes sized => ?_⟩
  · cases data with
    | none => simp [serializeFixed]
    | some data =>
        rw [serializeFixed_some]
        split <;> simp_all
  · cases data with
    | none =>
        cases written
        rfl
    | some data =>
        rw [serializeFixed_some] at written
        split at written
        · next fits =>
            cases written
            have encoded : writeIntBE width data = some _ := if_pos fits
            have read := readIntBE_writeIntBE width data [] [] _ hwidth encoded
            simp only [List.nil_append, List.append_nil, List.length_nil, Nat.cast_zero] at read
            rw [deserializeFixed, if_neg (by simp; omega), if_neg (by simp), read]
            rfl
        · cases written
  · have below : beValue bytes < 2 ^ (8 * width) := by
      rw [← two_pow_eight_mul, ← sized]; exact beValue_lt bytes
    obtain ⟨fits, inverse⟩ := fitsSigned_toSigned hwidth below
    refine ⟨_, deserializeFixed_width name hwidth sized, ?_⟩
    rw [serializeFixed_some, if_pos fits, inverse, ← sized, beBytes_beValue]

/-- A deserializer throws only the size error, exactly on data of neither 0 nor `width` bytes, and
the message names the deserializer, the width and the length it got. -/
theorem deserializeFixed_error (name : String) {width : Nat} (hwidth : 0 < width)
    (data : Option Bytes) (thrown : SerdeError) :
    deserializeFixed name width data = .error thrown ↔ ∃ bytes, data = some bytes ∧
      bytes.length ≠ 0 ∧ bytes.length ≠ width ∧
      thrown = .error (sizeMessage name width bytes.length) := by
  rcases data with _ | bytes
  · simp [deserializeFixed]
  · by_cases sized : bytes.length = width
    · simp [deserializeFixed_width name hwidth sized, sized]
    · by_cases empty : bytes.length = 0
      · obtain rfl := List.length_eq_zero.1 empty
        simp [deserializeFixed]
      · have nonempty : bytes ≠ [] := fun nil => empty (by rw [nil]; rfl)
        simp [deserializeFixed, empty, sized, nonempty, Ne.symm sized, eq_comm]

/-- The Integer and Long serdes: each serializer throws a `RangeError` exactly on a value outside
int32 or int64; what it writes its deserializer reads back, `null` as 0; and any 4 or 8 bytes are
read as a value the serializer writes back as the same bytes. -/
theorem integer_long_round_trip :
    ((∀ data, IntegerSerializer.serialize data = .error .rangeError ↔
        ∃ value, data = some value ∧ ¬ FitsSigned 4 value) ∧
      (∀ data buffer, IntegerSerializer.serialize data = .ok buffer →
        IntegerDeserializer.deserialize (some buffer) = .ok (data.getD 0)) ∧
      ∀ bytes : Bytes, bytes.length = 4 → ∃ value,
        IntegerDeserializer.deserialize (some bytes) = .ok value ∧
          IntegerSerializer.serialize (some value) = .ok bytes) ∧
    ((∀ data, LongSerializer.serialize data = .error .rangeError ↔
        ∃ value, data = some value ∧ ¬ FitsSigned 8 value) ∧
      (∀ data buffer, LongSerializer.serialize data = .ok buffer →
        LongDeserializer.deserialize (some buffer) = .ok (data.getD 0)) ∧
      ∀ bytes : Bytes, bytes.length = 8 → ∃ value,
        LongDeserializer.deserialize (some bytes) = .ok value ∧
          LongSerializer.serialize (some value) = .ok bytes) :=
  ⟨fixed_round_trip "IntegerDeserializer" (by decide), fixed_round_trip "LongDeserializer" (by decide)⟩

example : IntegerSerializer.serialize (some (-2)) = .ok [255, 255, 255, 254] := rfl

theorem integer_long_size_errors (data : Option Bytes) (thrown : SerdeError) :
    (IntegerDeserializer.deserialize data = .error thrown ↔ ∃ bytes, data = some bytes ∧
      bytes.length ≠ 0 ∧ bytes.length ≠ 4 ∧
      thrown = .error (sizeMessage "IntegerDeserializer" 4 bytes.length)) ∧
    (LongDeserializer.deserialize data = .error thrown ↔ ∃ bytes, data = some bytes ∧
      bytes.length ≠ 0 ∧ bytes.length ≠ 8 ∧
      thrown = .error (sizeMessage "LongDeserializer" 8 bytes.length)) :=
  ⟨deserializeFixed_error _ (by decide) data thrown, deserializeFixed_error _ (by decide) data thrown⟩

example : IntegerDeserializer.deserialize (some [1, 2]) =
    .error (.error "Size of data received by IntegerDeserializer is not 4 bytes (got 2 bytes)") :=
  rfl

-- Strings

/-- Node's string conversions by encoding name, `Buffer.from(text, encoding)` and
`buf.toString(encoding)`, and the text `''` that every encoding reads from no bytes. The
`TypeError` of an encoding name Node does not know is left out. -/
structure Encodings (Text : Type) where
  fromText : String → Text → Bytes
  toText : String → Bytes → Text
  empty : Text
  toText_nil : ∀ encoding, toText encoding [] = empty

def Encodings.raw : Encodings Bytes := ⟨fun _ text => text, fun _ bytes => bytes, [], fun _ => rfl⟩

/-- The encoding `configure(configs, isKey)` leaves: `configs[isKey ? keyName : valueName]` when
it is truthy, the one held before otherwise. Configs are modelled by their string values. -/
def configuredEncoding (keyName valueName : String) (configs : String → Option String)
    (isKey : Bool) (encoding : String) : String :=
  match configs (if isKey then keyName else valueName) with
  | some encodingConfig => if encodingConfig = "" then encoding else encodingConfig
  | none => encoding

structure StringSerializer where
  encoding : String := "utf8"
  deriving DecidableEq, Repr

structure StringDeserializer where
  encoding : String := "utf8"
  deriving DecidableEq, Repr

def StringSerializer.configure (serializer : StringSerializer) (configs : String → Option String)
    (isKey : Bool) : StringSerializer :=
  ⟨configuredEncoding "key.serializer.encoding" "value.serializer.encoding" configs isKey
    serializer.encoding⟩

def StringDeserializer.configure (deserializer : StringDeserializer)
    (configs : String → Option String) (isKey : Bool) : StringDeserializer :=
  ⟨configuredEncoding "key.deserializer.encoding" "value.deserializer.encoding" configs isKey
    deserializer.encoding⟩

/-- `StringSerde`: a serializer and a deserializer, both configured by its `configure`. -/
structure StringSerde where
  stringSerializer : StringSerializer := {}
  stringDeserializer : StringDeserializer := {}
  deriving DecidableEq, Repr

def StringSerde.configure (serde : StringSerde) (configs : String → Option String)
    (isKey : Bool) : StringSerde :=
  ⟨serde.stringSerializer.configure configs isKey, serde.stringDeserializer.configure configs isKey⟩

def StringSerde.configured (calls : List ((String → Option String) × Bool)) : StringSerde :=
  calls.foldl (fun serde call => serde.configure call.1 call.2) {}

section Strings

variable {Text : Type} (buffers : Encodings Text)

def StringSerializer.serialize (serializer : StringSerializer) (data : Option Text) : Bytes :=
  match data with
  | none => []
  | some data => buffers.fromText serializer.encoding data

def StringDeserializer.deserialize (deserializer : StringDeserializer) (data : Option Bytes) :
    Text :=
  match data with
  | none => buffers.empty
  | some data => if data.length = 0 then buffers.empty else buffers.toText deserializer.encoding data

/-- Configs that name the same value for the serializer's and the deserializer's encoding, under
the key or the value prefix as `isKey` says. -/
def SameEncoding (configs : String → Option String) (isKey : Bool) : Prop :=
  configs (if isKey then "key.serializer.encoding" else "value.serializer.encoding") =
    configs (if isKey then "key.deserializer.encoding" else "value.deserializer.encoding")

theorem StringSerde.configure_encoding {serde : StringSerde}
    (agrees : serde.stringSerializer.encoding = serde.stringDeserializer.encoding)
    {configs : String → Option String} {isKey : Bool} (same : SameEncoding configs isKey) :
    (serde.configure configs isKey).stringSerializer.encoding =
      (serde.configure configs isKey).stringDeserializer.encoding := by
  simp only [StringSerde.configure, StringSerializer.configure, StringDeserializer.configure,
    configuredEncoding, agrees]
  rw [SameEncoding] at same
  rw [same]

theorem StringSerde.configured_encoding (calls : List ((String → Option String) × Bool))
    (same : ∀ call ∈ calls, SameEncoding call.1 call.2) :
    (StringSerde.configured calls).stringSerializer.encoding =
      (StringSerde.configured calls).stringDeserializer.encoding := by
  rw [StringSerde.configured]
  induction calls using List.reverseRecOn with
  | nil => rfl
  | append_singleton calls call ih =>
      rw [List.foldl_append, List.foldl_cons, List.foldl_nil]
      exact StringSerde.configure_encoding
        (ih fun c mem => same c (List.mem_append_left _ mem))
        (same call (List.mem_append_right _ (List.mem_singleton_self _)))

/-- Through one encoding, a text that encoding reads back from its bytes comes back, empty bytes
included; `null` comes back as `''`. -/
theorem string_round_trip (serializer : StringSerializer) (deserializer : StringDeserializer)
    (agrees : serializer.encoding = deserializer.encoding) :
    deserializer.deserialize buffers (some (serializer.serialize buffers none)) = buffers.empty ∧
    ∀ text, buffers.toText serializer.encoding (buffers.fromText serializer.encoding text) = text →
      deserializer.deserialize buffers (some (serializer.serialize buffers (some text))) = text := by
  refine ⟨rfl, fun text law => ?_⟩
  rw [StringSerializer.serialize, StringDeserializer.deserialize, ← agrees]
  split
  · next empty =>
      rw [← law, List.length_eq_zero.1 empty, buffers.toText_nil]
  · exact law

/-- A `StringSerde` configured by any sequence of `configure` calls, each naming the same
encoding for its serializer and its deserializer, returns every text its encoding reads back
from its bytes, and returns `null` as `''`. -/
theorem stringSerde_round_trip (calls : List ((String → Option String) × Bool))
    (same : ∀ call ∈ calls, SameEncoding call.1 call.2) :
    (StringSerde.configured calls).stringDeserializer.deserialize buffers
        (some ((StringSerde.configured calls).stringSerializer.serialize buffers none)) =
      buffers.empty ∧
    ∀ text, buffers.toText (StringSerde.configured calls).stringSerializer.encoding
        (buffers.fromText (StringSerde.configured calls).stringSerializer.encoding text) = text →
      (StringSerde.configured calls).stringDeserializer.deserialize buffers
        (some ((StringSerde.configured calls).stringSerializer.serialize buffers (some text))) =
        text :=
  string_round_trip buffers _ _ (StringSerde.configured_encoding calls same)

example :
    (∀ call ∈ [((fun _ => some "latin1" : String → Option String), true)],
      SameEncoding call.1 call.2) ∧
    ((StringSerde.configured [(fun _ => some "latin1", true)]).stringDeserializer.deserialize
        Encodings.raw
        (some ((StringSerde.configured [(fun _ => some "latin1", true)]).stringSerializer.serialize
          Encodings.raw none)) = Encodings.raw.empty ∧
      ∀ text, Encodings.raw.toText
          (StringSerde.configured [(fun _ => some "latin1", true)]).stringSerializer.encoding
          (Encodings.raw.fromText
            (StringSerde.configured [(fun _ => some "latin1", true)]).stringSerializer.encoding
            text) = text →
        (StringSerde.configured [(fun _ => some "latin1", true)]).stringDeserializer.deserialize
          Encodings.raw
          (some ((StringSerde.configured [(fun _ => some "latin1", true)]).stringSerializer.serialize
            Encodings.raw (some text))) = text) :=
  have same : ∀ call ∈ [((fun _ => some "latin1" : String → Option String), true)],
      SameEncoding call.1 call.2 := fun call mem => by rw [List.mem_singleton.1 mem]; rfl
  ⟨same, stringSerde_round_trip Encodings.raw _ same⟩

end Strings

end KafkaClient.Serde
