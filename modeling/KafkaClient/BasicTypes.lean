import KafkaClient.Buffer

/-! `BasicTypes`: the stateless encoders and decoders of protocol primitives, nullable strings
and bytes, and standard and compact arrays. A decoder takes the buffer and an offset and returns
the value with the offset after it; `none` stands for a thrown `RangeError`. -/

namespace KafkaClient.BasicTypes

/-! ## Fixed-width integers -/

/-- `encodeIntN` and `encodeUIntN`: allocate `width` bytes and write the value big-endian. -/
def encodeFixed (signed : Bool) (width : Nat) (value : Int) : Option Bytes :=
  if signed then writeIntBE width value else writeUIntBE width value

/-- `decodeIntN` and `decodeUIntN`: the value at `offset`, and `offset + width`. -/
def decodeFixed (signed : Bool) (width : Nat) (buffer : Bytes) (offset : Int) :
    Option (Int × Int) :=
  (if signed then readIntBE width buffer offset else readUIntBE width buffer offset).map
    fun value => (value, offset + width)

def encodeInt8 : Int → Option Bytes := encodeFixed true 1
def decodeInt8 : Bytes → Int → Option (Int × Int) := decodeFixed true 1
def encodeInt16 : Int → Option Bytes := encodeFixed true 2
def decodeInt16 : Bytes → Int → Option (Int × Int) := decodeFixed true 2
def encodeInt32 : Int → Option Bytes := encodeFixed true 4
def decodeInt32 : Bytes → Int → Option (Int × Int) := decodeFixed true 4
def encodeInt64 : Int → Option Bytes := encodeFixed true 8
def decodeInt64 : Bytes → Int → Option (Int × Int) := decodeFixed true 8
def encodeUInt8 : Int → Option Bytes := encodeFixed false 1
def decodeUInt8 : Bytes → Int → Option (Int × Int) := decodeFixed false 1
def encodeUInt16 : Int → Option Bytes := encodeFixed false 2
def decodeUInt16 : Bytes → Int → Option (Int × Int) := decodeFixed false 2
def encodeUInt32 : Int → Option Bytes := encodeFixed false 4
def decodeUInt32 : Bytes → Int → Option (Int × Int) := decodeFixed false 4
def encodeUInt64 : Int → Option Bytes := encodeFixed false 8
def decodeUInt64 : Bytes → Int → Option (Int × Int) := decodeFixed false 8

def encodeBoolean (value : Bool) : Option Bytes := encodeInt8 (if value then 1 else 0)

def decodeBoolean (buffer : Bytes) (offset : Int) : Option (Bool × Int) :=
  (readIntBE 1 buffer offset).map fun byte => (byte != 0, offset + 1)

/-! ## Nullable strings and bytes -/

section Text

variable {Text : Type} (utf8 : Utf8 Text)

def encodeString : Option Text → Option Bytes
  | none => some [0xFF, 0xFF]
  | some value => (writeIntBE 2 (utf8.encode value).length).map (· ++ utf8.encode value)

def decodeString (buffer : Bytes) (offset : Int) : Option (Option Text × Int) :=
  (readIntBE 2 buffer offset).map fun length =>
    if length < 0 then (none, offset + 2)
    else (some (utf8.toString buffer (offset + 2) (offset + 2 + length)), offset + 2 + length)

end Text

def encodeBytes : Option Bytes → Option Bytes
  | none => some [0xFF, 0xFF, 0xFF, 0xFF]
  | some value => (writeIntBE 4 value.length).map (· ++ value)

def decodeBytes (buffer : Bytes) (offset : Int) : Option (Option Bytes × Int) :=
  (readIntBE 4 buffer offset).map fun length =>
    if length < 0 then (none, offset + 4)
    else (some (slice buffer (offset + 4) (offset + 4 + length)), offset + 4 + length)

/-! ## Compact lengths -/

theorem shr_seven_lt (len : Int) (hlen : 127 < len) : (jsShr len 7).toNat < len.toNat := by
  rw [jsShr_seven]
  have := toInt32_range len
  unfold toInt32 at *
  omega

/-- The first `while (len > 127)` loop of the compact encoders: the number of bytes of the
length prefix. -/
def varintSize (len : Int) : Nat :=
  if 127 < len then varintSize (jsShr len 7) + 1 else 1
termination_by len.toNat
decreasing_by exact shr_seven_lt len ‹_›

/-- The second `while (len > 127)` loop: the length prefix, low seven-bit groups first, with the
continuation bit on every byte but the last. -/
def varintBytes (len : Int) : Bytes :=
  if 127 < len then toUint8 (jsOr (jsAnd len 0x7F) 0x80) :: varintBytes (jsShr len 7)
  else [toUint8 (jsAnd len 0x7F)]
termination_by len.toNat
decreasing_by exact shr_seven_lt len ‹_›

theorem varintSize_eq_length (len : Int) : varintSize len = (varintBytes len).length := by
  induction len using varintBytes.induct with
  | case1 len hlen ih => rw [varintSize, varintBytes, if_pos hlen, if_pos hlen, ih]; rfl
  | case2 len hlen => rw [varintSize, varintBytes, if_neg hlen, if_neg hlen]; rfl

/-- A compact encoding's buffer: sized by the first loop, then the prefix and the payload
written from the start. -/
def compactPrefixed (encodedLength : Int) (payload : Bytes) : Bytes :=
  fill (varintSize encodedLength + payload.length) (varintBytes encodedLength ++ payload)

theorem compactPrefixed_eq (encodedLength : Int) (payload : Bytes) :
    compactPrefixed encodedLength payload = varintBytes encodedLength ++ payload := by
  rw [compactPrefixed, varintSize_eq_length, ← List.length_append, fill_length]

/-- The `do … while (byteRead & 0x80)` loop of the compact decoders over the bytes from the
cursor on: the accumulated length and the number of bytes read, or `none` when the buffer ends
first. -/
def readVarint : Bytes → Int → Int → Option (Int × Nat)
  | [], _, _ => none
  | byteRead :: rest, length, shift =>
      let length := jsOr length (jsShl (jsAnd byteRead.toNat 0x7F) shift)
      if jsAnd byteRead.toNat 0x80 ≠ 0 then
        (readVarint rest length (shift + 7)).map fun (length, count) => (length, count + 1)
      else some (length, 1)

/-- A compact length at `offset` and the offset after it. -/
def decodeVarint (buffer : Bytes) (offset : Int) : Option (Int × Int) :=
  if 0 ≤ offset then
    (readVarint (buffer.drop offset.toNat) 0 0).map fun (length, count) => (length, offset + count)
  else none

section Text

variable {Text : Type} (utf8 : Utf8 Text)

def encodeCompactString : Option Text → Bytes
  | none => [0x00]
  | some value => compactPrefixed ((utf8.encode value).length + 1) (utf8.encode value)

def decodeCompactString (buffer : Bytes) (offset : Int) : Option (Option Text × Int) :=
  (decodeVarint buffer offset).map fun (length, offset) =>
    if length = 0 then (none, offset)
    else (some (utf8.toString buffer offset (offset + (length - 1))), offset + (length - 1))

end Text

def encodeCompactBytes : Option Bytes → Bytes
  | none => [0x00]
  | some value => compactPrefixed (value.length + 1) value

def decodeCompactBytes (buffer : Bytes) (offset : Int) : Option (Option Bytes × Int) :=
  (decodeVarint buffer offset).map fun (length, offset) =>
    if length = 0 then (none, offset)
    else (some (slice buffer offset (offset + (length - 1))), offset + (length - 1))

/-! ## Arrays -/

section Arrays

variable {α : Type}

def encodeArray (values : Option (List α)) (encodeFunc : α → Option Bytes) : Option Bytes :=
  match values with
  | none => some [0xFF, 0xFF, 0xFF, 0xFF]
  | some values => do
      let encoded ← values.mapM encodeFunc
      let count ← writeIntBE 4 values.length
      pure (count ++ encoded.flatten)

/-- The element loop of the array decoders: `count` calls of `decodeFunc`, threading the
offset. -/
def decodeElements (decodeFunc : Bytes → Int → Option (α × Int)) (buffer : Bytes) :
    Nat → Int → Option (List α × Int)
  | 0, offset => some ([], offset)
  | count + 1, offset => do
      let (value, offset) ← decodeFunc buffer offset
      let (values, offset) ← decodeElements decodeFunc buffer count offset
      pure (value :: values, offset)

def decodeArray (buffer : Bytes) (decodeFunc : Bytes → Int → Option (α × Int)) (offset : Int) :
    Option (Option (List α) × Int) := do
  let length ← readIntBE 4 buffer offset
  if length < 0 then pure (none, offset + 4)
  else
    let (values, offset) ← decodeElements decodeFunc buffer length.toNat (offset + 4)
    pure (some values, offset)

def encodeCompactArray (values : Option (List α)) (encodeFunc : α → Option Bytes) :
    Option Bytes :=
  match values with
  | none => some [0x00]
  | some values => do
      let encoded ← values.mapM encodeFunc
      let encodedLength : Int := values.length + 1
      pure (fill (varintSize encodedLength + (encoded.map List.length).sum)
        (varintBytes encodedLength ++ encoded.flatten))

def decodeCompactArray (buffer : Bytes) (decodeFunc : Bytes → Int → Option (α × Int))
    (offset : Int) : Option (Option (List α) × Int) := do
  let (length, offset) ← decodeVarint buffer offset
  if length = 0 then pure (none, offset)
  else
    let (values, offset) ← decodeElements decodeFunc buffer (length - 1).toNat offset
    pure (some values, offset)

end Arrays

end KafkaClient.BasicTypes
