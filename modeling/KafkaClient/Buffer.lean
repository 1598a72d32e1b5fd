import Mathlib.Data.List.Basic
import Mathlib.Data.Nat.Bitwise
import Mathlib.Tactic.Ring
import Mathlib.Tactic.Positivity

/-! Node `Buffer` primitives over byte lists: big-endian fixed-width reads and writes,
`slice`/`toString` with their index clamping, and the 32-bit integer operators of
JavaScript that the compact-length loops use. -/

namespace KafkaClient

abbrev Bytes := List UInt8

/-! ## Big-endian integers -/

def beBytes : Nat → Nat → Bytes
  | 0, _ => []
  | width + 1, value => beBytes width (value / 256) ++ [UInt8.ofNat (value % 256)]

def beValue (bytes : Bytes) : Nat :=
  bytes.foldl (fun acc byte => acc * 256 + byte.toNat) 0

@[simp] theorem length_beBytes (width value : Nat) : (beBytes width value).length = width := by
  induction width generalizing value with
  | zero => rfl
  | succ width ih => simp [beBytes, ih]

theorem byte_toNat_ofNat (n : Nat) : (UInt8.ofNat n).toNat = n % 256 := rfl

theorem beValue_append_byte (bytes : Bytes) (byte : UInt8) :
    beValue (bytes ++ [byte]) = beValue bytes * 256 + byte.toNat := by
  simp [beValue, List.foldl_append]

theorem beValue_beBytes (width value : Nat) :
    beValue (beBytes width value) = value % 256 ^ width := by
  induction width generalizing value with
  | zero => simp [beBytes, beValue, Nat.mod_one]
  | succ width ih =>
      rw [beBytes, beValue_append_byte, ih, byte_toNat_ofNat, pow_succ', Nat.mod_mul,
        Nat.mod_mod]
      ring

def FitsUnsigned (width : Nat) (value : Int) : Prop :=
  0 ≤ value ∧ value < 2 ^ (8 * width)

def FitsSigned (width : Nat) (value : Int) : Prop :=
  -2 ^ (8 * width - 1) ≤ value ∧ value < 2 ^ (8 * width - 1)

instance (width : Nat) (value : Int) : Decidable (FitsUnsigned width value) :=
  inferInstanceAs (Decidable (_ ∧ _))

instance (width : Nat) (value : Int) : Decidable (FitsSigned width value) :=
  inferInstanceAs (Decidable (_ ∧ _))

/-- `buf.writeUIntBE(value, 0, width)`: a `RangeError` outside `[0, 2^(8·width))`. -/
def writeUIntBE (width : Nat) (value : Int) : Option Bytes :=
  if FitsUnsigned width value then some (beBytes width value.toNat) else none

/-- `buf.writeIntBE(value, 0, width)`: two's complement, a `RangeError` outside the signed
range. -/
def writeIntBE (width : Nat) (value : Int) : Option Bytes :=
  if FitsSigned width value then some (beBytes width (value % 2 ^ (8 * width)).toNat) else none

/-- `buf.readUIntBE(offset, width)`: a `RangeError` unless the `width` bytes at `offset` lie
inside the buffer. -/
def readUIntBE (width : Nat) (buf : Bytes) (offset : Int) : Option Int :=
  if 0 ≤ offset ∧ offset + width ≤ buf.length then
    some (beValue ((buf.drop offset.toNat).take width) : Int)
  else none

/-- Reinterpret an unsigned `width`-byte value as two's complement. -/
def toSigned (width : Nat) (unsigned : Int) : Int :=
  if unsigned < 2 ^ (8 * width - 1) then unsigned else unsigned - 2 ^ (8 * width)

def readIntBE (width : Nat) (buf : Bytes) (offset : Int) : Option Int :=
  (readUIntBE width buf offset).map (toSigned width)

theorem two_pow_eight_mul (width : Nat) : (256 : Nat) ^ width = 2 ^ (8 * width) := by
  rw [pow_mul]; norm_num

theorem toSigned_emod (width : Nat) (value : Int) (hwidth : 0 < width)
    (hlow : -2 ^ (8 * width - 1) ≤ value) (hhigh : value < 2 ^ (8 * width - 1)) :
    toSigned width (value % 2 ^ (8 * width)) = value := by
  have hhalf : (2 : Int) ^ (8 * width) = 2 * 2 ^ (8 * width - 1) := by
    rw [← pow_succ']; congr 1; omega
  have hpos : (0 : Int) < 2 ^ (8 * width - 1) := by positivity
  unfold toSigned
  rw [hhalf] at *
  generalize (2 : Int) ^ (8 * width - 1) = half at *
  by_cases hsign : 0 ≤ value
  · rw [Int.emod_eq_of_lt hsign (by omega), if_pos hhigh]
  · have hwrap : value % (2 * half) = value + 2 * half := by
      rw [← Int.add_emod_self]; exact Int.emod_eq_of_lt (by omega) (by omega)
    rw [hwrap, if_neg (by omega)]
    omega

theorem readUIntBE_frame (width : Nat) (p bytes q : Bytes) (hlen : bytes.length = width) :
    readUIntBE width (p ++ bytes ++ q) p.length = some ((beValue bytes : Nat) : Int) := by
  have hdrop : (p ++ bytes ++ q).drop p.length = bytes ++ q := by
    rw [List.append_assoc, List.drop_left]
  simp only [readUIntBE, List.length_append, Int.toNat_natCast, hdrop, List.take_left' hlen]
  rw [if_pos (by omega)]

theorem readUIntBE_writeUIntBE (width : Nat) (value : Int) (p q : Bytes) (bytes : Bytes)
    (hwrite : writeUIntBE width value = some bytes) :
    readUIntBE width (p ++ bytes ++ q) p.length = some value := by
  unfold writeUIntBE at hwrite
  split at hwrite
  · next hrange =>
      cases hwrite
      have hlt : value.toNat < 256 ^ width :=
        (Int.toNat_lt hrange.1).2 (by rw [two_pow_eight_mul]; exact_mod_cast hrange.2)
      rw [readUIntBE_frame width p _ q (length_beBytes _ _), beValue_beBytes, Nat.mod_eq_of_lt hlt,
        Int.toNat_of_nonneg hrange.1]
  · cases hwrite

theorem readIntBE_writeIntBE (width : Nat) (value : Int) (p q : Bytes) (bytes : Bytes)
    (hwidth : 0 < width) (hwrite : writeIntBE width value = some bytes) :
    readIntBE width (p ++ bytes ++ q) p.length = some value := by
  unfold writeIntBE at hwrite
  split at hwrite
  · next hrange =>
      cases hwrite
      have hnonneg : 0 ≤ value % 2 ^ (8 * width) := Int.emod_nonneg _ (by positivity)
      have hlt : (value % 2 ^ (8 * width)).toNat < 256 ^ width :=
        (Int.toNat_lt hnonneg).2 (by rw [two_pow_eight_mul]; exact_mod_cast Int.emod_lt_of_pos _ (by positivity))
      rw [readIntBE, readUIntBE_frame width p _ q (length_beBytes _ _), beValue_beBytes,
        Nat.mod_eq_of_lt hlt, Int.toNat_of_nonneg hnonneg, Option.map_some',
        toSigned_emod width value hwidth hrange.1 hrange.2]
  · cases hwrite

theorem readIntBE_inside {width : Nat} {buf : Bytes} {offset value : Int}
    (read : readIntBE width buf offset = some value) : 0 ≤ offset ∧ offset + width ≤ buf.length := by
  by_contra outside
  simp [readIntBE, readUIntBE, outside] at read

/-! ## Slices and text -/

/-- A `slice` bound: a negative index counts from the end, then it is clamped to the buffer. -/
def sliceIndex (length : Nat) (index : Int) : Nat :=
  if index < 0 then (length + index).toNat else min index.toNat length

/-- `buf.slice(start, stop)`, empty when the bounds cross. -/
def slice (buf : Bytes) (start stop : Int) : Bytes :=
  (buf.take (sliceIndex buf.length stop)).drop (sliceIndex buf.length start)

/-- `Buffer.alloc(size)` followed by writing `written` from index 0: writes past the end are
dropped and bytes never written stay zero. -/
def fill (size : Nat) (written : Bytes) : Bytes :=
  (written ++ List.replicate size 0).take size

theorem fill_length (written : Bytes) : fill written.length written = written := by
  simp [fill]

/-- The platform's UTF-8 conversions: `Buffer.byteLength` and `buffer.write` encode text,
`buffer.toString('utf8', …)` decodes bytes, and well-formed text decodes back to itself. -/
structure Utf8 (Text : Type) where
  encode : Text → Bytes
  decode : Bytes → Text
  decode_encode : ∀ text, decode (encode text) = text

/-- Text given as its UTF-8 bytes, for runs on concrete inputs. -/
def Utf8.raw : Utf8 Bytes := ⟨id, id, fun _ => rfl⟩

/-- `buf.toString('utf8', start, stop)`: `start` clamped at 0, `stop` at the length, and the
empty text when `stop ≤ start`. -/
def Utf8.toString {Text : Type} (utf8 : Utf8 Text) (buf : Bytes) (start stop : Int) : Text :=
  utf8.decode ((buf.take stop.toNat).drop start.toNat)

theorem take_frame (p bytes q : Bytes) :
    (p ++ bytes ++ q).take (p.length + bytes.length) = p ++ bytes :=
  List.take_left' (by simp)

theorem Utf8.toString_frame {Text : Type} (utf8 : Utf8 Text) (p bytes q : Bytes) (start : Int)
    (hstart : start = p.length) :
    utf8.toString (p ++ bytes ++ q) start (start + bytes.length) = utf8.decode bytes := by
  subst hstart
  simp only [Utf8.toString, ← Int.natCast_add, Int.toNat_natCast, take_frame, List.drop_left]

theorem slice_frame (p bytes q : Bytes) (start : Int) (hstart : start = p.length) :
    slice (p ++ bytes ++ q) start (start + bytes.length) = bytes := by
  subst hstart
  simp only [slice, sliceIndex, List.length_append]
  rw [if_neg (by omega), if_neg (by omega), ← Int.natCast_add, Int.toNat_natCast, Int.toNat_natCast,
    Nat.min_eq_left (by omega), Nat.min_eq_left (by omega), take_frame, List.drop_left]

/-! ## Writes at an offset -/

/-- `bytes` written over the buffer from `offset`: a `RangeError` unless they lie inside it. -/
def writeAt (buf : Bytes) (offset : Int) (bytes : Bytes) : Option Bytes :=
  if 0 ≤ offset ∧ offset + bytes.length ≤ buf.length then
    some (buf.take offset.toNat ++ bytes ++ buf.drop (offset.toNat + bytes.length))
  else none

/-- `buf.writeIntBE(value, offset, width)`, as `writeInt16BE` and `writeInt32BE` write it. -/
def writeIntBEAt (width : Nat) (buf : Bytes) (value offset : Int) : Option Bytes :=
  (writeIntBE width value).bind (writeAt buf offset)

/-- `buf.writeUIntBE(value, offset, width)`, as `writeUInt8` writes it. -/
def writeUIntBEAt (width : Nat) (buf : Bytes) (value offset : Int) : Option Bytes :=
  (writeUIntBE width value).bind (writeAt buf offset)

/-- `buf.write(string, offset)` of the string's UTF-8 bytes: a `RangeError` for an offset outside
the buffer, and the bytes that do not fit are dropped. (Node drops a character that would fit only
in part whole; the encoders modeled here always leave room.) -/
def writeTextAt (buf : Bytes) (offset : Int) (bytes : Bytes) : Option Bytes :=
  if offset ≤ buf.length then writeAt buf offset (bytes.take (buf.length - offset.toNat)) else none

theorem length_of_writeIntBE {width : Nat} {value : Int} {bytes : Bytes}
    (written : writeIntBE width value = some bytes) : bytes.length = width := by
  unfold writeIntBE at written
  split at written <;> cases written
  exact length_beBytes _ _

theorem writeAt_frame (p old bytes q : Bytes) (hlen : old.length = bytes.length) :
    writeAt (p ++ old ++ q) p.length bytes = some (p ++ bytes ++ q) := by
  have kept : (p ++ old ++ q).take p.length = p := by rw [List.append_assoc, List.take_left]
  have rest : (p ++ old ++ q).drop (p.length + bytes.length) = q := by
    rw [List.append_assoc, List.drop_append, ← hlen, List.drop_left]
  rw [writeAt, if_pos (by simp; omega), Int.toNat_natCast, kept, rest]

/-- A write into the zeros that `Buffer.alloc` left after the bytes written so far. -/
theorem writeAt_alloc (written bytes : Bytes) (rest : Nat) (fits : bytes.length ≤ rest) :
    writeAt (written ++ List.replicate rest 0) written.length bytes =
      some (written ++ bytes ++ List.replicate (rest - bytes.length) 0) := by
  have split : List.replicate rest (0 : UInt8) =
      List.replicate bytes.length 0 ++ List.replicate (rest - bytes.length) 0 := by
    rw [← List.replicate_add, Nat.add_sub_cancel' fits]
  rw [split, ← List.append_assoc, writeAt_frame _ _ _ _ (List.length_replicate _ _)]

theorem writeIntBEAt_alloc (written : Bytes) (rest : Nat) {width : Nat} {value : Int}
    {bytes : Bytes} (encoded : writeIntBE width value = some bytes) (fits : width ≤ rest) :
    writeIntBEAt width (written ++ List.replicate rest 0) value written.length =
      some (written ++ bytes ++ List.replicate (rest - width) 0) := by
  have sized := length_of_writeIntBE encoded
  rw [writeIntBEAt, encoded, Option.some_bind, writeAt_alloc _ _ _ (sized ▸ fits), sized]

theorem writeTextAt_alloc (written bytes : Bytes) (rest : Nat) (fits : bytes.length ≤ rest) :
    writeTextAt (written ++ List.replicate rest 0) written.length bytes =
      some (written ++ bytes ++ List.replicate (rest - bytes.length) 0) := by
  have kept : bytes.take ((written ++ List.replicate rest 0).length - written.length) = bytes := by
    simp [fits]
  rw [writeTextAt, if_pos (by simp), Int.toNat_natCast, kept, writeAt_alloc _ _ _ fits]

/-! ## JavaScript 32-bit operators -/

/-- `ToInt32` of an integral number. -/
def toInt32 (x : Int) : Int := (x + 2 ^ 31) % 2 ^ 32 - 2 ^ 31

/-- `ToUint32` of an integral number. -/
def toUint32 (x : Int) : Nat := (x % 2 ^ 32).toNat

def jsAnd (x y : Int) : Int := toInt32 (toUint32 x &&& toUint32 y : Nat)

def jsOr (x y : Int) : Int := toInt32 (toUint32 x ||| toUint32 y : Nat)

def jsShl (x n : Int) : Int := toInt32 (toUint32 x * 2 ^ (toUint32 n % 32) : Nat)

def jsShr (x n : Int) : Int := toInt32 x / 2 ^ (toUint32 n % 32)

/-- `buf[i] = x` stores `x` modulo 256. -/
def toUint8 (x : Int) : UInt8 := UInt8.ofNat (x % 256).toNat

theorem toInt32_of_small (x : Int) (hlow : 0 ≤ x) (hhigh : x < 2 ^ 31) : toInt32 x = x := by
  unfold toInt32; omega

theorem toUint32_of_small (x : Int) (hlow : 0 ≤ x) (hhigh : x < 2 ^ 32) : toUint32 x = x.toNat := by
  unfold toUint32; rw [Int.emod_eq_of_lt hlow hhigh]

theorem toInt32_range (x : Int) : -2 ^ 31 ≤ toInt32 x ∧ toInt32 x < 2 ^ 31 := by
  unfold toInt32; omega

theorem jsShr_seven (x : Int) : jsShr x 7 = toInt32 x / 128 := rfl

theorem jsAnd_low_seven (x : Int) (hlow : 0 ≤ x) (hhigh : x < 2 ^ 31) : jsAnd x 0x7F = x % 128 := by
  have hmask : toUint32 0x7F = 2 ^ 7 - 1 := rfl
  rw [jsAnd, hmask, Nat.and_pow_two_sub_one_eq_mod, toUint32_of_small x hlow (by omega)]
  rw [toInt32_of_small _ (by omega) (by omega)]
  omega

theorem jsOr_high_bit (x : Int) (hlow : 0 ≤ x) (hhigh : x < 128) : jsOr x 0x80 = x + 128 := by
  have hmask : toUint32 0x80 = 2 ^ 7 * 1 := rfl
  rw [jsOr, hmask, toUint32_of_small x hlow (by omega), Nat.lor_comm,
    ← Nat.mul_add_lt_is_or (by omega)]
  rw [toInt32_of_small _ (by omega) (by omega)]
  omega

end KafkaClient
