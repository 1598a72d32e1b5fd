import KafkaClient.Encoder

/-! `Decoder`: the read cursor over `BasicTypes`. Each read runs the `BasicTypes` decoder at the
cursor and moves the cursor to the offset it returns; the array reads loop over an element
reader. Every read is the `BasicTypes` decoder lifted to the cursor. -/

namespace KafkaClient

open BasicTypes

structure Decoder where
  buffer : Bytes
  offset : Int

namespace Decoder

/-- A read through a `BasicTypes` decoder. -/
def read {α : Type} (decode : Bytes → Int → Option (α × Int)) (decoder : Decoder) :
    Option (α × Decoder) :=
  (decode decoder.buffer decoder.offset).map fun (value, offset) => (value, ⟨decoder.buffer, offset⟩)

def readBoolean : Decoder → Option (Bool × Decoder) := read decodeBoolean
def readInt8 : Decoder → Option (Int × Decoder) := read decodeInt8
def readInt16 : Decoder → Option (Int × Decoder) := read decodeInt16
def readInt32 : Decoder → Option (Int × Decoder) := read decodeInt32
def readInt64 : Decoder → Option (Int × Decoder) := read decodeInt64
def readUInt8 : Decoder → Option (Int × Decoder) := read decodeUInt8
def readUInt16 : Decoder → Option (Int × Decoder) := read decodeUInt16
def readUInt32 : Decoder → Option (Int × Decoder) := read decodeUInt32
def readUInt64 : Decoder → Option (Int × Decoder) := read decodeUInt64
def readString {Text : Type} (utf8 : Utf8 Text) : Decoder → Option (Option Text × Decoder) :=
  read (decodeString utf8)
def readCompactString {Text : Type} (utf8 : Utf8 Text) :
    Decoder → Option (Option Text × Decoder) :=
  read (decodeCompactString utf8)
def readBytes : Decoder → Option (Option Bytes × Decoder) := read decodeBytes
def readCompactBytes : Decoder → Option (Option Bytes × Decoder) := read decodeCompactBytes

/-- The `for (let i = 0; i < length; i++)` loop of the array reads. -/
def readElements {α : Type} (readElement : Decoder → Option (α × Decoder)) :
    Nat → Decoder → Option (List α × Decoder)
  | 0, decoder => some ([], decoder)
  | count + 1, decoder => do
      let (value, decoder) ← readElement decoder
      let (values, decoder) ← readElements readElement count decoder
      pure (value :: values, decoder)

def readArray {α : Type} (decoder : Decoder) (readElement : Decoder → Option (α × Decoder)) :
    Option (Option (List α) × Decoder) := do
  let (length, decoder) ← decoder.readInt32
  if length < 0 then pure (none, decoder)
  else
    let (values, decoder) ← readElements readElement length.toNat decoder
    pure (some values, decoder)

/-- The `do … while (byteRead & 0x80)` loop of `readCompactArray`, one `readUInt8` per round.
Every round reads a byte, so a buffer of `n` bytes allows at most `n` rounds before a read fails:
`readCompactArray` passes `n + 1` rounds and the bound is never what stops the loop. -/
def readVarintGroups : Nat → Decoder → Int → Int → Option (Int × Decoder)
  | 0, _, _, _ => none
  | rounds + 1, decoder, length, shift => do
      let (byteRead, next) ← decoder.readUInt8
      let length := jsOr length (jsShl (jsAnd byteRead 0x7F) shift)
      if jsAnd byteRead 0x80 ≠ 0 then readVarintGroups rounds next length (shift + 7)
      else pure (length, next)

def readCompactArray {α : Type} (decoder : Decoder) (readElement : Decoder → Option (α × Decoder)) :
    Option (Option (List α) × Decoder) := do
  let (length, decoder) ← readVarintGroups (decoder.buffer.length + 1) decoder 0 0
  if length = 0 then pure (none, decoder)
  else
    let (values, decoder) ← readElements readElement (length - 1).toNat decoder
    pure (some values, decoder)

/-! ## The cursor reads are the `BasicTypes` decoders -/

theorem readUInt8_eq (decoder : Decoder) :
    decoder.readUInt8 =
      if 0 ≤ decoder.offset then
        match decoder.buffer.drop decoder.offset.toNat with
        | [] => none
        | byte :: _ => some ((byte.toNat : Int), Decoder.mk decoder.buffer (decoder.offset + 1))
      else none := by
  obtain ⟨buffer, offset⟩ := decoder
  simp only [readUInt8, read, decodeUInt8, decodeFixed, Bool.false_eq_true, if_false, readUIntBE]
  by_cases hoffset : 0 ≤ offset
  · rw [if_pos hoffset]
    cases hdrop : buffer.drop offset.toNat with
    | nil =>
        have : buffer.length ≤ offset.toNat := List.drop_eq_nil_iff.1 hdrop
        rw [if_neg (by omega)]; rfl
    | cons byte rest =>
        have hlen := congrArg List.length hdrop
        simp only [List.length_drop, List.length_cons] at hlen
        rw [if_pos ⟨hoffset, by omega⟩]
        simp [hdrop, beValue]
  · rw [if_neg hoffset, if_neg (by omega)]; rfl

theorem some_bind_eq {α β : Type} (value : α) (next : α → Option β) :
    (some value >>= next) = next value := rfl

theorem readVarint_cons (byteRead : UInt8) (rest : Bytes) (length shift : Int) :
    readVarint (byteRead :: rest) length shift =
      if jsAnd byteRead.toNat 0x80 ≠ 0 then
        (readVarint rest (jsOr length (jsShl (jsAnd byteRead.toNat 0x7F) shift)) (shift + 7)).map
          fun (length, count) => (length, count + 1)
      else some (jsOr length (jsShl (jsAnd byteRead.toNat 0x7F) shift), 1) := rfl

theorem readVarintGroups_eq (rounds : Nat) (decoder : Decoder) (length shift : Int)
    (hrounds : decoder.buffer.length - decoder.offset.toNat < rounds) :
    readVarintGroups rounds decoder length shift =
      if 0 ≤ decoder.offset then
        (readVarint (decoder.buffer.drop decoder.offset.toNat) length shift).map
          fun (length, count) => (length, Decoder.mk decoder.buffer (decoder.offset + count))
      else none := by
  induction rounds generalizing decoder length shift with
  | zero => omega
  | succ rounds ih =>
      obtain ⟨buffer, offset⟩ := decoder
      rw [readVarintGroups, readUInt8_eq]
      by_cases hoffset : 0 ≤ offset
      · simp only [if_pos hoffset]
        cases hdrop : buffer.drop offset.toNat with
        | nil => rfl
        | cons byte rest =>
            have hlen := congrArg List.length hdrop
            simp only [List.length_drop, List.length_cons] at hlen
            have hnext : buffer.drop (offset + 1).toNat = rest := by
              rw [show (offset + 1).toNat = offset.toNat + 1 by omega, ← List.drop_drop, hdrop]; rfl
            rw [readVarint_cons]
            dsimp only
            rw [some_bind_eq]
            dsimp only at hrounds ⊢
            by_cases hcontinue : jsAnd (byte.toNat : Int) 0x80 ≠ 0
            · rw [if_pos hcontinue, if_pos hcontinue, ih _ _ _ (by dsimp only; omega),
                if_pos (by dsimp only; omega), hnext, Option.map_map]
              congr 1
              funext ⟨length, count⟩
              simp only [Function.comp_apply, Nat.cast_add, Nat.cast_one]
              congr 2; ring
            · rw [if_neg hcontinue, if_neg hcontinue]
              rfl
      · rw [if_neg hoffset, if_neg hoffset]; rfl

section Arrays

variable {α : Type} (decodeFunc : Bytes → Int → Option (α × Int))

theorem readElements_read (count : Nat) (decoder : Decoder) :
    readElements (read decodeFunc) count decoder =
      read (fun buffer offset => decodeElements decodeFunc buffer count offset) decoder := by
  induction count generalizing decoder with
  | zero => rfl
  | succ count ih =>
      obtain ⟨buffer, offset⟩ := decoder
      simp only [readElements, decodeElements, read]
      cases decodeFunc buffer offset with
      | none => rfl
      | some first =>
          obtain ⟨value, next⟩ := first
          simp only [Option.map_some', some_bind_eq, ih, read]
          cases decodeElements decodeFunc buffer count next <;> rfl

theorem readArray_read (decoder : Decoder) :
    decoder.readArray (read decodeFunc) =
      read (fun buffer offset => decodeArray buffer decodeFunc offset) decoder := by
  obtain ⟨buffer, offset⟩ := decoder
  simp only [readArray, readInt32, read, decodeInt32, decodeFixed, if_true, decodeArray]
  cases readIntBE 4 buffer offset with
  | none => rfl
  | some length =>
      simp only [Option.map_some', some_bind_eq]
      split
      · rfl
      · rw [readElements_read]
        simp only [read]
        cases decodeElements decodeFunc buffer length.toNat (offset + 4) <;> rfl

theorem readCompactArray_read (decoder : Decoder) :
    decoder.readCompactArray (read decodeFunc) =
      read (fun buffer offset => decodeCompactArray buffer decodeFunc offset) decoder := by
  obtain ⟨buffer, offset⟩ := decoder
  rw [readCompactArray, readVarintGroups_eq _ _ _ _ (by dsimp only; omega)]
  simp only [read, decodeCompactArray, decodeVarint]
  split
  · cases readVarint (buffer.drop offset.toNat) 0 0 with
    | none => rfl
    | some first =>
        obtain ⟨length, count⟩ := first
        simp only [Option.map_some', some_bind_eq]
        split
        · rfl
        · rw [readElements_read]
          simp only [read]
          cases decodeElements decodeFunc buffer (length - 1).toNat (offset + count) <;> rfl
  · rfl

end Arrays

end Decoder

end KafkaClient
