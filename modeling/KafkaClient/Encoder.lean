import KafkaClient.RoundTrip

/-! `Encoder`: the write cursor over `BasicTypes`. Each write appends one encoded chunk and adds
its length to `size`; `build` concatenates the chunks. The writes append exactly the
`BasicTypes` encodings, also for arrays written element by element. -/

namespace KafkaClient

open BasicTypes

structure Encoder where
  buffers : List Bytes
  size : Nat
  size_eq : size = buffers.flatten.length

namespace Encoder

def empty : Encoder := ⟨[], 0, rfl⟩

def push (encoder : Encoder) (buffer : Bytes) : Encoder :=
  ⟨encoder.buffers ++ [buffer], encoder.size + buffer.length, by simp [encoder.size_eq]⟩

/-- `Buffer.concat(this.buffers, this.size)`. -/
def build (encoder : Encoder) : Bytes := fill encoder.size encoder.buffers.flatten

@[simp] theorem build_eq (encoder : Encoder) : encoder.build = encoder.buffers.flatten := by
  rw [build, encoder.size_eq, fill_length]

@[simp] theorem build_push (encoder : Encoder) (buffer : Bytes) :
    (encoder.push buffer).build = encoder.build ++ buffer := by
  simp [push]

/-- A write that appends the `BasicTypes` encoding of its argument, and fails where it fails. -/
def Appends {α : Type} (write : Encoder → α → Option Encoder) (encode : α → Option Bytes) : Prop :=
  ∀ encoder value, (write encoder value).map build = (encode value).map (encoder.build ++ ·)

def write {α : Type} (encode : α → Option Bytes) (encoder : Encoder) (value : α) :
    Option Encoder :=
  (encode value).map encoder.push

theorem write_appends {α : Type} (encode : α → Option Bytes) : Appends (write encode) encode := by
  intro encoder value
  cases h : encode value <;> simp only [write, h, Option.map_none', Option.map_some', build_push]

def writeBoolean : Encoder → Bool → Option Encoder := write encodeBoolean
def writeInt8 : Encoder → Int → Option Encoder := write encodeInt8
def writeInt16 : Encoder → Int → Option Encoder := write encodeInt16
def writeInt32 : Encoder → Int → Option Encoder := write encodeInt32
def writeInt64 : Encoder → Int → Option Encoder := write encodeInt64
def writeUInt8 : Encoder → Int → Option Encoder := write encodeUInt8
def writeUInt16 : Encoder → Int → Option Encoder := write encodeUInt16
def writeUInt32 : Encoder → Int → Option Encoder := write encodeUInt32
def writeUInt64 : Encoder → Int → Option Encoder := write encodeUInt64
def writeString {Text : Type} (utf8 : Utf8 Text) : Encoder → Option Text → Option Encoder :=
  write (encodeString utf8)
def writeCompactString {Text : Type} (utf8 : Utf8 Text) : Encoder → Option Text → Option Encoder :=
  write (some ∘ encodeCompactString utf8)
def writeBytes : Encoder → Option Bytes → Option Encoder := write encodeBytes
def writeCompactBytes : Encoder → Option Bytes → Option Encoder := write (some ∘ encodeCompactBytes)

def writeArray {α : Type} (encoder : Encoder) (values : Option (List α))
    (writeElement : Encoder → α → Option Encoder) : Option Encoder :=
  match values with
  | none => encoder.writeInt32 (-1)
  | some values => do
      let encoder ← encoder.writeInt32 values.length
      values.foldlM writeElement encoder

/-- The `while (len > 127)` loop of `writeCompactArray`, one `writeUInt8` per length byte. -/
def writeVarintGroups (encoder : Encoder) (len : Int) : Option Encoder :=
  if 127 < len then do
    let encoder ← encoder.writeUInt8 (jsOr (jsAnd len 0x7F) 0x80)
    writeVarintGroups encoder (jsShr len 7)
  else encoder.writeUInt8 (jsAnd len 0x7F)
termination_by len.toNat
decreasing_by exact shr_seven_lt len ‹_›

def writeCompactArray {α : Type} (encoder : Encoder) (values : Option (List α))
    (writeElement : Encoder → α → Option Encoder) : Option Encoder :=
  match values with
  | none => encoder.writeUInt8 0
  | some values => do
      let encoder ← encoder.writeVarintGroups (values.length + 1)
      values.foldlM writeElement encoder

section Appends

variable {α : Type} {writeElement : Encoder → α → Option Encoder} {encodeFunc : α → Option Bytes}

theorem foldlM_appends (law : Appends writeElement encodeFunc) (values : List α) (encoder : Encoder) :
    (values.foldlM writeElement encoder).map build =
      (values.mapM encodeFunc).map fun encoded => encoder.build ++ encoded.flatten := by
  induction values generalizing encoder with
  | nil => rw [List.foldlM_nil, List.mapM_nil]; simp [pure]
  | cons value values ih =>
      have hstep := law encoder value
      rw [List.foldlM_cons, List.mapM_cons]
      cases hwrite : writeElement encoder value <;> cases hencode : encodeFunc value <;>
        simp only [hwrite, hencode, Option.map_none', Option.map_some', reduceCtorEq,
          Option.some.injEq] at hstep
      · rfl
      · rename_i next bytes
        simp only [Option.bind_eq_bind, Option.some_bind, Option.bind_eq_bind, ih next, hstep]
        cases values.mapM encodeFunc <;> simp

theorem writeInt32_appends : Appends writeInt32 encodeInt32 := write_appends _

theorem writeArray_appends (law : Appends writeElement encodeFunc) :
    Appends (fun encoder values => writeArray encoder values writeElement)
      (fun values => encodeArray values encodeFunc) := by
  rintro encoder (_ | values)
  · exact writeInt32_appends encoder (-1)
  · simp only [writeArray, encodeArray, writeInt32, write, encodeInt32, encodeFixed, if_true]
    cases hcount : writeIntBE 4 values.length
    · cases values.mapM encodeFunc <;> simp
    · simp only [Option.map_some', Option.some_bind, Option.bind_eq_bind, foldlM_appends law,
        build_push]
      cases values.mapM encodeFunc <;> simp

theorem writeUInt8_byte (encoder : Encoder) (byte : Int) (hlow : 0 ≤ byte) (hhigh : byte < 256) :
    encoder.writeUInt8 byte = some (encoder.push [toUint8 byte]) := by
  have hfits : FitsUnsigned 1 byte := ⟨hlow, hhigh⟩
  simp only [writeUInt8, write, encodeUInt8, encodeFixed, Bool.false_eq_true, if_false,
    writeUIntBE, if_pos hfits, Option.map_some', Option.some.injEq]
  congr
  simp only [beBytes, toUint8, List.nil_append, List.cons.injEq, and_true]
  congr 1; omega

theorem jsAnd_low_seven_range (len : Int) : 0 ≤ jsAnd len 0x7F ∧ jsAnd len 0x7F < 128 := by
  have hmask : toUint32 0x7F = 2 ^ 7 - 1 := rfl
  rw [jsAnd, hmask, Nat.and_pow_two_sub_one_eq_mod]
  have hlt : toUint32 len % 2 ^ 7 < 128 := Nat.mod_lt _ (by norm_num)
  rw [toInt32_of_small _ (by omega) (by omega)]
  omega

theorem writeVarintGroups_build (encoder : Encoder) (len : Int) :
    (encoder.writeVarintGroups len).map build = some (encoder.build ++ varintBytes len) := by
  induction len using varintBytes.induct generalizing encoder with
  | case1 len hlen ih =>
      have hrange := jsAnd_low_seven_range len
      rw [writeVarintGroups, varintBytes, if_pos hlen, if_pos hlen,
        jsOr_high_bit _ hrange.1 hrange.2, writeUInt8_byte _ _ (by omega) (by omega)]
      simp only [Option.some_bind, Option.bind_eq_bind, ih, build_push, List.append_assoc,
        List.singleton_append]
  | case2 len hlen =>
      have hrange := jsAnd_low_seven_range len
      rw [writeVarintGroups, varintBytes, if_neg hlen, if_neg hlen,
        writeUInt8_byte _ _ hrange.1 (by omega), Option.map_some', build_push]

theorem encodeCompactArray_some (values : List α) :
    encodeCompactArray (some values) encodeFunc = (values.mapM encodeFunc).map fun encoded =>
      varintBytes (values.length + 1) ++ encoded.flatten := by
  simp only [encodeCompactArray, Option.bind_eq_bind]
  cases values.mapM encodeFunc <;>
    simp [← List.length_flatten, varintSize_eq_length, ← List.length_append, fill_length]

theorem writeCompactArray_appends (law : Appends writeElement encodeFunc) :
    Appends (fun encoder values => writeCompactArray encoder values writeElement)
      (fun values => encodeCompactArray values encodeFunc) := by
  rintro encoder (_ | values)
  · simp only [writeCompactArray, writeUInt8_byte encoder 0 le_rfl (by norm_num), Option.map_some',
      build_push]
    rfl
  · have hgroups := writeVarintGroups_build encoder (values.length + 1)
    cases hwrite : encoder.writeVarintGroups (values.length + 1) with
    | none => simp [hwrite] at hgroups
    | some next =>
        simp only [hwrite, Option.map_some', Option.some.injEq] at hgroups
        simp only [writeCompactArray, hwrite, Option.some_bind, Option.bind_eq_bind,
          foldlM_appends law, hgroups, encodeCompactArray_some]
        cases values.mapM encodeFunc <;> simp

end Appends

end Encoder

end KafkaClient
