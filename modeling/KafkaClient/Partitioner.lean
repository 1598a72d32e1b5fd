import Mathlib.Data.Int.ModEq
import KafkaClient.Buffer

/-! `KafkaProducer.calculatePartition` for a record with a key. The key's string is hashed one
UTF-16 code unit at a time with `hash = ((hash << 5) - hash) + code; hash |= 0`, and the
partition is `Math.abs(hash) % 10`. The shift, the subtraction and `|= 0` compute the polynomial
hash `31 * hash + code` modulo `2 ^ 32`, read as a signed 32-bit integer. -/

namespace KafkaClient.KafkaProducer

/-- One round of the loop: `hash = ((hash << 5) - hash) + keyStr.charCodeAt(i); hash |= 0`. -/
def hashStep (hash : Int) (charCode : Nat) : Int :=
  jsOr (jsShl hash 5 - hash + charCode) 0

/-- The loop over the code units of `String(record.key)`, from `hash = 0`. -/
def keyHash (charCodes : List Nat) : Int :=
  charCodes.foldl hashStep 0

/-- `calculatePartition` of a record whose key is not `undefined` or `null`, given by the code
units of `String(record.key)`. -/
def calculatePartition (charCodes : List Nat) : Nat :=
  (keyHash charCodes).natAbs % 10

/-- The polynomial hash `Σ code i * 31 ^ (n - 1 - i)`, computed without wrapping. -/
def polynomialHash (charCodes : List Nat) : Int :=
  charCodes.foldl (fun (hash : Int) (charCode : Nat) => 31 * hash + charCode) 0

theorem toInt32_modEq (x : Int) : toInt32 x ≡ x [ZMOD 2 ^ 32] := by
  unfold toInt32 Int.ModEq; omega

theorem toUint32_modEq (x : Int) : (toUint32 x : Int) ≡ x [ZMOD 2 ^ 32] := by
  unfold toUint32 Int.ModEq; omega

theorem toInt32_congr {a b : Int} (same : a ≡ b [ZMOD 2 ^ 32]) : toInt32 a = toInt32 b := by
  unfold toInt32; unfold Int.ModEq at same; omega

/-- `x << 5` is `32 * x` modulo `2 ^ 32`. -/
theorem jsShl_five_modEq (x : Int) : jsShl x 5 ≡ 32 * x [ZMOD 2 ^ 32] := by
  have five : toUint32 5 % 32 = 5 := by simp [toUint32]
  calc jsShl x 5 ≡ toUint32 x * 2 ^ 5 [ZMOD 2 ^ 32] := by
        rw [jsShl, five, Nat.cast_mul, Nat.cast_pow, Nat.cast_ofNat]
        exact toInt32_modEq _
    _ ≡ x * 2 ^ 5 [ZMOD 2 ^ 32] := (toUint32_modEq x).mul_right _
    _ = 32 * x := by ring

/-- A round of the loop on a wrapped hash is the wrapped polynomial round. -/
theorem hashStep_toInt32 (hash : Int) (charCode : Nat) :
    hashStep (toInt32 hash) charCode = toInt32 (31 * hash + charCode) := by
  have zero : toUint32 0 = 0 := by simp [toUint32]
  rw [hashStep, jsOr, zero, Nat.or_zero]
  apply toInt32_congr
  calc (toUint32 (jsShl (toInt32 hash) 5 - toInt32 hash + charCode) : Int)
      ≡ jsShl (toInt32 hash) 5 - toInt32 hash + charCode [ZMOD 2 ^ 32] := toUint32_modEq _
    _ ≡ 32 * hash - hash + charCode [ZMOD 2 ^ 32] :=
        (((jsShl_five_modEq _).trans ((toInt32_modEq hash).mul_left 32)).sub
          (toInt32_modEq hash)).add_right _
    _ = 31 * hash + charCode := by ring

theorem foldl_hashStep (charCodes : List Nat) (hash : Int) :
    charCodes.foldl hashStep (toInt32 hash) =
      toInt32 (charCodes.foldl (fun (hash : Int) (charCode : Nat) => 31 * hash + charCode) hash) := by
  induction charCodes generalizing hash with
  | nil => rfl
  | cons charCode charCodes ih => rw [List.foldl_cons, hashStep_toInt32, ih, List.foldl_cons]

/-- For every key, the loop computes the polynomial hash `31 * hash + code` (the hash of Java's
`String.hashCode`) modulo `2 ^ 32`, read as a signed 32-bit integer, so the hash stays within
32 bits however long the key is, and the partition is that integer's absolute value modulo 10. -/
theorem keyHash_eq_polynomialHash (charCodes : List Nat) :
    keyHash charCodes = toInt32 (polynomialHash charCodes) ∧
    -2 ^ 31 ≤ keyHash charCodes ∧ keyHash charCodes < 2 ^ 31 ∧
    calculatePartition charCodes = (toInt32 (polynomialHash charCodes)).natAbs % 10 := by
  have zero : toInt32 0 = 0 := by simp [toInt32]
  have hash : keyHash charCodes = toInt32 (polynomialHash charCodes) := by
    rw [keyHash, ← zero, foldl_hashStep, polynomialHash]
  rw [calculatePartition, hash]
  exact ⟨rfl, (toInt32_range _).1, (toInt32_range _).2, rfl⟩

set_option maxRecDepth 4000 in
/-- `"polygenelubricants"` hashes to `-2 ^ 31`, whose absolute value `Math.abs` still gives
exactly, in a double: partition 8. -/
example : keyHash [112, 111, 108, 121, 103, 101, 110, 101, 108, 117, 98, 114, 105, 99, 97, 110,
    116, 115] = -2 ^ 31 ∧ calculatePartition [112, 111, 108, 121, 103, 101, 110, 101, 108, 117,
    98, 114, 105, 99, 97, 110, 116, 115] = 8 := by decide

end KafkaClient.KafkaProducer
