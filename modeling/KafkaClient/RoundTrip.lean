import KafkaClient.BasicTypes

/-! Round trips of the `BasicTypes` codecs: decoding an encoding inside any surrounding bytes,
at its offset, gives the value back and the offset just past it. -/

namespace KafkaClient.BasicTypes

/-- The round-trip law of a codec on the values satisfying `valid`. -/
def RoundTrips {α : Type} (valid : α → Prop) (encode : α → Option Bytes)
    (decode : Bytes → Int → Option (α × Int)) : Prop :=
  ∀ value, valid value → ∃ bytes, encode value = some bytes ∧
    ∀ p q : Bytes, decode (p ++ bytes ++ q) p.length =
      some (value, (p.length : Int) + bytes.length)

/-- A nullable value whose encoded size is at most `bound`; `null` always qualifies. -/
def NullableWithin {β : Type} (size : β → Nat) (bound : Nat) : Option β → Prop
  | none => True
  | some value => size value ≤ bound

theorem append_frame (p bytes rest q : Bytes) :
    p ++ (bytes ++ rest) ++ q = p ++ bytes ++ (rest ++ q) := by
  simp

/-! ## Fixed width -/

theorem readIntBE_frame (width : Nat) (p bytes q : Bytes) (hlen : bytes.length = width) :
    readIntBE width (p ++ bytes ++ q) p.length = some (toSigned width (beValue bytes)) := by
  rw [readIntBE, readUIntBE_frame width p bytes q hlen]; rfl

theorem signed_round_trip (width : Nat) (hwidth : 0 < width) :
    RoundTrips (FitsSigned width) (encodeFixed true width) (decodeFixed true width) := by
  intro value hfits
  refine ⟨beBytes width (value % 2 ^ (8 * width)).toNat, if_pos hfits, fun p q => ?_⟩
  have hread := readIntBE_writeIntBE width value p q _ hwidth (if_pos hfits)
  simp only [decodeFixed, if_true, hread, Option.map_some', length_beBytes]

theorem unsigned_round_trip (width : Nat) :
    RoundTrips (FitsUnsigned width) (encodeFixed false width) (decodeFixed false width) := by
  intro value hfits
  refine ⟨beBytes width value.toNat, if_pos hfits, fun p q => ?_⟩
  have hread := readUIntBE_writeUIntBE width value p q _ (if_pos hfits)
  simp only [decodeFixed, Bool.false_eq_true, if_false, hread, Option.map_some', length_beBytes]

theorem boolean_round_trip : RoundTrips (fun _ => True) encodeBoolean decodeBoolean := by
  rintro (_ | _) _
  · refine ⟨[0], rfl, fun p q => ?_⟩
    rw [decodeBoolean, readIntBE_frame 1 p [0] q rfl]; rfl
  · refine ⟨[1], rfl, fun p q => ?_⟩
    rw [decodeBoolean, readIntBE_frame 1 p [1] q rfl]; rfl

/-! ## Strings and bytes -/

section Text

variable {Text : Type} (utf8 : Utf8 Text)

theorem string_round_trip :
    RoundTrips (NullableWithin (fun text => (utf8.encode text).length) 32767)
      (encodeString utf8) (decodeString utf8) := by
  rintro (_ | text) hbound
  · refine ⟨_, rfl, fun p q => ?_⟩
    simp only [decodeString, readIntBE_frame 2 p [0xFF, 0xFF] q rfl]
    rfl
  · have hfits : FitsSigned 2 (utf8.encode text).length := by
      unfold FitsSigned; simp only [NullableWithin] at hbound; norm_num; omega
    refine ⟨_, by rw [encodeString, writeIntBE, if_pos hfits]; rfl, fun p q => ?_⟩
    have hread := readIntBE_writeIntBE 2 _ p (utf8.encode text ++ q) _ (by decide) (if_pos hfits)
    rw [← List.append_assoc] at hread
    simp only [decodeString, append_frame, ← List.append_assoc, hread, Option.map_some',
      Option.some.injEq, Prod.mk.injEq]
    rw [if_neg (by omega), Utf8.toString_frame utf8 _ _ q _ (by simp), utf8.decode_encode]
    simp only [List.length_append, length_beBytes, Nat.cast_add]
    push_cast; ring_nf

end Text

theorem bytes_round_trip :
    RoundTrips (NullableWithin List.length (2 ^ 31 - 1)) encodeBytes decodeBytes := by
  rintro (_ | value) hbound
  · refine ⟨_, rfl, fun p q => ?_⟩
    simp only [decodeBytes, readIntBE_frame 4 p [0xFF, 0xFF, 0xFF, 0xFF] q rfl]
    rfl
  · have hfits : FitsSigned 4 value.length := by
      simp only [NullableWithin] at hbound; constructor <;> norm_num <;> omega
    refine ⟨_, by rw [encodeBytes, writeIntBE, if_pos hfits]; rfl, fun p q => ?_⟩
    have hread := readIntBE_writeIntBE 4 _ p (value ++ q) _ (by decide) (if_pos hfits)
    rw [← List.append_assoc] at hread
    simp only [decodeBytes, append_frame, ← List.append_assoc, hread, Option.map_some',
      Option.some.injEq, Prod.mk.injEq]
    rw [if_neg (by omega), slice_frame _ _ q _ (by simp)]
    simp only [List.length_append, length_beBytes, Nat.cast_add]
    push_cast; ring_nf

/-! ## Compact lengths -/

theorem byte_and_high_bit (byte : Nat) (hbyte : byte < 256) :
    jsAnd byte 0x80 = if byte < 128 then 0 else 128 := by
  have hmask : toUint32 0x80 = 2 ^ 7 := rfl
  have hbit : byte.testBit 7 = decide (128 ≤ byte) := by
    rw [Nat.testBit_to_div_mod]; congr 1; apply propext; omega
  rw [jsAnd, hmask, toUint32_of_small _ (by omega) (by omega), Int.toNat_natCast, Nat.land_comm,
    Nat.two_pow_and, hbit]
  by_cases hlow : byte < 128
  · rw [if_pos hlow, decide_eq_false (by omega)]; rfl
  · rw [if_neg hlow, decide_eq_true (by omega)]; rfl

theorem toUint8_natCast (n : Nat) (hn : n < 256) : toUint8 n = UInt8.ofNat n := by
  unfold toUint8; congr; omega

theorem toUint32_natCast (n : Nat) (hn : n < 2 ^ 32) : toUint32 n = n := by
  rw [toUint32_of_small _ (by omega) (by omega), Int.toNat_natCast]

theorem varintBytes_small (v : Nat) (hv : v < 2 ^ 31) :
    varintBytes v = if 127 < v then UInt8.ofNat (v % 128 + 128) :: varintBytes (v / 128 : Nat)
      else [UInt8.ofNat v] := by
  rw [varintBytes, jsAnd_low_seven _ (by omega) (by omega)]
  by_cases hbig : 127 < v
  · rw [if_pos (by omega), if_pos hbig, jsOr_high_bit _ (by omega) (by omega), jsShr_seven,
      toInt32_of_small _ (by omega) (by omega), ← toUint8_natCast _ (by omega)]
    push_cast; rfl
  · rw [if_neg (by omega), if_neg hbig, ← toUint8_natCast _ (by omega)]
    congr 2; omega

theorem jsOr_shl_disjoint (acc chunk shift : Nat) (hacc : acc < 2 ^ shift)
    (hfit : acc + chunk * 2 ^ shift < 2 ^ 31) (hshift : shift < 32) :
    jsOr acc (jsShl chunk shift) = ((acc + chunk * 2 ^ shift : Nat) : Int) := by
  have hle : chunk ≤ chunk * 2 ^ shift := Nat.le_mul_of_pos_right _ Nat.one_le_two_pow
  have hor : acc ||| chunk * 2 ^ shift = acc + chunk * 2 ^ shift := by
    rw [Nat.lor_comm, Nat.mul_comm, ← Nat.mul_add_lt_is_or hacc]; ring
  have hshl : jsShl chunk shift = ((chunk * 2 ^ shift : Nat) : Int) := by
    rw [jsShl, toUint32_natCast chunk (by omega), toUint32_natCast shift (by omega),
      Nat.mod_eq_of_lt hshift, toInt32_of_small _ (by omega) (by omega)]
  rw [hshl, jsOr, toUint32_natCast _ (by omega), toUint32_natCast _ (by omega), hor,
    toInt32_of_small _ (by omega) (by omega)]

theorem low_chunk_split (v t : Nat) : v % 128 * t + v / 128 * (128 * t) = v * t := by
  calc v % 128 * t + v / 128 * (128 * t) = (v % 128 + 128 * (v / 128)) * t := by ring
    _ = v * t := by rw [Nat.mod_add_div]

theorem continuation_set (byte : Nat) (hlow : 128 ≤ byte) (hhigh : byte < 256) :
    jsAnd byte 0x80 ≠ 0 := by
  rw [byte_and_high_bit _ hhigh, if_neg (by omega)]; decide

theorem continuation_clear (byte : Nat) (hbyte : byte < 128) : jsAnd byte 0x80 = 0 := by
  rw [byte_and_high_bit _ (by omega), if_pos hbyte]

theorem jsAnd_byte_low (byte : Nat) (hbyte : byte < 256) :
    jsAnd byte 0x7F = ((byte % 128 : Nat) : Int) := by
  rw [jsAnd_low_seven _ (by omega) (by omega)]; omega

theorem readVarint_varintBytes (rest : Bytes) (v : Nat) :
    ∀ (shift acc : Nat), 1 ≤ v → acc < 2 ^ shift → acc + v * 2 ^ shift < 2 ^ 31 →
      readVarint (varintBytes v ++ rest) acc shift =
        some (((acc + v * 2 ^ shift : Nat) : Int), (varintBytes v).length) := by
  induction v using Nat.strong_induction_on with
  | _ v ih =>
    intro shift acc hv hacc hfit
    have hvt : v ≤ v * 2 ^ shift := Nat.le_mul_of_pos_right _ Nat.one_le_two_pow
    have htv : 2 ^ shift ≤ v * 2 ^ shift := Nat.le_mul_of_pos_left _ hv
    have hshift : shift < 31 := (Nat.pow_lt_pow_iff_right (by norm_num : 1 < 2)).1 (by omega)
    rw [varintBytes_small v (by omega)]
    by_cases hbig : 127 < v
    · rw [if_pos hbig]
      have hlowt : v % 128 * 2 ^ shift ≤ 127 * 2 ^ shift :=
        Nat.mul_le_mul_right _ (by omega)
      have hsplit := low_chunk_split v (2 ^ shift)
      have hpow7 : 2 ^ (shift + 7) = 128 * 2 ^ shift := by rw [pow_add]; ring
      have hnext := ih (v / 128) (by omega) (shift + 7) (acc + v % 128 * 2 ^ shift) (by omega)
        (by omega) (by rw [hpow7]; omega)
      rw [hpow7] at hnext
      have hbyte : (UInt8.ofNat (v % 128 + 128)).toNat = v % 128 + 128 := by
        rw [byte_toNat_ofNat]; omega
      have hchunk : (v % 128 + 128) % 128 = v % 128 := by omega
      simp only [List.cons_append, readVarint, hbyte, jsAnd_byte_low _ (by omega : v % 128 + 128 < 256),
        hchunk, jsOr_shl_disjoint acc (v % 128) shift hacc (by omega) (by omega),
        if_pos (continuation_set (v % 128 + 128) (by omega) (by omega)),
        show ((shift : Int) + 7) = ((shift + 7 : Nat) : Int) by push_cast; rfl, hnext,
        List.append_eq]
      simp only [Option.map_some', List.length_cons, Option.some.injEq, Prod.mk.injEq, and_true]
      omega
    · rw [if_neg hbig]
      have hbyte : (UInt8.ofNat v).toNat = v := by rw [byte_toNat_ofNat]; omega
      simp only [List.singleton_append, readVarint, hbyte, jsAnd_byte_low v (by omega),
        Nat.mod_eq_of_lt (by omega : v < 128), jsOr_shl_disjoint _ _ _ hacc hfit (by omega),
        continuation_clear v (by omega), ne_eq, not_true_eq_false, if_false, List.length_singleton]

theorem decodeVarint_frame (p q : Bytes) (v : Nat) (hv : 1 ≤ v) (hfit : v < 2 ^ 31) :
    decodeVarint (p ++ varintBytes v ++ q) p.length =
      some ((v : Int), (p.length : Int) + (varintBytes v).length) := by
  have hread := readVarint_varintBytes q v 0 0 hv (by norm_num) (by simpa using hfit)
  simp only [zero_add, pow_zero, mul_one, Nat.cast_zero] at hread
  simp only [decodeVarint, Nat.cast_nonneg, if_true, Int.toNat_natCast, List.append_assoc,
    List.drop_left, Nat.cast_zero, hread, Option.map_some']

theorem decodeVarint_null (p q : Bytes) :
    decodeVarint (p ++ [0x00] ++ q) p.length = some (0, (p.length : Int) + 1) := by
  simp only [decodeVarint, Nat.cast_nonneg, if_true, Int.toNat_natCast, List.append_assoc,
    List.drop_left, List.singleton_append]
  rfl

/-- A compact length prefix followed by a payload: the prefix decodes to its count. -/
theorem decodeVarint_prefixed (p payload q : Bytes) (count : Nat) (hcount : 1 ≤ count)
    (hfit : count < 2 ^ 31) :
    decodeVarint (p ++ compactPrefixed count payload ++ q) p.length =
      some ((count : Int), (p.length : Int) + (varintBytes count).length) := by
  rw [compactPrefixed_eq, append_frame, decodeVarint_frame _ _ _ hcount hfit]

section Text

variable {Text : Type} (utf8 : Utf8 Text)

theorem compact_string_round_trip :
    RoundTrips (NullableWithin (fun text => (utf8.encode text).length) (2 ^ 31 - 2))
      (some ∘ encodeCompactString utf8) (decodeCompactString utf8) := by
  rintro (_ | text) hbound
  · refine ⟨_, rfl, fun p q => ?_⟩
    simp only [Function.comp_apply, encodeCompactString, decodeCompactString, decodeVarint_null]
    rfl
  · simp only [NullableWithin] at hbound
    refine ⟨_, rfl, fun p q => ?_⟩
    have hvarint := decodeVarint_prefixed p (utf8.encode text) q ((utf8.encode text).length + 1) le_add_self
      (by omega)
    have hcast : ((utf8.encode text).length : Int) + 1 = (((utf8.encode text).length + 1 : Nat) : Int) := by
      push_cast; rfl
    simp only [Function.comp_apply, encodeCompactString, hcast, decodeCompactString,
      hvarint, Option.map_some', Option.some.injEq, Prod.mk.injEq]
    rw [if_neg (by omega), ← hcast, add_sub_cancel_right, compactPrefixed_eq,
      ← List.append_assoc, Utf8.toString_frame utf8 _ _ q _ (by simp), utf8.decode_encode]
    simp only [List.length_append, Nat.cast_add, add_assoc]

end Text

theorem compact_bytes_round_trip :
    RoundTrips (NullableWithin List.length (2 ^ 31 - 2)) (some ∘ encodeCompactBytes)
      decodeCompactBytes := by
  rintro (_ | value) hbound
  · refine ⟨_, rfl, fun p q => ?_⟩
    simp only [Function.comp_apply, encodeCompactBytes, decodeCompactBytes, decodeVarint_null]
    rfl
  · simp only [NullableWithin] at hbound
    refine ⟨_, rfl, fun p q => ?_⟩
    have hvarint := decodeVarint_prefixed p value q (value.length + 1) le_add_self (by omega)
    have hcast : (value.length : Int) + 1 = ((value.length + 1 : Nat) : Int) := by push_cast; rfl
    simp only [Function.comp_apply, encodeCompactBytes, hcast, decodeCompactBytes,
      hvarint, Option.map_some', Option.some.injEq, Prod.mk.injEq]
    rw [if_neg (by omega), ← hcast, add_sub_cancel_right, compactPrefixed_eq,
      ← List.append_assoc, slice_frame _ _ q _ (by simp)]
    simp only [List.length_append, Nat.cast_add, add_assoc]

/-! ## Where the compact length wraps

The bounds `2 ^ 31 - 2` above are tight: from an encoded length of `2 ^ 31` on, `len >> 7` reads
`len` as a negative `int32`, the encoder's loop stops after one group, and the prefix is two bytes
whose value is below `2 ^ 14`. -/

theorem jsAnd_seven_bits (x : Int) : jsAnd x 0x7F = x % 128 := by
  have hmask : toUint32 0x7F = 2 ^ 7 - 1 := rfl
  have hlow : toUint32 x % 2 ^ 7 < 128 := Nat.mod_lt _ (by norm_num)
  rw [jsAnd, hmask, Nat.and_pow_two_sub_one_eq_mod, toInt32_of_small _ (by omega) (by omega)]
  unfold toUint32
  have hnonneg : 0 ≤ x % 2 ^ 32 := Int.emod_nonneg _ (by norm_num)
  have hdvd : (128 : Int) ∣ 2 ^ 32 := ⟨2 ^ 25, by norm_num⟩
  have cast : (((x % 2 ^ 32).toNat % 2 ^ 7 : Nat) : Int) = x % 2 ^ 32 % 128 := by
    rw [Int.natCast_mod, Int.toNat_of_nonneg hnonneg]; rfl
  rw [cast, Int.emod_emod_of_dvd _ hdvd]

theorem varintBytes_wraps (len : Int) (low : 2 ^ 31 ≤ len) (high : len < 2 ^ 32) :
    varintBytes len =
      [UInt8.ofNat (len % 128 + 128).toNat, UInt8.ofNat ((len - 2 ^ 32) / 128 % 128).toNat] := by
  have shifted : jsShr len 7 = (len - 2 ^ 32) / 128 := by
    rw [jsShr_seven, toInt32]; congr 1; omega
  rw [varintBytes, if_pos (by omega), shifted, varintBytes, if_neg (by omega), jsAnd_seven_bits,
    jsAnd_seven_bits, jsOr_high_bit _ (by omega) (by omega)]
  simp only [toUint8]
  congr 3 <;> omega

/-- The decoders' loop over a two-byte prefix. -/
theorem readVarint_two (a c : Nat) (ha : a < 128) (hc : c < 128) (rest : Bytes) :
    readVarint (UInt8.ofNat (a + 128) :: UInt8.ofNat c :: rest) 0 0 =
      some (((a + c * 128 : Nat) : Int), 2) := by
  have first : (UInt8.ofNat (a + 128)).toNat = a + 128 := by rw [byte_toNat_ofNat]; omega
  have second : (UInt8.ofNat c).toNat = c := by rw [byte_toNat_ofNat]; omega
  have low : jsOr 0 (jsShl a 0) = a := by
    simpa using jsOr_shl_disjoint 0 a 0 (by norm_num) (by omega) (by norm_num)
  have high : jsOr a (jsShl c 7) = ((a + c * 128 : Nat) : Int) :=
    jsOr_shl_disjoint a c 7 (by norm_num; omega) (by norm_num; omega) (by decide)
  simp only [readVarint, first, second, jsAnd_byte_low (a + 128) (by omega),
    Nat.add_mod_right, Nat.mod_eq_of_lt ha, jsAnd_byte_low c (by omega), Nat.mod_eq_of_lt hc,
    Nat.cast_ofNat, low, if_pos (continuation_set (a + 128) (by omega) (by omega)), zero_add, high,
    continuation_clear c hc, ne_eq, not_true_eq_false, if_false, Option.map_some']

/-- From `n = 2 ^ 31 - 1` on, the compact encoders' length prefix for `n` is two bytes that every
compact decoder reads back below `2 ^ 14`; at `n = 2 ^ 31 - 1` it reads as `0`, so a value of that
length decodes as null. -/
theorem compact_length_wraps (n : Nat) (low : 2 ^ 31 - 1 ≤ n) (high : n ≤ 2 ^ 32 - 2) :
    (varintBytes ((n : Int) + 1)).length = 2 ∧
    (∀ p q : Bytes, ∃ v : Int, decodeVarint (p ++ varintBytes ((n : Int) + 1) ++ q) p.length =
      some (v, (p.length : Int) + 2) ∧ 0 ≤ v ∧ v < 2 ^ 14) ∧
    (n = 2 ^ 31 - 1 → ∀ value : Bytes, value.length = n → ∀ p q : Bytes,
      decodeCompactBytes (p ++ encodeCompactBytes (some value) ++ q) p.length =
        some (none, (p.length : Int) + 2)) := by
  have wraps := varintBytes_wraps ((n : Int) + 1) (by omega) (by omega)
  obtain ⟨a, ha, low_group⟩ : ∃ a : Nat, a < 128 ∧ (((n : Int) + 1) % 128 + 128).toNat = a + 128 :=
    ⟨(((n : Int) + 1) % 128).toNat, by omega, by omega⟩
  obtain ⟨c, hc, high_group⟩ : ∃ c : Nat, c < 128 ∧
      (((n : Int) + 1 - 2 ^ 32) / 128 % 128).toNat = c := ⟨_, by omega, rfl⟩
  rw [low_group, high_group] at wraps
  have decoded (p q : Bytes) : decodeVarint (p ++ varintBytes ((n : Int) + 1) ++ q) p.length =
      some (((a + c * 128 : Nat) : Int), (p.length : Int) + 2) := by
    simp only [wraps, decodeVarint, Nat.cast_nonneg, if_true, Int.toNat_natCast, List.append_assoc,
      List.drop_left, List.cons_append, List.nil_append, readVarint_two a c ha hc, Option.map_some']
    rfl
  refine ⟨by rw [wraps]; rfl, fun p q => ⟨_, decoded p q, by positivity, by omega⟩,
    fun edge value length p q => ?_⟩
  have null : a + c * 128 = 0 := by subst edge; omega
  simp only [encodeCompactBytes, compactPrefixed_eq, length, append_frame, decodeCompactBytes,
    decoded, null, Nat.cast_zero, Option.map_some', if_true]

theorem compact_length_of_two_pow_31_reads_null :
    2 ^ 31 - 1 ≤ 2 ^ 31 - 1 ∧ 2 ^ 31 - 1 ≤ 2 ^ 32 - 2 ∧
    ((varintBytes (((2 ^ 31 - 1 : Nat) : Int) + 1)).length = 2 ∧
    (∀ p q : Bytes, ∃ v : Int,
      decodeVarint (p ++ varintBytes (((2 ^ 31 - 1 : Nat) : Int) + 1) ++ q) p.length =
        some (v, (p.length : Int) + 2) ∧ 0 ≤ v ∧ v < 2 ^ 14) ∧
    (2 ^ 31 - 1 = 2 ^ 31 - 1 → ∀ value : Bytes, value.length = 2 ^ 31 - 1 → ∀ p q : Bytes,
      decodeCompactBytes (p ++ encodeCompactBytes (some value) ++ q) p.length =
        some (none, (p.length : Int) + 2))) :=
  ⟨le_rfl, by decide, compact_length_wraps (2 ^ 31 - 1) le_rfl (by decide)⟩

/-! ## Lengths past the end, and lengths below zero -/

/-- A five-byte prefix whose last group reaches bit 31: the decoders' loop reads it as
`-2 ^ 31`. -/
theorem readVarint_sign_bit (rest : Bytes) :
    readVarint ([0x80, 0x80, 0x80, 0x80, 0x08] ++ rest) 0 0 = some (-2 ^ 31, 5) := by
  rfl

section Text

variable {Text : Type} (utf8 : Utf8 Text)

/-- The decoders check no length against the buffer. A string whose length runs past the end
decodes to the text of the bytes that are there, with an offset past the end; and a compact
string whose five-byte length reads as `-2 ^ 31` decodes to `''` with the offset moved back
by more than `2 ^ 31`. -/
theorem decoders_read_past_the_end (buffer : Bytes) (offset length : Int)
    (read : readIntBE 2 buffer offset = some length) (nonnegative : 0 ≤ length)
    (past : (buffer.length : Int) < offset + 2 + length) :
    decodeString utf8 buffer offset =
        some (some (utf8.decode (buffer.drop (offset + 2).toNat)), offset + 2 + length) ∧
    ((buffer.drop (offset + 2).toNat).length : Int) < length ∧
    ∀ p q : Bytes, decodeCompactString utf8 (p ++ [0x80, 0x80, 0x80, 0x80, 0x08] ++ q) p.length =
      some (some (utf8.decode []), (p.length : Int) + 5 - 2 ^ 31 - 1) := by
  have inside := readIntBE_inside read
  refine ⟨?_, by rw [List.length_drop]; omega, fun p q => ?_⟩
  · have whole : buffer.take (offset + 2 + length).toNat = buffer := List.take_of_length_le (by omega)
    simp only [decodeString, read, Option.map_some', if_neg (not_lt.mpr nonnegative), Utf8.toString,
      whole]
  · have prefixed : decodeVarint (p ++ [0x80, 0x80, 0x80, 0x80, 0x08] ++ q) p.length =
        some (-2 ^ 31, (p.length : Int) + 5) := by
      simp only [decodeVarint, Nat.cast_nonneg, if_true, Int.toNat_natCast, List.append_assoc,
        List.drop_left, readVarint_sign_bit, Option.map_some']
      rfl
    simp only [decodeCompactString, prefixed, Option.map_some', Utf8.toString]
    have emptied : ((p ++ [0x80, 0x80, 0x80, 0x80, 0x08] ++ q).take
        ((p.length : Int) + 5 + (-2 ^ 31 - 1)).toNat).drop ((p.length : Int) + 5).toNat = [] :=
      List.drop_eq_nil_of_le (by rw [List.length_take]; omega)
    rw [if_neg (by norm_num), emptied, Option.some.injEq, Prod.mk.injEq]
    exact ⟨rfl, by ring⟩

theorem truncated_string_decodes_short :
    readIntBE 2 [0, 5, 104, 105] 0 = some 5 ∧ ((4 : Nat) : Int) < 0 + 2 + 5 ∧
    (decodeString Utf8.raw [0, 5, 104, 105] 0 =
        some (some (Utf8.raw.decode ([0, 5, 104, 105].drop (0 + 2 : Int).toNat)), 0 + 2 + 5) ∧
    ((([0, 5, 104, 105] : Bytes).drop (0 + 2 : Int).toNat).length : Int) < 5 ∧
    ∀ p q : Bytes, decodeCompactString Utf8.raw (p ++ [0x80, 0x80, 0x80, 0x80, 0x08] ++ q) p.length =
      some (some (Utf8.raw.decode []), (p.length : Int) + 5 - 2 ^ 31 - 1)) :=
  ⟨by decide, by decide,
    decoders_read_past_the_end Utf8.raw [0, 5, 104, 105] 0 5 (by decide) (by decide) (by decide)⟩

end Text

/-! ## Arrays -/

section Arrays

variable {α : Type} {valid : α → Prop} {encodeFunc : α → Option Bytes}
  {decodeFunc : Bytes → Int → Option (α × Int)}

/-- A nullable array of at most `bound` elements, each valid; `null` always qualifies. -/
def ArrayWithin (valid : α → Prop) (bound : Nat) : Option (List α) → Prop
  | none => True
  | some values => values.length ≤ bound ∧ ∀ value ∈ values, valid value

theorem elements_round_trip (law : RoundTrips valid encodeFunc decodeFunc) (values : List α)
    (hvalid : ∀ value ∈ values, valid value) :
    ∃ encoded, values.mapM encodeFunc = some encoded ∧
      ∀ p q : Bytes, decodeElements decodeFunc (p ++ encoded.flatten ++ q) values.length p.length =
        some (values, (p.length : Int) + encoded.flatten.length) := by
  induction values with
  | nil => exact ⟨[], rfl, fun p q => by simp [decodeElements]⟩
  | cons value values ih =>
      obtain ⟨bytes, hencode, hdecode⟩ := law value (hvalid value (List.mem_cons_self _ _))
      obtain ⟨encoded, hrest, hdecodes⟩ :=
        ih fun other member => hvalid other (List.mem_cons_of_mem _ member)
      refine ⟨bytes :: encoded, by rw [List.mapM_cons, hencode, hrest]; rfl, fun p q => ?_⟩
      have hnext := hdecodes (p ++ bytes) q
      rw [List.flatten_cons, append_frame, List.length_cons, decodeElements, hdecode]
      simp only [List.append_assoc] at hnext
      simp only [Option.bind_eq_bind, Option.some_bind, List.append_assoc, List.length_append,
        Nat.cast_add] at hnext ⊢
      rw [hnext]
      simp only [Option.some_bind, add_assoc]
      rfl

theorem array_round_trip (law : RoundTrips valid encodeFunc decodeFunc) :
    RoundTrips (ArrayWithin valid (2 ^ 31 - 1)) (fun values => encodeArray values encodeFunc)
      (fun buffer offset => decodeArray buffer decodeFunc offset) := by
  rintro (_ | values) hbound
  · refine ⟨_, rfl, fun p q => ?_⟩
    simp only [decodeArray, readIntBE_frame 4 p [0xFF, 0xFF, 0xFF, 0xFF] q rfl]
    rfl
  · obtain ⟨hlength, hvalid⟩ := hbound
    obtain ⟨encoded, hencode, hdecode⟩ := elements_round_trip law values hvalid
    have hfits : FitsSigned 4 values.length := by constructor <;> norm_num <;> omega
    refine ⟨_, by simp only [encodeArray, hencode, writeIntBE, if_pos hfits]; rfl, fun p q => ?_⟩
    have hread := readIntBE_writeIntBE 4 _ p (encoded.flatten ++ q) _ (by decide) (if_pos hfits)
    have helements := hdecode (p ++ beBytes 4 ((values.length : Int) % 2 ^ (8 * 4)).toNat) q
    rw [← List.append_assoc] at hread
    simp only [decodeArray, append_frame, ← List.append_assoc, hread, Option.bind_eq_bind,
      Option.some_bind]
    rw [if_neg (by omega), Int.toNat_natCast]
    simp only [List.length_append, length_beBytes, Nat.cast_add] at helements
    rw [show ((p.length : Int) + 4) = (p.length : Int) + ((4 : Nat) : Int) by rfl, helements]
    simp only [Option.some_bind, List.length_append, length_beBytes, Nat.cast_add, add_assoc]
    rfl

theorem compact_array_round_trip (law : RoundTrips valid encodeFunc decodeFunc) :
    RoundTrips (ArrayWithin valid (2 ^ 31 - 2)) (fun values => encodeCompactArray values encodeFunc)
      (fun buffer offset => decodeCompactArray buffer decodeFunc offset) := by
  rintro (_ | values) hbound
  · refine ⟨_, rfl, fun p q => ?_⟩
    simp only [decodeCompactArray, decodeVarint_null, Option.bind_eq_bind, Option.some_bind]
    rfl
  · obtain ⟨hlength, hvalid⟩ := hbound
    obtain ⟨encoded, hencode, hdecode⟩ := elements_round_trip law values hvalid
    have hcast : (values.length : Int) + 1 = ((values.length + 1 : Nat) : Int) := by push_cast; rfl
    have hprefixed : encodeCompactArray (some values) encodeFunc =
        some (compactPrefixed (values.length + 1 : Nat) encoded.flatten) := by
      simp only [encodeCompactArray, hencode, ← List.length_flatten, hcast]; rfl
    refine ⟨_, hprefixed, fun p q => ?_⟩
    have hvarint := decodeVarint_prefixed p encoded.flatten q (values.length + 1) le_add_self
      (by omega)
    simp only [decodeCompactArray, hvarint, Option.bind_eq_bind, Option.some_bind]
    rw [if_neg (by omega), show ((values.length + 1 : Nat) : Int) - 1 = values.length by
      push_cast; ring, Int.toNat_natCast, compactPrefixed_eq, ← List.append_assoc]
    generalize varintBytes ((values.length + 1 : Nat) : Int) = pre
    have helements := hdecode (p ++ pre) q
    simp only [List.length_append, Nat.cast_add] at helements
    rw [helements]
    simp only [Option.some_bind, List.length_append, Nat.cast_add, add_assoc]
    rfl

end Arrays

end KafkaClient.BasicTypes
