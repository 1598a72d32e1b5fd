import KafkaClient.RoundTrip

/-! The frame-peeling loop of `BrokerConnection.handleIncomingData`: the pending buffer grows by
each chunk read from the socket, and the loop hands every complete length-prefixed frame to
`handleResponse` and keeps the rest. Fed any split of a stream of frames, it hands over exactly
the stream's frames and keeps exactly its unfinished tail. -/

namespace KafkaClient.Frames

/-- How the `while (processed < this.buffer.length)` loop ended. -/
inductive LoopEnd where
  | exited (processed : Int)
  | threw
  | diverged
  deriving DecidableEq, Repr

/-- `rounds` iterations of the loop from the cursor `processed`: the messages handed to
`handleResponse`, in order, and how the loop ended. The cursor stays in the buffer while the loop
goes on, so `buffer.length + 1` rounds that all go on revisit a cursor and the loop never ends;
`diverged` is then exact. -/
def peel (buffer : Bytes) : Nat → Int → List Bytes × LoopEnd
  | 0, _ => ([], .diverged)
  | rounds + 1, processed =>
      if processed < buffer.length then
        if (buffer.length : Int) - processed < 4 then ([], .exited processed)
        else
          match readIntBE 4 buffer processed with
          | none => ([], .threw)
          | some messageSize =>
              if (buffer.length : Int) - processed - 4 < messageSize then ([], .exited processed)
              else
                let (messages, ending) := peel buffer rounds (processed + 4 + messageSize)
                (slice buffer (processed + 4) (processed + 4 + messageSize) :: messages, ending)
      else ([], .exited processed)

/-- `this.buffer` after a chunk arrives: `Buffer.concat([this.buffer, data])`, or `data`. -/
def appendPending (pending : Option Bytes) (data : Bytes) : Bytes :=
  match pending with
  | none => data
  | some buffer => buffer ++ data

/-- `this.buffer` after the loop: kept whole when nothing was processed, the unprocessed rest,
or `null` when everything was. -/
def keepRest (buffer : Bytes) (processed : Int) : Option Bytes :=
  if processed = 0 then some buffer
  else if processed < buffer.length then some (slice buffer processed buffer.length)
  else none

/-- `handleIncomingData` up to its `handleResponse` calls: the messages, in order, how the loop
ended, and the pending buffer it leaves. The concatenation is stored before the loop, so a loop
that does not exit leaves it whole. -/
def handleIncomingData (pending : Option Bytes) (data : Bytes) :
    List Bytes × LoopEnd × Option Bytes :=
  let buffer := appendPending pending data
  let (messages, ending) := peel buffer (buffer.length + 1) 0
  match ending with
  | .exited processed => (messages, ending, keepRest buffer processed)
  | _ => (messages, ending, some buffer)

/-- Chunks fed in order: every message handed to `handleResponse` and the final pending buffer.
A loop that throws or never ends stops the process, so no later chunk is read. -/
def feed : Option Bytes → List Bytes → List Bytes × Option Bytes
  | pending, [] => ([], pending)
  | pending, chunk :: chunks =>
      match handleIncomingData pending chunk with
      | (messages, .exited _, next) =>
          let (rest, final) := feed next chunks
          (messages ++ rest, final)
      | (messages, _, next) => (messages, next)

/-- Whether every chunk's loop exits, so that `feed` reads every chunk. -/
def drains : Option Bytes → List Bytes → Bool
  | _, [] => true
  | pending, chunk :: chunks =>
      match handleIncomingData pending chunk with
      | (_, .exited _, next) => drains next chunks
      | _ => false

/-! ## Frames -/

def encodeFrame (body : Bytes) : Bytes := beBytes 4 body.length ++ body

/-- The unfinished tail of a stream: fewer than four bytes, or a proper prefix of a frame with a
non-negative `int32` size. -/
def Unfinished (tail : Bytes) : Prop :=
  tail.length < 4 ∨ ∃ body : Bytes, body.length < 2 ^ 31 ∧ tail <+: encodeFrame body ∧
    tail.length < (encodeFrame body).length

@[simp] theorem length_encodeFrame (body : Bytes) :
    (encodeFrame body).length = 4 + body.length := by
  simp [encodeFrame, Nat.add_comm]

theorem writeIntBE_size (body : Bytes) (hbody : body.length < 2 ^ 31) :
    writeIntBE 4 body.length = some (beBytes 4 body.length) := by
  rw [writeIntBE, if_pos ⟨by norm_num; omega, by norm_num; omega⟩]
  congr
  rw [Int.emod_eq_of_lt (by omega) (by norm_num; omega), Int.toNat_natCast]

theorem readIntBE_size (pre body rest : Bytes) (hbody : body.length < 2 ^ 31) :
    readIntBE 4 (pre ++ beBytes 4 body.length ++ rest) pre.length = some (body.length : Int) :=
  readIntBE_writeIntBE 4 _ pre rest _ (by decide) (writeIntBE_size body hbody)

/-- A frame's prefix of at least four bytes starts with the frame's size. -/
theorem unfinished_size (tail body : Bytes) (leading : tail <+: encodeFrame body)
    (hlong : 4 ≤ tail.length) : tail = beBytes 4 body.length ++ tail.drop 4 := by
  obtain ⟨suffix, hsuffix⟩ := leading
  have htake : tail.take 4 = beBytes 4 body.length := by
    have := congrArg (List.take 4) hsuffix
    rwa [List.take_append_of_le_length hlong, encodeFrame, List.take_left' (length_beBytes _ _)] at this
  rw [← htake, List.take_append_drop]

theorem peel_unfinished (pre rest : Bytes) (rounds : Nat) (hrest : Unfinished rest) :
    peel (pre ++ rest) (rounds + 1) pre.length = ([], .exited pre.length) := by
  simp only [peel, List.length_append, Nat.cast_add]
  by_cases hempty : rest.length = 0
  · rw [if_neg (by omega)]
  rw [if_pos (by omega)]
  rcases hrest with hshort | ⟨body, hbody, leading, hshort⟩
  · rw [if_pos (by omega)]
  rw [length_encodeFrame] at hshort
  by_cases hlong : 4 ≤ rest.length
  · rw [if_neg (by omega), unfinished_size rest body leading hlong, ← List.append_assoc,
      readIntBE_size _ _ _ hbody]
    simp only [List.length_append, length_beBytes, List.length_drop]
    rw [if_pos (by push_cast; omega)]
  · rw [if_pos (by omega)]

theorem peel_frames (rest : Bytes) (hrest : Unfinished rest) (bodies : List Bytes)
    (hbodies : ∀ body ∈ bodies, body.length < 2 ^ 31) :
    ∀ (pre : Bytes) (rounds : Nat), bodies.length < rounds →
      peel (pre ++ (bodies.map encodeFrame).flatten ++ rest) rounds pre.length =
        (bodies, .exited (pre.length + ((bodies.map encodeFrame).flatten).length)) := by
  induction bodies with
  | nil =>
      intro pre rounds hrounds
      obtain ⟨rounds, rfl⟩ : ∃ r, rounds = r + 1 := ⟨rounds - 1, by simp at hrounds; omega⟩
      simpa using peel_unfinished pre rest rounds hrest
  | cons body bodies ih =>
      intro pre rounds hrounds
      obtain ⟨rounds, rfl⟩ : ∃ r, rounds = r + 1 := ⟨rounds - 1, by simp at hrounds; omega⟩
      have hbody := hbodies body (List.mem_cons_self _ _)
      have hnext := ih (fun b hb => hbodies b (List.mem_cons_of_mem _ hb)) (pre ++ encodeFrame body)
        rounds (by simp at hrounds; omega)
      generalize hframes : (bodies.map encodeFrame).flatten = frames at hnext
      have hbuffer : pre ++ ((body :: bodies).map encodeFrame).flatten ++ rest =
          pre ++ beBytes 4 body.length ++ (body ++ (frames ++ rest)) := by
        simp [encodeFrame, hframes]
      have hnext_buffer : pre ++ encodeFrame body ++ frames ++ rest =
          pre ++ beBytes 4 body.length ++ (body ++ (frames ++ rest)) := by
        simp [encodeFrame]
      have hcursor : ((pre ++ encodeFrame body).length : Int) = pre.length + 4 + body.length := by
        simp only [List.length_append, length_encodeFrame]; push_cast; omega
      have hslice : slice (pre ++ beBytes 4 body.length ++ (body ++ (frames ++ rest)))
          (pre.length + 4) (pre.length + 4 + body.length) = body := by
        rw [← List.append_assoc]; exact slice_frame _ body _ _ (by simp)
      rw [hnext_buffer, hcursor] at hnext
      rw [hbuffer, peel, if_pos (by simp; omega), if_neg (by simp; omega),
        readIntBE_size _ _ _ hbody]
      dsimp only
      rw [if_neg (by simp; omega), hslice, hnext]
      simp [hframes]; omega

/-! ## Any split of a stream -/

theorem unfinished_of_isPrefix {tail tail' : Bytes} (leading : tail' <+: tail)
    (htail : Unfinished tail) : Unfinished tail' := by
  have hlength := leading.length_le
  rcases htail with hshort | ⟨body, hbody, hframe, hshort⟩
  · exact Or.inl (by omega)
  · exact Or.inr ⟨body, hbody, leading.trans hframe, by omega⟩

theorem unfinished_of_frame {tail body : Bytes} (hbody : body.length < 2 ^ 31)
    (leading : tail <+: encodeFrame body) (hshort : tail.length < (encodeFrame body).length) :
    Unfinished tail :=
  Or.inr ⟨body, hbody, leading, hshort⟩

/-- An unfinished tail holds no whole frame. -/
theorem unfinished_no_frame {tail body rest : Bytes} (hbody : body.length < 2 ^ 31)
    (htail : Unfinished tail) (hsplit : tail = encodeFrame body ++ rest) : False := by
  have hlength : 4 + body.length ≤ tail.length := by simp [hsplit]
  rcases htail with hshort | ⟨other, hother, leading, hshort⟩
  · omega
  have hsize : beBytes 4 body.length = beBytes 4 other.length := by
    have := unfinished_size tail other leading (by omega)
    rw [hsplit, encodeFrame, List.append_assoc] at this
    exact List.append_inj_left this (by simp)
  have hsame := congrArg beValue hsize
  rw [beValue_beBytes, beValue_beBytes, Nat.mod_eq_of_lt (by omega),
    Nat.mod_eq_of_lt (by omega)] at hsame
  simp only [length_encodeFrame] at hshort
  omega

/-- Any prefix of a stream of frames is whole frames followed by an unfinished tail, and the
stream goes on from that tail with the remaining frames. -/
theorem frames_split (tail : Bytes) (htail : Unfinished tail) (first second : Bytes) :
    ∀ bodies : List Bytes, (∀ body ∈ bodies, body.length < 2 ^ 31) →
      first ++ second = (bodies.map encodeFrame).flatten ++ tail →
      ∃ before after rest, bodies = before ++ after ∧
        first = (before.map encodeFrame).flatten ++ rest ∧ Unfinished rest ∧
        rest ++ second = (after.map encodeFrame).flatten ++ tail := by
  intro bodies
  induction bodies generalizing first with
  | nil =>
      intro _ hstream
      exact ⟨[], [], first, rfl, rfl, unfinished_of_isPrefix ⟨second, by simpa using hstream⟩ htail,
        by simpa using hstream⟩
  | cons body bodies ih =>
      intro hbodies hstream
      rw [List.map_cons, List.flatten_cons, List.append_assoc] at hstream
      rcases List.append_eq_append_iff.mp hstream with ⟨middle, hframe, hsecond⟩ |
        ⟨inner, hfirst, hrest⟩
      · by_cases hempty : middle = []
        · subst hempty
          exact ⟨[body], bodies, [], rfl, by simpa using hframe.symm, Or.inl (by simp),
            by simpa using hsecond⟩
        · exact ⟨[], body :: bodies, first, by simp, by simp,
            unfinished_of_frame (hbodies body (List.mem_cons_self _ _)) ⟨middle, hframe.symm⟩
              (by rw [hframe, List.length_append]; have := List.length_pos.mpr hempty; omega),
            by rw [hsecond, ← List.append_assoc, ← hframe]; simp⟩
      · obtain ⟨before, after, rest, hbodies', hfirst', hrest', hstream'⟩ :=
          ih inner (fun b hb => hbodies b (List.mem_cons_of_mem _ hb)) hrest.symm
        exact ⟨body :: before, after, rest, by simp [hbodies'], by simp [hfirst, hfirst'],
          hrest', hstream'⟩

theorem length_le_frames (bodies : List Bytes) :
    bodies.length ≤ (bodies.map encodeFrame).flatten.length := by
  induction bodies with
  | nil => simp
  | cons body bodies ih =>
      simp only [List.map_cons, List.flatten_cons, List.length_append, length_encodeFrame,
        List.length_cons]
      omega

theorem appendPending_tail (tail data : Bytes) :
    appendPending (if tail = [] then none else some tail) data = tail ++ data := by
  by_cases htail : tail = [] <;> simp [appendPending, htail]

theorem keepRest_frames (frames rest : Bytes) (hne : frames ++ rest ≠ []) :
    keepRest (frames ++ rest) frames.length = if rest = [] then none else some rest := by
  unfold keepRest
  by_cases hframes : frames = []
  · subst hframes
    simp only [List.nil_append] at hne
    simp [hne]
  have hpos := List.length_pos.mpr hframes
  rw [if_neg (by omega)]
  by_cases hrest : rest = []
  · subst hrest; simp
  have := List.length_pos.mpr hrest
  rw [if_pos (by simp; omega), if_neg hrest, List.length_append, Nat.cast_add]
  simpa using slice_frame frames rest [] frames.length rfl

/-- One chunk: the whole frames of the pending bytes and the chunk are handed over, and the
unfinished rest is kept. -/
theorem handleIncomingData_frames (pending data rest : Bytes) (bodies : List Bytes)
    (hdata : data ≠ []) (hbodies : ∀ body ∈ bodies, body.length < 2 ^ 31) (hrest : Unfinished rest)
    (hbuffer : pending ++ data = (bodies.map encodeFrame).flatten ++ rest) :
    handleIncomingData (if pending = [] then none else some pending) data =
      (bodies, .exited (bodies.map encodeFrame).flatten.length,
        if rest = [] then none else some rest) := by
  have hpeel := peel_frames rest hrest bodies hbodies []
    ((bodies.map encodeFrame).flatten ++ rest).length.succ
    (by have := length_le_frames bodies; simp only [List.length_append]; omega)
  simp only [List.nil_append, List.length_nil, Nat.cast_zero, zero_add] at hpeel
  have hne : (bodies.map encodeFrame).flatten ++ rest ≠ [] := by
    rw [← hbuffer]; simp [hdata]
  simp only [handleIncomingData, appendPending_tail]
  rw [hbuffer, hpeel]
  exact congrArg _ (congrArg _ (keepRest_frames _ rest hne))

/-- The run over chunks, from any unfinished pending buffer. -/
theorem feed_frames (tail : Bytes) (htail : Unfinished tail) :
    ∀ (chunks : List Bytes) (pending : Bytes) (bodies : List Bytes),
      (∀ chunk ∈ chunks, chunk ≠ []) → (∀ body ∈ bodies, body.length < 2 ^ 31) →
      Unfinished pending → pending ++ chunks.flatten = (bodies.map encodeFrame).flatten ++ tail →
      feed (if pending = [] then none else some pending) chunks =
        (bodies, if tail = [] then none else some tail) ∧
      drains (if pending = [] then none else some pending) chunks = true := by
  intro chunks
  induction chunks with
  | nil =>
      intro pending bodies _ hbodies hpending hstream
      simp only [List.flatten_nil, List.append_nil] at hstream
      cases bodies with
      | nil => simp [feed, drains, hstream]
      | cons body bodies =>
          exact (unfinished_no_frame (hbodies body (List.mem_cons_self _ _)) hpending
            (hstream.trans (List.append_assoc _ _ _))).elim
  | cons data chunks ih =>
      intro pending bodies hchunks hbodies _ hstream
      obtain ⟨before, after, rest, rfl, hbuffer, hrest, hnext⟩ :=
        frames_split tail htail (pending ++ data) chunks.flatten bodies hbodies
          (by simpa using hstream)
      simp only [List.mem_append] at hbodies
      obtain ⟨fed, drained⟩ := ih rest after (fun c hc => hchunks c (List.mem_cons_of_mem _ hc))
        (fun b hb => hbodies b (Or.inr hb)) hrest hnext
      rw [feed, drains, handleIncomingData_frames pending data rest before
        (hchunks data (List.mem_cons_self _ _)) (fun b hb => hbodies b (Or.inl hb)) hrest hbuffer]
      dsimp only
      rw [fed]
      exact ⟨rfl, drained⟩

/-- Fed any split of a stream of frames into non-empty chunks, from an empty pending buffer, the
loop exits on every chunk, hands over exactly the stream's frame bodies, in order, and keeps
exactly its unfinished tail (`null` when there is none), whatever the split. -/
theorem feed_any_split (bodies : List Bytes) (tail : Bytes) (chunks : List Bytes)
    (hbodies : ∀ body ∈ bodies, body.length < 2 ^ 31) (htail : Unfinished tail)
    (hchunks : ∀ chunk ∈ chunks, chunk ≠ [])
    (hstream : chunks.flatten = (bodies.map encodeFrame).flatten ++ tail) :
    feed none chunks = (bodies, if tail = [] then none else some tail) ∧
      drains none chunks = true := by
  simpa using feed_frames tail htail chunks [] bodies hchunks hbodies (Or.inl (by simp))
    (by simpa using hstream)

example : feed none [[0, 0], [0, 2, 1], [2, 0]] = ([[1, 2]], some [0]) ∧
    drains none [[0, 0], [0, 2, 1], [2, 0]] = true :=
  feed_any_split [[1, 2]] [0] _ (by simp) (Or.inl (by decide)) (by simp) (by decide)

/-! ## Negative sizes -/

/-- A negative size passes the loop's check, since the bytes left are never fewer than a negative
number: the prefix is consumed as a frame, its message is handed over, and the cursor moves to
`processed + 4 + messageSize`, short of `processed + 4`. -/
theorem peel_negative (buffer : Bytes) (rounds : Nat) (processed messageSize : Int)
    (read : readIntBE 4 buffer processed = some messageSize) (negative : messageSize < 0) :
    peel buffer (rounds + 1) processed =
      (slice buffer (processed + 4) (processed + 4 + messageSize) ::
          (peel buffer rounds (processed + 4 + messageSize)).1,
        (peel buffer rounds (processed + 4 + messageSize)).2) := by
  obtain ⟨low, high⟩ := readIntBE_inside read
  rw [peel, if_pos (by omega), if_neg (by omega), read]
  dsimp only
  rw [if_neg (by omega)]

/-- At size `-4` the cursor comes back to where it was, so the loop hands over empty messages
and never ends. -/
theorem peel_stalls (buffer : Bytes) (processed : Int)
    (read : readIntBE 4 buffer processed = some (-4)) :
    ∀ rounds, peel buffer rounds processed = (List.replicate rounds [], .diverged)
  | 0 => rfl
  | rounds + 1 => by
      obtain ⟨low, high⟩ := readIntBE_inside read
      have empty : slice buffer (processed + 4) processed = [] := by
        apply List.drop_eq_nil_of_le
        simp only [List.length_take, sliceIndex]
        rw [if_neg (by omega), if_neg (by omega)]
        omega
      rw [peel_negative buffer rounds processed (-4) read (by decide),
        show processed + 4 + -4 = processed by ring, peel_stalls buffer processed read rounds,
        empty]
      rfl

/-- A length prefix the peer sends negative is not refused: it passes the loop's check and is
consumed as a frame, the loop going on at `processed + 4 + messageSize`; at `-4` that is where
it started, so a buffer whose first prefix is `-4` makes the loop hand over empty messages and
never end. -/
theorem negative_length_prefix_consumed (buffer : Bytes) (processed messageSize : Int)
    (read : readIntBE 4 buffer processed = some messageSize) (negative : messageSize < 0) :
    (∀ rounds, peel buffer (rounds + 1) processed =
      (slice buffer (processed + 4) (processed + 4 + messageSize) ::
          (peel buffer rounds (processed + 4 + messageSize)).1,
        (peel buffer rounds (processed + 4 + messageSize)).2)) ∧
    (messageSize = -4 → ∀ rounds, peel buffer rounds processed = (List.replicate rounds [], .diverged)) ∧
    (messageSize = -4 → processed = 0 → ∀ pending data, appendPending pending data = buffer →
      handleIncomingData pending data =
        (List.replicate (buffer.length + 1) [], .diverged, some buffer)) := by
  refine ⟨fun rounds => peel_negative buffer rounds processed messageSize read negative,
    fun stalled => peel_stalls buffer processed (stalled ▸ read), fun stalled start pending data
      appended => ?_⟩
  subst stalled start appended
  simp only [handleIncomingData, peel_stalls _ 0 read]

theorem minus_four_prefix_never_ends :
    readIntBE 4 [0xFF, 0xFF, 0xFF, 0xFC] 0 = some (-4) ∧ (-4 : Int) < 0 ∧
    ((∀ rounds, peel [0xFF, 0xFF, 0xFF, 0xFC] (rounds + 1) 0 =
      (slice [0xFF, 0xFF, 0xFF, 0xFC] (0 + 4) (0 + 4 + -4) ::
          (peel [0xFF, 0xFF, 0xFF, 0xFC] rounds (0 + 4 + -4)).1,
        (peel [0xFF, 0xFF, 0xFF, 0xFC] rounds (0 + 4 + -4)).2)) ∧
    ((-4 : Int) = -4 → ∀ rounds, peel [0xFF, 0xFF, 0xFF, 0xFC] rounds 0 =
      (List.replicate rounds [], .diverged)) ∧
    ((-4 : Int) = -4 → (0 : Int) = 0 → ∀ pending data,
      appendPending pending data = [0xFF, 0xFF, 0xFF, 0xFC] →
      handleIncomingData pending data = (List.replicate 5 [], .diverged, some [0xFF, 0xFF, 0xFF, 0xFC]))) :=
  ⟨by decide, by decide, negative_length_prefix_consumed _ 0 (-4) (by decide) (by decide)⟩

end KafkaClient.Frames
