import KafkaClient.Producer

/-! What the program sees of each of its calls of a `KafkaProducer`, over every run, whatever it
calls and in whatever order the timers fire. A call is either still waiting on the one timer that
goes on with it, having shown nothing, or its promise has settled once; a `send()` callback has by
then been given nothing, one error, the metadata, or the metadata and then its own exception
(`Made`). Each method touches only the view of its own call (`Frames`), and the code a call or
its timer runs takes that view from nothing to `Made`. -/

namespace KafkaClient.KafkaProducer

open EventLoop

/-- The call an observation is about, if any. -/
def Observation.about : Observation → Option Nat
  | .settled call _ | .completed call _ => some call
  | .emitted _ => none

/-- The call whose promise an awaiter holds. -/
def Awaiter.call : Awaiter → Nat
  | .program call | .send call _ _ | .close call => call

/-- The call a timer goes on with. -/
def Timer.call : Timer → Nat
  | .connect awaiter | .flush awaiter => awaiter.call
  | .send call _ | .close call => call

@[simp] theorem Observation.about_settled (call : Nat) (failure : Option Thrown) :
    (Observation.settled call failure).about = some call := rfl

@[simp] theorem Observation.about_completed (call : Nat) (error : Option Thrown) :
    (Observation.completed call error).about = some call := rfl

@[simp] theorem Observation.about_emitted (event : Emitted) :
    (Observation.emitted event).about = none := rfl

@[simp] theorem Timer.call_connect (awaiter : Awaiter) :
    (Timer.connect awaiter).call = awaiter.call := rfl

@[simp] theorem Timer.call_send (call : Nat) (callback : Option Callback) :
    (Timer.send call callback).call = call := rfl

@[simp] theorem Timer.call_flush (awaiter : Awaiter) : (Timer.flush awaiter).call = awaiter.call := rfl

@[simp] theorem Timer.call_close (call : Nat) : (Timer.close call).call = call := rfl

/-- What the program has seen of call `c`, in order, and the timers that go on with it. -/
def view (c : Nat) (w : World) : List Observation × List Timer :=
  (w.log.filter (·.about = some c), (w.timers.map (·.2)).filter (·.call = c))

/-- The ways call `c` is answered: its promise settles once, after its callback, if it has one,
was given nothing, an error, the metadata, or the metadata and then the exception it threw. A
callback that throws when given an error rejects the promise with that exception. -/
inductive Answered (c : Nat) : List Observation → Prop
  | settled (failure : Option Thrown) : Answered c [.settled c failure]
  | failed (error failure : Thrown) (reason : failure = error ∨ failure = .callback c) :
      Answered c [.completed c (some error), .settled c (some failure)]
  | delivered : Answered c [.completed c none, .settled c none]
  | rethrown : Answered c
      [.completed c none, .completed c (some (.callback c)), .settled c (some (.callback c))]

/-- A call that has been made: it waits on one timer, having shown nothing, or it is answered,
with no timer left. -/
inductive Made (c : Nat) : List Observation × List Timer → Prop
  | waiting (timer : Timer) : Made c ([], [timer])
  | answered {seen : List Observation} (answered : Answered c seen) : Made c (seen, [])

section Made

variable {c : Nat}

@[simp] theorem Made.of_waiting (timer : Timer) : Made c ([], [timer]) := .waiting timer

@[simp] theorem Made.of_settled (failure : Option Thrown) : Made c ([.settled c failure], []) :=
  .answered (.settled failure)

@[simp] theorem Made.of_failed (error : Thrown) :
    Made c ([.completed c (some error), .settled c (some error)], []) :=
  .answered (.failed error error (.inl rfl))

@[simp] theorem Made.of_callback_failed (error : Thrown) :
    Made c ([.completed c (some error), .settled c (some (.callback c))], []) :=
  .answered (.failed error _ (.inr rfl))

@[simp] theorem Made.of_delivered : Made c ([.completed c none, .settled c none], []) :=
  .answered .delivered

@[simp] theorem Made.of_rethrown : Made c
    ([.completed c none, .completed c (some (.callback c)), .settled c (some (.callback c))], []) :=
  .answered .rethrown

end Made

/-! ## The view of a call -/

section View

variable (c : Nat) (w : World)

@[simp] theorem view_log (l : List Observation) :
    view c { w with log := w.log ++ l } =
      ((view c w).1 ++ l.filter (·.about = some c), (view c w).2) := by
  simp [view]

@[simp] theorem view_producer (p : Producer) : view c { w with producer := p } = view c w := rfl

@[simp] theorem view_nextId (n : Nat) : view c { w with nextId := n } = view c w := rfl

@[simp] theorem view_listeners (l : List (ProducerEvent × Bool)) :
    view c { w with listeners := l } = view c w := rfl

@[simp] theorem view_push (t : Timer) :
    view c { w with timers := w.timers ++ [(w.nextId, t)], nextId := w.nextId + 1 } =
      ((view c w).1, (view c w).2 ++ [t].filter (·.call = c)) := by
  simp [view]

end View

/-! ## Code that leaves another call alone -/

/-- Call `c`'s view is as it was, and the next id has not gone back. -/
structure Frame (c : Nat) (w w' : World) : Prop where
  view : view c w' = view c w
  grown : w.nextId ≤ w'.nextId

theorem Frame.refl (c : Nat) (w : World) : Frame c w w := ⟨rfl, le_refl _⟩

theorem Frame.trans {c : Nat} {w₁ w₂ w₃ : World} (first : Frame c w₁ w₂) (second : Frame c w₂ w₃) :
    Frame c w₁ w₃ :=
  ⟨second.view.trans first.view, first.grown.trans second.grown⟩

instance (c : Nat) : IsPreorder World (Frame c) where
  refl := Frame.refl c
  trans _ _ _ := Frame.trans

/-- Code that leaves call `c`'s view alone, whatever it returns or throws. -/
def Frames (c : Nat) {α : Type} (code : JS α) : Prop :=
  Stays (Frame c) code

namespace Frames

variable {c : Nat}

theorem record {o : Observation} (other : o.about ≠ some c) : Frames c (record o) :=
  fun _ => ⟨by simp [KafkaProducer.record, other], le_refl _⟩

theorem modifyProducer (f : Producer → Producer) : Frames c (modifyProducer f) :=
  fun _ => ⟨rfl, le_refl _⟩

theorem setTimer {t : Timer} (other : t.call ≠ c) : Frames c (setTimer t) :=
  fun _ => ⟨by simp [KafkaProducer.setTimer, other], Nat.le_succ _⟩

theorem emit (e : Emitted) : Frames c (emit e) := by
  refine Stays.get_bind fun _ => Stays.bind (record (by simp [Observation.about])) fun _ => ?_
  refine Stays.ite (fun _ => Stays.throw _) fun _ => ?_
  cases e
  all_goals first
    | exact Stays.pure ()
    | exact Stays.ite (fun _ => Stays.throw _) fun _ => Stays.pure ()

theorem reportAndRethrow {α : Type} {body : JS α} (frames : Frames c body) :
    Frames c (reportAndRethrow body) :=
  Stays.tryCatch frames fun _ => Stays.bind (emit _) fun _ => Stays.throw _

theorem complete {call : Nat} (other : call ≠ c) (callback : Option Callback)
    (error : Option Thrown) : Frames c (complete call callback error) := by
  cases callback with
  | none => exact Stays.pure ()
  | some callback =>
      exact Stays.bind (record (by simpa [Observation.about] using other)) fun _ =>
        Stays.ite (fun _ => Stays.throw _) fun _ => Stays.pure ()

theorem settle {call : Nat} (other : call ≠ c) (failure : Option Thrown) :
    Frames c (settle call failure) :=
  record (by simpa [Observation.about] using other)

theorem outcome {body : JS Ended} (frames : Frames c body) : Frames c (outcome body) :=
  Stays.tryCatch (Stays.map _ frames) fun _ => Stays.pure _

theorem async {call : Nat} (other : call ≠ c) {body : JS Ended} (frames : Frames c body) :
    Frames c (async call body) :=
  Stays.bind (outcome frames) fun r => by
    rcases r with _ | _ | _
    · exact settle other _
    · exact settle other _
    · exact Stays.pure ()

theorem sendAfterConnect {call : Nat} (other : call ≠ c) (topic : Bool)
    (callback : Option Callback) : Frames c (sendAfterConnect call topic callback) := by
  have timer : Frames c (KafkaProducer.setTimer (.send call callback)) :=
    setTimer (by simpa [Timer.call] using other)
  refine Stays.get_bind fun _ => ?_
  dsimp only
  refine Stays.ite
    (fun _ => Stays.bind (complete other _ _) fun _ => Stays.bind (Stays.throw _) fun _ => ?_)
    fun _ => Stays.bind (Stays.pure ()) fun _ => ?_
  all_goals
    exact Stays.tryCatch
      (Stays.ite
        (fun _ => Stays.bind (Stays.throw _) fun _ => Stays.bind timer fun _ => Stays.pure _)
        fun _ => Stays.bind (Stays.pure ()) fun _ => Stays.bind timer fun _ => Stays.pure _)
      fun _ => Stays.bind (complete other _ _) fun _ => Stays.throw _

theorem sent {call : Nat} (other : call ≠ c) (callback : Option Callback) :
    Frames c (sent call callback) :=
  async other <| Stays.tryCatch (Stays.bind (complete other _ _) fun _ => Stays.pure _)
    fun _ => Stays.bind (complete other _ _) fun _ => Stays.throw _

theorem closeAfterFlush {call : Nat} (other : call ≠ c) : Frames c (closeAfterFlush call) :=
  Stays.bind (setTimer (by simpa [Timer.call] using other)) fun _ => Stays.pure _

theorem resolve {awaiter : Awaiter} (other : awaiter.call ≠ c) (failure : Option Thrown) :
    Frames c (resolve awaiter failure) := by
  rcases awaiter with call | call | call <;> rcases failure with _ | error <;>
    simp only [Awaiter.call] at other
  · exact settle other _
  · exact settle other _
  · exact async other (sendAfterConnect other _ _)
  · exact settle other _
  · exact async other (closeAfterFlush other)
  · exact async other (reportAndRethrow (Stays.throw _))

theorem asyncFor {awaiter : Awaiter} (other : awaiter.call ≠ c) {body : JS Ended}
    (frames : Frames c body) : Frames c (asyncFor awaiter body) :=
  Stays.bind (outcome frames) fun r => by
    rcases r with _ | _ | _
    · exact resolve other _
    · exact resolve other _
    · exact Stays.pure ()

theorem connect {awaiter : Awaiter} (other : awaiter.call ≠ c) : Frames c (connect awaiter) :=
  asyncFor other <| Stays.get_bind fun _ => Stays.ite (fun _ => Stays.pure _) fun _ =>
    Stays.bind (setTimer (by simpa [Timer.call] using other)) fun _ => Stays.pure _

theorem connected {awaiter : Awaiter} (other : awaiter.call ≠ c) :
    Frames c (connected awaiter) :=
  asyncFor other <| reportAndRethrow <| Stays.bind (modifyProducer _) fun _ =>
    Stays.bind (emit _) fun _ => Stays.pure _

theorem send {call : Nat} (other : call ≠ c) (topic : Bool) (callback : Option Callback) :
    Frames c (send call topic callback) :=
  Stays.get_bind fun _ => Stays.ite (fun _ => async other (sendAfterConnect other _ _))
    fun _ => connect (show Awaiter.call (.send call topic callback) ≠ c from other)

theorem flush {awaiter : Awaiter} (other : awaiter.call ≠ c) : Frames c (flush awaiter) :=
  asyncFor other <| Stays.get_bind fun _ => Stays.ite (fun _ => Stays.pure _) fun _ =>
    Stays.bind (setTimer (by simpa [Timer.call] using other)) fun _ => Stays.pure _

theorem close {call : Nat} (other : call ≠ c) : Frames c (close call) :=
  Stays.get_bind fun _ => Stays.ite (fun _ => settle other _) fun _ =>
    flush (show Awaiter.call (.close call) ≠ c from other)

theorem closed {call : Nat} (other : call ≠ c) : Frames c (closed call) :=
  async other <| reportAndRethrow <| Stays.bind (modifyProducer _) fun _ =>
    Stays.bind (emit _) fun _ => Stays.pure _

/-- A timer that goes on with another call. -/
theorem fire {t : Timer} (other : t.call ≠ c) : Frames c (fire t) := by
  cases t with
  | connect awaiter => exact connected other
  | send call callback => exact sent other callback
  | flush awaiter => exact resolve other none
  | close call => exact closed other

end Frames

/-! ## How the `async` wrappers run -/

section Wrappers

variable (w : World)

@[simp] theorem run_outcome (body : JS Ended) : (outcome body).run.run w =
    match body.run.run w with
    | (.ok ended, next) => (.ok (.ok ended), next)
    | (.error e, next) => (.ok (.error e), next) := by
  simp only [outcome, run_tryCatch, run_map]
  rcases body.run.run w with ⟨_ | _, next⟩ <;> rfl

theorem async_world (call : Nat) (body : JS Ended) : ((async call body).run.run w).2 =
    match body.run.run w with
    | (.ok .returned, next) => { next with log := next.log ++ [.settled call none] }
    | (.ok .waiting, next) => next
    | (.error e, next) => { next with log := next.log ++ [.settled call (some e)] } := by
  simp only [async, run_bind, run_outcome]
  rcases body.run.run w with ⟨_ | _ | _, next⟩ <;> rfl

theorem asyncFor_world (awaiter : Awaiter) (body : JS Ended) :
    ((asyncFor awaiter body).run.run w).2 =
    match body.run.run w with
    | (.ok .returned, next) => ((resolve awaiter none).run.run next).2
    | (.ok .waiting, next) => next
    | (.error e, next) => ((resolve awaiter (some e)).run.run next).2 := by
  simp only [asyncFor, run_bind, run_outcome]
  rcases body.run.run w with ⟨_ | _ | _, next⟩ <;> rfl

theorem complete_run (call : Nat) (callback : Option Callback) (error : Option Thrown) :
    (complete call callback error).run.run w =
      (if callback.any (·.throws error) then .error (.callback call) else .ok (),
      { w with log := w.log ++ (callback.map fun _ => Observation.completed call error).toList }) := by
  cases callback with
  | none => simp [complete]
  | some callback =>
      simp only [complete, record, run_bind, run_modify]
      split <;> simp_all

end Wrappers

/-- A body that never ends waiting: it returns or throws. -/
def Returns (body : JS Ended) : Prop :=
  ∀ w, (body.run.run w).1 ≠ .ok .waiting

namespace Returns

theorem bind {α : Type} {x : JS α} {f : α → JS Ended} (hf : ∀ a, Returns (f a)) :
    Returns (x >>= f) := by
  intro w
  rw [run_bind]
  rcases x.run.run w with ⟨_ | a, next⟩
  · nofun
  · exact hf a next

theorem returned : Returns (pure .returned) := nofun

theorem throw (e : Thrown) : Returns (throw e) := nofun

theorem reportAndRethrow {body : JS Ended} (returns : Returns body) :
    Returns (reportAndRethrow body) := by
  intro w
  simp only [KafkaProducer.reportAndRethrow, run_tryCatch, run_bind, run_throw]
  rcases ran : body.run.run w with ⟨_ | _, next⟩
  · dsimp only
    split <;> nofun
  · simpa [ran] using returns w

end Returns

/-! ## Code that makes a call -/

/-- Code that takes call `c` from nothing seen and no timer to `Made`. -/
def Moves (c : Nat) {α : Type} (code : JS α) : Prop :=
  ∀ w, view c w = ([], []) → Made c (view c (code.run.run w).2)

namespace Moves

variable {c : Nat}

theorem settle (failure : Option Thrown) : Moves c (settle c failure) := fun _ idle => by
  simp [KafkaProducer.settle, record, idle]

/-- An `async` body that leaves call `c` alone and never waits settles it. -/
theorem async {body : JS Ended} (frames : Frames c body) (returns : Returns body) :
    Moves c (async c body) := by
  intro w idle
  have frame := frames w
  have ended := returns w
  rw [async_world]
  rcases ran : body.run.run w with ⟨_ | _ | _, next⟩ <;> rw [ran] at frame ended
  · simp [frame.view, idle]
  · simp [frame.view, idle]
  · exact absurd rfl ended

/-- The same for a body whose promise an awaiter of call `c` holds. -/
theorem asyncFor {awaiter : Awaiter} {body : JS Ended} (frames : Frames c body)
    (returns : Returns body) (resolves : ∀ failure, Moves c (resolve awaiter failure)) :
    Moves c (asyncFor awaiter body) := by
  intro w idle
  have frame := frames w
  have ended := returns w
  rw [asyncFor_world]
  rcases ran : body.run.run w with ⟨_ | _ | _, next⟩ <;> rw [ran] at frame ended
  · exact resolves _ next (frame.view.trans idle)
  · exact resolves _ next (frame.view.trans idle)
  · exact absurd rfl ended

theorem sendAfterConnect (topic : Bool) (callback : Option Callback) :
    Moves c (KafkaProducer.async c (sendAfterConnect c topic callback)) := by
  intro w idle
  rw [async_world]
  simp only [KafkaProducer.sendAfterConnect, run_bind, run_get]
  by_cases closed : w.producer.isClosed = true <;> cases topic <;>
    rcases callback with _ | ⟨_, _ | _⟩ <;>
    simp [closed, complete_run, KafkaProducer.setTimer, Callback.throws, Except.map, idle]

theorem get_bind {α : Type} {f : World → JS α} (hf : ∀ w, Moves c (f w)) :
    Moves c (get >>= f) :=
  fun w idle => by simpa using hf w w idle

theorem ite {α : Type} {p : Prop} [Decidable p] {t e : JS α} (ht : p → Moves c t)
    (he : ¬p → Moves c e) : Moves c (if p then t else e) := by
  split
  · exact ht ‹_›
  · exact he ‹_›

/-- The rest of `send()` after its wait: the callback given the metadata, and its own exception
if it throws. -/
theorem sent (callback : Option Callback) : Moves c (sent c callback) := by
  intro w idle
  rw [KafkaProducer.sent, async_world]
  rcases callback with _ | ⟨_ | _, _ | _⟩ <;>
    simp [complete_run, Callback.throws, Except.map, idle]

theorem closeAfterFlush : Moves c (KafkaProducer.async c (closeAfterFlush c)) := by
  intro w idle
  simp [async_world, KafkaProducer.closeAfterFlush, KafkaProducer.setTimer, Except.map, idle]

theorem resolve {awaiter : Awaiter} (own : awaiter.call = c) (failure : Option Thrown) :
    Moves c (resolve awaiter failure) := by
  rcases awaiter with call | ⟨call, topic, callback⟩ | call <;> simp only [Awaiter.call] at own <;>
    subst own <;> rcases failure with _ | error
  · exact settle _
  · exact settle _
  · exact sendAfterConnect _ _
  · exact settle _
  · exact closeAfterFlush
  · exact async (Frames.reportAndRethrow (Stays.throw _))
      (Returns.reportAndRethrow (Returns.throw _))

theorem connect {awaiter : Awaiter} (own : awaiter.call = c) : Moves c (connect awaiter) := by
  intro w idle
  rw [KafkaProducer.connect, asyncFor_world]
  by_cases ready : w.producer.isInitialized = true
  · simpa [ready] using resolve own none w idle
  · simp [ready, KafkaProducer.setTimer, Except.map, idle, own]

theorem flush {awaiter : Awaiter} (own : awaiter.call = c) : Moves c (flush awaiter) := by
  intro w idle
  rw [KafkaProducer.flush, asyncFor_world]
  by_cases ready : w.producer.isInitialized = true
  · simp [ready, KafkaProducer.setTimer, Except.map, idle, own]
  · simpa [ready] using resolve own none w idle

theorem send (topic : Bool) (callback : Option Callback) : Moves c (send c topic callback) :=
  get_bind fun _ => ite (fun _ => sendAfterConnect _ _) fun _ => connect rfl

theorem close : Moves c (close c) :=
  get_bind fun _ => ite (fun _ => settle _) fun _ => flush rfl

/-- The rest of `connect()` and `close()` after their waits leave the call alone and never wait. -/
theorem fire {t : Timer} (own : t.call = c) : Moves c (fire t) := by
  have body : Frames c (do
      KafkaProducer.modifyProducer fun p => { p with isInitialized := true }
      KafkaProducer.emit .ready
      Pure.pure Ended.returned) :=
    Stays.bind (Frames.modifyProducer _) fun _ => Stays.bind (Frames.emit _) fun _ => Stays.pure _
  cases t with
  | connect awaiter =>
      exact asyncFor (Frames.reportAndRethrow body)
        (Returns.reportAndRethrow (Returns.bind fun _ => Returns.bind fun _ => Returns.returned))
        (resolve own)
  | send call callback =>
      subst own
      exact sent callback
  | flush awaiter => exact resolve own none
  | close call =>
      subst own
      exact async (Frames.reportAndRethrow <| Stays.bind (Frames.modifyProducer _) fun _ =>
          Stays.bind (Frames.emit _) fun _ => Stays.pure _)
        (Returns.reportAndRethrow (Returns.bind fun _ => Returns.bind fun _ => Returns.returned))

end Moves

/-! ## One step of the event loop -/

/-- Whether an input is a call of the program, with a promise of its own. -/
def Input.isCall : Input → Bool
  | .listen _ _ | .fire _ => false
  | _ => true

/-- What one step can do: run the code of a call with the call's id taken, put a listener on, or
remove a timer and fire it. -/
theorem step_cases {w w' : World} {input : Input} (stepped : step w input = some w') :
    (∃ code : JS Unit, w' = exec code { w with nextId := w.nextId + 1 } ∧
      (∀ c ≠ w.nextId, Frames c code) ∧ Moves w.nextId code ∧ input.isCall) ∨
    (∃ event throws,
      w' = { w with nextId := w.nextId + 1, listeners := w.listeners ++ [(event, throws)] } ∧
      input.isCall = false) ∨
    (∃ entry ∈ w.timers,
      w' = exec (fire entry.2) { w with nextId := w.nextId + 1, timers := w.timers.erase entry } ∧
      input.isCall = false) := by
  unfold step at stepped
  cases input <;> dsimp only at stepped
  case connect =>
    exact .inl ⟨_, (Option.some.inj stepped).symm, fun _ other => Frames.connect other.symm,
      Moves.connect rfl, rfl⟩
  case send topic callback =>
    exact .inl ⟨_, (Option.some.inj stepped).symm, fun _ other => Frames.send other.symm _ _,
      Moves.send _ _, rfl⟩
  case flush =>
    exact .inl ⟨_, (Option.some.inj stepped).symm, fun _ other => Frames.flush other.symm,
      Moves.flush rfl, rfl⟩
  case close =>
    exact .inl ⟨_, (Option.some.inj stepped).symm, fun _ other => Frames.close other.symm,
      Moves.close, rfl⟩
  case listen event throws => exact .inr (.inl ⟨event, throws, (Option.some.inj stepped).symm, rfl⟩)
  case fire timer =>
    split at stepped
    · next entry found =>
        exact .inr (.inr ⟨entry, List.mem_of_find?_eq_some found, (Option.some.inj stepped).symm, rfl⟩)
    · cases stepped

section Erase

variable {w : World} {entry : Nat × Timer}

/-- Removing a timer of another call leaves call `c`'s view alone. -/
theorem view_erase_other (mem : entry ∈ w.timers) {c : Nat} (other : entry.2.call ≠ c) :
    view c { w with timers := w.timers.erase entry } = view c w := by
  obtain ⟨before, after, -, split, erased⟩ := List.exists_erase_eq mem
  simp only [view]
  rw [erased, split]
  simp [other]

/-- Removing the one timer a call waits on leaves it with nothing. -/
theorem view_erase_own (mem : entry ∈ w.timers) (waiting : view entry.2.call w = ([], [entry.2])) :
    view entry.2.call { w with timers := w.timers.erase entry } = ([], []) := by
  obtain ⟨before, after, -, split, erased⟩ := List.exists_erase_eq mem
  simp only [view, Prod.mk.injEq] at waiting ⊢
  rw [split] at waiting
  rw [erased]
  simp only [List.map_append, List.map_cons, List.filter_append, List.filter_cons, decide_True,
    if_true, List.append_eq_cons_iff, List.append_eq_nil, List.cons.injEq, true_and] at waiting ⊢
  rcases waiting with ⟨seen, empty | ⟨_, -, extra⟩⟩
  · exact ⟨seen, empty⟩
  · exact absurd (List.nil_eq_append_iff.1 extra).2 (List.cons_ne_nil _ _)

end Erase

/-! ## Every run -/

/-- What every world a run reaches satisfies: each call is not made or `Made`, and the calls not
yet made show nothing. -/
structure Sound (w : World) : Prop where
  phase : ∀ c, view c w = ([], []) ∨ Made c (view c w)
  fresh : ∀ c, w.nextId ≤ c → view c w = ([], [])

section Run

variable {w w' : World}

theorem Sound.initial : Sound {} :=
  ⟨fun _ => .inl rfl, fun _ _ => rfl⟩

/-- A call that is waiting or answered has an id already taken. -/
theorem Sound.lt_of_made (sound : Sound w) {c : Nat} (made : Made c (view c w)) : c < w.nextId := by
  by_contra later
  rw [sound.fresh c (by omega)] at made
  nomatch made

/-- One step keeps the world sound, keeps every call that is made `Made`, and makes the call it
makes, or leaves its id unused. -/
theorem Sound.step {input : Input} (sound : Sound w) (stepped : step w input = some w') :
    Sound w' ∧ w.nextId < w'.nextId ∧ (∀ c, Made c (view c w) → Made c (view c w')) ∧
      (if input.isCall then Made w.nextId (view w.nextId w') else view w.nextId w' = ([], [])) := by
  have idle := sound.fresh w.nextId le_rfl
  rcases step_cases stepped with ⟨code, rfl, frames, moves, call⟩ | ⟨event, throws, rfl, call⟩ |
    ⟨entry, mem, rfl, call⟩
  · have kept : ∀ c ≠ w.nextId, view c (exec code { w with nextId := w.nextId + 1 }) = view c w :=
      fun c other => (frames c other _).view
    have grown : w.nextId + 1 ≤ (exec code { w with nextId := w.nextId + 1 }).nextId :=
      (frames (w.nextId + 1) (by omega) { w with nextId := w.nextId + 1 }).grown
    have made : Made w.nextId (view w.nextId (exec code { w with nextId := w.nextId + 1 })) :=
      moves { w with nextId := w.nextId + 1 } (by simpa using idle)
    refine ⟨⟨fun c => ?_, fun c later => ?_⟩, grown, fun c before => ?_, by simpa [call] using made⟩
    · by_cases own : c = w.nextId
      · subst own; exact .inr made
      · rw [kept c own]; exact sound.phase c
    · rw [kept c (by omega), sound.fresh c (by omega)]
    · rw [kept c (sound.lt_of_made before).ne]; exact before
  · refine ⟨⟨fun c => ?_, fun c later => ?_⟩, by simp, fun c before => ?_, ?_⟩
    · simpa using sound.phase c
    · simpa using sound.fresh c (by simp at later; omega)
    · simpa using before
    · simpa [call] using idle
  · have waited : Made entry.2.call (view entry.2.call w) := by
      refine (sound.phase _).resolve_left fun none => ?_
      have listed : entry.2 ∈ (view entry.2.call w).2 :=
        List.mem_filter.2 ⟨List.mem_map_of_mem _ mem, by simp⟩
      rw [none] at listed
      nomatch listed
    have timer := sound.lt_of_made waited
    have one : view entry.2.call w = ([], [entry.2]) := by
      have listed : entry.2 ∈ (view entry.2.call w).2 :=
        List.mem_filter.2 ⟨List.mem_map_of_mem _ mem, by simp⟩
      generalize view entry.2.call w = v at waited listed
      cases waited with
      | waiting t => simp_all
      | answered => simp at listed
    have erased : ∀ c ≠ entry.2.call, view c
        { w with nextId := w.nextId + 1, timers := w.timers.erase entry } = view c w :=
      fun c other => by simpa using view_erase_other mem (Ne.symm other)
    have kept : ∀ c ≠ entry.2.call, view c (exec (fire entry.2)
        { w with nextId := w.nextId + 1, timers := w.timers.erase entry }) = view c w :=
      fun c other => (Frames.fire (Ne.symm other) _).view.trans (erased c other)
    have fired : Made entry.2.call (view entry.2.call (exec (fire entry.2)
        { w with nextId := w.nextId + 1, timers := w.timers.erase entry })) :=
      Moves.fire rfl _ (by simpa using view_erase_own mem one)
    have grown : w.nextId + 1 ≤ (exec (fire entry.2)
        { w with nextId := w.nextId + 1, timers := w.timers.erase entry }).nextId :=
      (Frames.fire (c := w.nextId) timer.ne
        { w with nextId := w.nextId + 1, timers := w.timers.erase entry }).grown
    refine ⟨⟨fun c => ?_, fun c later => ?_⟩, by simpa using grown, fun c before => ?_, ?_⟩
    · by_cases own : c = entry.2.call
      · subst own; exact .inr fired
      · rw [kept c own]; exact sound.phase c
    · rw [kept c (by omega), sound.fresh c (by omega)]
    · by_cases own : c = entry.2.call
      · subst own; exact fired
      · rw [kept c own]; exact before
    · simpa [call, kept w.nextId timer.ne'] using idle

/-- A run keeps the world sound, and every call made stays `Made`. -/
theorem Sound.run (sound : Sound w) {inputs : List Input} (ran : run w inputs = some w') :
    Sound w' ∧ ∀ c, Made c (view c w) → Made c (view c w') := by
  induction inputs generalizing w with
  | nil => cases ran; exact ⟨sound, fun _ => id⟩
  | cons input inputs ih =>
      obtain ⟨mid, stepped, rest⟩ := Option.bind_eq_some.1 ran
      obtain ⟨sound', -, kept, -⟩ := sound.step stepped
      obtain ⟨final, kept'⟩ := ih sound' rest
      exact ⟨final, fun c made => kept' c (kept c made)⟩

theorem run_append (w : World) (first rest : List Input) :
    run w (first ++ rest) = (run w first).bind (run · rest) := by
  induction first generalizing w with
  | nil => rfl
  | cons input first ih =>
      show (step w input).bind (run · (first ++ rest)) =
        ((step w input).bind (run · first)).bind (run · rest)
      cases step w input with
      | none => rfl
      | some next => exact ih next

end Run

/-- A `'ready'` listener that throws rejects the `connect()` a `send()` awaits, outside the
`send()`'s `try`: the send is rejected and its callback never called. -/
example : ∃ w, run {} [.listen .ready true, .send true (some ⟨false, false⟩), .fire 2] = some w ∧
    view 1 w = ([.settled 1 (some (.listener .ready))], []) :=
  ⟨_, rfl, rfl⟩

/-- A producer closed before it ever connected still connects, and emits `'ready'`, when it is
given a record, before it rejects it with `'Producer is closed'`. -/
example : ∃ w, run {} [.close, .fire 1, .send true none, .fire 4] = some w ∧
    w.log = [.emitted .close, .settled 0 none, .emitted .ready, .settled 3 (some .closed)] :=
  ⟨_, rfl, rfl⟩

end KafkaClient.KafkaProducer
