import KafkaClient.BrokerConnection
import KafkaClient.EventLoop

/-! Runs of one `BrokerConnection`: what a failed dial does when nobody listens for `'error'`;
what `disconnect()` leaves of a socket's lifetime and of the dials in progress; the frames of a
stream, which all reach `handleResponse` however the stream is split, as long as the program
listens for `'error'` and no listener throws; and the correlation ids of its requests. -/

namespace KafkaClient.BrokerConnection

open EventLoop (Stays)

-- `'error'` with no listener

section Unheard

variable (error : Failure) (w : World) (unheard : ∀ entry ∈ w.listeners, entry.1 ≠ .error)
include unheard

theorem emit_error_unhandled :
    (emit .error (some error)).run.run w =
      (.error error, { w with emitted := w.emitted ++ [.error] }) := by
  have none_registered : w.listeners.filter (·.1 = .error) = [] := by
    rw [List.filter_eq_nil_iff]; simpa using unheard
  simp [emit, none_registered]

theorem onError_unhandled :
    (onError error).run.run w = (.error error, { w with emitted := w.emitted ++ [.error] }) := by
  simp [onError, emit_error_unhandled error w unheard]

theorem onSocketError_unhandled (dial : Nat) :
    (onSocketError dial error).run.run w =
      (.error error, { w with emitted := w.emitted ++ [.error] }) := by
  simp [onSocketError, onError_unhandled error w unheard]

theorem onConnectTimeout_unhandled (dial : Nat) :
    (onConnectTimeout dial).run.run w =
      (.error .connectionTimedOut, { w with emitted := w.emitted ++ [.error] }) := by
  simp [onConnectTimeout, onError_unhandled .connectionTimedOut w unheard]

end Unheard

theorem runTask_of_error {task : JS Unit} {w next : World} {e : Failure}
    (threw : task.run.run w = (.error e, next)) : runTask task w = { next with halted := true } := by
  simp [runTask, threw]

theorem step_halted (config : Config) (w : World) (input : Input) (halted : w.halted = true) :
    step config w input = none := by
  simp [step, halted]

section Dial

variable (config : Config) (w : World) (s timer : Nat) (socket : Socket)
  (running : w.halted = false) (dialed : w.sockets[s]? = some socket)
  (attached : socket.attached = true) (live : socket.errored = false ∧ socket.closed = false)
  (armed : w.timers.find? (·.id = timer) = some (.connectTimeout timer socket.dial))
  (unheard : ∀ entry ∈ w.listeners, entry.1 ≠ .error)

include running dialed attached live unheard in
theorem step_socketError_unheard :
    step config w (.socketError s) = some { w with
      sockets := w.sockets.set s { socket with errored := true }
      emitted := w.emitted ++ [.error]
      halted := true } := by
  have threw := onSocketError_unhandled (.transport s)
    { w with sockets := w.sockets.set s { socket with errored := true } } unheard socket.dial
  rw [step, if_neg (by simp [running])]
  simp only [socketEvent, dialed]
  rw [if_pos (by simp [live.1, live.2]), if_pos attached, runTask_of_error threw]

include running armed unheard in
theorem step_connectTimeout_unheard :
    step config w (.timerFires timer) = some { w with
      timers := w.timers.filter (·.id ≠ timer)
      emitted := w.emitted ++ [.error]
      halted := true } := by
  have threw := onConnectTimeout_unhandled
    { w with timers := w.timers.filter (·.id ≠ timer) } unheard socket.dial
  rw [step, if_neg (by simp [running])]
  simp only [armed]
  rw [runTask_of_error threw]

include running dialed attached live armed unheard in
/-- A dial of a connection with no `'error'` listener, as `NetworkClient` leaves its seed
connections: when the socket errors, or when the connect timer fires, `onError`'s
`emit('error')` throws, nothing catches it, and the process stops before the dial's `reject`
runs. The promise `connect()` returned never settles, and nothing runs after. -/
theorem failed_dial_without_error_listener_stops :
    (∃ next, step config w (.socketError s) = some next ∧ next.halted = true ∧
      next.settled = w.settled ∧ ∀ input, step config next input = none) ∧
    (∃ next, step config w (.timerFires timer) = some next ∧ next.halted = true ∧
      next.settled = w.settled ∧ ∀ input, step config next input = none) :=
  ⟨⟨_, step_socketError_unheard config w s socket running dialed attached live unheard, rfl, rfl,
      fun input => step_halted config _ input rfl⟩,
    ⟨_, step_connectTimeout_unheard config w timer socket running armed unheard, rfl, rfl,
      fun input => step_halted config _ input rfl⟩⟩

end Dial

/-- The constructor's defaults, with an empty client id. In the runs below, from a new connection,
`connect()` takes promise 0, dials socket 0 and arms timer 1; its `'connect'` event arms the
request sweep, timer 2; the next promise is 3. -/
def defaults : Config := Config.withDefaults [] 0 0

theorem failed_first_dial_without_error_listener_stops :
    let dialing := runTask (do let _ ← connect) (World.init 0)
    (∃ next, step defaults dialing (.socketError 0) = some next ∧ next.halted = true ∧
      next.settled = dialing.settled ∧ ∀ input, step defaults next input = none) ∧
    (∃ next, step defaults dialing (.timerFires 1) = some next ∧ next.halted = true ∧
      next.settled = dialing.settled ∧ ∀ input, step defaults next input = none) :=
  failed_dial_without_error_listener_stops _ _ 0 1 ⟨0, true, true, false, false, false, false, false, []⟩
    (by decide) (by decide) rfl ⟨rfl, rfl⟩ (by decide) (by decide)

-- What `handleResponse` runs leaves alone

/-- The program listens for `'error'` with a listener that returns, and none of its listeners
throws. -/
structure Heard (listeners : List (Event × Listener)) : Prop where
  error : (Event.error, Listener.program false) ∈ listeners
  returns : ∀ entry ∈ listeners, entry.2 ≠ .program true

/-- A socket whose `'data'` reaches `handleIncomingData`. -/
def Socket.receives (k : Socket) : Bool :=
  k.attached && k.connected && !k.readEnded && !k.errored && !k.closed

def Readable (w : World) (s : Nat) : Prop :=
  (w.sockets.map Socket.receives)[s]? = some true

/-- What the code `handleResponse` runs leaves alone. -/
structure Aside (w w' : World) : Prop where
  buffer : w'.buffer = w.buffer
  responseBuffers : w'.responseBuffers = w.responseBuffers
  receives : w'.sockets.map Socket.receives = w.sockets.map Socket.receives
  halted : w'.halted = w.halted
  heard : Heard w.listeners → Heard w'.listeners

theorem Aside.of_frame {w w' : World} (buffer : w'.buffer = w.buffer)
    (responseBuffers : w'.responseBuffers = w.responseBuffers) (sockets : w'.sockets = w.sockets)
    (halted : w'.halted = w.halted) (listeners : w'.listeners = w.listeners) : Aside w w' :=
  ⟨buffer, responseBuffers, by rw [sockets], halted, listeners ▸ id⟩

instance : IsPreorder World Aside where
  refl _ := .of_frame rfl rfl rfl rfl rfl
  trans _ _ _ first second :=
    ⟨second.buffer.trans first.buffer, second.responseBuffers.trans first.responseBuffers,
      second.receives.trans first.receives, second.halted.trans first.halted,
      second.heard ∘ first.heard⟩

theorem map_modify_receives (f : Socket → Socket) (same : ∀ k, (f k).receives = k.receives)
    (n : Nat) (sockets : List Socket) :
    (sockets.modify f n).map Socket.receives = sockets.map Socket.receives := by
  refine List.ext_getElem? fun m => ?_
  simp only [List.getElem?_map, List.getElem?_modify]
  cases sockets[m]? <;> simp only [Option.map_none', Option.map_some', Option.map_eq_map]
  split <;> simp [same]

/-- Code that leaves alone what `Aside` keeps, whatever it returns or throws. -/
def Spares {α : Type} (code : JS α) : Prop :=
  Stays Aside code

namespace Spares

theorem settle (promise : Nat) (settlement : Settlement) : Spares (settle promise settlement) := by
  intro w
  simp only [BrokerConnection.settle, run_modify]
  split <;> exact .of_frame rfl rfl rfl rfl rfl

theorem callListener (event : Event) (arg : Option Failure) (listener : Listener) :
    Spares (callListener event arg listener) := by
  cases listener with
  | program throws => cases throws <;> [exact Stays.pure (); exact Stays.throw _]
  | joiner promise =>
      refine Stays.bind (fun w => ⟨rfl, rfl, rfl, rfl, fun heard => ⟨?_, ?_⟩⟩) fun _ => ?_
      · exact (List.mem_erase_of_ne (by simp)).2 heard.error
      · exact fun entry mem => heard.returns entry (List.mem_of_mem_erase mem)
      · cases arg <;> exact settle _ _

theorem emit (event : Event) (arg : Option Failure) : Spares (emit event arg) :=
  Stays.get_bind fun _ => Stays.bind (fun _ => .of_frame rfl rfl rfl rfl rfl) fun _ =>
    Stays.ite (fun _ => Stays.throw _) fun _ =>
      Stays.forM _ fun listener _ => callListener event arg listener

theorem clearConnectionTimeout : Spares clearConnectionTimeout :=
  Stays.get_bind fun _ => by
    split
    · exact Stays.bind (fun _ => .of_frame rfl rfl rfl rfl rfl) fun _ =>
        fun _ => .of_frame rfl rfl rfl rfl rfl
    · exact Stays.pure _

theorem stopRequestTimeoutTimer : Spares stopRequestTimeoutTimer :=
  Stays.get_bind fun _ => by
    split
    · exact Stays.bind (fun _ => .of_frame rfl rfl rfl rfl rfl) fun _ =>
        fun _ => .of_frame rfl rfl rfl rfl rfl
    · exact Stays.pure _

theorem rejectInFlight (error : Failure) : Spares (rejectInFlight error) :=
  Stays.get_bind fun _ => Stays.bind (Stays.forM _ fun _ _ => settle _ _) fun _ =>
    fun _ => .of_frame rfl rfl rfl rfl rfl

/-- `disconnect()` ends the socket but leaves its handlers on it. -/
theorem disconnect : Spares disconnect :=
  Stays.get_bind fun w => by
    dsimp only
    split
    · exact Stays.pure _
    · refine Stays.bind (Stays.pure _) fun _ => Stays.bind (fun _ => .of_frame rfl rfl rfl rfl rfl)
        fun _ => Stays.bind clearConnectionTimeout fun _ => Stays.bind stopRequestTimeoutTimer
        fun _ => Stays.bind (rejectInFlight _) fun _ => Stays.get_bind fun w => ?_
      split
      · exact Stays.bind (fun w => ⟨rfl, rfl,
            map_modify_receives (fun s => { s with ended := true }) (fun _ => rfl) _ _, rfl, id⟩)
          fun _ => Stays.bind (fun _ => .of_frame rfl rfl rfl rfl rfl) fun _ =>
          Stays.bind (fun _ => .of_frame rfl rfl rfl rfl rfl) fun _ => emit _ _
      · exact Stays.bind (Stays.pure _) fun _ => Stays.bind (fun _ => .of_frame rfl rfl rfl rfl rfl)
          fun _ => emit _ _

theorem onError (error : Failure) : Spares (onError error) :=
  Stays.bind (emit _ _) fun _ => Stays.tryCatch disconnect fun _ => Stays.pure _

end Spares

-- `disconnect()`

/-- `disconnect()` neither clears the buffer nor takes the handlers off the socket, which keeps
receiving: what is left of one socket's lifetime reaches into the next. -/
theorem disconnect_keeps_buffer_and_handlers (w : World) :
    (disconnect.run.run w).2.buffer = w.buffer ∧
      (disconnect.run.run w).2.sockets.map Socket.receives = w.sockets.map Socket.receives :=
  ⟨(Spares.disconnect w).buffer, (Spares.disconnect w).receives⟩

/-- Nothing stops a socket's lifetime from reaching into the next one. Bytes of an unfinished
frame stay in the buffer across `disconnect()` and a new dial; the peer's end of a socket
abandoned by `disconnect()`, arriving after a reconnect, tears down the new dial; and a socket
abandoned while dialing connects into a disconnected connection, which becomes `CONNECTED`
with no socket. -/
theorem stale_socket_crosses_lifetimes :
    (run defaults (World.init 0) [.connect, .socketConnect 0, .socketData 0 [0, 0, 0, 9, 1],
        .disconnect, .connect]).map
      (fun w => w.socket == some 1 && w.buffer == some [0, 0, 0, 9, 1]) = some true ∧
    (run defaults (World.init 0) [.connect, .socketConnect 0, .disconnect, .connect]).map
      (fun w => w.state == .connecting && w.socket == some 1) = some true ∧
    (run defaults (World.init 0) [.connect, .socketConnect 0, .disconnect, .connect,
        .socketEnd 0]).map
      (fun w => w.state == .disconnected && w.socket.isNone) = some true ∧
    (run defaults (World.init 0) [.connect, .disconnect]).map (·.state) = some .disconnected ∧
    (run defaults (World.init 0) [.connect, .disconnect, .socketConnect 0]).map
      (fun w => w.state == .connected && w.socket.isNone) = some true :=
  ⟨by decide!, by decide!, by decide!, by decide!, by decide!⟩

/-- A `connect()` that joins a dial, then `disconnect()` while `CONNECTING`: the connection
leaves `CONNECTING`, and neither the dialing call's promise nor the joining call's is settled,
since `disconnect()` emits `'disconnect'` and neither `'connect'` nor `'error'`. -/
theorem disconnect_while_connecting_strands_dials :
    (run defaults (World.init 0) [.connect, .connect]).map (·.state) = some .connecting ∧
    (run defaults (World.init 0) [.connect, .connect, .disconnect]).map
      (fun w => w.state == .disconnected && (w.settled.lookup 0).isNone &&
        (w.settled.lookup 2).isNone) = some true :=
  ⟨by decide!, by decide!⟩

/-- `'disconnect'` for dials that never reached `CONNECTED`: `disconnect()` during the dial
emits it, and so does a socket error during the dial, through `onError`'s `disconnect()`. -/
theorem disconnect_emitted_for_failed_dial :
    (run defaults (World.init 0) [.connect, .disconnect]).map (·.emitted) = some [.disconnect] ∧
    (run defaults (World.listening [(.error, .program false)]) [.connect, .socketError 0]).map
      (·.emitted) = some [.error, .disconnect] :=
  ⟨by decide!, by decide!⟩

-- Every frame reaches `handleResponse`

theorem callListener_ok (event : Event) (arg : Option Failure) {listener : Listener}
    (returns : listener ≠ .program true) (w : World) :
    ((callListener event arg listener).run.run w).1 = .ok () := by
  cases listener with
  | program throws => cases throws <;> [rfl; exact absurd rfl returns]
  | joiner promise => cases arg <;> rfl

theorem forM_ok {α : Type} {items : List α} {body : α → JS Unit}
    (each : ∀ a ∈ items, ∀ w, ((body a).run.run w).1 = .ok ()) (w : World) :
    ((items.forM body).run.run w).1 = .ok () := by
  induction items generalizing w with
  | nil => rfl
  | cons a items ih =>
      rw [List.forM, run_bind]
      rcases h : (body a).run.run w with ⟨_ | _, next⟩
      · cases h ▸ each a (.head _) w
      · exact ih (fun b mem => each b (.tail _ mem)) next

/-- `emit` returns when the event is not `'error'` and none of its listeners throws. -/
theorem emit_ok {event : Event} (arg : Option Failure) (notError : event ≠ .error) {w : World}
    (returns : (event, Listener.program true) ∉ w.listeners) :
    ((emit event arg).run.run w).1 = .ok () := by
  simp only [emit, run_bind, run_get, run_modify, notError, false_and, if_false]
  refine forM_ok (fun listener mem => callListener_ok event arg ?_) _
  simp only [List.mem_map, List.mem_filter] at mem
  obtain ⟨entry, ⟨present, same⟩, rfl⟩ := mem
  rintro throws
  exact returns (by simpa [← throws, ← of_decide_eq_true same] using present)

/-- Under `Heard`, `emit` returns: `'error'` has a listener, and none throws. -/
theorem emit_heard (event : Event) (arg : Option Failure) {w : World} (heard : Heard w.listeners) :
    ((emit event arg).run.run w).1 = .ok () := by
  have registered : ¬(event = .error ∧ (w.listeners.filter (·.1 = event)).map (·.2) = []) := by
    rintro ⟨rfl, unheard⟩
    simp only [List.map_eq_nil_iff, List.filter_eq_nil_iff, decide_eq_true_eq] at unheard
    exact unheard _ heard.error rfl
  simp only [emit, run_bind, run_get, run_modify, if_neg registered]
  refine forM_ok (fun listener mem => callListener_ok event arg ?_) _
  simp only [List.mem_map, List.mem_filter] at mem
  obtain ⟨entry, ⟨present, -⟩, rfl⟩ := mem
  exact heard.returns entry present

/-- `onError` returns under `Heard`: its `emit('error')` is heard, and what `disconnect()`
throws is caught. -/
theorem onError_heard (error : Failure) {w : World} (heard : Heard w.listeners) :
    ((onError error).run.run w).1 = .ok () := by
  have emitted := emit_heard .error (some error) heard
  simp only [onError, run_bind, run_tryCatch]
  rcases ran : (BrokerConnection.emit .error (some error)).run.run w with ⟨_ | _, next⟩
  · rw [ran] at emitted; cases emitted
  · dsimp only
    rcases disconnect.run.run next with ⟨_ | _, _⟩ <;> rfl

/-- Code whose errors go to `onError` returns under `Heard`. -/
theorem tryCatch_onError {body : JS Unit} (spares : Spares body) {w : World}
    (heard : Heard w.listeners) :
    ∃ w', (tryCatch body onError).run.run w = (.ok (), w') ∧ Aside w w' := by
  have kept := spares w
  rw [run_tryCatch]
  rcases ran : body.run.run w with ⟨_ | _, next⟩ <;> rw [ran] at kept
  · exact ⟨_, Prod.ext (onError_heard _ (kept.heard heard)) rfl,
      trans_of Aside kept (Spares.onError _ next)⟩
  · exact ⟨next, rfl, kept⟩

theorem handleResponse_heard (responseBuffer : Bytes) {w : World} (heard : Heard w.listeners) :
    ∃ w', (handleResponse responseBuffer).run.run w = (.ok (), w') ∧
      Aside { w with responseBuffers := w.responseBuffers ++ [responseBuffer] } w' := by
  simp only [handleResponse, run_bind, run_modify]
  refine tryCatch_onError ?_ heard
  split
  · refine Stays.get_bind fun w => ?_
    split
    · refine Stays.bind (fun _ => .of_frame rfl rfl rfl rfl rfl) fun _ =>
        Stays.bind (Spares.emit _ _) fun _ => ?_
      split
      · split
        · split
          · exact Stays.bind (Spares.emit _ _) fun _ => Spares.settle _ _
          · exact Spares.settle _ _
        · exact Stays.throw _
      · exact Spares.settle _ _
    · exact Stays.pure _
  · exact Stays.throw _

theorem forM_handleResponse_heard (messages : List Bytes) {w : World} (heard : Heard w.listeners) :
    ∃ w', (messages.forM handleResponse).run.run w = (.ok (), w') ∧
      Aside { w with responseBuffers := w.responseBuffers ++ messages } w' := by
  induction messages generalizing w with
  | nil => exact ⟨w, rfl, ⟨rfl, (List.append_nil _).symm, rfl, rfl, id⟩⟩
  | cons message messages ih =>
      obtain ⟨next, handled, first⟩ := handleResponse_heard message heard
      obtain ⟨last, rest, second⟩ := ih (first.heard heard)
      refine ⟨last, by rw [List.forM, run_bind, handled]; exact rest, ?_⟩
      exact ⟨second.buffer.trans first.buffer,
        by rw [second.responseBuffers, first.responseBuffers, List.append_assoc]; rfl,
        second.receives.trans first.receives, second.halted.trans first.halted,
        second.heard ∘ first.heard⟩

/-- A chunk whose loop exits, under `Heard`: every message the loop peels reaches
`handleResponse`, and the buffer is left as the pure loop leaves it. -/
theorem handleIncomingData_heard (data : Bytes) {w : World} (heard : Heard w.listeners)
    (exits : ∃ processed, (Frames.handleIncomingData w.buffer data).2.1 = .exited processed) :
    ∃ w', (handleIncomingData data).run.run w = (.ok (), w') ∧
      Aside { w with
        buffer := (Frames.handleIncomingData w.buffer data).2.2
        responseBuffers := w.responseBuffers ++ (Frames.handleIncomingData w.buffer data).1 } w' := by
  obtain ⟨processed, exits⟩ := exits
  have ran : (emit .bytesIn none).run.run w = (.ok (), ((emit .bytesIn none).run.run w).2) :=
    Prod.ext (emit_heard .bytesIn none heard) rfl
  have first := Spares.emit .bytesIn none w
  generalize ((emit .bytesIn none).run.run w).2 = next at ran first
  simp only [handleIncomingData, run_bind, ran, run_get, run_modify, first.buffer]
  simp only [Frames.handleIncomingData] at exits ⊢
  generalize Frames.appendPending w.buffer data = buffer at exits ⊢
  rcases peeled : Frames.peel buffer (buffer.length + 1) 0 with ⟨messages, ending⟩
  rw [peeled] at exits
  cases ending with
  | threw => cases exits
  | diverged => cases exits
  | exited processed =>
      obtain ⟨last, handled, second⟩ :=
        @forM_handleResponse_heard messages { next with buffer := some buffer } (first.heard heard)
      refine ⟨{ last with buffer := Frames.keepRest buffer processed }, ?_, ?_⟩
      · simp only [handled]
        rfl
      · exact ⟨rfl, second.responseBuffers.trans (by rw [first.responseBuffers]),
          second.receives.trans first.receives, second.halted.trans first.halted,
          second.heard ∘ first.heard⟩

theorem set_of_getElem?_eq {sockets : List Socket} {s : Nat} {k : Socket}
    (found : sockets[s]? = some k) : sockets.set s k = sockets :=
  List.ext_getElem? fun i => by
    rw [List.getElem?_set]
    split
    · next same => subst same; rw [if_pos (List.getElem?_eq_some_iff.1 found).1, found]
    · rfl

/-- A `'data'` event of a socket that receives, whose loop exits, under `Heard`. -/
theorem step_socketData_heard (config : Config) (s : Nat) (data : Bytes) {w : World}
    (heard : Heard w.listeners) (readable : Readable w s) (running : w.halted = false)
    (nonempty : data ≠ [])
    (exits : ∃ processed, (Frames.handleIncomingData w.buffer data).2.1 = .exited processed) :
    ∃ w', step config w (.socketData s data) = some w' ∧
      Aside { w with
        buffer := (Frames.handleIncomingData w.buffer data).2.2
        responseBuffers := w.responseBuffers ++ (Frames.handleIncomingData w.buffer data).1 } w' := by
  rw [Readable, List.getElem?_map, Option.map_eq_some'] at readable
  obtain ⟨k, found, receives⟩ := readable
  simp only [Socket.receives, Bool.and_eq_true, Bool.not_eq_true'] at receives
  obtain ⟨⟨⟨⟨attached, connected⟩, readEnded⟩, errored⟩, closed⟩ := receives
  obtain ⟨w', handled, aside⟩ := handleIncomingData_heard data heard exits
  refine ⟨w', ?_, aside⟩
  rw [step, if_neg (by simp [running])]
  simp only [socketEvent, found, id, set_of_getElem?_eq found]
  rw [if_pos (by simp [connected, readEnded, errored, closed, nonempty]), if_pos attached]
  show some (runTask (handleIncomingData data) w) = some w'
  simp only [runTask, handled]

/-- Chunk after chunk on a socket that receives, under `Heard`, while every loop exits: the
messages reaching `handleResponse` and the buffer left are those of `Frames.feed`. -/
theorem run_socketData_heard (config : Config) (s : Nat) (chunks : List Bytes) {w : World}
    (heard : Heard w.listeners) (readable : Readable w s) (running : w.halted = false)
    (nonempty : ∀ chunk ∈ chunks, chunk ≠ []) (drained : Frames.drains w.buffer chunks = true) :
    ∃ w', run config w (chunks.map (.socketData s)) = some w' ∧
      Aside { w with
        buffer := (Frames.feed w.buffer chunks).2
        responseBuffers := w.responseBuffers ++ (Frames.feed w.buffer chunks).1 } w' := by
  induction chunks generalizing w with
  | nil => exact ⟨w, rfl, ⟨rfl, (List.append_nil _).symm, rfl, rfl, id⟩⟩
  | cons chunk chunks ih =>
      rw [Frames.drains] at drained
      rcases handled : Frames.handleIncomingData w.buffer chunk with ⟨messages, ending, next⟩
      rw [handled] at drained
      cases ending with
      | threw => cases drained
      | diverged => cases drained
      | exited processed =>
          obtain ⟨mid, stepped, first⟩ := step_socketData_heard config s chunk heard readable running
            (nonempty chunk (.head _)) ⟨processed, by rw [handled]⟩
          rw [handled] at first
          dsimp only at first drained
          have readable' : Readable mid s := by rw [Readable, first.receives]; exact readable
          obtain ⟨last, ran, second⟩ := ih (first.heard heard) readable'
            (first.halted.trans running) (fun c mem => nonempty c (.tail _ mem))
            (by rw [first.buffer]; exact drained)
          refine ⟨last, by rw [List.map_cons, run, stepped, Option.some_bind, ran], ?_⟩
          rw [first.buffer] at second
          rw [Frames.feed, handled]
          dsimp only
          rcases fed : Frames.feed next chunks with ⟨rest, final⟩
          rw [fed] at second
          exact ⟨second.buffer, second.responseBuffers.trans (by
              rw [first.responseBuffers, List.append_assoc]),
            second.receives.trans first.receives, second.halted.trans first.halted,
            second.heard ∘ first.heard⟩

/-- A `'response'` listener that throws, with an `'error'` listener that returns: the response
takes the request out of the table, the listener's exception goes to `onError`, whose
`disconnect()` rejects only what is still in the table, so the request's promise is removed
without being settled. -/
theorem throwing_response_listener_strands_request :
    (run defaults (World.listening [(.response, .program true), (.error, .program false)])
        [.connect, .socketConnect 0, .send 18 0 [] 0, .writeDone 0 false]).map
      (fun w => w.inFlightRequests.map (·.promise) == [3] && (w.settled.lookup 3).isNone) =
        some true ∧
    (run defaults (World.listening [(.response, .program true), (.error, .program false)])
        [.connect, .socketConnect 0, .send 18 0 [] 0, .writeDone 0 false,
          .socketData 0 [0, 0, 0, 4, 0, 0, 0, 1]]).map
      (fun w => w.inFlightRequests.isEmpty && w.writes.isEmpty && (w.settled.lookup 3).isNone) =
        some true :=
  ⟨by decide!, by decide!⟩

-- Correlation ids

/-- `k` consecutive `nextCorrelationId()` calls, and the ids they return, in order. -/
def nextCorrelationIds : Nat → JS (List Nat)
  | 0 => pure []
  | k + 1 => do
      let correlationId ← nextCorrelationId
      let correlationIds ← nextCorrelationIds k
      pure (correlationId :: correlationIds)

/-- The `i`th of `k` consecutive calls returns the counter plus `i + 1`, modulo `2147483647`;
the calls never throw. -/
theorem nextCorrelationIds_run (k : Nat) (w : World) : ∃ w',
    (nextCorrelationIds k).run.run w =
      (.ok ((List.range k).map fun i => (w.correlationIdCounter + i + 1) % 2147483647), w') := by
  induction k generalizing w with
  | zero => exact ⟨w, rfl⟩
  | succ k ih =>
      obtain ⟨w', rest⟩ :=
        ih { w with correlationIdCounter := (w.correlationIdCounter + 1) % 2147483647 }
      refine ⟨w', ?_⟩
      simp only [nextCorrelationIds, nextCorrelationId, run_bind, run_modifyGet, rest, run_pure,
        List.range_succ_eq_map, List.map_cons, List.map_map, add_zero]
      congr 3
      exact List.map_congr_left fun i _ => by simp only [Function.comp_apply]; omega

theorem correlation_ids_wrap_with_period (w : World) (fresh : w.correlationIdCounter = 0)
    (k : Nat) :
    ∃ ids, ((nextCorrelationIds k).run.run w).1 = .ok ids ∧
      ids = (List.range k).map (fun i => (i + 1) % 2147483647) ∧
      (∀ id ∈ ids, id ≤ 2 ^ 31 - 2 ∧ ∃ bytes, writeIntBE 4 id = some bytes) ∧
      (∀ i j, i < j → j < i + (2 ^ 31 - 1) → j < k → ids[i]? ≠ ids[j]?) ∧
      (∀ i, i + (2 ^ 31 - 1) < k → ids[i + (2 ^ 31 - 1)]? = ids[i]?) := by
  obtain ⟨w', called⟩ := nextCorrelationIds_run k w
  simp only [fresh, zero_add] at called
  have entry (i : Nat) (inside : i < k) :
      ((List.range k).map fun i => (i + 1) % 2147483647)[i]? = some ((i + 1) % 2147483647) := by
    rw [List.getElem?_map, List.getElem?_range inside]; rfl
  refine ⟨_, by rw [called], rfl, fun id listed => ?_, fun i j before window inside => ?_,
    fun i inside => ?_⟩
  · obtain ⟨i, -, rfl⟩ := List.mem_map.mp listed
    have below : (i + 1) % 2147483647 < 2147483647 := Nat.mod_lt _ (by decide)
    exact ⟨by norm_num; omega, _, if_pos ⟨by norm_num; omega, by norm_num; omega⟩⟩
  · rw [entry i (by omega), entry j inside, ne_eq, Option.some.injEq]
    omega
  · rw [entry _ inside, entry i (by omega), Option.some.injEq]
    omega

theorem fresh_connection_ids_wrap :
    (World.init 0).correlationIdCounter = 0 ∧
    ∃ ids, ((nextCorrelationIds 3).run.run (World.init 0)).1 = .ok ids ∧
      ids = (List.range 3).map (fun i => (i + 1) % 2147483647) ∧
      (∀ id ∈ ids, id ≤ 2 ^ 31 - 2 ∧ ∃ bytes, writeIntBE 4 id = some bytes) ∧
      (∀ i j, i < j → j < i + (2 ^ 31 - 1) → j < 3 → ids[i]? ≠ ids[j]?) ∧
      (∀ i, i + (2 ^ 31 - 1) < 3 → ids[i + (2 ^ 31 - 1)]? = ids[i]?) :=
  ⟨rfl, correlation_ids_wrap_with_period (World.init 0) rfl 3⟩

end KafkaClient.BrokerConnection
