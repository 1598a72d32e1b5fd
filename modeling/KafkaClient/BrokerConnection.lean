import KafkaClient.Frames

/-! `BrokerConnection` and the event loop around it. The connection's fields, its methods as
code of a state-and-exception monad over the whole world (an exception keeps the effects made
before it, as in JavaScript), and one macrotask per input: a call of the program using the
connection, an event of a socket it dialed, a timer, a write callback, or the clock. Sockets,
timers, promises and listeners are named by numbers; an exception that leaves a macrotask is
uncaught and stops the process. -/

namespace KafkaClient.BrokerConnection

-- Headers (`protocol/Headers`)

/-- `RequestHeader.encode`: api key, api version, correlation id, then the client id as a
nullable string, an empty client id being written as null. The client id is given as its
UTF-8 bytes; `writeInt16BE` and `writeInt32BE` throw on a value out of range. -/
def requestHeaderEncode (apiKey apiVersion correlationId : Int) (clientId : Bytes) :
    Option Bytes := do
  let apiKeyBytes ← writeIntBE 2 apiKey
  let apiVersionBytes ← writeIntBE 2 apiVersion
  let correlationIdBytes ← writeIntBE 4 correlationId
  if clientId ≠ [] then
    let lengthBytes ← writeIntBE 2 clientId.length
    pure (apiKeyBytes ++ apiVersionBytes ++ correlationIdBytes ++ lengthBytes ++ clientId)
  else
    let nullBytes ← writeIntBE 2 (-1)
    pure (apiKeyBytes ++ apiVersionBytes ++ correlationIdBytes ++ nullBytes)

def requestHeaderDecode {Text : Type} (utf8 : Utf8 Text) (buffer : Bytes) :
    Option (Int × Int × Int × Text) := do
  let apiKey ← readIntBE 2 buffer 0
  let apiVersion ← readIntBE 2 buffer 2
  let correlationId ← readIntBE 4 buffer 4
  let clientIdLength ← readIntBE 2 buffer 8
  let clientId :=
    if clientIdLength ≥ 0 then utf8.toString buffer 10 (10 + clientIdLength) else utf8.decode []
  pure (apiKey, apiVersion, correlationId, clientId)

def responseHeaderDecode (buffer : Bytes) : Option (Int × Nat) :=
  (readIntBE 4 buffer 0).map fun correlationId => (correlationId, 4)

-- The connection and its world

inductive ConnectionState where
  | disconnected
  | connecting
  | connected
  | closing
  deriving DecidableEq, Repr

inductive Event where
  | connect
  | disconnect
  | error
  | request
  | response
  | throttle
  | bytesOut
  | bytesIn
  deriving DecidableEq, Repr

/-- What is thrown, or what a promise is rejected with. -/
inductive Failure where
  | notConnected  -- `DisconnectedError('Not connected to broker')`
  | connectionClosed  -- `DisconnectedError('Connection closed')`
  | brokerClosedConnection  -- `DisconnectedError('Broker closed connection')`
  | connectionTimedOut  -- `TimeoutError('Connection to host:port timed out after ...ms')`
  | socketTimedOut  -- `TimeoutError('Socket timeout after ...ms')`
  -- `TimeoutError('Request timed out after {age}ms (correlationId: {id}, ...)')`
  | requestTimedOut (age correlationId : Int)
  -- `KafkaError('Request size {totalSize} bytes exceeds max size ...')`
  | requestTooLarge (totalSize : Int)
  | transport (socket : Nat)  -- an error a socket emitted
  | writeFailed (socket : Nat)  -- the error a failed write passes to its callback
  | thrownBy (event : Event)  -- what a listener of the event threw
  | rangeError  -- a `RangeError` of a buffer read or write
  | nullSocket  -- the `TypeError` of `this.socket!.write` on a null socket
  | unhandledError  -- `emit('error')` with no listener and no error argument
  | loopNeverEnds  -- the `while` loop of `handleIncomingData` never ends
  deriving DecidableEq, Repr

/-- A listener on the connection: one of the program using it, which returns or throws, or
the `once` listener pair of a `connect()` call that joined a dial in progress: its `resolve`
on `'connect'` and its `reject` on `'error'`. -/
inductive Listener where
  | program (throws : Bool)
  | joiner (promise : Nat)
  deriving DecidableEq, Repr

inductive Settlement where
  | resolved (value : Bytes)
  | rejected (reason : Failure)
  deriving DecidableEq, Repr

structure Request where
  correlationId : Int
  sentTime : Nat
  timeout : Int
  promise : Nat
  deriving DecidableEq, Repr

/-- A socket `connect()` dialed. `dial` is the promise whose `resolve` and `reject` its handlers
close over; `attached` says the handlers are still on it, `timeoutArmed` that the `once`
callback of `setTimeout` is. The other flags are the socket's own progress. -/
structure Socket where
  dial : Nat
  attached : Bool
  timeoutArmed : Bool
  connected : Bool
  readEnded : Bool
  errored : Bool
  closed : Bool
  ended : Bool
  written : List Bytes
  deriving DecidableEq, Repr

inductive Timer where
  -- the `setTimeout` of `connect()`, whose callback rejects the promise `dial`
  | connectTimeout (id dial : Nat)
  | requestSweep (id : Nat)  -- the `setInterval` of `startRequestTimeoutTimer`
  deriving DecidableEq, Repr

def Timer.id : Timer → Nat
  | .connectTimeout id _ => id
  | .requestSweep id => id

structure Write where
  socket : Nat
  correlationId : Int
  promise : Nat
  deriving DecidableEq, Repr

/-- The connection's fields, then the event loop around it: sockets, armed timers, pending
write callbacks, settled promises (the first settlement of a promise is its only one), the
next fresh number, the clock (`Date.now()`), every event emitted and every message handed to
`handleResponse`, in order, and whether the process has stopped. -/
structure World where
  state : ConnectionState
  socket : Option Nat
  correlationIdCounter : Nat
  inFlightRequests : List Request
  buffer : Option Bytes
  connectionTimeout : Option Nat
  requestTimeoutInterval : Option Nat
  listeners : List (Event × Listener)
  sockets : List Socket
  timers : List Timer
  writes : List Write
  settled : List (Nat × Settlement)
  fresh : Nat
  clock : Nat
  emitted : List Event
  responseBuffers : List Bytes
  halted : Bool
  deriving DecidableEq, Repr

def World.init (clock : Nat) : World :=
  ⟨.disconnected, none, 0, [], none, none, none, [], [], [], [], [], 0, clock, [], [], false⟩

def World.listening (listeners : List (Event × Listener)) : World :=
  { World.init 0 with listeners := listeners }

structure Config where
  clientId : Bytes
  maxRequestSize : Int
  requestTimeout : Int
  deriving DecidableEq, Repr

def Config.withDefaults (clientId : Bytes) (maxRequestSize requestTimeout : Int) : Config :=
  ⟨clientId, if maxRequestSize = 0 then 100 * 1024 * 1024 else maxRequestSize,
    if requestTimeout = 0 then 30000 else requestTimeout⟩

/-- Code that runs on the world and may throw, keeping the effects made before the throw. -/
abbrev JS := ExceptT Failure (StateM World)

-- Running code: one lemma per construct, so that proofs never unfold the monad

@[simp] theorem run_bind {α β : Type} (x : JS α) (f : α → JS β) (w : World) :
    (x >>= f).run.run w = match x.run.run w with
      | (.ok a, next) => (f a).run.run next
      | (.error e, next) => (.error e, next) := by
  rcases h : x.run.run w with ⟨_ | _, next⟩ <;> (simp only [ExceptT.run_bind, StateT.run_bind, h]; rfl)

@[simp] theorem run_tryCatch {α : Type} (x : JS α) (handler : Failure → JS α) (w : World) :
    (tryCatch x handler).run.run w = match x.run.run w with
      | (.ok a, next) => (.ok a, next)
      | (.error e, next) => (handler e).run.run next := by
  show (ExceptT.tryCatch x handler).run.run w = _
  rcases h : x.run.run w with ⟨_ | _, next⟩ <;>
    simp only [ExceptT.tryCatch, ExceptT.run, ExceptT.mk, StateT.run_bind] at h ⊢ <;> simp [h]

@[simp] theorem run_get (w : World) : (get : JS World).run.run w = (.ok w, w) := rfl

@[simp] theorem run_modify (f : World → World) (w : World) :
    (modify f : JS Unit).run.run w = (.ok (), f w) := rfl

@[simp] theorem run_modifyGet {α : Type} (f : World → α × World) (w : World) :
    (modifyGet f : JS α).run.run w = (.ok (f w).1, (f w).2) := rfl

@[simp] theorem run_throw {α : Type} (e : Failure) (w : World) :
    (throw e : JS α).run.run w = (.error e, w) := rfl

@[simp] theorem run_pure {α : Type} (a : α) (w : World) : (pure a : JS α).run.run w = (.ok a, w) := rfl

-- Primitives of the event loop

def newPromise : JS Nat :=
  modifyGet fun w => (w.fresh, { w with fresh := w.fresh + 1 })

/-- `resolve` or `reject`: only a promise's first settlement counts. -/
def settle (promise : Nat) (settlement : Settlement) : JS Unit :=
  modify fun w =>
    if (w.settled.lookup promise).isSome then w
    else { w with settled := w.settled ++ [(promise, settlement)] }

def setTimer (timer : Nat → Timer) : JS Nat :=
  modifyGet fun w => (w.fresh, { w with timers := w.timers ++ [timer w.fresh], fresh := w.fresh + 1 })

def clearTimer (id : Nat) : JS Unit :=
  modify fun w => { w with timers := w.timers.filter (·.id ≠ id) }

def updateSocket (socket : Nat) (f : Socket → Socket) : JS Unit :=
  modify fun w => { w with sockets := w.sockets.modify f socket }

/-- A listener called by `emit`; a joiner's `once` wrapper removes itself before it runs. -/
def callListener (event : Event) (arg : Option Failure) : Listener → JS Unit
  | .program throws => if throws then throw (.thrownBy event) else pure ()
  | .joiner promise => do
      modify fun w => { w with listeners := w.listeners.erase (event, .joiner promise) }
      match arg with
      | some error => settle promise (.rejected error)
      | none => settle promise (.resolved [])

/-- `emit`: the event's listeners at the time of the call, in order; an exception of one stops
the rest. `'error'` with no listener throws its argument. -/
def emit (event : Event) (arg : Option Failure) : JS Unit := do
  let registered := ((← get).listeners.filter (·.1 = event)).map (·.2)
  modify fun w => { w with emitted := w.emitted ++ [event] }
  if event = .error ∧ registered = [] then throw (arg.getD .unhandledError)
  registered.forM (callListener event arg)

-- `inFlightRequests` as a `Map` keyed by correlation id, in insertion order

def mapSet (request : Request) (requests : List Request) : List Request :=
  if requests.any (·.correlationId = request.correlationId) then
    requests.map fun r => if r.correlationId = request.correlationId then request else r
  else requests ++ [request]

def mapGet (correlationId : Int) (requests : List Request) : Option Request :=
  requests.find? (·.correlationId = correlationId)

def mapDelete (correlationId : Int) (requests : List Request) : List Request :=
  requests.filter (·.correlationId ≠ correlationId)

-- Methods

def isConnected (w : World) : Bool :=
  w.state == .connected && w.socket.isSome

def nextCorrelationId : JS Nat :=
  modifyGet fun w =>
    let counter := (w.correlationIdCounter + 1) % 2147483647
    (counter, { w with correlationIdCounter := counter })

def stopRequestTimeoutTimer : JS Unit := do
  if let some interval := (← get).requestTimeoutInterval then
    clearTimer interval
    modify fun w => { w with requestTimeoutInterval := none }

def startRequestTimeoutTimer : JS Unit := do
  let interval ← setTimer .requestSweep
  modify fun w => { w with requestTimeoutInterval := some interval }

def clearConnectionTimeout : JS Unit := do
  if let some timer := (← get).connectionTimeout then
    clearTimer timer
    modify fun w => { w with connectionTimeout := none }

def rejectInFlight (error : Failure) : JS Unit := do
  (← get).inFlightRequests.forM fun request => settle request.promise (.rejected error)
  modify fun w => { w with inFlightRequests := [] }

/-- The body of the async `disconnect()`; it has no `await`, so it runs to its end at once. -/
def disconnect : JS Unit := do
  if (← get).state = .disconnected then return
  modify fun w => { w with state := .closing }
  clearConnectionTimeout
  stopRequestTimeoutTimer
  rejectInFlight .connectionClosed
  if let some socket := (← get).socket then
    updateSocket socket fun s => { s with ended := true }
    modify fun w => { w with socket := none }
  modify fun w => { w with state := .disconnected }
  emit .disconnect none

def onError (error : Failure) : JS Unit := do
  emit .error (some error)
  tryCatch disconnect fun _ => pure ()

def onDisconnect (error : Option Failure) : JS Unit := do
  let wasConnected := (← get).state == .connected
  modify fun w => { w with state := .disconnected }
  clearConnectionTimeout
  stopRequestTimeoutTimer
  rejectInFlight (error.getD .connectionClosed)
  if let some socket := (← get).socket then
    updateSocket socket fun s => { s with attached := false, timeoutArmed := false }
    modify fun w => { w with socket := none }
  if wasConnected then emit .disconnect error

def sendExecutor (config : Config) (promise correlationId : Nat) (request : Bytes)
    (timeout : Int) : JS Unit := do
  let inFlightRequest : Request :=
    ⟨correlationId, (← get).clock, if timeout = 0 then config.requestTimeout else timeout, promise⟩
  modify fun w => { w with inFlightRequests := mapSet inFlightRequest w.inFlightRequests }
  emit .request none
  match (← get).socket with
  | none => throw .nullSocket
  | some socket =>
      updateSocket socket fun s => { s with written := s.written ++ [request] }
      modify fun w => { w with writes := w.writes ++ [⟨socket, correlationId, promise⟩] }

/-- The body of the async `send` for the promise it returned: what it throws rejects that
promise, and so does what the executor throws. -/
def send (config : Config) (promise : Nat) (apiKey apiVersion : Int) (requestData : Bytes)
    (timeout : Int) : JS Unit := do
  if !isConnected (← get) then throw .notConnected
  let correlationId ← nextCorrelationId
  let some headerBuffer := requestHeaderEncode apiKey apiVersion correlationId config.clientId
    | throw .rangeError
  let totalSize : Int := 4 + headerBuffer.length + requestData.length
  if totalSize > config.maxRequestSize then throw (.requestTooLarge totalSize)
  let some sizeBytes := writeIntBE 4 (totalSize - 4) | throw .rangeError
  emit .bytesOut none
  tryCatch (sendExecutor config promise correlationId (sizeBytes ++ headerBuffer ++ requestData)
    timeout) fun error => settle promise (.rejected error)

def handleResponse (responseBuffer : Bytes) : JS Unit := do
  modify fun w => { w with responseBuffers := w.responseBuffers ++ [responseBuffer] }
  tryCatch (do
    let some (correlationId, size) := responseHeaderDecode responseBuffer | throw .rangeError
    let some request := mapGet correlationId (← get).inFlightRequests | return
    modify fun w => { w with inFlightRequests := mapDelete correlationId w.inFlightRequests }
    emit .response none
    if responseBuffer.length ≥ size + 4 then
      let some throttleTimeMs := readIntBE 4 responseBuffer size | throw .rangeError
      if throttleTimeMs > 0 then emit .throttle none
    settle request.promise (.resolved (slice responseBuffer size responseBuffer.length)))
    onError

/-- `handleIncomingData`: the loop's messages are those `Frames.peel` finds, since
`handleResponse` never touches `this.buffer`. A loop that never ends calls `handleResponse`
forever and never yields, so nothing after it is observable. -/
def handleIncomingData (data : Bytes) : JS Unit := do
  emit .bytesIn none
  let buffer := Frames.appendPending (← get).buffer data
  modify fun w => { w with buffer := some buffer }
  let (messages, ending) := Frames.peel buffer (buffer.length + 1) 0
  messages.forM handleResponse
  match ending with
  | .exited processed => modify fun w => { w with buffer := Frames.keepRest buffer processed }
  | .threw => throw .rangeError
  | .diverged => throw .loopNeverEnds

def sweepRequests : JS Unit := do
  let w ← get
  w.inFlightRequests.forM fun request => do
    let age : Int := w.clock - request.sentTime
    if age > request.timeout then
      modify fun w => { w with inFlightRequests := mapDelete request.correlationId w.inFlightRequests }
      settle request.promise (.rejected (.requestTimedOut age request.correlationId))

def dialSocket (dial : Nat) : JS Nat :=
  modifyGet fun w => (w.sockets.length,
    { w with sockets := w.sockets ++ [⟨dial, true, true, false, false, false, false, false, []⟩] })

def connect : JS Nat := do
  let promise ← newPromise
  match (← get).state with
  | .connected => settle promise (.resolved [])
  | .connecting =>
      modify fun w => { w with listeners := w.listeners ++
        [(.connect, .joiner promise), (.error, .joiner promise)] }
  | _ =>
      modify fun w => { w with state := .connecting }
      let socket ← dialSocket promise
      modify fun w => { w with socket := some socket }
      let timer ← setTimer (.connectTimeout · promise)
      modify fun w => { w with connectionTimeout := some timer }
  pure promise

-- The handlers `connect()` puts on a socket and on its timer

def onSocketConnect (dial : Nat) : JS Unit := do
  clearConnectionTimeout
  modify fun w => { w with state := .connected }
  startRequestTimeoutTimer
  emit .connect none
  settle dial (.resolved [])

def onSocketError (dial : Nat) (error : Failure) : JS Unit := do
  onError error
  settle dial (.rejected error)

def onSocketEnd (dial : Nat) : JS Unit := do
  onDisconnect (some .brokerClosedConnection)
  settle dial (.rejected .brokerClosedConnection)

def onSocketClose (hadError : Bool) : JS Unit :=
  if !hadError then onDisconnect none else pure ()

def onConnectTimeout (dial : Nat) : JS Unit := do
  onError .connectionTimedOut
  settle dial (.rejected .connectionTimedOut)

def onWriteFailed (write : Write) : JS Unit := do
  modify fun w => { w with inFlightRequests := mapDelete write.correlationId w.inFlightRequests }
  settle write.promise (.rejected (.writeFailed write.socket))

-- The event loop

/-- A macrotask: an exception that leaves it is uncaught and stops the process. -/
def runTask (task : JS Unit) (w : World) : World :=
  match (task.run.run w : Except Failure Unit × World) with
  | (.ok (), next) => next
  | (.error _, next) => { next with halted := true }

/-- A call of an async method: what its body throws rejects the promise it returned. -/
def callAsync (body : Nat → JS Unit) : JS Unit := do
  let promise ← newPromise
  tryCatch (body promise) fun error => settle promise (.rejected error)

/-- What happens next: a call of the program using the connection, an event of a socket it
dialed, a timer firing, a write callback, or time passing. -/
inductive Input where
  | listen (event : Event) (throws : Bool)
  | connect
  | disconnect
  | send (apiKey apiVersion : Int) (requestData : Bytes) (timeout : Int)
  | socketConnect (socket : Nat)
  | socketData (socket : Nat) (data : Bytes)
  | socketError (socket : Nat)
  | socketEnd (socket : Nat)
  | socketClose (socket : Nat) (hadError : Bool)
  | socketTimeout (socket : Nat)
  | timerFires (timer : Nat)
  | writeDone (index : Nat) (failed : Bool)
  | tick (elapsed : Nat)
  deriving DecidableEq, Repr

def socketEvent (w : World) (s : Nat) (enabled : Socket → Bool) (progress : Socket → Socket)
    (handler : Socket → JS Unit) : Option World :=
  match w.sockets[s]? with
  | some socket =>
      if enabled socket then
        some (runTask (handler socket) { w with sockets := w.sockets.set s (progress socket) })
      else none
  | none => none

/-- A socket emits `'connect'` once, while dialing; `'data'` (never empty) and `'end'` after
`'connect'` and before the peer's end; `'error'` once; `'close'` last, with `hadError` when it
errored and otherwise after the peer's end; `'timeout'` while open. A socket's `'error'` with
no handler attached is uncaught. -/
def step (config : Config) (w : World) (input : Input) : Option World :=
  if w.halted then none else
  match input with
  | .listen event throws => some { w with listeners := w.listeners ++ [(event, .program throws)] }
  | .connect => some (runTask (do let _ ← connect) w)
  | .disconnect => some (runTask (callAsync fun promise => do
      disconnect
      settle promise (.resolved [])) w)
  | .send apiKey apiVersion requestData timeout =>
      some (runTask (callAsync fun promise =>
        send config promise apiKey apiVersion requestData timeout) w)
  | .socketConnect s =>
      socketEvent w s (fun k => !k.connected && !k.closed && !k.errored)
        (fun k => { k with connected := true })
        (fun k => if k.attached then onSocketConnect k.dial else pure ())
  | .socketData s data =>
      socketEvent w s (fun k => k.connected && !k.readEnded && !k.errored && !k.closed && data ≠ [])
        id (fun k => if k.attached then handleIncomingData data else pure ())
  | .socketError s =>
      socketEvent w s (fun k => !k.errored && !k.closed) (fun k => { k with errored := true })
        (fun k => if k.attached then onSocketError k.dial (.transport s) else throw (.transport s))
  | .socketEnd s =>
      socketEvent w s (fun k => k.connected && !k.readEnded && !k.errored && !k.closed)
        (fun k => { k with readEnded := true })
        (fun k => if k.attached then onSocketEnd k.dial else pure ())
  | .socketClose s hadError =>
      socketEvent w s (fun k => !k.closed && hadError == k.errored && (k.errored || k.readEnded))
        (fun k => { k with closed := true })
        (fun k => if k.attached then onSocketClose hadError else pure ())
  | .socketTimeout s =>
      socketEvent w s (fun k => !k.closed) (fun k => { k with timeoutArmed := false })
        (fun k => if k.timeoutArmed then onError .socketTimedOut else pure ())
  | .timerFires id =>
      match w.timers.find? (·.id = id) with
      | some (.connectTimeout _ dial) =>
          some (runTask (onConnectTimeout dial) { w with timers := w.timers.filter (·.id ≠ id) })
      | some (.requestSweep _) => some (runTask sweepRequests w)
      | none => none
  | .writeDone index failed =>
      match w.writes[index]? with
      | some write =>
          let w := { w with writes := w.writes.eraseIdx index }
          some (if failed then runTask (onWriteFailed write) w else w)
      | none => none
  | .tick elapsed => some { w with clock := w.clock + elapsed }

def run (config : Config) : World → List Input → Option World
  | w, [] => some w
  | w, input :: inputs => (step config w input).bind (run config · inputs)

end KafkaClient.BrokerConnection
