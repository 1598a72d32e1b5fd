import KafkaClient.EventLoop

/-! `KafkaProducer` (`producer/KafkaProducer.ts`) on the event loop: `connect()`, `send()`,
`flush()` and `close()`, each `async`, with the waits they make as timers that fire in any order,
which covers every choice of delays. A `send()` on a producer not yet connected awaits a
`connect()` of its own, and `close()` awaits a `flush()`; when such a promise settles, the method
that awaits it goes on. Of the record `send()` is given, only whether its topic is set is kept;
its callback is given by whether `onCompletion` throws, called with the metadata or with an error.
The console output, the config and the metadata's partition, offset and timestamp are left out. -/

namespace KafkaClient.KafkaProducer

open EventLoop

inductive ProducerEvent where
  | ready
  | error
  | close
  deriving DecidableEq, Repr

/-- What reaches the program as a rejection: the producer's own errors, and what a listener or a
callback of the program throws. -/
inductive Thrown where
  | closed
  | noTopic
  | listener (event : ProducerEvent)
  | callback (call : Nat)
  deriving DecidableEq, Repr

def Thrown.message : Thrown → Option String
  | .closed => some "Producer is closed"
  | .noTopic => some "Topic cannot be null or undefined"
  | .listener _ | .callback _ => none

inductive Emitted where
  | ready
  | error (error : Thrown)
  | close
  deriving DecidableEq, Repr

def Emitted.event : Emitted → ProducerEvent
  | .ready => .ready
  | .error _ => .error
  | .close => .close

/-- A `send()` callback: whether its `onCompletion` throws when given the metadata, and when
given an error. -/
structure Callback where
  throwsOnMetadata : Bool
  throwsOnError : Bool
  deriving DecidableEq, Repr

def Callback.throws (callback : Callback) (error : Option Thrown) : Bool :=
  error.elim callback.throwsOnMetadata fun _ => callback.throwsOnError

/-- What the program sees: the promise of one of its calls settling (with the rejection's reason),
a call of a `send()` callback (with the error it is given, `none` for the metadata), and an
event. -/
inductive Observation where
  | settled (call : Nat) (failure : Option Thrown)
  | completed (call : Nat) (error : Option Thrown)
  | emitted (event : Emitted)
  deriving DecidableEq, Repr

/-- What awaits the promise of a `connect()` or `flush()` call: the program, for its own call;
the `send()` that called `connect()`, with whether its record has a topic and its callback; or the
`close()` that called `flush()`. -/
inductive Awaiter where
  | program (call : Nat)
  | send (call : Nat) (topic : Bool) (callback : Option Callback)
  | close (call : Nat)
  deriving DecidableEq, Repr

inductive Timer where
  | connect (awaiter : Awaiter)  -- `connect()`'s 500 ms wait.
  | send (call : Nat) (callback : Option Callback)  -- `send()`'s 100 ms wait, with its callback.
  | flush (awaiter : Awaiter)  -- `flush()`'s 200 ms wait.
  | close (call : Nat)  -- `close()`'s 300 ms wait.
  deriving DecidableEq, Repr

structure Producer where
  isInitialized : Bool := false
  isClosed : Bool := false
  deriving DecidableEq, Repr

/-- The producer and its surroundings: the program's listeners, each with whether it throws; the
pending timers by id; the next id of a call or timer; and what the program has seen. -/
structure World where
  producer : Producer := {}
  listeners : List (ProducerEvent × Bool) := []
  timers : List (Nat × Timer) := []
  nextId : Nat := 0
  log : List Observation := []
  deriving DecidableEq, Repr

abbrev JS := ExceptT Thrown (StateM World)

def exec (code : JS Unit) (w : World) : World :=
  (code.run.run w).2

-- Primitives

def record (observation : Observation) : JS Unit :=
  modify fun w => { w with log := w.log ++ [observation] }

def modifyProducer (f : Producer → Producer) : JS Unit :=
  modify fun w => { w with producer := f w.producer }

def setTimer (timer : Timer) : JS Nat :=
  modifyGet fun w =>
    (w.nextId, { w with timers := w.timers ++ [(w.nextId, timer)], nextId := w.nextId + 1 })

def emit (event : Emitted) : JS Unit := do
  let registered := ((← get).listeners.filter (·.1 = event.event)).map (·.2)
  record (.emitted event)
  if registered.any id then throw (.listener event.event)
  match event with
  | .error error => if registered = [] then throw error
  | _ => pure ()

def reportAndRethrow {α : Type} (body : JS α) : JS α :=
  tryCatch body fun error => do
    emit (.error error)
    throw error

/-- `callback.onCompletion(error, metadata)`, if there is a callback; it may throw. -/
def complete (call : Nat) (callback : Option Callback) (error : Option Thrown) : JS Unit :=
  match callback with
  | some callback => do
      record (.completed call error)
      if callback.throws error then throw (.callback call)
  | none => pure ()

/-- How the body of an `async` method ends: it returned, or it waits on a timer it set. -/
inductive Ended where
  | returned
  | waiting
  deriving DecidableEq, Repr

def outcome (body : JS Ended) : JS (Except Thrown Ended) :=
  tryCatch (Except.ok <$> body) fun error => pure (.error error)

def settle (call : Nat) (failure : Option Thrown) : JS Unit :=
  record (.settled call failure)

/-- An `async` method of the program's call: what its body throws rejects the promise, and the
promise is fulfilled when the body returns, now or after the timer it waits on. -/
def async (call : Nat) (body : JS Ended) : JS Unit := do
  match ← outcome body with
  | .ok .returned => settle call none
  | .ok .waiting => pure ()
  | .error error => settle call (some error)

-- Methods

/-- `send()` once the producer is connected: the `isClosed` check, then the topic check and the
100 ms wait inside the `try` whose `catch` hands the error to the callback. -/
def sendAfterConnect (call : Nat) (topic : Bool) (callback : Option Callback) : JS Ended := do
  if (← get).producer.isClosed then
    complete call callback (some .closed)
    throw .closed
  tryCatch
    (do
      if !topic then throw .noTopic
      let _ ← setTimer (.send call callback)
      pure .waiting)
    fun error => do
      complete call callback (some error)
      throw error

def sent (call : Nat) (callback : Option Callback) : JS Unit :=
  async call <| tryCatch
    (do
      complete call callback none
      pure .returned)
    fun error => do
      complete call callback (some error)
      throw error

def closeAfterFlush (call : Nat) : JS Ended := do
  let _ ← setTimer (.close call)
  pure .waiting

/-- The settling of a `connect()` or `flush()` promise, seen by the program for its own call, or
going on with the `send()` or `close()` that awaits it: a rejection there is outside `send()`'s
`try`, and inside `close()`'s. -/
def resolve : Awaiter → Option Thrown → JS Unit
  | .program call, failure => settle call failure
  | .send call topic callback, none => async call (sendAfterConnect call topic callback)
  | .send call _ _, some error => settle call (some error)
  | .close call, none => async call (closeAfterFlush call)
  | .close call, some error => async call (reportAndRethrow (throw error))

def asyncFor (awaiter : Awaiter) (body : JS Ended) : JS Unit := do
  match ← outcome body with
  | .ok .returned => resolve awaiter none
  | .ok .waiting => pure ()
  | .error error => resolve awaiter (some error)

def connect (awaiter : Awaiter) : JS Unit :=
  asyncFor awaiter do
    if (← get).producer.isInitialized then pure .returned
    else
      let _ ← setTimer (.connect awaiter)
      pure .waiting

def connected (awaiter : Awaiter) : JS Unit :=
  asyncFor awaiter <| reportAndRethrow do
    modifyProducer fun p => { p with isInitialized := true }
    emit .ready
    pure .returned

/-- `send(record, callback)`: a producer not yet connected first awaits `connect()`. -/
def send (call : Nat) (topic : Bool) (callback : Option Callback) : JS Unit := do
  if (← get).producer.isInitialized then async call (sendAfterConnect call topic callback)
  else connect (.send call topic callback)

def flush (awaiter : Awaiter) : JS Unit :=
  asyncFor awaiter do
    if !(← get).producer.isInitialized then pure .returned
    else
      let _ ← setTimer (.flush awaiter)
      pure .waiting

def close (call : Nat) : JS Unit := do
  if (← get).producer.isClosed then settle call none
  else flush (.close call)

def closed (call : Nat) : JS Unit :=
  async call <| reportAndRethrow do
    modifyProducer fun p => { p with isClosed := true }
    emit .close
    pure .returned

def fire : Timer → JS Unit
  | .connect awaiter => connected awaiter
  | .send call callback => sent call callback
  | .flush awaiter => resolve awaiter none
  | .close call => closed call

-- The event loop

inductive Input where
  | connect
  | send (topic : Bool) (callback : Option Callback)
  | flush
  | close
  | listen (event : ProducerEvent) (throws : Bool)
  | fire (timer : Nat)
  deriving DecidableEq, Repr

/-- One macrotask. A call gets the next id; a timer is removed when it fires. -/
def step (w : World) (input : Input) : Option World :=
  let id := w.nextId
  let next := { w with nextId := w.nextId + 1 }
  match input with
  | .connect => some (exec (connect (.program id)) next)
  | .send topic callback => some (exec (send id topic callback) next)
  | .flush => some (exec (flush (.program id)) next)
  | .close => some (exec (close id) next)
  | .listen event throws => some { next with listeners := w.listeners ++ [(event, throws)] }
  | .fire timer =>
      match w.timers.find? (·.1 = timer) with
      | some entry => some (exec (fire entry.2) { next with timers := w.timers.erase entry })
      | none => none

def run : World → List Input → Option World
  | w, [] => some w
  | w, input :: inputs => (step w input).bind (run · inputs)

end KafkaClient.KafkaProducer
