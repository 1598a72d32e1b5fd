import KafkaClient.EventLoop

/-! `KafkaConsumer` (`consumer/KafkaConsumer.ts`) on the event loop. The world holds the
consumer's fields, the program's event listeners, the pending timers and what the program
observes; every method is code that may throw, keeping the effects made before the throw; and one
step is a call of the program, a listener it puts on, or a timer that fires. Timers fire in any
order, which covers every choice of delays and clock. The records `poll` makes up are given by the
assigned partitions its `Math.random()` draws pick; their offsets, timestamps and checksums, the
console output and the config fields other than `enableAutoCommit` are left out. -/

namespace KafkaClient.KafkaConsumer

open EventLoop

structure TopicPartition where
  topic : String
  partition : Int
  deriving DecidableEq, Repr

def TopicPartition.text (partition : TopicPartition) : String :=
  partition.topic ++ "-" ++ ToString.toString partition.partition

inductive ConsumerEvent where
  | ready
  | data
  | error
  | rebalance
  | close
  deriving DecidableEq, Repr

/-- What reaches the program as an exception or a rejection: the consumer's own errors, and what
a listener or callback of the program throws. -/
inductive Thrown where
  | notInitialized
  | closed
  | notAssigned (partition : TopicPartition)
  | listener (event : ConsumerEvent)
  | callback (call : Nat)
  deriving DecidableEq, Repr

def Thrown.message : Thrown → Option String
  | .notInitialized => some "Consumer is not initialized. Call connect() first."
  | .closed => some "Consumer is closed"
  | .notAssigned partition =>
      some ("Partition " ++ partition.text ++ " is not assigned to this consumer")
  | .listener _ | .callback _ => none

/-- An event the consumer emits, with what it carries: the record's topic and partition for
`'data'`, the error for `'error'`, and the partitions of a `'rebalance'`. -/
inductive Emitted where
  | ready
  | data (partition : TopicPartition)
  | error (error : Thrown)
  | revoked (partitions : List TopicPartition)
  | assigned (partitions : List TopicPartition)
  | close
  deriving DecidableEq, Repr

def Emitted.event : Emitted → ConsumerEvent
  | .ready => .ready
  | .data _ => .data
  | .error _ => .error
  | .revoked _ | .assigned _ => .rebalance
  | .close => .close

/-- What the program sees: the promise of one of its `async` calls settling (with the rejection's
reason), an exception of one of its synchronous calls, a call of its rebalance listener, an event,
and a call of a `commitAsync` callback. -/
inductive Observation where
  | settled (call : Nat) (failure : Option Thrown)
  | threw (call : Nat) (error : Thrown)
  | revoked (listener : Nat) (partitions : List TopicPartition)
  | assigned (listener : Nat) (partitions : List TopicPartition)
  | emitted (event : Emitted)
  | committed (call : Nat) (error : Option Thrown)
  deriving DecidableEq, Repr

inductive Timer where
  | connect (call : Nat)  -- `connect()`'s 500 ms wait, then the rest of that call.
  | close (call : Nat)  -- `close()`'s 300 ms wait, then the rest of that call.
  -- `commitSync()`'s 50 ms wait, then the promise it resolves: the program's `commitSync()`, or the `poll()` awaiting it, `none` for a poll of the interval, whose promise nobody holds.
  | commit (promise : Option Nat)
  -- `commitAsync`'s 50 ms timer, with its callback if any: whether that callback throws.
  | commitAsync (call : Nat) (callback : Option Bool)
  | poll  -- `setInterval(() => { this.poll(); }, 100)`.
  deriving DecidableEq, Repr

/-- The fields of a `KafkaConsumer`; the rebalance listener is named by the program. -/
structure Consumer where
  isInitialized : Bool := false
  isClosed : Bool := false
  isRunning : Bool := false
  rebalanceListener : Option Nat := none
  assignedPartitions : List TopicPartition := []
  subscriptions : List String := []  -- The `Set` of subscribed topics, in insertion order.
  pollInterval : Option Nat := none
  deriving DecidableEq, Repr

/-- The consumer and its surroundings: the program's listeners, each with whether it throws; the
pending timers by id; the next id of a call or timer; what the program has seen; and whether the
process has stopped on an uncaught exception or an unhandled rejection. -/
structure World where
  consumer : Consumer := {}
  listeners : List (ConsumerEvent × Bool) := []
  timers : List (Nat × Timer) := []
  nextId : Nat := 0
  log : List Observation := []
  halted : Bool := false
  deriving DecidableEq, Repr

abbrev JS := ExceptT Thrown (StateM World)

def exec (code : JS Unit) (w : World) : World :=
  (code.run.run w).2

-- Primitives

def record (observation : Observation) : JS Unit :=
  modify fun w => { w with log := w.log ++ [observation] }

def modifyConsumer (f : Consumer → Consumer) : JS Unit :=
  modify fun w => { w with consumer := f w.consumer }

def setTimer (timer : Timer) : JS Nat :=
  modifyGet fun w =>
    (w.nextId, { w with timers := w.timers ++ [(w.nextId, timer)], nextId := w.nextId + 1 })

def clearTimer (id : Nat) : JS Unit :=
  modify fun w => { w with timers := w.timers.filter (·.1 ≠ id) }

def halt : JS Unit :=
  modify fun w => { w with halted := true }

def emit (event : Emitted) : JS Unit := do
  let registered := ((← get).listeners.filter (·.1 = event.event)).map (·.2)
  record (.emitted event)
  if registered.any id then throw (.listener event.event)
  match event with
  | .error error => if registered = [] then throw error
  | _ => pure ()

def reportAndRethrow {α : Type} (body : JS α) : JS α :=
  tryCatch body fun error => do
    emit (.error error)
    throw error

/-- How the body of an `async` method ends: it returned, or it waits on a timer it set. -/
inductive Ended where
  | returned
  | waiting
  deriving DecidableEq, Repr

def settle (promise : Option Nat) (failure : Option Thrown) : JS Unit :=
  match promise, failure with
  | some call, failure => record (.settled call failure)
  | none, none => pure ()
  | none, some _ => halt

/-- An `async` method: what its body throws rejects its promise, and the promise is fulfilled when
the body returns, now or after the timer it waits on. -/
def async (promise : Option Nat) (body : JS Ended) : JS Unit :=
  tryCatch
    (do
      match ← body with
      | .returned => settle promise none
      | .waiting => pure ())
    fun error => settle promise (some error)

def call (id : Nat) (body : JS Unit) : JS Unit :=
  tryCatch body fun error => record (.threw id error)

-- Methods

/-- The guard that opens `subscribe`, `assign`, `start`, `poll`, `commitSync`, `seek`,
`seekToBeginning`, `seekToEnd` and `position`. -/
def checkOpen : JS Unit := do
  let consumer := (← get).consumer
  if !consumer.isInitialized then throw .notInitialized
  if consumer.isClosed then throw .closed

def notifyRevoked (partitions : List TopicPartition) : JS Unit := do
  match (← get).consumer.rebalanceListener with
  | some listener => record (.revoked listener partitions)
  | none => pure ()

def notifyAssigned (partitions : List TopicPartition) : JS Unit := do
  match (← get).consumer.rebalanceListener with
  | some listener => record (.assigned listener partitions)
  | none => pure ()

def setAdd (set : List String) (topic : String) : List String :=
  if topic ∈ set then set else set ++ [topic]

def rebalanced (subscriptions : List String) : List TopicPartition :=
  subscriptions.flatMap fun topic => [⟨topic, 0⟩, ⟨topic, 1⟩, ⟨topic, 2⟩]

/-- `simulateRebalance()`: the assigned partitions revoked, if any, then three partitions of each
subscribed topic assigned, each change told to the rebalance listener and emitted. -/
def simulateRebalance : JS Unit := do
  let assigned := (← get).consumer.assignedPartitions
  if assigned ≠ [] then
    notifyRevoked assigned
    emit (.revoked assigned)
  let partitions := rebalanced (← get).consumer.subscriptions
  modifyConsumer fun c => { c with assignedPartitions := partitions }
  notifyAssigned partitions
  emit (.assigned partitions)

def subscribe (topics : List String) (listener : Option Nat) : JS Unit := do
  checkOpen
  modifyConsumer fun c => { c with subscriptions := topics.foldl setAdd [] }
  if let some listener := listener then
    modifyConsumer fun c => { c with rebalanceListener := some listener }
  simulateRebalance

def assign (partitions : List TopicPartition) : JS Unit := do
  checkOpen
  modifyConsumer fun c => { c with subscriptions := [], assignedPartitions := partitions }

/-- `unsubscribe()`: nothing before `connect()`, and no check of `isClosed`. -/
def unsubscribe : JS Unit := do
  if (← get).consumer.isInitialized then
    modifyConsumer fun c => { c with subscriptions := [] }
    let consumer := (← get).consumer
    if consumer.rebalanceListener.isSome ∧ consumer.assignedPartitions ≠ [] then
      notifyRevoked consumer.assignedPartitions
    modifyConsumer fun c => { c with assignedPartitions := [] }

def start : JS Unit := do
  checkOpen
  if !(← get).consumer.isRunning then
    modifyConsumer fun c => { c with isRunning := true }
    let interval ← setTimer .poll
    modifyConsumer fun c => { c with pollInterval := some interval }

def stop : JS Unit := do
  let consumer := (← get).consumer
  if consumer.isRunning then
    if let some interval := consumer.pollInterval then
      clearTimer interval
      modifyConsumer fun c => { c with pollInterval := none }
    modifyConsumer fun c => { c with isRunning := false }

def generateMockRecords (draws : List Nat) : JS (List TopicPartition) := do
  let assigned := (← get).consumer.assignedPartitions
  pure (draws.filterMap (assigned[·]?))

def commitSync (promise : Option Nat) : JS Ended := do
  checkOpen
  reportAndRethrow do
    let _ ← setTimer (.commit promise)
    pure .waiting

def poll (enableAutoCommit : Bool) (promise : Option Nat) (draws : List Nat) : JS Unit :=
  async promise do
    checkOpen
    if (← get).consumer.assignedPartitions = [] then pure .returned
    else reportAndRethrow do
      let records ← generateMockRecords draws
      records.forM fun record => emit (.data record)
      if enableAutoCommit then commitSync promise else pure .returned

def connect (call : Nat) : JS Unit :=
  async (some call) do
    if (← get).consumer.isInitialized then pure .returned
    else reportAndRethrow do
      let _ ← setTimer (.connect call)
      pure .waiting

def connected (call : Nat) : JS Unit :=
  async (some call) <| reportAndRethrow do
    modifyConsumer fun c => { c with isInitialized := true }
    emit .ready
    pure .returned

def close (call : Nat) : JS Unit :=
  async (some call) do
    if (← get).consumer.isClosed then pure .returned
    else reportAndRethrow do
      stop
      unsubscribe
      let _ ← setTimer (.close call)
      pure .waiting

def closed (call : Nat) : JS Unit :=
  async (some call) <| reportAndRethrow do
    modifyConsumer fun c => { c with isClosed := true }
    emit .close
    pure .returned

def invokeCallback (call : Nat) (callback : Option Bool) (error : Option Thrown) : JS Unit :=
  match callback with
  | some throws => do
      record (.committed call error)
      if throws then throw (.callback call)
  | none => pure ()

def commitAsync (call : Nat) (callback : Option Bool) : JS Unit := do
  let consumer := (← get).consumer
  if !consumer.isInitialized then invokeCallback call callback (some .notInitialized)
  else if consumer.isClosed then invokeCallback call callback (some .closed)
  else
    let _ ← setTimer (.commitAsync call callback)
    pure ()

def checkAssigned (partition : TopicPartition) : JS Unit := do
  checkOpen
  if !(← get).consumer.assignedPartitions.any
      (fun p => p.topic == partition.topic && p.partition == partition.partition) then
    throw (.notAssigned partition)

def fire : Timer → JS Unit
  | .connect call => connected call
  | .close call => closed call
  | .commit promise => settle promise none
  | .commitAsync call callback => tryCatch (invokeCallback call callback none) fun _ => halt
  | .poll => pure ()

-- The event loop

/-- What the program does, or a timer firing; `draws` are the indices `generateMockRecords`
draws, for a poll. -/
inductive Input where
  | connect
  | subscribe (topics : List String) (listener : Option Nat)
  | assign (partitions : List TopicPartition)
  | unsubscribe
  | start
  | stop
  | poll (draws : List Nat)
  | commitSync
  | commitAsync (callback : Option Bool)
  | seek (partition : TopicPartition)
  | seekToBeginning
  | seekToEnd
  | position (partition : TopicPartition)
  | close
  | listen (event : ConsumerEvent) (throws : Bool)
  | fire (timer : Nat) (draws : List Nat)
  deriving DecidableEq, Repr

/-- Draws that `Math.floor(Math.random() * 10)` and `Math.floor(Math.random() * length)` can
give: fewer than ten, each an index of an assigned partition. -/
def drawsFit (w : World) (draws : List Nat) : Bool :=
  draws.length < 10 && draws.all (· < w.consumer.assignedPartitions.length)

/-- One macrotask. A call gets the next id; the interval's timer stays after it fires, a one-shot
timer is removed first. -/
def step (enableAutoCommit : Bool) (w : World) (input : Input) : Option World :=
  if w.halted then none else
  let id := w.nextId
  let next := { w with nextId := w.nextId + 1 }
  match input with
  | .connect => some (exec (connect id) next)
  | .subscribe topics listener => some (exec (call id (subscribe topics listener)) next)
  | .assign partitions => some (exec (call id (assign partitions)) next)
  | .unsubscribe => some (exec (call id unsubscribe) next)
  | .start => some (exec (call id start) next)
  | .stop => some (exec (call id stop) next)
  | .poll draws =>
      if drawsFit w draws then some (exec (poll enableAutoCommit (some id) draws) next) else none
  | .commitSync => some (exec (async (some id) (commitSync (some id))) next)
  | .commitAsync callback => some (exec (call id (commitAsync id callback)) next)
  | .seek partition | .position partition => some (exec (call id (checkAssigned partition)) next)
  | .seekToBeginning | .seekToEnd => some (exec (call id checkOpen) next)
  | .close => some (exec (close id) next)
  | .listen event throws => some { next with listeners := w.listeners ++ [(event, throws)] }
  | .fire timer draws =>
      match w.timers.find? (·.1 = timer) with
      | some (_, .poll) =>
          if drawsFit w draws then some (exec (poll enableAutoCommit none draws) next) else none
      | some entry => some (exec (fire entry.2) { next with timers := w.timers.erase entry })
      | none => none

def run (enableAutoCommit : Bool) : World → List Input → Option World
  | w, [] => some w
  | w, input :: inputs => (step enableAutoCommit w input).bind (run enableAutoCommit · inputs)

end KafkaClient.KafkaConsumer
