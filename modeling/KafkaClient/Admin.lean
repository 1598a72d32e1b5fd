import KafkaClient.EventLoop
import KafkaClient.ClusterMetadata

/-! `AdminClient` (`admin/AdminClient.ts`) on the event loop: `connect()`, `close()` and the
operations, each `async`, with the waits they make as timers that fire in any order, which covers
every choice of delays. An operation first awaits `ensureConnected()`, which rejects on a closed
client and otherwise awaits a `connect()` of its own while the client is not connected; after its
200 ms wait it is fulfilled with the results it builds for its request. Each result is built
inside a `try` whose `catch` no statement of the `try` can reach. The console output, the config
and the timeouts, which only reach the console, are left out. -/

namespace KafkaClient.AdminClient

open EventLoop

inductive AdminEvent where
  | ready
  | error
  | close
  deriving DecidableEq, Repr

/-- What reaches the program as a rejection: the client's own error, and what a listener of the
program throws. -/
inductive Thrown where
  | closed
  | listener (event : AdminEvent)
  deriving DecidableEq, Repr

def Thrown.message : Thrown → Option String
  | .closed => some "AdminClient is closed"
  | .listener _ => none

inductive Emitted where
  | ready
  | error (error : Thrown)
  | close
  deriving DecidableEq, Repr

def Emitted.event : Emitted → AdminEvent
  | .ready => .ready
  | .error _ => .error
  | .close => .close

-- What the operations read and build

inductive ResourceType where
  | unknown
  | topic
  | broker
  | brokerLogger
  deriving DecidableEq, Repr

/-- A `ConfigResource` object. A `Map` keyed by such objects tells two of them apart even with the
same fields, so `object` names the object. -/
structure ConfigResource where
  object : Nat
  type : ResourceType
  name : String
  deriving DecidableEq, Repr

structure ConfigEntry where
  name : String
  value : String
  isReadOnly : Bool
  isSensitive : Bool
  isDefault : Bool
  deriving DecidableEq, Repr

abbrev Config := JsMap String ConfigEntry

def Config.addEntry (config : Config) (entry : ConfigEntry) : Config :=
  config.set entry.name entry

structure Node where
  id : Int
  host : String
  port : Int
  rack : Option String
  deriving DecidableEq, Repr

structure PartitionInfo where
  topic : String
  partition : Int
  leader : Node
  replicas : List Node
  isr : List Node
  deriving DecidableEq, Repr

structure TopicDescription where
  name : String
  partitions : List PartitionInfo
  isInternal : Bool
  authorizedOperations : Option (List String)
  deriving DecidableEq, Repr

/-- An operation and what it reads of its arguments: the names of the `NewTopic`s, the keys of the
`createPartitions` and `alterConfigs` maps in their order, and the options' flags. -/
inductive Operation where
  | createTopics (topics : List String)
  | deleteTopics (topics : List String)
  | createPartitions (newPartitions : List String)
  | listTopics (listInternal : Bool)
  | describeTopics (topicNames : List String) (includeAuthorizedOperations : Bool)
  | alterConfigs (resources : List ConfigResource)
  | describeConfigs (resources : List ConfigResource)
  deriving DecidableEq, Repr

/-- What an operation's promise is fulfilled with. A `CreateTopicsResult`, `DeleteTopicsResult`,
`CreatePartitionsResult` or `AlterConfigsResult` holds only its key, with no error. -/
inductive Response where
  | topicResults (results : JsMap String String)
  | topicList (topics : List String)
  | descriptions (results : JsMap String TopicDescription)
  | resourceResults (results : JsMap ConfigResource ConfigResource)
  | configs (results : JsMap ConfigResource Config)

def results {κ ν : Type} [DecidableEq κ] (keys : List κ) (result : κ → ν) : JsMap κ ν :=
  keys.foldl (fun map key => map.set key (result key)) JsMap.empty

def mockNode (id : Int) : Node :=
  ⟨id, "broker-" ++ toString id, 9092, none⟩

def describe (includeAuthorizedOperations : Bool) (topic : String) : TopicDescription :=
  ⟨topic,
    (List.range 3).map fun i =>
      ⟨topic, i, mockNode 1, [mockNode 1, mockNode 2, mockNode 3],
        [mockNode 1, mockNode 2, mockNode 3]⟩,
    topic.startsWith "__",
    if includeAuthorizedOperations then
      some ["READ", "WRITE", "CREATE", "DELETE", "ALTER", "DESCRIBE"]
    else none⟩

def mockConfig (resource : ConfigResource) : Config :=
  let entries : List ConfigEntry :=
    match resource.type with
    | .topic =>
        [⟨"cleanup.policy", "delete", false, false, true⟩,
          ⟨"compression.type", "producer", false, false, true⟩,
          ⟨"retention.ms", "604800000", false, false, true⟩,
          ⟨"segment.bytes", "1073741824", false, false, true⟩]
    | .broker =>
        [⟨"num.io.threads", "8", false, false, true⟩,
          ⟨"num.network.threads", "3", false, false, true⟩,
          ⟨"log.dirs", "/var/lib/kafka/data", false, false, true⟩,
          ⟨"ssl.keystore.password", "******", false, true, false⟩]
    | _ => []
  entries.foldl Config.addEntry JsMap.empty

def Operation.response : Operation → Response
  | .createTopics topics => .topicResults (results topics id)
  | .deleteTopics topics => .topicResults (results topics id)
  | .createPartitions newPartitions => .topicResults (results newPartitions id)
  | .listTopics listInternal =>
      .topicList (["topic-1", "topic-2", "topic-3"] ++
        if listInternal then ["__consumer_offsets", "__transaction_state"] else [])
  | .describeTopics topicNames includeAuthorizedOperations =>
      .descriptions (results topicNames (describe includeAuthorizedOperations))
  | .alterConfigs resources => .resourceResults (results resources id)
  | .describeConfigs resources => .configs (results resources mockConfig)

-- The client on the event loop

/-- What the program sees: the promise of one of its calls settling, rejected or fulfilled with
an operation's response (`none` for `connect()` and `close()`), and an event. -/
inductive Observation where
  | settled (call : Nat) (outcome : Except Thrown (Option Response))
  | emitted (event : Emitted)

/-- What awaits the promise of a `connect()` call: the program, for its own call, or the
`ensureConnected()` of an operation. -/
inductive Awaiter where
  | program (call : Nat)
  | operation (call : Nat) (operation : Operation)
  deriving DecidableEq, Repr

/-- A pending `setTimeout` and what goes on when it fires. -/
inductive Timer where
  | connect (awaiter : Awaiter)  -- `connect()`'s 500 ms wait.
  | close (call : Nat)  -- `close()`'s 300 ms wait.
  | operation (call : Nat) (operation : Operation)  -- An operation's 200 ms wait.
  deriving DecidableEq, Repr

structure Client where
  isInitialized : Bool := false
  isClosed : Bool := false
  deriving DecidableEq, Repr

/-- The client and its surroundings: the program's listeners, each with whether it throws; the
pending timers by id; the next id of a call or timer; and what the program has seen. -/
structure World where
  client : Client := {}
  listeners : List (AdminEvent × Bool) := []
  timers : List (Nat × Timer) := []
  nextId : Nat := 0
  log : List Observation := []

/-- Code that runs on the world and may throw, keeping the effects made before the throw. -/
abbrev JS := ExceptT Thrown (StateM World)

def exec (code : JS Unit) (w : World) : World :=
  (code.run.run w).2

-- Primitives

def record (observation : Observation) : JS Unit :=
  modify fun w => { w with log := w.log ++ [observation] }

def modifyClient (f : Client → Client) : JS Unit :=
  modify fun w => { w with client := f w.client }

def setTimer (timer : Timer) : JS Nat :=
  modifyGet fun w =>
    (w.nextId, { w with timers := w.timers ++ [(w.nextId, timer)], nextId := w.nextId + 1 })

/-- `this.emit(event, ...)`: the event's listeners in order, the first that throws stopping the
rest with its exception; `'error'` with no listener throws the error itself. -/
def emit (event : Emitted) : JS Unit := do
  let registered := ((← get).listeners.filter (·.1 = event.event)).map (·.2)
  record (.emitted event)
  if registered.any id then throw (.listener event.event)
  match event with
  | .error error => if registered = [] then throw error
  | _ => pure ()

/-- `catch (error) { this.emit('error', err); throw err; }` around a body. -/
def reportAndRethrow {α : Type} (body : JS α) : JS α :=
  tryCatch body fun error => do
    emit (.error error)
    throw error

/-- How the body of an `async` method ends: it returned, with its value, or it waits on a timer
it set. -/
inductive Ended where
  | returned (value : Option Response)
  | waiting

def outcome (body : JS Ended) : JS (Except Thrown Ended) :=
  tryCatch (Except.ok <$> body) fun error => pure (.error error)

def settle (call : Nat) (outcome : Except Thrown (Option Response)) : JS Unit :=
  record (.settled call outcome)

/-- An `async` method of the program's call: what its body throws rejects the promise, and the
promise is fulfilled when the body returns, now or after the timer it waits on. -/
def async (call : Nat) (body : JS Ended) : JS Unit := do
  match ← outcome body with
  | .ok (.returned value) => settle call (.ok value)
  | .ok .waiting => pure ()
  | .error error => settle call (.error error)

-- Methods

def afterConnect (call : Nat) (operation : Operation) : JS Ended := do
  let _ ← setTimer (.operation call operation)
  pure .waiting

def resolve : Awaiter → Except Thrown Unit → JS Unit
  | .program call, outcome => settle call (outcome.map fun _ => none)
  | .operation call operation, .ok () => async call (afterConnect call operation)
  | .operation call _, .error error => settle call (.error error)

def asyncFor (awaiter : Awaiter) (body : JS Ended) : JS Unit := do
  match ← outcome body with
  | .ok (.returned _) => resolve awaiter (.ok ())
  | .ok .waiting => pure ()
  | .error error => resolve awaiter (.error error)

def connect (awaiter : Awaiter) : JS Unit :=
  asyncFor awaiter do
    if (← get).client.isInitialized then pure (.returned none)
    else
      let _ ← setTimer (.connect awaiter)
      pure .waiting

def connected (awaiter : Awaiter) : JS Unit :=
  asyncFor awaiter <| reportAndRethrow do
    modifyClient fun c => { c with isInitialized := true }
    emit .ready
    pure (.returned none)

def close (call : Nat) : JS Unit :=
  async call do
    if (← get).client.isClosed then pure (.returned none)
    else
      let _ ← setTimer (.close call)
      pure .waiting

def closed (call : Nat) : JS Unit :=
  async call <| reportAndRethrow do
    modifyClient fun c => { c with isClosed := true }
    emit .close
    pure (.returned none)

def operate (call : Nat) (operation : Operation) : JS Unit := do
  let client := (← get).client
  if client.isClosed then settle call (.error .closed)
  else if client.isInitialized then async call (afterConnect call operation)
  else connect (.operation call operation)

def operated (call : Nat) (operation : Operation) : JS Unit :=
  async call (pure (.returned (some operation.response)))

def fire : Timer → JS Unit
  | .connect awaiter => connected awaiter
  | .close call => closed call
  | .operation call operation => operated call operation

-- The event loop

inductive Input where
  | connect
  | close
  | operate (operation : Operation)
  | listen (event : AdminEvent) (throws : Bool)
  | fire (timer : Nat)

/-- One macrotask. A call gets the next id; a timer is removed when it fires. -/
def step (w : World) (input : Input) : Option World :=
  let id := w.nextId
  let next := { w with nextId := w.nextId + 1 }
  match input with
  | .connect => some (exec (connect (.program id)) next)
  | .close => some (exec (close id) next)
  | .operate operation => some (exec (operate id operation) next)
  | .listen event throws => some { next with listeners := w.listeners ++ [(event, throws)] }
  | .fire timer =>
      match w.timers.find? (·.1 = timer) with
      | some entry => some (exec (fire entry.2) { next with timers := w.timers.erase entry })
      | none => none

def run : World → List Input → Option World
  | w, [] => some w
  | w, input :: inputs => (step w input).bind (run · inputs)

end KafkaClient.AdminClient
