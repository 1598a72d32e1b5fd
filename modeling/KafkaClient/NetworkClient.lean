import KafkaClient.ConnectionRuns

/-! `NetworkClient`'s metadata refresh, the reconciliation of its connection pool, its refresh
timer and `close()`. The async methods are tasks that stop at each `await` and go on, in a later
microtask, once the awaited promise has settled. A `BrokerConnection` is seen through its state
and the promises of its `connect()`, `send()` and `disconnect()` calls, which events of its
socket settle:

* `connect()` resolves at once on a connected connection, joins a dial in progress, and
  otherwise dials;
* a failed dial is heard by an `'error'` listener only when another `connect()` call joined it:
  the client puts its own listener on a connection only after the dial, so with a single caller
  `emit('error')` throws and the process stops;
* `send()` on a connection that is not connected rejects at once;
* `disconnect()` rejects the requests in flight and leaves a dial's promises pending. -/

namespace KafkaClient.NetworkClient

open BrokerConnection (ConnectionState)

abbrev Pool := List (Nat × Nat)

/-- A `BrokerConnection` of the client: its state, whether a dial of it is in progress (its
socket may still connect after a `disconnect()`), and whether the client's `'error'` and
`'disconnect'` listeners are on it. -/
structure Link where
  state : ConnectionState
  dialing : Bool
  listened : Bool
  deriving DecidableEq, Repr

/-- Where a suspended call stands, which says what it awaits. A `refreshMetadata` call awaits
the dial of the first seed, the Metadata request, the dial for broker `nodeId` of the response
(with `rest` still to go and `current` the `currentNodeIds` so far), or the eviction of
`nodeId`; a timer's call then awaits its `.finally`. `close()` awaits its `Promise.all`. -/
inductive Stage where
  | seedDial (broker : Nat)
  | fetch (broker : Nat)
  | dial (nodeId connection : Nat) (rest current : List Nat)
  | evict (nodeId : Nat) (current : List Nat)
  | rearm
  | closing
  deriving DecidableEq, Repr

inductive Outcome where
  | fulfilled (brokers : List Nat)
  | rejected
  deriving DecidableEq, Repr

structure Task where
  call : Nat
  stage : Stage
  fromTimer : Bool
  outcome : Option Outcome
  deriving DecidableEq, Repr

/-- The client's fields, its connections by number and its suspended calls; then the calls that
have settled (and whether they were fulfilled), the calls that sent a Metadata request, the
armed timers, the next fresh number, and whether the process has stopped. -/
structure Client where
  connections : Pool
  seedBrokers : List Nat
  isClosed : Bool
  isRefreshingMetadata : Bool
  metadataRefreshTimer : Option Nat
  brokers : List Nat
  links : List Link
  tasks : List Task
  settled : List (Nat × Bool)
  fetches : List Nat
  armed : List Nat
  fresh : Nat
  halted : Bool
  deriving DecidableEq, Repr

def Stage.dialOf : Stage → Option Nat
  | .seedDial broker => some broker
  | .dial _ connection _ _ => some connection
  | _ => none

/-- What happens next: the program calls `refreshMetadata()` (directly, or through the retries
of `sendRequest` and `sendToPartitionLeader`) or `close()`; the refresh timer fires; a dial
succeeds or fails; a connected connection drops; the Metadata request of a call gets its
response or fails; or, in a microtask, a call whose awaited promise settled goes on. -/
inductive Input where
  | refresh
  | close
  | timerFires (timer : Nat)
  | dialSucceeds (connection : Nat)
  | dialFails (connection : Nat)
  | drops (connection : Nat)
  | responds (call : Nat) (brokers : List Nat)
  | requestFails (call : Nat)
  | resume (call : Nat)
  deriving DecidableEq, Repr

-- Connections

def setLink (n : Nat) (f : Link → Link) (c : Client) : Client :=
  { c with links := c.links.modify f n }

def suspend (task : Task) (c : Client) : Client :=
  { c with tasks := c.tasks ++ [task] }

def settleCall (call : Nat) (fulfilled : Bool) (c : Client) : Client :=
  { c with settled := c.settled ++ [(call, fulfilled)] }

def settleTasks (pick : Task → Bool) (outcome : Outcome) (c : Client) : Client :=
  { c with tasks := c.tasks.map fun t =>
      if pick t && t.outcome.isNone then { t with outcome := some outcome } else t }

/-- `await connection.connect()` for a suspended `task`: resolved at once when connected,
joining the dial in progress, or dialing. -/
def awaitConnect (n : Nat) (task : Task) (c : Client) : Client :=
  match c.links[n]? with
  | some link =>
      match link.state with
      | .connected => suspend { task with outcome := some (.fulfilled []) } c
      | .connecting => suspend task c
      | _ => suspend task (setLink n (fun l => { l with state := .connecting, dialing := true }) c)
  | none => suspend { task with outcome := some .rejected } c

def awaitSend (n : Nat) (task : Task) (c : Client) : Client :=
  match c.links[n]? with
  | some link =>
      if link.state = .connected then suspend task c
      else suspend { task with outcome := some .rejected } c
  | none => suspend { task with outcome := some .rejected } c

/-- `disconnect()` of a connection (and `onDisconnect` when it drops): the requests in flight
on it are rejected; a dial's promises are left pending. -/
def disconnectLink (n : Nat) (c : Client) : Client :=
  settleTasks (fun t => t.stage == .fetch n) .rejected
    (setLink n (fun l => { l with state := .disconnected }) c)

def dialWaiters (n : Nat) (c : Client) : Nat :=
  (c.tasks.filter fun t => t.stage.dialOf == some n && t.outcome.isNone).length

-- `refreshMetadata` and `updateBrokerConnections`

def startMetadataRefreshTimer (autoRefreshMetadata : Bool) (c : Client) : Client :=
  let c := match c.metadataRefreshTimer with
    | some timer => { c with armed := c.armed.erase timer }
    | none => c
  if autoRefreshMetadata then
    { c with metadataRefreshTimer := some c.fresh, armed := c.armed ++ [c.fresh], fresh := c.fresh + 1 }
  else c

def finishRefresh (call : Nat) (fromTimer fulfilled : Bool) (c : Client) : Client :=
  let c := settleCall call fulfilled { c with isRefreshingMetadata := false }
  if fromTimer then suspend ⟨call, .rearm, true, some (.fulfilled [])⟩ c else c

def fetchOver (call : Nat) (fromTimer : Bool) (n : Nat) (c : Client) : Client :=
  awaitSend n ⟨call, .fetch n, fromTimer, none⟩ { c with fetches := c.fetches ++ [call] }

def poolSet (nodeId n : Nat) (pool : Pool) : Pool :=
  if pool.any (·.1 = nodeId) then pool.map fun entry => if entry.1 = nodeId then (nodeId, n) else entry
  else pool ++ [(nodeId, n)]

theorem poolSet_of_fresh {nodeId : Nat} {pool : Pool} (fresh : nodeId ∉ pool.map (·.1)) (n : Nat) :
    poolSet nodeId n pool = pool ++ [(nodeId, n)] := by
  have unpooled : pool.any (·.1 = nodeId) = false := List.any_eq_false.mpr fun entry mem same =>
    fresh (List.mem_map.mpr ⟨entry, mem, of_decide_eq_true same⟩)
  simp only [poolSet, unpooled, Bool.false_eq_true, if_false]

def evictNext (call : Nat) (fromTimer : Bool) (current : List Nat) (c : Client) : Client :=
  match c.connections.find? (fun entry => entry.1 ∉ current) with
  | some (nodeId, n) =>
      suspend ⟨call, .evict nodeId current, fromTimer, some (.fulfilled [])⟩ (disconnectLink n c)
  | none => finishRefresh call fromTimer true c

def reconcile (call : Nat) (fromTimer : Bool) : List Nat → List Nat → Client → Client
  | [], current, c => evictNext call fromTimer current c
  | nodeId :: rest, current, c =>
      let current := if nodeId ∈ current then current else current ++ [nodeId]
      if c.connections.any (·.1 = nodeId) then reconcile call fromTimer rest current c
      else
        awaitConnect c.links.length ⟨call, .dial nodeId c.links.length rest current, fromTimer, none⟩
          { c with links := c.links ++ [⟨.disconnected, false, false⟩] }

/-- `refreshMetadata()` for the call `call`: a call made while a refresh is in progress returns
at once; otherwise the flag is set and the request goes over the first pooled connection, or
over the first seed once its `connect()` resolves, or the call fails with no broker. -/
def refreshMetadata (call : Nat) (fromTimer : Bool) (c : Client) : Client :=
  if c.isRefreshingMetadata then
    let c := settleCall call true c
    if fromTimer then suspend ⟨call, .rearm, true, some (.fulfilled [])⟩ c else c
  else
    let c := { c with isRefreshingMetadata := true }
    match c.connections.head?, c.seedBrokers.head? with
    | some (_, n), _ => fetchOver call fromTimer n c
    | none, some n => awaitConnect n ⟨call, .seedDial n, fromTimer, none⟩ c
    | none, none => finishRefresh call fromTimer false c

/-- A suspended call goes on once its awaited promise settled with `outcome`. -/
def continueTask (autoRefreshMetadata : Bool) (task : Task) (outcome : Outcome) (c : Client) :
    Client :=
  match task.stage, outcome with
  | .seedDial n, .fulfilled _ => fetchOver task.call task.fromTimer n c
  | .fetch _, .fulfilled brokers =>
      reconcile task.call task.fromTimer brokers [] { c with brokers := brokers }
  | .dial nodeId n rest current, .fulfilled _ =>
      reconcile task.call task.fromTimer rest current
        (setLink n (fun l => { l with listened := true })
          { c with connections := poolSet nodeId n c.connections })
  | .dial _ _ rest current, .rejected => reconcile task.call task.fromTimer rest current c
  | .evict nodeId current, _ =>
      evictNext task.call task.fromTimer current
        { c with connections := c.connections.filter (·.1 ≠ nodeId) }
  | .rearm, _ => startMetadataRefreshTimer autoRefreshMetadata c
  | .closing, _ => settleCall task.call true { c with connections := [], seedBrokers := [] }
  | _, .rejected => finishRefresh task.call task.fromTimer false c

def clearRefreshTimer (c : Client) : Client :=
  match c.metadataRefreshTimer with
  | some timer => { c with armed := c.armed.erase timer, metadataRefreshTimer := none }
  | none => c

def disconnectAll (c : Client) : Client :=
  let c := c.seedBrokers.foldl (fun c n => disconnectLink n c) c
  c.connections.foldl (fun c entry => disconnectLink entry.2 c) c

/-- `close()`: the flag, the timer, every seed and pooled connection disconnected, then, after
`Promise.all`, the pool and the seeds emptied. -/
def close (call : Nat) (c : Client) : Client :=
  if c.isClosed then settleCall call true c
  else
    suspend ⟨call, .closing, false, some (.fulfilled [])⟩
      (disconnectAll (clearRefreshTimer { c with isClosed := true }))

-- The event loop

def step (autoRefreshMetadata : Bool) (c : Client) (input : Input) : Option Client :=
  if c.halted then none else
  let next := { c with fresh := c.fresh + 1 }
  match input with
  | .refresh => some (refreshMetadata c.fresh false next)
  | .close => some (close c.fresh next)
  | .timerFires timer =>
      if timer ∈ c.armed then some (refreshMetadata c.fresh true { next with armed := c.armed.erase timer })
      else none
  | .dialSucceeds n =>
      match c.links[n]? with
      | some link =>
          if link.dialing then
            some (settleTasks (fun t => t.stage.dialOf == some n) (.fulfilled [])
              (setLink n (fun l => { l with state := .connected, dialing := false }) c))
          else none
      | none => none
  | .dialFails n =>
      match c.links[n]? with
      | some link =>
          if link.dialing then
            if dialWaiters n c < 2 then some { c with halted := true }
            else
              some (disconnectLink n (settleTasks (fun t => t.stage.dialOf == some n) .rejected
                (setLink n (fun l => { l with dialing := false }) c)))
          else none
      | none => none
  | .drops n =>
      match c.links[n]? with
      | some link => if link.state = .connected then some (disconnectLink n c) else none
      | none => none
  | .responds call brokers =>
      match c.tasks.find? (·.call = call) with
      | some task@⟨_, .fetch n, _, none⟩ =>
          if (c.links[n]?.map (·.state)) = some .connected then
            some (settleTasks (· == task) (.fulfilled brokers) c)
          else none
      | _ => none
  | .requestFails call =>
      match c.tasks.find? (·.call = call) with
      | some task@⟨_, .fetch _, _, none⟩ => some (settleTasks (· == task) .rejected c)
      | _ => none
  | .resume call =>
      match c.tasks.find? (·.call = call) with
      | some task =>
          match task.outcome with
          | some outcome =>
              some (continueTask autoRefreshMetadata task outcome
                { c with tasks := c.tasks.erase task })
          | none => none
      | none => none

def run (autoRefreshMetadata : Bool) : Client → List Input → Option Client
  | c, [] => some c
  | c, input :: inputs => (step autoRefreshMetadata c input).bind (run autoRefreshMetadata · inputs)

/-- A client whose `connect()` has finished over its one seed, connection 0, with a Metadata
response that listed no broker: an empty pool, and the refresh timer, timer 0, armed. -/
def Client.started : Client :=
  ⟨[], [0], false, false, some 0, [], [⟨.connected, false, false⟩], [], [], [], [0], 1, false⟩

/-- What one step can do: a call of `refreshMetadata()`, by the program or the timer; `close()`;
a dial of connection `n` that succeeds, or fails and stops the process, or fails while joined;
connection `n` dropping; the Metadata request of a suspended call settling; a suspended call
going on. -/
theorem step_cases {autoRefreshMetadata : Bool} {c c' : Client} {input : Input}
    (stepped : step autoRefreshMetadata c input = some c') :
    (∃ fromTimer armed,
      c' = refreshMetadata c.fresh fromTimer { c with fresh := c.fresh + 1, armed := armed }) ∨
    c' = close c.fresh { c with fresh := c.fresh + 1 } ∨
    (∃ n link, c.links[n]? = some link ∧ link.dialing = true ∧
      c' = settleTasks (fun t => t.stage.dialOf == some n) (.fulfilled [])
        (setLink n (fun l => { l with state := .connected, dialing := false }) c)) ∨
    c' = { c with halted := true } ∨
    (∃ n, 2 ≤ dialWaiters n c ∧
      c' = disconnectLink n (settleTasks (fun t => t.stage.dialOf == some n) .rejected
        (setLink n (fun l => { l with dialing := false }) c))) ∨
    (∃ n, c' = disconnectLink n c) ∨
    (∃ task outcome, task ∈ c.tasks ∧ (∃ n, task.stage = .fetch n) ∧
      c' = settleTasks (· == task) outcome c) ∨
    (∃ task outcome, task ∈ c.tasks ∧ task.outcome = some outcome ∧
      c' = continueTask autoRefreshMetadata task outcome { c with tasks := c.tasks.erase task }) := by
  unfold step at stepped
  split at stepped
  · cases stepped
  cases input <;> dsimp only at stepped
  case refresh => exact .inl ⟨false, c.armed, (Option.some.inj stepped).symm⟩
  case close => exact .inr (.inl (Option.some.inj stepped).symm)
  case timerFires timer =>
    split at stepped
    · exact .inl ⟨true, _, (Option.some.inj stepped).symm⟩
    · cases stepped
  case dialSucceeds n =>
    split at stepped
    · rename_i link found
      split at stepped
      · exact .inr (.inr (.inl ⟨n, link, found, ‹_›, (Option.some.inj stepped).symm⟩))
      · cases stepped
    · cases stepped
  case dialFails n =>
    split at stepped
    · split at stepped
      · split at stepped
        · exact .inr (.inr (.inr (.inl (Option.some.inj stepped).symm)))
        · exact .inr (.inr (.inr (.inr (.inl ⟨n, by omega, (Option.some.inj stepped).symm⟩))))
      · cases stepped
    · cases stepped
  case drops n =>
    split at stepped
    · split at stepped
      · exact .inr (.inr (.inr (.inr (.inr (.inl ⟨n, (Option.some.inj stepped).symm⟩)))))
      · cases stepped
    · cases stepped
  case responds call brokers =>
    split at stepped
    · rename_i found
      split at stepped
      · exact .inr (.inr (.inr (.inr (.inr (.inr (.inl ⟨_, _, List.mem_of_find?_eq_some found,
          ⟨_, rfl⟩, (Option.some.inj stepped).symm⟩))))))
      · cases stepped
    · cases stepped
  case requestFails call =>
    split at stepped
    · rename_i found
      exact .inr (.inr (.inr (.inr (.inr (.inr (.inl ⟨_, _, List.mem_of_find?_eq_some found,
        ⟨_, rfl⟩, (Option.some.inj stepped).symm⟩))))))
    · cases stepped
  case resume call =>
    split at stepped
    · rename_i task found
      split at stepped
      · rename_i outcome settled
        exact .inr (.inr (.inr (.inr (.inr (.inr (.inr ⟨task, outcome,
          List.mem_of_find?_eq_some found, settled, (Option.some.inj stepped).symm⟩))))))
      · cases stepped
    · cases stepped

end KafkaClient.NetworkClient
