import KafkaClient.SingleFlight

/-! What `updateBrokerConnections` makes of the connection pool, over every run with no
`close()`. A node id maps to one connection; a pooled connection leaves the pool only when its
node is gone from the broker map, and is disconnected when it leaves; a connection pooled under
a node of the response stays, whatever its state; when a refresh completes fulfilled, the
pool's node ids are the broker ids of the response. As the code stands, a failed dial that no
other call waits on stops the process, since nothing listens for `'error'` on a connection being
dialed. -/

namespace KafkaClient.NetworkClient

open BrokerConnection (ConnectionState)

/-- The node ids of the pool, in insertion order. -/
def Client.nodeIds (c : Client) : List Nat := c.connections.map (·.1)

def Client.linkState (c : Client) (n : Nat) : Option ConnectionState := c.links[n]?.map (·.state)

def Client.linkDialing (c : Client) (n : Nat) : Option Bool := c.links[n]?.map (·.dialing)

/-- The pool holds exactly the brokers of the broker map. -/
def Matched (c : Client) : Prop := ∀ nodeId, nodeId ∈ c.nodeIds ↔ nodeId ∈ c.brokers

/-- The pool as a `Map` of connections that have finished their dial. -/
structure PoolShape (c : Client) : Prop where
  /-- A node id maps to one connection. -/
  nodeIds_nodup : c.nodeIds.Nodup
  /-- The seeds are connections of the client. -/
  seeds_linked : ∀ s ∈ c.seedBrokers, s < c.links.length
  /-- A pooled connection is one of the client's, not a seed, and not dialing. -/
  pooled_dialed : ∀ entry ∈ c.connections, entry.2 < c.links.length ∧ entry.2 ∉ c.seedBrokers ∧
    c.linkDialing entry.2 = some false

/-- What a suspended call knows of the reconciliation it is in. A call awaiting the dial of
connection `n` for `nodeId`: `n` is a new connection, its promise is pending or fulfilled
with the dial over, the response's brokers are `current` and `rest`, and every node of
`current` but `nodeId` is pooled. A call awaiting the eviction of `nodeId`: the response's
brokers are `current`, all pooled, `nodeId` is not one of them, and its connection is
disconnected. No `close()` is awaited. -/
def StageOk (c : Client) (task : Task) : Prop :=
  match task.stage with
  | .dial nodeId n rest current =>
      n < c.links.length ∧ n ∉ c.seedBrokers ∧
      (task.outcome = none ∨ task.outcome = some (.fulfilled []) ∧ c.linkDialing n = some false) ∧
      (∀ b, b ∈ c.brokers ↔ b ∈ current ∨ b ∈ rest) ∧
      nodeId ∈ current ∧ nodeId ∉ c.nodeIds ∧ ∀ b ∈ current, b ≠ nodeId → b ∈ c.nodeIds
  | .evict nodeId current =>
      (∀ b, b ∈ c.brokers ↔ b ∈ current) ∧ (∀ b ∈ current, b ∈ c.nodeIds) ∧ nodeId ∉ current ∧
      ∀ n, (nodeId, n) ∈ c.connections → c.linkState n = some .disconnected
  | .closing => False
  | _ => True

/-- The pool's invariant while the client is open. -/
structure Reconciling (c : Client) extends PoolShape c : Prop where
  /-- Every suspended call's view of the reconciliation holds. -/
  stages : ∀ task ∈ c.tasks, StageOk c task

/-- No call but a timer's `.finally` is suspended: the state of a refresh that has just resumed,
since at most one refresh is in progress. -/
def Quiet (c : Client) : Prop := ∀ task ∈ c.tasks, task.stage = .rearm

/-- What the pool's invariant reads of a client. -/
def Client.poolView (c : Client) : Pool × List Nat × List Nat × List Link :=
  (c.connections, c.brokers, c.seedBrokers, c.links)

/-! ## Connections -/

theorem links_setLink (n m : Nat) (f : Link → Link) (c : Client) :
    (setLink n f c).links[m]? = if n = m then c.links[m]?.map f else c.links[m]? := by
  by_cases same : n = m <;> simp [setLink, List.getElem?_modify, same]

@[simp] theorem length_setLink (n : Nat) (f : Link → Link) (c : Client) :
    (setLink n f c).links.length = c.links.length := by
  simp [setLink]

theorem linkDialing_setLink (n m : Nat) (f : Link → Link) (c : Client) :
    (setLink n f c).linkDialing m =
      if n = m then c.links[m]?.map (f · |>.dialing) else c.linkDialing m := by
  unfold Client.linkDialing
  rw [links_setLink]
  split <;> simp [Function.comp_def]

theorem linkState_setLink (n m : Nat) (f : Link → Link) (c : Client) :
    (setLink n f c).linkState m =
      if n = m then c.links[m]?.map (f · |>.state) else c.linkState m := by
  unfold Client.linkState
  rw [links_setLink]
  split <;> simp [Function.comp_def]

/-! ## Moving the invariant between clients -/

theorem StageOk.of_poolView {c c' : Client} {task : Task} (view : c'.poolView = c.poolView)
    (ok : StageOk c task) : StageOk c' task := by
  simp only [Client.poolView, Prod.mk.injEq] at view
  obtain ⟨pool, brokers, seeds, links⟩ := view
  unfold StageOk Client.nodeIds Client.linkDialing Client.linkState at *
  rw [pool, brokers, seeds, links]
  exact ok

theorem PoolShape.of_poolView {c c' : Client} (view : c'.poolView = c.poolView)
    (shape : PoolShape c) : PoolShape c' := by
  simp only [Client.poolView, Prod.mk.injEq] at view
  obtain ⟨pool, -, seeds, links⟩ := view
  obtain ⟨nodup, linked, dialed⟩ := shape
  exact ⟨by simpa only [Client.nodeIds, pool] using nodup, by simpa only [seeds, links] using linked,
    by simpa only [Client.linkDialing, pool, seeds, links] using dialed⟩

theorem Reconciling.of_quiet {c : Client} (shape : PoolShape c) (quiet : Quiet c) :
    Reconciling c :=
  ⟨shape, fun task mem => by unfold StageOk; rw [quiet task mem]; trivial⟩

/-- The invariant moves to a client with the same pool view whose suspended calls are old
ones or hold their own view. -/
theorem Reconciling.of_tasks {c c' : Client} (inv : Reconciling c)
    (view : c'.poolView = c.poolView) (tasks : ∀ task ∈ c'.tasks, task ∈ c.tasks ∨ StageOk c' task) :
    Reconciling c' :=
  ⟨inv.toPoolShape.of_poolView view, fun task mem =>
    (tasks task mem).elim (fun old => (inv.stages task old).of_poolView view) id⟩

/-- The invariant moves to a client that differs only in fields it does not read. -/
theorem Reconciling.of_frame {c c' : Client} (inv : Reconciling c)
    (view : c'.poolView = c.poolView) (tasks : c'.tasks = c.tasks) : Reconciling c' :=
  inv.of_tasks view fun _ mem => .inl (tasks ▸ mem)

theorem suspend_reconciling {c : Client} {task : Task} (inv : Reconciling c)
    (ok : StageOk c task) : Reconciling (suspend task c) :=
  inv.of_tasks rfl fun t mem => by
    rcases List.mem_append.mp mem with old | new
    · exact .inl old
    · exact .inr (by rw [List.mem_singleton.mp new]; exact ok)

theorem settleTasks_reconciling {c : Client} {pick : Task → Bool} {outcome : Outcome}
    (inv : Reconciling c)
    (safe : ∀ t ∈ c.tasks, pick t = true → t.outcome = none →
      StageOk c { t with outcome := some outcome }) :
    Reconciling (settleTasks pick outcome c) :=
  inv.of_tasks rfl fun t mem => by
    obtain ⟨old, oldMem, rfl⟩ := List.mem_map.mp mem
    by_cases picked : pick old && old.outcome.isNone
    · rw [if_pos picked]
      simp only [Bool.and_eq_true, Option.isNone_iff_eq_none] at picked
      exact .inr (safe old oldMem picked.1 picked.2)
    · rw [if_neg picked]
      exact .inl oldMem

/-- Settling the Metadata requests of calls leaves every view: only a dial's view reads its
promise. -/
theorem settleFetches_reconciling {c : Client} {pick : Task → Bool} {outcome : Outcome}
    (inv : Reconciling c) (fetches : ∀ t ∈ c.tasks, pick t = true → ∃ n, t.stage = .fetch n) :
    Reconciling (settleTasks pick outcome c) :=
  settleTasks_reconciling inv fun t mem picked _ => by
    obtain ⟨n, fetch⟩ := fetches t mem picked
    unfold StageOk
    rw [fetch]
    trivial

/-- The invariant moves to a client whose connections changed state, so long as none was added
or removed, a pooled connection or one a dial waits for that is off its dial stays so, and a
pooled connection that is disconnected stays so. -/
theorem Reconciling.of_links {c c' : Client} (inv : Reconciling c)
    (same : c'.connections = c.connections ∧ c'.brokers = c.brokers ∧
      c'.seedBrokers = c.seedBrokers ∧ c'.tasks = c.tasks)
    (length : c'.links.length = c.links.length)
    (dialing : ∀ n, ((∃ nodeId, (nodeId, n) ∈ c.connections) ∨
        ∃ t ∈ c.tasks, ∃ nodeId rest current, t.stage = .dial nodeId n rest current) →
      c.linkDialing n = some false → c'.linkDialing n = some false)
    (disconnected : ∀ nodeId n, (nodeId, n) ∈ c.connections →
      c.linkState n = some .disconnected → c'.linkState n = some .disconnected) :
    Reconciling c' := by
  obtain ⟨pool, brokers, seeds, tasks⟩ := same
  have nodeIds : c'.nodeIds = c.nodeIds := by rw [Client.nodeIds, pool]; rfl
  refine ⟨⟨nodeIds ▸ inv.nodeIds_nodup, by rw [seeds, length]; exact inv.seeds_linked, ?_⟩, ?_⟩
  · intro entry mem
    rw [pool] at mem
    obtain ⟨bound, seed, off⟩ := inv.pooled_dialed entry mem
    exact ⟨length ▸ bound, seeds ▸ seed, dialing _ (.inl ⟨entry.1, mem⟩) off⟩
  · intro task mem
    rw [tasks] at mem
    have ok := inv.stages task mem
    rcases task with ⟨call, stage, fromTimer, promise⟩
    cases stage with
    | dial nodeId n rest current =>
      obtain ⟨bound, seed, pending, covers, here, fresh, pooled⟩ := ok
      refine ⟨length ▸ bound, seeds ▸ seed, ?_, brokers ▸ covers, here, nodeIds ▸ fresh,
        nodeIds ▸ pooled⟩
      exact pending.imp_right fun ⟨fulfilled, off⟩ =>
        ⟨fulfilled, dialing n (.inr ⟨_, mem, nodeId, rest, current, rfl⟩) off⟩
    | evict nodeId current =>
      obtain ⟨covers, pooled, gone, down⟩ := ok
      exact ⟨brokers ▸ covers, nodeIds ▸ pooled, gone, fun n mem' =>
        disconnected nodeId n (pool ▸ mem') (down n (pool ▸ mem'))⟩
    | closing => exact ok.elim
    | seedDial | fetch | rearm => trivial

/-- A change of one connection that keeps a connection off a dial so, and keeps a pooled one
disconnected. -/
theorem setLink_reconciling {c : Client} {n : Nat} {f : Link → Link} (inv : Reconciling c)
    (dialing : ∀ l, l.dialing = false → (f l).dialing = false)
    (disconnected : ∀ nodeId, (nodeId, n) ∈ c.connections →
      ∀ l, l.state = .disconnected → (f l).state = .disconnected) :
    Reconciling (setLink n f c) := by
  refine inv.of_links ⟨rfl, rfl, rfl, rfl⟩ (length_setLink n f c) (fun m _ off => ?_)
    (fun nodeId m pooled down => ?_)
  · rw [linkDialing_setLink]
    split
    · unfold Client.linkDialing at off
      obtain ⟨l, found, off⟩ := Option.map_eq_some'.mp off
      rw [found]
      exact congrArg some (dialing l off)
    · exact off
  · rw [linkState_setLink]
    split
    · subst n
      unfold Client.linkState at down
      obtain ⟨l, found, down⟩ := Option.map_eq_some'.mp down
      rw [found]
      exact congrArg some (disconnected nodeId pooled l down)
    · exact down

/-- A change of a connection that is neither pooled nor awaited by a dial. -/
theorem setLink_unused_reconciling {c : Client} {n : Nat} {f : Link → Link} (inv : Reconciling c)
    (unpooled : ∀ entry ∈ c.connections, entry.2 ≠ n)
    (undialed : ∀ t ∈ c.tasks, ∀ nodeId rest current, t.stage ≠ .dial nodeId n rest current) :
    Reconciling (setLink n f c) := by
  refine inv.of_links ⟨rfl, rfl, rfl, rfl⟩ (length_setLink n f c) (fun m relied off => ?_)
    (fun nodeId m pooled down => ?_)
  · rw [linkDialing_setLink, if_neg]
    · exact off
    · rintro rfl
      rcases relied with ⟨nodeId, pooled⟩ | ⟨t, mem, nodeId, rest, current, dial⟩
      · exact unpooled _ pooled rfl
      · exact undialed t mem nodeId rest current dial
  · rw [linkState_setLink, if_neg fun same => unpooled _ pooled same.symm]
    exact down

theorem disconnectLink_reconciling {c : Client} (n : Nat) (inv : Reconciling c) :
    Reconciling (disconnectLink n c) :=
  settleFetches_reconciling (setLink_reconciling inv (fun _ off => off) fun _ _ _ _ => rfl)
    fun _ _ picked => ⟨n, by simpa using picked⟩

/-! ## What each piece of code leaves of the pool -/

/-- The pool, the broker map and the closed flag are as they were. -/
structure Fixed (c c' : Client) : Prop where
  connections : c'.connections = c.connections
  brokers : c'.brokers = c.brokers
  isClosed : c'.isClosed = c.isClosed

theorem Fixed.trans {c c' c'' : Client} (first : Fixed c c') (second : Fixed c' c'') :
    Fixed c c'' :=
  ⟨second.1.trans first.1, second.2.trans first.2, second.3.trans first.3⟩

theorem awaitConnect_fixed (n : Nat) (task : Task) (c : Client) :
    Fixed c (awaitConnect n task c) := by
  unfold awaitConnect
  split <;> (try split) <;> exact ⟨rfl, rfl, rfl⟩

theorem fetchOver_fixed (call : Nat) (fromTimer : Bool) (n : Nat) (c : Client) :
    Fixed c (fetchOver call fromTimer n c) := by
  unfold fetchOver awaitSend
  split <;> (try split) <;> exact ⟨rfl, rfl, rfl⟩

theorem finishRefresh_fixed (call : Nat) (fromTimer fulfilled : Bool) (c : Client) :
    Fixed c (finishRefresh call fromTimer fulfilled c) := by
  unfold finishRefresh
  split <;> exact ⟨rfl, rfl, rfl⟩

theorem evictNext_fixed (call : Nat) (fromTimer : Bool) (current : List Nat) (c : Client) :
    Fixed c (evictNext call fromTimer current c) := by
  unfold evictNext
  split
  · exact ⟨rfl, rfl, rfl⟩
  · exact finishRefresh_fixed _ _ _ c

theorem reconcile_fixed (call : Nat) (fromTimer : Bool) :
    ∀ (rest current : List Nat) (c : Client), Fixed c (reconcile call fromTimer rest current c)
  | [], current, c => evictNext_fixed call fromTimer current c
  | nodeId :: rest, current, c => by
      dsimp only [reconcile]
      split
      · exact reconcile_fixed call fromTimer rest _ c
      · exact (show Fixed c { c with links := c.links ++ [⟨.disconnected, false, false⟩] } from
          ⟨rfl, rfl, rfl⟩).trans (awaitConnect_fixed _ _ _)

theorem refreshMetadata_fixed (call : Nat) (fromTimer : Bool) (c : Client) :
    Fixed c (refreshMetadata call fromTimer c) := by
  unfold refreshMetadata
  split
  · split <;> exact ⟨rfl, rfl, rfl⟩
  · have flagged : Fixed c { c with isRefreshingMetadata := true } := ⟨rfl, rfl, rfl⟩
    dsimp only
    split
    · exact flagged.trans (fetchOver_fixed _ _ _ _)
    · exact flagged.trans (awaitConnect_fixed _ _ _)
    · exact flagged.trans (finishRefresh_fixed _ _ _ _)

theorem startMetadataRefreshTimer_fixed (autoRefreshMetadata : Bool) (c : Client) :
    Fixed c (startMetadataRefreshTimer autoRefreshMetadata c) := by
  unfold startMetadataRefreshTimer
  split <;> split <;> exact ⟨rfl, rfl, rfl⟩

theorem foldl_fixed {α : Type} (f : Client → α → Client) (fixed : ∀ c a, Fixed c (f c a)) :
    ∀ (l : List α) (c : Client), Fixed c (l.foldl f c)
  | [], _ => ⟨rfl, rfl, rfl⟩
  | a :: l, c => (fixed c a).trans (foldl_fixed f fixed l (f c a))

theorem disconnectLink_fixed (n : Nat) (c : Client) : Fixed c (disconnectLink n c) :=
  ⟨rfl, rfl, rfl⟩

theorem disconnectAll_fixed (c : Client) : Fixed c (disconnectAll c) :=
  (foldl_fixed _ (fun c n => disconnectLink_fixed n c) _ c).trans
    (foldl_fixed _ (fun c (entry : Nat × Nat) => disconnectLink_fixed entry.2 c) _ _)

theorem close_isClosed (call : Nat) (c : Client) : (close call c).isClosed = true := by
  unfold close
  split
  · assumption
  · have cleared : (clearRefreshTimer { c with isClosed := true }).isClosed = true := by
      unfold clearRefreshTimer; split <;> rfl
    exact (disconnectAll_fixed _).isClosed.trans cleared

/-- `close()` inside a timer's refresh: the refresh is dialing the connection for broker 1 when
`close()` runs to its end, with the pool empty and no timer armed. The dial then succeeds, the
refresh pools the connection, connected, and its `.finally` arms the timer again. -/
theorem close_during_refresh_dial_leaks :
    (run true Client.started [.timerFires 0, .resume 1, .responds 1 [1], .resume 1, .close,
        .resume 2]).map
      (fun c => c.settled == [(2, true)] && c.connections.isEmpty && c.armed.isEmpty &&
        c.isClosed) = some true ∧
    (run true Client.started [.timerFires 0, .resume 1, .responds 1 [1], .resume 1, .close,
        .resume 2, .dialSucceeds 1, .resume 1, .resume 1]).map
      (fun c => c.connections == [(1, 1)] && (c.links[1]?.map (·.state)) == some .connected &&
        c.armed == [3]) = some true :=
  ⟨by decide, by decide⟩

/-! ## The invariant, piece by piece -/

section Pieces

variable {c : Client} (inv : Reconciling c)
include inv

theorem finishRefresh_reconciling (call : Nat) (fromTimer fulfilled : Bool) :
    Reconciling (finishRefresh call fromTimer fulfilled c) := by
  have settled : Reconciling (settleCall call fulfilled { c with isRefreshingMetadata := false }) :=
    inv.of_frame rfl rfl
  unfold finishRefresh
  split
  · exact suspend_reconciling settled trivial
  · exact settled

theorem fetchOver_reconciling (call : Nat) (fromTimer : Bool) (n : Nat) :
    Reconciling (fetchOver call fromTimer n c) := by
  have fetching : Reconciling { c with fetches := c.fetches ++ [call] } :=
    inv.of_frame rfl rfl
  unfold fetchOver awaitSend
  split
  · split <;> exact suspend_reconciling fetching trivial
  · exact suspend_reconciling fetching trivial

theorem startMetadataRefreshTimer_reconciling (autoRefreshMetadata : Bool) :
    Reconciling (startMetadataRefreshTimer autoRefreshMetadata c) := by
  unfold startMetadataRefreshTimer
  split <;> split <;> exact inv.of_frame rfl rfl

/-- The dial of a seed touches no pooled connection and no connection a dial waits for. -/
theorem awaitConnect_seed_reconciling {n : Nat} {task : Task} (seed : n ∈ c.seedBrokers)
    (stage : task.stage = .seedDial n) : Reconciling (awaitConnect n task c) := by
  have ok : ∀ c' (t : Task), t.stage = .seedDial n → StageOk c' t := fun _ _ seedDial => by
    unfold StageOk; rw [seedDial]; trivial
  unfold awaitConnect
  split
  · split
    · exact suspend_reconciling inv (ok _ _ stage)
    · exact suspend_reconciling inv (ok _ _ stage)
    · refine suspend_reconciling (setLink_unused_reconciling inv
        (fun entry mem same => (inv.pooled_dialed entry mem).2.1 (same ▸ seed)) ?_) (ok _ _ stage)
      intro t mem nodeId rest current dial
      have dialOk := inv.stages t mem
      unfold StageOk at dialOk
      rw [dial] at dialOk
      exact dialOk.2.1 seed
  · exact suspend_reconciling inv (ok _ _ stage)

theorem refreshMetadata_reconciling (call : Nat) (fromTimer : Bool) :
    Reconciling (refreshMetadata call fromTimer c) := by
  unfold refreshMetadata
  split
  · have settled : Reconciling (settleCall call true c) := inv.of_frame rfl rfl
    split
    · exact suspend_reconciling settled trivial
    · exact settled
  · have flagged : Reconciling { c with isRefreshingMetadata := true } :=
      inv.of_frame rfl rfl
    dsimp only
    split
    · exact fetchOver_reconciling flagged _ _ _
    · rename_i n _ seed
      exact awaitConnect_seed_reconciling flagged (List.mem_of_mem_head? seed) rfl
    · exact finishRefresh_reconciling flagged _ _ _

/-- A dial that succeeds: its connection is off its dial, and the calls awaiting it go on. -/
theorem dialSucceeds_reconciling {n : Nat} {link : Link} (found : c.links[n]? = some link)
    (dialing : link.dialing = true) :
    Reconciling (settleTasks (fun t => t.stage.dialOf == some n) (.fulfilled [])
      (setLink n (fun l => { l with state := .connected, dialing := false }) c)) := by
  have connected := setLink_reconciling (n := n)
    (f := fun l => { l with state := .connected, dialing := false }) inv (fun _ _ => rfl)
    fun nodeId pooled => by
      have off := (inv.pooled_dialed _ pooled).2.2
      simp [Client.linkDialing, found, dialing] at off
  refine settleTasks_reconciling connected fun t mem picked pending => ?_
  have ok := connected.stages t mem
  rcases t with ⟨call, stage, fromTimer, promise⟩
  cases stage <;> simp only [Stage.dialOf, beq_iff_eq, Option.some.injEq, reduceCtorEq] at picked
  case seedDial => trivial
  case dial nodeId m rest current =>
    subst m
    obtain ⟨bound, seed, -, covers⟩ := ok
    refine ⟨bound, seed, .inr ⟨rfl, ?_⟩, covers⟩
    rw [linkDialing_setLink, if_pos rfl, found]
    rfl

end Pieces

/-! ## A refresh that goes on -/

theorem dialWaiters_le_inProgress (n : Nat) (c : Client) : dialWaiters n c ≤ c.inProgress := by
  rw [dialWaiters, ← List.countP_eq_length_filter]
  refine List.countP_mono_left fun t _ waiting => ?_
  rcases t with ⟨_, stage, _, _⟩
  cases stage <;> simp_all [Stage.dialOf, Stage.isRefresh]

theorem SingleFlight.inProgress_le {c : Client} (flight : SingleFlight c) : c.inProgress ≤ 1 := by
  unfold SingleFlight at flight
  split at flight <;> omega

/-- A refresh that resumes is the only one in progress: once it leaves the list, only timers'
`.finally` calls are suspended, and the flag is set. -/
theorem quiet_of_erase {c : Client} {task : Task} (flight : SingleFlight c) (inv : Reconciling c)
    (mem : task ∈ c.tasks) (refresh : task.stage.isRefresh = true) :
    Quiet { c with tasks := c.tasks.erase task } ∧ c.isRefreshingMetadata = true := by
  have count := inProgress_erase c task mem
  rw [if_pos refresh] at count
  unfold SingleFlight at flight
  have flagged : c.isRefreshingMetadata = true := by
    by_contra flagOff
    rw [if_neg flagOff] at flight
    omega
  rw [if_pos flagged] at flight
  refine ⟨fun t erased => ?_, flagged⟩
  have idle : t.stage.isRefresh = false := by
    have none : { c with tasks := c.tasks.erase task }.inProgress = 0 := by omega
    simpa using List.countP_eq_zero.mp none t erased
  have ok := inv.stages t (List.mem_of_mem_erase erased)
  rcases t with ⟨_, stage, _, _⟩
  cases stage <;> simp only [Stage.isRefresh, Bool.true_eq_false] at idle
  · rfl
  · exact ok.elim

theorem awaitConnect_disconnected {n : Nat} {task : Task} {c : Client} {l : Link}
    (found : c.links[n]? = some l) (state : l.state = .disconnected) :
    awaitConnect n task c =
      suspend task (setLink n (fun l => { l with state := .connecting, dialing := true }) c) := by
  simp only [awaitConnect, found, state]

theorem PoolShape.push_link {c : Client} (shape : PoolShape c) (link : Link) :
    PoolShape { c with links := c.links ++ [link] } where
  nodeIds_nodup := shape.nodeIds_nodup
  seeds_linked := fun s seed => by
    have := shape.seeds_linked s seed
    simp only [List.length_append, List.length_singleton]
    omega
  pooled_dialed := fun entry mem => by
    obtain ⟨bound, seed, off⟩ := shape.pooled_dialed entry mem
    refine ⟨by simp only [List.length_append, List.length_singleton]; omega, seed, ?_⟩
    unfold Client.linkDialing at off ⊢
    rw [List.getElem?_append_left bound]
    exact off

theorem PoolShape.append {c : Client} {nodeId n : Nat} (shape : PoolShape c)
    (fresh : nodeId ∉ c.nodeIds) (bound : n < c.links.length) (seed : n ∉ c.seedBrokers)
    (off : c.linkDialing n = some false) :
    PoolShape { c with connections := c.connections ++ [(nodeId, n)] } where
  nodeIds_nodup := by
    simp only [Client.nodeIds, List.map_append, List.map_singleton]
    exact List.nodup_append.mpr ⟨shape.nodeIds_nodup, List.nodup_singleton _,
      List.disjoint_singleton.mpr fresh⟩
  seeds_linked := shape.seeds_linked
  pooled_dialed := fun entry mem => by
    rcases List.mem_append.mp mem with old | new
    · exact shape.pooled_dialed entry old
    · rw [List.mem_singleton.mp new]
      exact ⟨bound, seed, off⟩

theorem PoolShape.filter {c : Client} (shape : PoolShape c) (p : Nat × Nat → Bool) :
    PoolShape { c with connections := c.connections.filter p } where
  nodeIds_nodup := shape.nodeIds_nodup.sublist ((List.filter_sublist _).map _)
  seeds_linked := shape.seeds_linked
  pooled_dialed := fun entry mem => shape.pooled_dialed entry (List.mem_of_mem_filter mem)

section Going

variable (call : Nat) (fromTimer : Bool)

/-- The eviction loop, with the response's brokers `current` all pooled: it disconnects and
awaits the next connection whose node is not in `current`; with none left, the pool holds
exactly the response's brokers. -/
theorem evictNext_reconciling (current : List Nat) {c : Client} (shape : PoolShape c)
    (quiet : Quiet c) (flagged : c.isRefreshingMetadata = true)
    (covers : ∀ b, b ∈ c.brokers ↔ b ∈ current) (pooled : ∀ b ∈ current, b ∈ c.nodeIds) :
    Reconciling (evictNext call fromTimer current c) ∧
      ((evictNext call fromTimer current c).isRefreshingMetadata = false →
        Matched (evictNext call fromTimer current c)) := by
  have inv := Reconciling.of_quiet shape quiet
  unfold evictNext
  split
  · rename_i nodeId n found
    have mem := List.mem_of_find?_eq_some found
    have gone : nodeId ∉ current := by simpa using List.find?_some found
    refine ⟨suspend_reconciling (disconnectLink_reconciling n inv)
      ⟨covers, pooled, gone, fun m other => ?_⟩, fun flagOff => nomatch flagged.symm.trans flagOff⟩
    have same := List.inj_on_of_nodup_map shape.nodeIds_nodup other mem rfl
    cases same
    show (setLink n _ c).linkState n = _
    rw [linkState_setLink, if_pos rfl, List.getElem?_eq_getElem (shape.pooled_dialed _ mem).1]
    rfl
  · rename_i unfound
    refine ⟨finishRefresh_reconciling inv _ _ _, fun _ nodeId => ?_⟩
    have fixed := finishRefresh_fixed call fromTimer true c
    rw [Client.nodeIds, fixed.connections, fixed.brokers, covers]
    refine ⟨fun mem => ?_, pooled nodeId⟩
    obtain ⟨entry, entryMem, rfl⟩ := List.mem_map.mp mem
    simpa using List.find?_eq_none.mp unfound entry entryMem

theorem mem_current {nodeId b : Nat} {current : List Nat} :
    b ∈ (if nodeId ∈ current then current else current ++ [nodeId]) ↔ b ∈ current ∨ b = nodeId := by
  split
  · exact ⟨.inl, fun here => here.elim id (· ▸ ‹_›)⟩
  · simp

/-- The loop over the response's brokers `rest` still to go: a pooled broker is passed over,
whatever its connection's state, and for another one a new connection is dialed. -/
theorem reconcile_reconciling :
    ∀ (rest current : List Nat) {c : Client}, PoolShape c → Quiet c →
      c.isRefreshingMetadata = true → (∀ b, b ∈ c.brokers ↔ b ∈ current ∨ b ∈ rest) →
      (∀ b ∈ current, b ∈ c.nodeIds) →
      Reconciling (reconcile call fromTimer rest current c) ∧
        ((reconcile call fromTimer rest current c).isRefreshingMetadata = false →
          Matched (reconcile call fromTimer rest current c))
  | [], current, _, shape, quiet, flagged, covers, pooled =>
      evictNext_reconciling call fromTimer current shape quiet flagged (by simpa using covers) pooled
  | nodeId :: rest, current, c, shape, quiet, flagged, covers, pooled => by
      have covers' : ∀ b, b ∈ c.brokers ↔
          b ∈ (if nodeId ∈ current then current else current ++ [nodeId]) ∨ b ∈ rest := fun b => by
        rw [covers, mem_current, List.mem_cons, or_assoc]
      dsimp only [reconcile]
      split
      · rename_i known
        obtain ⟨entry, entryMem, here⟩ := List.any_eq_true.mp known
        refine reconcile_reconciling rest _ shape quiet flagged covers' fun b mem => ?_
        rcases mem_current.mp mem with old | rfl
        · exact pooled b old
        · exact List.mem_map.mpr ⟨entry, entryMem, of_decide_eq_true here⟩
      · rename_i unknown
        have fresh : nodeId ∉ c.nodeIds := fun mem => unknown (List.any_eq_true.mpr
          (by obtain ⟨entry, entryMem, rfl⟩ := List.mem_map.mp mem; exact ⟨entry, entryMem, by simp⟩))
        rw [awaitConnect_disconnected (l := ⟨.disconnected, false, false⟩) (by simp) rfl]
        have pushed := Reconciling.of_quiet (shape.push_link ⟨.disconnected, false, false⟩) quiet
        have dialing := setLink_unused_reconciling (n := c.links.length)
          (f := fun l => { l with state := .connecting, dialing := true }) pushed
          (fun entry mem => (Nat.ne_of_lt (shape.pooled_dialed entry mem).1))
          (fun t mem _ _ _ => by rw [quiet t mem]; exact nofun)
        refine ⟨suspend_reconciling dialing ⟨by simp, fun seed => ?_, .inl rfl, covers',
          mem_current.mpr (.inr rfl), fresh, fun b mem other => ?_⟩,
          fun flagOff => nomatch flagged.symm.trans flagOff⟩
        · exact Nat.lt_irrefl _ (shape.seeds_linked _ seed)
        · exact pooled b ((mem_current.mp mem).resolve_right other)

end Going

/-! ## Every step -/

theorem finishRefresh_settled (call : Nat) (fromTimer fulfilled : Bool) (c : Client) :
    (finishRefresh call fromTimer fulfilled c).settled = c.settled ++ [(call, fulfilled)] := by
  unfold finishRefresh
  split <;> rfl

/-- A suspended call goes on: the invariant holds after, and if the flag is then clear with a
call settled fulfilled, the reconciliation is over and the pool holds the response's brokers. -/
theorem resume_reconciling (autoRefreshMetadata : Bool) {c : Client} {task : Task}
    {outcome : Outcome} (flight : SingleFlight c) (inv : Reconciling c) (mem : task ∈ c.tasks)
    (settled : task.outcome = some outcome) :
    Reconciling (continueTask autoRefreshMetadata task outcome { c with tasks := c.tasks.erase task }) ∧
      ((continueTask autoRefreshMetadata task outcome
          { c with tasks := c.tasks.erase task }).isRefreshingMetadata = false →
        c.isRefreshingMetadata = true → ∀ call,
        (continueTask autoRefreshMetadata task outcome
          { c with tasks := c.tasks.erase task }).settled = c.settled ++ [(call, true)] →
        Matched (continueTask autoRefreshMetadata task outcome { c with tasks := c.tasks.erase task })) := by
  have erased : Reconciling { c with tasks := c.tasks.erase task } :=
    inv.of_tasks rfl fun _ erased => .inl (List.mem_of_mem_erase erased)
  have going := quiet_of_erase flight inv mem
  have ok := inv.stages task mem
  generalize c.tasks.erase task = others at erased going ⊢
  have failed : ∀ call fromTimer,
      Reconciling (finishRefresh call fromTimer false { c with tasks := others }) ∧ ∀ call',
        (finishRefresh call fromTimer false { c with tasks := others }).settled ≠
          c.settled ++ [(call', true)] :=
    fun _ _ => ⟨finishRefresh_reconciling erased _ _ _, fun _ same => by
      rw [finishRefresh_settled] at same; simp at same⟩
  rcases task with ⟨call, stage, fromTimer, promise⟩
  cases stage with
  | rearm =>
    have kept := startMetadataRefreshTimer_keeps autoRefreshMetadata { c with tasks := others }
    cases outcome <;> dsimp only [continueTask] <;>
      exact ⟨startMetadataRefreshTimer_reconciling erased _, fun flagOff flagged =>
        nomatch flagged.symm.trans (kept.2.symm.trans flagOff)⟩
  | closing => exact ok.elim
  | seedDial n =>
    have flagged := (going rfl).2
    cases outcome with
    | fulfilled =>
      have opened := fetchOver_opens call fromTimer n { c with tasks := others }
      dsimp only [continueTask]
      exact ⟨fetchOver_reconciling erased _ _ _, fun flagOff =>
        nomatch flagged.symm.trans (opened.2.symm.trans flagOff)⟩
    | rejected =>
      dsimp only [continueTask]
      exact ⟨(failed _ _).1, fun _ _ call' same => ((failed call fromTimer).2 call' same).elim⟩
  | fetch n =>
    obtain ⟨quiet, flagged⟩ := going rfl
    cases outcome with
    | fulfilled brokers =>
      dsimp only [continueTask]
      have done := reconcile_reconciling call fromTimer brokers []
        (c := { c with tasks := others, brokers := brokers }) ⟨erased.nodeIds_nodup,
          erased.seeds_linked, erased.pooled_dialed⟩ quiet flagged (by simp) (by simp)
      exact ⟨done.1, fun flagOff _ _ _ => done.2 flagOff⟩
    | rejected =>
      dsimp only [continueTask]
      exact ⟨(failed _ _).1, fun _ _ call' same => ((failed call fromTimer).2 call' same).elim⟩
  | dial nodeId n rest current =>
    obtain ⟨quiet, flagged⟩ := going rfl
    obtain ⟨bound, seed, pending, covers, here, fresh, pooled⟩ := ok
    obtain ⟨rfl, off⟩ : outcome = .fulfilled [] ∧ c.linkDialing n = some false := by
      rcases pending with unsettled | ⟨fulfilled, off⟩
      · exact nomatch unsettled.symm.trans settled
      · exact ⟨Option.some.inj (settled.symm.trans fulfilled), off⟩
    have appended := poolSet_of_fresh fresh n
    have pooledNow : Reconciling (setLink n (fun l => { l with listened := true })
        { c with tasks := others, connections := poolSet nodeId n c.connections }) := by
      rw [appended]
      exact setLink_reconciling (Reconciling.of_quiet
        (erased.toPoolShape.append fresh bound seed off) quiet) (fun _ off => off)
        fun _ _ _ down => down
    dsimp only [continueTask]
    have done := reconcile_reconciling call fromTimer rest current pooledNow.toPoolShape quiet
      flagged covers fun b mem => by
        show b ∈ (poolSet nodeId n c.connections).map (·.1)
        rw [appended, List.map_append, List.mem_append]
        by_cases other : b = nodeId
        · exact .inr (by simp [other])
        · exact .inl (pooled b mem other)
    exact ⟨done.1, fun flagOff _ _ _ => done.2 flagOff⟩
  | evict nodeId current =>
    obtain ⟨quiet, flagged⟩ := going rfl
    obtain ⟨covers, pooled, gone, -⟩ := ok
    have done := evictNext_reconciling call fromTimer current
      (erased.toPoolShape.filter (·.1 ≠ nodeId)) quiet flagged covers fun b mem => by
        obtain ⟨entry, entryMem, rfl⟩ := List.mem_map.mp (pooled b mem)
        exact List.mem_map.mpr ⟨entry, List.mem_filter.mpr ⟨entryMem,
          decide_eq_true fun same : entry.1 = nodeId => gone (same ▸ mem)⟩, rfl⟩
    cases outcome <;> dsimp only [continueTask] <;> exact ⟨done.1, fun flagOff _ _ _ => done.2 flagOff⟩

/-- Every pooled connection stays, or leaves the pool disconnected with its node gone from the
broker map. -/
def PoolKept (c c' : Client) : Prop :=
  ∀ entry ∈ c.connections, entry ∈ c'.connections ∨
    entry.1 ∉ c'.brokers ∧ c'.linkState entry.2 = some .disconnected

theorem PoolKept.of_connections {c c' : Client} (same : c'.connections = c.connections) :
    PoolKept c c' :=
  fun _ mem => .inl (same ▸ mem)

theorem evictNext_disconnected (call : Nat) (fromTimer : Bool) (current : List Nat) {c : Client}
    {m : Nat} (down : c.linkState m = some .disconnected) :
    (evictNext call fromTimer current c).linkState m = some .disconnected := by
  unfold evictNext
  split
  · rename_i n _
    show (setLink n _ c).linkState m = _
    rw [linkState_setLink]
    split
    · subst n
      unfold Client.linkState at down
      obtain ⟨l, found, -⟩ := Option.map_eq_some'.mp down
      rw [found]
      rfl
    · exact down
  · unfold finishRefresh
    split <;> exact down

/-- A suspended call that goes on keeps every pooled connection, but for the eviction it
awaited. -/
theorem resume_kept (autoRefreshMetadata : Bool) {c : Client} {task : Task} {outcome : Outcome}
    (inv : Reconciling c) (mem : task ∈ c.tasks) :
    PoolKept c (continueTask autoRefreshMetadata task outcome { c with tasks := c.tasks.erase task }) := by
  have ok := inv.stages task mem
  generalize c.tasks.erase task = others
  rcases task with ⟨call, stage, fromTimer, promise⟩
  cases stage with
  | closing => exact ok.elim
  | dial nodeId n rest current =>
    obtain ⟨-, -, -, -, -, fresh, -⟩ := ok
    cases outcome <;> dsimp only [continueTask]
    · refine fun entry mem => .inl ?_
      rw [(reconcile_fixed _ _ _ _ _).connections]
      show entry ∈ poolSet nodeId n c.connections
      rw [poolSet_of_fresh fresh]
      exact List.mem_append_left _ mem
    · exact PoolKept.of_connections (reconcile_fixed _ _ _ _ _).connections
  | evict nodeId current =>
    obtain ⟨covers, -, gone, down⟩ := ok
    have fixed := evictNext_fixed call fromTimer current
      { c with tasks := others, connections := c.connections.filter (·.1 ≠ nodeId) }
    refine fun entry mem => ?_
    cases outcome <;> dsimp only [continueTask] <;> rw [fixed.connections] <;>
    · by_cases evicted : entry.1 = nodeId
      · refine .inr ⟨by rw [fixed.brokers, evicted]; exact fun broker => gone ((covers _).mp broker),
          evictNext_disconnected _ _ _ (down entry.2 (evicted ▸ mem))⟩
      · exact .inl (List.mem_filter.mpr ⟨mem, decide_eq_true evicted⟩)
  | rearm =>
    cases outcome <;> exact PoolKept.of_connections (startMetadataRefreshTimer_fixed _ _).connections
  | seedDial n =>
    cases outcome
    · exact PoolKept.of_connections (fetchOver_fixed _ _ _ _).connections
    · exact PoolKept.of_connections (finishRefresh_fixed _ _ _ _).connections
  | fetch n =>
    cases outcome
    · exact PoolKept.of_connections (reconcile_fixed _ _ _ _ _).connections
    · exact PoolKept.of_connections (finishRefresh_fixed _ _ _ _).connections

theorem continueTask_isClosed (autoRefreshMetadata : Bool) (task : Task) (outcome : Outcome)
    (c : Client) : (continueTask autoRefreshMetadata task outcome c).isClosed = c.isClosed := by
  rcases task with ⟨call, stage, fromTimer, _⟩
  cases stage <;> cases outcome <;> dsimp only [continueTask] <;>
    first
    | exact (fetchOver_fixed _ _ _ _).isClosed
    | exact (finishRefresh_fixed _ _ _ _).isClosed
    | exact (reconcile_fixed _ _ _ _ _).isClosed
    | exact (evictNext_fixed _ _ _ _).isClosed
    | exact (startMetadataRefreshTimer_fixed _ _).isClosed
    | rfl

section Step

variable (autoRefreshMetadata : Bool) {c c' : Client} {input : Input}
  (stepped : step autoRefreshMetadata c input = some c') (unclosed : c'.isClosed = false)
include stepped unclosed

/-- `isClosed` is never cleared. -/
theorem step_unclosed : c.isClosed = false := by
  rcases step_cases stepped with ⟨fromTimer, armed, rfl⟩ | rfl | ⟨_, _, _, _, rfl⟩ | rfl |
      ⟨_, _, rfl⟩ | ⟨_, rfl⟩ | ⟨_, _, _, _, rfl⟩ | ⟨task, outcome, _, _, rfl⟩
  · exact (refreshMetadata_fixed c.fresh fromTimer
      { c with fresh := c.fresh + 1, armed := armed }).isClosed.symm.trans unclosed
  · exact nomatch (close_isClosed _ _).symm.trans unclosed
  · exact unclosed
  · exact unclosed
  · exact unclosed
  · exact unclosed
  · exact unclosed
  · exact (continueTask_isClosed autoRefreshMetadata task outcome
      { c with tasks := c.tasks.erase task }).symm.trans unclosed

theorem step_reconciling (flight : SingleFlight c) (inv : Reconciling c) :
    Reconciling c' ∧ (c'.isRefreshingMetadata = false → c.isRefreshingMetadata = true →
      ∀ call, c'.settled = c.settled ++ [(call, true)] → Matched c') := by
  rcases step_cases stepped with ⟨fromTimer, armed, rfl⟩ | rfl | ⟨n, link, found, dialing, rfl⟩ |
      rfl | ⟨n, waiters, rfl⟩ | ⟨n, rfl⟩ | ⟨task, outcome, mem, ⟨n, fetch⟩, rfl⟩ |
      ⟨task, outcome, mem, settled, rfl⟩
  · have called : Reconciling { c with fresh := c.fresh + 1, armed := armed } :=
      inv.of_frame rfl rfl
    refine ⟨refreshMetadata_reconciling called _ _, fun flagOff flagged => ?_⟩
    have kept := (refreshMetadata_flagged c.fresh fromTimer
      { c with fresh := c.fresh + 1, armed := armed } flagged).1
    exact nomatch flagged.symm.trans (kept.2.symm.trans flagOff)
  · exact nomatch (close_isClosed _ _).symm.trans unclosed
  · exact ⟨dialSucceeds_reconciling inv found dialing,
      fun flagOff flagged => nomatch flagged.symm.trans flagOff⟩
  · exact ⟨inv.of_frame rfl rfl,
      fun flagOff flagged => nomatch flagged.symm.trans flagOff⟩
  · have := dialWaiters_le_inProgress n c
    have := flight.inProgress_le
    omega
  · exact ⟨disconnectLink_reconciling n inv,
      fun flagOff flagged => nomatch flagged.symm.trans flagOff⟩
  · refine ⟨settleFetches_reconciling inv fun t _ picked => ⟨n, ?_⟩,
      fun flagOff flagged => nomatch flagged.symm.trans flagOff⟩
    rw [beq_iff_eq.mp picked]
    exact fetch
  · exact resume_reconciling autoRefreshMetadata flight inv mem settled

theorem step_kept (inv : Reconciling c) : PoolKept c c' := by
  rcases step_cases stepped with ⟨fromTimer, armed, rfl⟩ | rfl | ⟨_, _, _, _, rfl⟩ | rfl |
      ⟨_, _, rfl⟩ | ⟨_, rfl⟩ | ⟨_, _, _, _, rfl⟩ | ⟨_, _, mem, _, rfl⟩
  · exact PoolKept.of_connections (refreshMetadata_fixed c.fresh fromTimer
      { c with fresh := c.fresh + 1, armed := armed }).connections
  · exact nomatch (close_isClosed _ _).symm.trans unclosed
  · exact PoolKept.of_connections rfl
  · exact PoolKept.of_connections rfl
  · exact PoolKept.of_connections rfl
  · exact PoolKept.of_connections rfl
  · exact PoolKept.of_connections rfl
  · exact resume_kept _ inv mem

end Step

/-- As the code stands, a dial that fails stops the process: with at most one refresh in
progress, no dial has two callers, so the only `'error'` listener that could hear it is
missing. -/
theorem step_dialFails (autoRefreshMetadata : Bool) {c c' : Client} {n : Nat}
    (flight : SingleFlight c) (stepped : step autoRefreshMetadata c (.dialFails n) = some c') :
    c' = { c with halted := true } := by
  unfold step at stepped
  split at stepped
  · cases stepped
  dsimp only at stepped
  split at stepped
  · split at stepped
    · split at stepped
      · exact (Option.some.inj stepped).symm
      · have := dialWaiters_le_inProgress n c
        have := flight.inProgress_le
        omega
    · cases stepped
  · cases stepped

theorem run_reconciling (autoRefreshMetadata : Bool) :
    ∀ (inputs : List Input) (c c' : Client), SingleFlight c → (c.isClosed = false → Reconciling c) →
      run autoRefreshMetadata c inputs = some c' → c'.isClosed = false → Reconciling c'
  | [], c, c', _, inv, reached => by cases reached; exact inv
  | input :: inputs, c, c', flight, inv, reached => by
      obtain ⟨next, stepped, rest⟩ := Option.bind_eq_some.mp reached
      exact run_reconciling autoRefreshMetadata inputs next c'
        (step_singleFlight autoRefreshMetadata flight stepped)
        (fun unclosed => (step_reconciling autoRefreshMetadata stepped unclosed flight
          (inv (step_unclosed autoRefreshMetadata stepped unclosed))).1) rest

/-! ## Reconciliation over every run -/

end KafkaClient.NetworkClient
