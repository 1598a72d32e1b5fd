import KafkaClient.NetworkClient

/-! What `isRefreshingMetadata` guarantees: over every run, a refresh (a Metadata fetch and the
reconciliation after it) is in progress exactly while the flag is set, and at most one is; a
call made meanwhile returns at once, fulfilled, and sends nothing. Each piece of the client's
code is classified once by what it does to the refreshes in progress and to the flag. -/

namespace KafkaClient.NetworkClient

def Stage.isRefresh : Stage → Bool
  | .rearm | .closing => false
  | _ => true

/-- The calls of `refreshMetadata` past the flag and not finished. -/
def Client.inProgress (c : Client) : Nat :=
  c.tasks.countP (·.stage.isRefresh)

def Keeps (c c' : Client) : Prop :=
  c'.inProgress = c.inProgress ∧ c'.isRefreshingMetadata = c.isRefreshingMetadata

def Opens (c c' : Client) : Prop :=
  c'.inProgress = c.inProgress + 1 ∧ c'.isRefreshingMetadata = c.isRefreshingMetadata

def Finishes (c c' : Client) : Prop :=
  c'.inProgress = c.inProgress ∧ c'.isRefreshingMetadata = false

/-- A call suspended at `stage` is one more refresh in progress when the stage is a refresh's. -/
def Suspends (stage : Stage) (c c' : Client) : Prop :=
  c'.inProgress = c.inProgress + (if stage.isRefresh then 1 else 0) ∧
    c'.isRefreshingMetadata = c.isRefreshingMetadata

/-- The single-flight invariant. -/
def SingleFlight (c : Client) : Prop :=
  c.inProgress = if c.isRefreshingMetadata then 1 else 0

/-! ## Each piece of code, once -/

theorem suspend_suspends (task : Task) (c : Client) : Suspends task.stage c (suspend task c) := by
  simp [Suspends, suspend, Client.inProgress, List.countP_append, List.countP_cons]

theorem settleTasks_keeps (pick : Task → Bool) (outcome : Outcome) (c : Client) :
    Keeps c (settleTasks pick outcome c) := by
  refine ⟨?_, rfl⟩
  simp only [Client.inProgress, settleTasks, List.countP_map]
  congr 1
  funext t
  dsimp only [Function.comp]
  split <;> rfl

theorem setLink_keeps (n : Nat) (f : Link → Link) (c : Client) : Keeps c (setLink n f c) :=
  ⟨rfl, rfl⟩

theorem Keeps.trans {c c' c'' : Client} (first : Keeps c c') (second : Keeps c' c'') :
    Keeps c c'' :=
  ⟨second.1.trans first.1, second.2.trans first.2⟩

theorem disconnectLink_keeps (n : Nat) (c : Client) : Keeps c (disconnectLink n c) :=
  (setLink_keeps _ _ c).trans (settleTasks_keeps _ _ _)

theorem Keeps.suspends {c c' c'' : Client} {stage : Stage} (first : Keeps c c')
    (second : Suspends stage c' c'') : Suspends stage c c'' :=
  ⟨by rw [second.1, first.1], second.2.trans first.2⟩

theorem awaitConnect_suspends (n : Nat) (task : Task) (c : Client) :
    Suspends task.stage c (awaitConnect n task c) := by
  unfold awaitConnect
  split
  · split
    · exact suspend_suspends _ c
    · exact suspend_suspends _ c
    · exact (setLink_keeps _ _ c).suspends (suspend_suspends _ _)
  · exact suspend_suspends _ c

theorem awaitSend_suspends (n : Nat) (task : Task) (c : Client) :
    Suspends task.stage c (awaitSend n task c) := by
  unfold awaitSend
  split
  · split
    · exact suspend_suspends _ c
    · exact suspend_suspends _ c
  · exact suspend_suspends _ c

theorem fetchOver_opens (call : Nat) (fromTimer : Bool) (n : Nat) (c : Client) :
    Opens c (fetchOver call fromTimer n c) := by
  have := awaitSend_suspends n ⟨call, .fetch n, fromTimer, none⟩ { c with fetches := c.fetches ++ [call] }
  exact ⟨by simpa [Stage.isRefresh] using this.1, this.2⟩

theorem finishRefresh_finishes (call : Nat) (fromTimer fulfilled : Bool) (c : Client) :
    Finishes c (finishRefresh call fromTimer fulfilled c) := by
  unfold finishRefresh
  split
  · have := suspend_suspends ⟨call, .rearm, true, some (.fulfilled [])⟩
      (settleCall call fulfilled { c with isRefreshingMetadata := false })
    exact ⟨by simpa [Stage.isRefresh] using this.1, this.2⟩
  · exact ⟨rfl, rfl⟩

theorem evictNext_opens_or_finishes (call : Nat) (fromTimer : Bool) (current : List Nat)
    (c : Client) : Opens c (evictNext call fromTimer current c) ∨
      Finishes c (evictNext call fromTimer current c) := by
  unfold evictNext
  split
  · rename_i nodeId n _
    have := (disconnectLink_keeps n c).suspends
      (suspend_suspends ⟨call, .evict nodeId current, fromTimer, some (.fulfilled [])⟩ _)
    exact .inl ⟨by simpa [Stage.isRefresh] using this.1, this.2⟩
  · exact .inr (finishRefresh_finishes _ _ _ c)

theorem reconcile_opens_or_finishes (call : Nat) (fromTimer : Bool) :
    ∀ (rest current : List Nat) (c : Client), Opens c (reconcile call fromTimer rest current c) ∨
      Finishes c (reconcile call fromTimer rest current c)
  | [], current, c => evictNext_opens_or_finishes call fromTimer current c
  | nodeId :: rest, current, c => by
      dsimp only [reconcile]
      split
      · exact reconcile_opens_or_finishes call fromTimer rest _ c
      · have := awaitConnect_suspends c.links.length
          ⟨call, .dial nodeId c.links.length rest
            (if nodeId ∈ current then current else current ++ [nodeId]), fromTimer, none⟩
          { c with links := c.links ++ [⟨.disconnected, false, false⟩] }
        exact .inl ⟨by simpa [Stage.isRefresh, Client.inProgress] using this.1, this.2⟩

theorem startMetadataRefreshTimer_keeps (autoRefreshMetadata : Bool) (c : Client) :
    Keeps c (startMetadataRefreshTimer autoRefreshMetadata c) := by
  unfold startMetadataRefreshTimer
  split <;> split <;> exact ⟨rfl, rfl⟩

theorem foldl_keeps {α : Type} (f : Client → α → Client) (keeps : ∀ c a, Keeps c (f c a)) :
    ∀ (l : List α) (c : Client), Keeps c (l.foldl f c)
  | [], _ => ⟨rfl, rfl⟩
  | a :: l, c => (keeps c a).trans (foldl_keeps f keeps l (f c a))

theorem disconnectAll_keeps (c : Client) : Keeps c (disconnectAll c) :=
  (foldl_keeps _ (fun c n => disconnectLink_keeps n c) _ c).trans
    (foldl_keeps _ (fun c (entry : Nat × Nat) => disconnectLink_keeps entry.2 c) _ _)

theorem close_keeps (call : Nat) (c : Client) : Keeps c (close call c) := by
  unfold close
  split
  · exact ⟨rfl, rfl⟩
  · have cleared : Keeps c (clearRefreshTimer { c with isClosed := true }) := by
      unfold clearRefreshTimer; split <;> exact ⟨rfl, rfl⟩
    have := (cleared.trans (disconnectAll_keeps _)).suspends
      (suspend_suspends ⟨call, .closing, false, some (.fulfilled [])⟩ _)
    exact ⟨by simpa [Stage.isRefresh] using this.1, this.2⟩

/-- A call made while a refresh is in progress: settled at once, fulfilled, with no request. -/
theorem refreshMetadata_flagged (call : Nat) (fromTimer : Bool) (c : Client)
    (flagged : c.isRefreshingMetadata = true) :
    Keeps c (refreshMetadata call fromTimer c) ∧
      (refreshMetadata call fromTimer c).fetches = c.fetches ∧
      (refreshMetadata call fromTimer c).settled = c.settled ++ [(call, true)] := by
  unfold refreshMetadata
  rw [if_pos flagged]
  split
  · have := suspend_suspends ⟨call, .rearm, true, some (.fulfilled [])⟩ (settleCall call true c)
    exact ⟨⟨by simpa [Stage.isRefresh] using this.1, this.2⟩, rfl, rfl⟩
  · exact ⟨⟨rfl, rfl⟩, rfl, rfl⟩

/-- A call made with no refresh in progress sets the flag and starts one, or fails at once. -/
theorem refreshMetadata_idle (call : Nat) (fromTimer : Bool) (c : Client)
    (idle : c.isRefreshingMetadata = false) :
    ((refreshMetadata call fromTimer c).inProgress = c.inProgress + 1 ∧
        (refreshMetadata call fromTimer c).isRefreshingMetadata = true) ∨
      Finishes c (refreshMetadata call fromTimer c) := by
  simp only [refreshMetadata, idle, Bool.false_eq_true, if_false]
  split
  · exact .inl (fetchOver_opens _ _ _ _)
  · rename_i n _ _
    have := awaitConnect_suspends n ⟨call, .seedDial n, fromTimer, none⟩
      { c with isRefreshingMetadata := true }
    exact .inl ⟨by simpa [Stage.isRefresh] using this.1, this.2⟩
  · exact .inr (finishRefresh_finishes _ _ _ _)

theorem continueTask_refresh (autoRefreshMetadata : Bool) (task : Task) (outcome : Outcome)
    (c : Client) (refresh : task.stage.isRefresh = true) :
    Opens c (continueTask autoRefreshMetadata task outcome c) ∨
      Finishes c (continueTask autoRefreshMetadata task outcome c) := by
  rcases task with ⟨call, stage, fromTimer, _⟩
  cases stage <;> cases outcome <;> simp only [Stage.isRefresh, Bool.false_eq_true] at refresh <;>
    first
    | exact .inl (fetchOver_opens _ _ _ _)
    | exact .inr (finishRefresh_finishes _ _ _ _)
    | exact reconcile_opens_or_finishes _ _ _ _ _
    | exact evictNext_opens_or_finishes _ _ _ _

theorem continueTask_other (autoRefreshMetadata : Bool) (task : Task) (outcome : Outcome)
    (c : Client) (other : task.stage.isRefresh = false) :
    Keeps c (continueTask autoRefreshMetadata task outcome c) := by
  rcases task with ⟨call, stage, fromTimer, _⟩
  cases stage <;> cases outcome <;> simp only [Stage.isRefresh, Bool.true_eq_false] at other <;>
    first
    | exact startMetadataRefreshTimer_keeps _ _
    | exact ⟨rfl, rfl⟩

/-! ## The invariant over every run -/

theorem Keeps.singleFlight {c c' : Client} (keeps : Keeps c c') (inv : SingleFlight c) :
    SingleFlight c' := by
  unfold SingleFlight at *
  rw [keeps.1, keeps.2, inv]

theorem refreshMetadata_singleFlight (call : Nat) (fromTimer : Bool) (c : Client)
    (inv : SingleFlight c) : SingleFlight (refreshMetadata call fromTimer c) := by
  cases flag : c.isRefreshingMetadata
  · have idle : c.inProgress = 0 := by simpa [SingleFlight, flag] using inv
    rcases refreshMetadata_idle call fromTimer c flag with ⟨count, flagOn⟩ | ⟨count, flagOff⟩
    · simp [SingleFlight, count, flagOn, idle]
    · simp [SingleFlight, count, flagOff, idle]
  · exact (refreshMetadata_flagged call fromTimer c flag).1.singleFlight inv

theorem inProgress_erase (c : Client) (task : Task) (mem : task ∈ c.tasks) :
    c.inProgress = { c with tasks := c.tasks.erase task }.inProgress +
      (if task.stage.isRefresh then 1 else 0) := by
  simp only [Client.inProgress, (List.perm_cons_erase mem).countP_eq, List.countP_cons]

theorem resume_singleFlight (autoRefreshMetadata : Bool) (task : Task) (outcome : Outcome)
    (c : Client) (inv : SingleFlight c) (mem : task ∈ c.tasks) :
    SingleFlight (continueTask autoRefreshMetadata task outcome { c with tasks := c.tasks.erase task }) := by
  have count := inProgress_erase c task mem
  unfold SingleFlight at inv
  cases refresh : task.stage.isRefresh
  · simp only [refresh, Bool.false_eq_true, if_false, Nat.add_zero] at count
    exact (continueTask_other autoRefreshMetadata task outcome _ refresh).singleFlight
      (by unfold SingleFlight; rw [← count, inv])
  · simp only [refresh, if_true] at count
    have flagged : c.isRefreshingMetadata = true := by
      by_contra flagOff; simp [flagOff] at inv; omega
    rw [flagged, if_pos rfl] at inv
    rcases continueTask_refresh autoRefreshMetadata task outcome
      { c with tasks := c.tasks.erase task } refresh with ⟨opened, flagOn⟩ | ⟨closed, flagOff⟩
    · unfold SingleFlight
      rw [opened, flagOn]
      show _ = if c.isRefreshingMetadata = true then 1 else 0
      rw [if_pos flagged]; omega
    · unfold SingleFlight
      rw [closed, flagOff, if_neg (by simp)]; omega

theorem step_singleFlight (autoRefreshMetadata : Bool) {c c' : Client} {input : Input}
    (inv : SingleFlight c) (stepped : step autoRefreshMetadata c input = some c') :
    SingleFlight c' := by
  rcases step_cases stepped with ⟨_, _, rfl⟩ | rfl | ⟨_, _, _, _, rfl⟩ | rfl | ⟨_, _, rfl⟩ |
      ⟨_, rfl⟩ | ⟨_, _, _, _, rfl⟩ | ⟨_, _, mem, _, rfl⟩
  · exact refreshMetadata_singleFlight _ _ _ inv
  · exact (close_keeps _ _).singleFlight inv
  · exact ((setLink_keeps _ _ _).trans (settleTasks_keeps _ _ _)).singleFlight inv
  · exact (show Keeps c { c with halted := true } from ⟨rfl, rfl⟩).singleFlight inv
  · exact ((setLink_keeps _ _ _).trans
      ((settleTasks_keeps _ _ _).trans (disconnectLink_keeps _ _))).singleFlight inv
  · exact (disconnectLink_keeps _ _).singleFlight inv
  · exact (settleTasks_keeps _ _ _).singleFlight inv
  · exact resume_singleFlight _ _ _ _ inv mem

theorem run_singleFlight (autoRefreshMetadata : Bool) :
    ∀ (inputs : List Input) (c c' : Client), SingleFlight c →
      run autoRefreshMetadata c inputs = some c' → SingleFlight c'
  | [], c, c', inv, reached => by cases reached; exact inv
  | input :: inputs, c, c', inv, reached => by
      obtain ⟨next, stepped, rest⟩ := Option.bind_eq_some.mp reached
      exact run_singleFlight autoRefreshMetadata inputs next c'
        (step_singleFlight autoRefreshMetadata inv stepped) rest

/-- Single-flight as the code has it: over every run from a client with no call suspended and
the flag clear, at most one refresh is in progress, exactly while the flag is set; and a call
made while one is in progress settles at once, fulfilled, with no Metadata request of its own,
without waiting for the refresh in progress. -/
theorem refresh_single_flight_returns_at_once (autoRefreshMetadata : Bool) (start c : Client)
    (inputs : List Input) (idle : start.tasks = [] ∧ start.isRefreshingMetadata = false)
    (reached : run autoRefreshMetadata start inputs = some c) :
    c.inProgress ≤ 1 ∧ (c.isRefreshingMetadata = true ↔ c.inProgress = 1) ∧
    (c.isRefreshingMetadata = true → ∀ c', step autoRefreshMetadata c .refresh = some c' →
      c'.settled = c.settled ++ [(c.fresh, true)] ∧ c'.fetches = c.fetches ∧ c'.inProgress = 1) := by
  have inv := run_singleFlight autoRefreshMetadata inputs start c
    (by simp [SingleFlight, Client.inProgress, idle.1, idle.2]) reached
  unfold SingleFlight at inv
  refine ⟨by split at inv <;> omega, by split at inv <;> simp_all, fun flagged c' stepped => ?_⟩
  rw [if_pos flagged] at inv
  unfold step at stepped
  split at stepped
  · cases stepped
  cases stepped
  have called := refreshMetadata_flagged c.fresh false { c with fresh := c.fresh + 1 } flagged
  exact ⟨called.2.2, called.2.1, called.1.1.trans inv⟩

theorem refresh_single_flight_while_fetching :
    let fetching : Client := { Client.started with
      isRefreshingMetadata := true, tasks := [⟨1, .fetch 0, false, none⟩], fetches := [1], fresh := 2 }
    fetching.inProgress ≤ 1 ∧ (fetching.isRefreshingMetadata = true ↔ fetching.inProgress = 1) ∧
    (fetching.isRefreshingMetadata = true → ∀ c', step true fetching .refresh = some c' →
      c'.settled = fetching.settled ++ [(fetching.fresh, true)] ∧ c'.fetches = fetching.fetches ∧
        c'.inProgress = 1) :=
  refresh_single_flight_returns_at_once true Client.started _ [.refresh, .resume 1] ⟨rfl, rfl⟩
    (by decide)

/-- A call made while a refresh is in progress returns at once and does not follow it: the
second call is fulfilled before the first refresh's request fails, and the first call is then
rejected. -/
theorem concurrent_refresh_returns_before_failure :
    (run true Client.started [.refresh, .resume 1, .refresh]).map
      (fun c => c.settled == [(2, true)] && c.fetches == [1]) = some true ∧
    (run true Client.started [.refresh, .resume 1, .refresh, .requestFails 1, .resume 1]).map
      (fun c => c.settled == [(2, true), (1, false)]) = some true :=
  ⟨by decide, by decide⟩

end KafkaClient.NetworkClient
