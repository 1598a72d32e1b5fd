import Mathlib.Data.List.Nodup
import KafkaClient.Consumer

/-! What holds over every run of a `KafkaConsumer`, whatever the program calls and in whatever
order the timers fire. The poll interval is pending exactly while the consumer runs, and only
once (`Polling`). Every promise of the program's `async` calls and every `commitAsync` callback is
settled or called once, at the call or by the one timer that waits for it, and never twice
(`owed`). While no `'rebalance'` listener throws, a consumer with subscriptions is assigned
partitions 0, 1 and 2 of each subscribed topic (`Assigned`); a throwing one, on the `'revoked'`
event, leaves the new subscriptions with the old assignment. -/

namespace KafkaClient.KafkaConsumer

open EventLoop

/-- The poll interval's timer is pending exactly while the consumer runs, and it is the one
`pollInterval` names; timer ids are distinct and below the next id. -/
structure Polling (w : World) : Prop where
  ids_nodup : (w.timers.map (·.1)).Nodup
  ids_below : ∀ entry ∈ w.timers, entry.1 < w.nextId
  running : w.consumer.isRunning = w.consumer.pollInterval.isSome
  interval : (w.timers.filter (·.2 = .poll)).map (·.1) = w.consumer.pollInterval.toList

/-- A timer that, when it fires, settles the promise of call `c` or calls its callback. -/
def Timer.awaits (c : Nat) : Timer → Bool
  | .connect call | .close call => call = c
  | .commit promise => promise = some c
  | .commitAsync call callback => call = c && callback.isSome
  | .poll => false

/-- The settlement of call `c`'s promise, or a call of its callback. -/
def Observation.answers (c : Nat) : Observation → Bool
  | .settled call _ | .committed call _ => call = c
  | _ => false

/-- What call `c` has been given or is still owed: its settlements and callback calls seen, and
the pending timers that will give them. -/
def owed (c : Nat) (w : World) : Nat :=
  w.log.countP (·.answers c) + w.timers.countP (·.2.awaits c)

/-- No `'rebalance'` listener of the program throws. -/
def Quiet (w : World) : Prop :=
  ∀ entry ∈ w.listeners, entry.1 = .rebalance → entry.2 = false

/-- The subscriptions are a set, and while there are any, the assignment is what
`simulateRebalance` gives them. -/
structure Assigned (w : World) : Prop where
  nodup : w.consumer.subscriptions.Nodup
  rebalanced : w.consumer.subscriptions ≠ [] →
    w.consumer.assignedPartitions = rebalanced w.consumer.subscriptions

/-- The invariant of a run, with what call `c` is owed and a bound the next id never falls
below. -/
structure Inv (c k floor : Nat) (w : World) : Prop where
  polling : Polling w
  owes : owed c w = k
  rebalance : Quiet w → Assigned w
  grown : floor ≤ w.nextId

/-- Code that keeps the invariant and answers call `c` `n` more times, whatever it returns or
throws. -/
def Gives (c n : Nat) {α : Type} (code : JS α) : Prop :=
  ∀ k floor w, Inv c k floor w → Inv c (k + n) floor (code.run.run w).2

/-- Code that keeps the invariant, with what call `c` is owed unchanged. -/
def Keeps (c : Nat) {α : Type} (code : JS α) : Prop :=
  Gives c 0 code

/-- What the body of an `async` method adds to what call `c` is owed: the timer it waits on. -/
def waits : Except Thrown Ended → Nat
  | .ok .waiting => 1
  | _ => 0

/-- The body of call `c`'s `async` method: it answers nothing itself, and when it waits, it has
set the one timer that will settle the promise. -/
def Waits (c : Nat) (body : JS Ended) : Prop :=
  ∀ k floor w, Inv c k floor w → Inv c (k + waits (body.run.run w).1) floor (body.run.run w).2

namespace Gives

variable {c n : Nat}

theorem bind {α β : Type} {x : JS α} {f : α → JS β} (hx : Gives c n x)
    (hf : ∀ a, Keeps c (f a)) : Gives c n (x >>= f) := by
  intro k floor w inv
  rw [run_bind]
  rcases ran : x.run.run w with ⟨_ | a, next⟩
  · simpa [ran] using hx k floor w inv
  · simpa [ran] using hf a _ floor next (by simpa [ran] using hx k floor w inv)

theorem tryCatch {α : Type} {x : JS α} {handler : Thrown → JS α} (hx : Gives c n x)
    (hh : ∀ e, Keeps c (handler e)) : Gives c n (tryCatch x handler) := by
  intro k floor w inv
  rw [run_tryCatch]
  rcases ran : x.run.run w with ⟨_ | a, next⟩
  · simpa [ran] using hh _ _ floor next (by simpa [ran] using hx k floor w inv)
  · simpa [ran] using hx k floor w inv

theorem get_bind {α : Type} {f : World → JS α} (hf : ∀ w, Gives c n (f w)) :
    Gives c n (get >>= f) :=
  fun k floor w inv => by simpa using hf w k floor w inv

theorem ite {α : Type} {p : Prop} [Decidable p] {t e : JS α} (ht : p → Gives c n t)
    (he : ¬p → Gives c n e) : Gives c n (if p then t else e) := by
  split
  · exact ht ‹_›
  · exact he ‹_›

end Gives

namespace Keeps

variable {c : Nat}

theorem pure {α : Type} (a : α) : Keeps c (Pure.pure a : JS α) := fun _ _ _ inv => inv

theorem throw {α : Type} (e : Thrown) : Keeps c (MonadExcept.throw e : JS α) :=
  fun _ _ _ inv => inv

theorem forM {α : Type} {f : α → JS Unit} (hf : ∀ a, Keeps c (f a)) :
    ∀ l : List α, Keeps c (l.forM f)
  | [] => pure ()
  | a :: l => by
      rw [List.forM]
      exact Gives.bind (hf a) fun _ => forM hf l

end Keeps

/-! ## What each primitive keeps -/

section Primitives

variable {c k floor : Nat} {w w' : World}

theorem Assigned.of_same (assigned : Assigned w)
    (subscriptions : w'.consumer.subscriptions = w.consumer.subscriptions)
    (partitions : w'.consumer.assignedPartitions = w.consumer.assignedPartitions) : Assigned w' :=
  ⟨subscriptions ▸ assigned.nodup, subscriptions ▸ partitions ▸ assigned.rebalanced⟩

theorem Polling.of_frame (polling : Polling w) (timers : w'.timers = w.timers)
    (nextId : w'.nextId = w.nextId) (running : w'.consumer.isRunning = w.consumer.isRunning)
    (interval : w'.consumer.pollInterval = w.consumer.pollInterval) : Polling w' :=
  ⟨timers ▸ polling.ids_nodup, timers ▸ nextId ▸ polling.ids_below,
    running ▸ interval ▸ polling.running, timers ▸ interval ▸ polling.interval⟩

/-- A change that sets no timer, leaves the interval alone, records nothing that answers call `c`
and keeps the assignment right keeps the invariant. -/
theorem Inv.of_edit (inv : Inv c k floor w) (timers : w'.timers = w.timers)
    (nextId : w'.nextId = w.nextId) (running : w'.consumer.isRunning = w.consumer.isRunning)
    (interval : w'.consumer.pollInterval = w.consumer.pollInterval)
    (answers : w'.log.countP (·.answers c) = w.log.countP (·.answers c))
    (listeners : w'.listeners = w.listeners) (assigned : Quiet w → Assigned w → Assigned w') :
    Inv c k floor w' where
  polling := inv.polling.of_frame timers nextId running interval
  owes := by rw [owed, answers, timers]; exact inv.owes
  rebalance quiet := by
    unfold Quiet at quiet
    rw [listeners] at quiet
    exact assigned quiet (inv.rebalance quiet)
  grown := nextId ▸ inv.grown

/-- A change that also leaves the subscriptions and the assignment alone. -/
theorem Inv.of_frame (inv : Inv c k floor w) (timers : w'.timers = w.timers)
    (nextId : w'.nextId = w.nextId) (running : w'.consumer.isRunning = w.consumer.isRunning)
    (interval : w'.consumer.pollInterval = w.consumer.pollInterval)
    (answers : w'.log.countP (·.answers c) = w.log.countP (·.answers c))
    (listeners : w'.listeners = w.listeners)
    (subscriptions : w'.consumer.subscriptions = w.consumer.subscriptions)
    (partitions : w'.consumer.assignedPartitions = w.consumer.assignedPartitions) : Inv c k floor w' :=
  inv.of_edit timers nextId running interval answers listeners fun _ assigned =>
    assigned.of_same subscriptions partitions

/-- With no subscriptions the assignment is right whatever it is. -/
theorem Assigned.of_unsubscribed (none : w.consumer.subscriptions = []) : Assigned w :=
  ⟨none ▸ List.nodup_nil, fun some => absurd none some⟩

@[simp] theorem record_world (o : Observation) (w : World) :
    ((record o).run.run w).2 = { w with log := w.log ++ [o] } := rfl

theorem Keeps.record {o : Observation} (quiet : o.answers c = false) :
    Keeps c (record o) := fun _ _ _ inv =>
  inv.of_frame rfl rfl rfl rfl (by simp [quiet]) rfl rfl rfl

theorem Keeps.halt : Keeps c halt := fun _ _ _ inv => inv.of_frame rfl rfl rfl rfl rfl rfl rfl rfl

/-- A change of the consumer's flags or rebalance listener. -/
theorem Keeps.modifyConsumer {f : Consumer → Consumer}
    (running : ∀ x, (f x).isRunning = x.isRunning)
    (interval : ∀ x, (f x).pollInterval = x.pollInterval)
    (subscriptions : ∀ x, (f x).subscriptions = x.subscriptions)
    (partitions : ∀ x, (f x).assignedPartitions = x.assignedPartitions) :
    Keeps c (modifyConsumer f) := fun _ _ _ inv =>
  inv.of_frame rfl rfl (running _) (interval _) rfl rfl (subscriptions _) (partitions _)

/-- A new timer under the next id keeps the ids distinct and below the next one. -/
theorem Polling.ids_push (polling : Polling w) (t : Timer) :
    ((w.timers ++ [(w.nextId, t)]).map (·.1)).Nodup ∧
      ∀ entry ∈ w.timers ++ [(w.nextId, t)], entry.1 < w.nextId + 1 := by
  obtain ⟨nodup, below, -, -⟩ := polling
  have fresh : ∀ t, (w.nextId, t) ∉ w.timers := fun _ mem => absurd (below _ mem) (by simp)
  refine ⟨by simpa [List.nodup_append] using ⟨nodup, fresh⟩, ?_⟩
  simp only [List.mem_append, List.mem_singleton]
  rintro entry (mem | rfl)
  · exact Nat.lt_succ_of_lt (below entry mem)
  · exact Nat.lt_succ_self _

/-- A new timer under the next id. -/
theorem Polling.push {t : Timer} (polling : Polling w) (once : t ≠ .poll) :
    Polling { w with timers := w.timers ++ [(w.nextId, t)], nextId := w.nextId + 1 } :=
  ⟨(polling.ids_push t).1, (polling.ids_push t).2, polling.running,
    by simpa [once] using polling.interval⟩

/-- A timer other than the interval, which may wait for call `c`. -/
theorem Gives.setTimer {t : Timer} (once : t ≠ .poll) : Gives c (t.awaits c).toNat (setTimer t) :=
  fun _ _ w inv => by
    have world : ((KafkaConsumer.setTimer t).run.run w).2 =
        { w with timers := w.timers ++ [(w.nextId, t)], nextId := w.nextId + 1 } := rfl
    rw [world]
    exact ⟨inv.polling.push once, by cases awaits : t.awaits c <;> simp [owed, ← inv.owes, Nat.add_assoc, awaits],
      fun quiet => (inv.rebalance quiet).of_same rfl rfl, Nat.le_succ_of_le inv.grown⟩

/-- A timer that is not the interval and does not wait for call `c`. -/
theorem Keeps.setTimer {t : Timer} (once : t ≠ .poll) (other : t.awaits c = false) :
    Keeps c (setTimer t) := by
  have gives := Gives.setTimer (c := c) once
  rw [other] at gives
  exact gives

@[simp] theorem emit_world (e : Emitted) (w : World) :
    ((emit e).run.run w).2 = { w with log := w.log ++ [.emitted e] } := by
  simp only [emit, KafkaConsumer.record, run_bind, run_get, run_modify]
  split <;> split <;> (try split) <;> rfl

theorem Keeps.emit (e : Emitted) : Keeps c (emit e) := fun _ _ _ inv => by
  rw [emit_world]
  exact inv.of_frame rfl rfl rfl rfl (by simp [Observation.answers]) rfl rfl rfl

end Primitives

/-! ## What the methods that touch the interval or the assignment do to the world -/

/-- The calls of `onPartitionsRevoked` that revoking the assignment makes. -/
def revokedLog (consumer : Consumer) : List Observation :=
  if consumer.assignedPartitions = [] then []
  else consumer.rebalanceListener.toList.map (.revoked · consumer.assignedPartitions)

/-- Whether a listener of the event throws. -/
def throwsOn (w : World) (event : ConsumerEvent) : Bool :=
  ((w.listeners.filter (·.1 = event)).map (·.2)).any id

theorem Quiet.rebalance {w : World} (quiet : Quiet w) : throwsOn w .rebalance = false := by
  simp only [throwsOn, List.any_eq_false, List.mem_map, List.mem_filter]
  rintro _ ⟨entry, ⟨mem, same⟩, rfl⟩
  simpa using quiet entry mem (by simpa using same)

theorem emit_run {e : Emitted} (other : e.event ≠ .error) (w : World) :
    (emit e).run.run w = (if throwsOn w e.event then .error (.listener e.event) else .ok (),
      { w with log := w.log ++ [.emitted e] }) := by
  refine Prod.ext ?_ (emit_world e w)
  simp only [emit, throwsOn, KafkaConsumer.record, run_bind, run_get, run_modify]
  split
  · rfl
  · cases e <;> first | rfl | exact absurd rfl other

theorem notifyRevoked_run (partitions : List TopicPartition) (w : World) :
    (notifyRevoked partitions).run.run w = (.ok (),
      { w with log := w.log ++ w.consumer.rebalanceListener.toList.map (.revoked · partitions) }) := by
  simp only [notifyRevoked, KafkaConsumer.record, run_bind, run_get]
  split <;> simp_all

theorem notifyAssigned_run (partitions : List TopicPartition) (w : World) :
    (notifyAssigned partitions).run.run w = (.ok (),
      { w with log := w.log ++ w.consumer.rebalanceListener.toList.map (.assigned · partitions) }) := by
  simp only [notifyAssigned, KafkaConsumer.record, run_bind, run_get]
  split <;> simp_all

theorem stop_world (w : World) : (stop.run.run w).2 = if w.consumer.isRunning then
    { w with
      timers := w.consumer.pollInterval.elim w.timers (fun i => w.timers.filter (·.1 ≠ i))
      consumer := { w.consumer with pollInterval := none, isRunning := false } } else w := by
  simp only [stop, clearTimer, KafkaConsumer.modifyConsumer, run_bind, run_get]
  split
  · rcases named : w.consumer.pollInterval with _ | i <;> simp [named]
  · rfl

theorem start_world (w : World) : (start.run.run w).2 =
    if w.consumer.isInitialized ∧ ¬w.consumer.isClosed ∧ ¬w.consumer.isRunning then
    { w with
      timers := w.timers ++ [(w.nextId, .poll)]
      nextId := w.nextId + 1
      consumer := { w.consumer with isRunning := true, pollInterval := some w.nextId } } else w := by
  simp only [start, KafkaConsumer.checkOpen, KafkaConsumer.setTimer, KafkaConsumer.modifyConsumer,
    run_bind, run_get]
  by_cases init : w.consumer.isInitialized <;> by_cases closed : w.consumer.isClosed <;>
    by_cases running : w.consumer.isRunning <;> simp_all

theorem unsubscribe_world (w : World) : (unsubscribe.run.run w).2 = if w.consumer.isInitialized then
    { w with
      consumer := { w.consumer with subscriptions := [], assignedPartitions := [] }
      log := w.log ++ revokedLog w.consumer } else w := by
  simp only [unsubscribe, run_bind, run_get]
  split
  · simp only [notifyRevoked, KafkaConsumer.record, KafkaConsumer.modifyConsumer, run_bind,
      run_get, run_modify]
    split
    · next some =>
        obtain ⟨listener, named⟩ := Option.isSome_iff_exists.1 some.1
        simp [named, revokedLog, some.2]
    · next none =>
        rcases named : w.consumer.rebalanceListener with _ | listener <;>
          simp_all [revokedLog]
  · rfl

/-- `simulateRebalance()` changes only the assignment and adds to the log, and while no
`'rebalance'` listener throws it assigns what the subscriptions give. -/
theorem simulateRebalance_world (w : World) : ∃ extra partitions,
    (simulateRebalance.run.run w).2 =
      { w with
        consumer := { w.consumer with assignedPartitions := partitions }
        log := w.log ++ extra } ∧
    (∀ o ∈ extra, ∀ c, o.answers c = false) ∧
    (Quiet w → partitions = rebalanced w.consumer.subscriptions) := by
  have same : ∀ l, throwsOn { w with log := l } .rebalance = throwsOn w .rebalance := fun _ => rfl
  unfold simulateRebalance
  simp only [run_bind, run_get]
  split
  · simp only [run_bind, notifyRevoked_run, emit_run (e := .revoked _) (by simp [Emitted.event]),
      Emitted.event, same, KafkaConsumer.modifyConsumer, run_modify, run_get, notifyAssigned_run,
      emit_run (e := .assigned _) (by simp [Emitted.event])]
    cases throws : throwsOn w .rebalance
    · simp only [Bool.false_eq_true, if_false, List.append_assoc]
      exact ⟨_, _, rfl, by simp only [List.forall_mem_append, List.forall_mem_map,
        List.forall_mem_singleton, Observation.answers, implies_true, and_self], fun _ => rfl⟩
    · simp only [if_true, List.append_assoc]
      exact ⟨_, w.consumer.assignedPartitions, rfl, by simp only [List.forall_mem_append,
        List.forall_mem_map, List.forall_mem_singleton, Observation.answers, implies_true, and_self],
        fun quiet => by simp_all [Quiet.rebalance quiet]⟩
  · simp only [run_bind, run_pure, KafkaConsumer.modifyConsumer, run_modify, run_get,
      notifyAssigned_run, emit_run (e := .assigned _) (by simp [Emitted.event])]
    exact ⟨_, _, by simp only [List.append_assoc]; rfl,
      by simp only [List.forall_mem_append, List.forall_mem_map,
        List.forall_mem_singleton, Observation.answers, implies_true, and_self], fun _ => rfl⟩

/-! ## What each method keeps, for a call `c` other than its own -/

namespace Keeps

variable {c : Nat}

theorem reportAndRethrow {α : Type} {body : JS α} (keeps : Keeps c body) :
    Keeps c (reportAndRethrow body) :=
  Gives.tryCatch keeps fun _ => Gives.bind (emit _) fun _ => throw _

theorem settle {promise : Option Nat} (other : promise ≠ some c) (failure : Option Thrown) :
    Keeps c (settle promise failure) := by
  unfold KafkaConsumer.settle
  split
  · exact record (by simp_all [Observation.answers])
  · exact pure ()
  · exact halt

theorem async {promise : Option Nat} (other : promise ≠ some c) {body : JS Ended}
    (keeps : Keeps c body) : Keeps c (async promise body) :=
  Gives.tryCatch
    (Gives.bind keeps fun ended => by cases ended <;> first | exact settle other _ | exact pure ())
    fun _ => settle other _

theorem call (id : Nat) {body : JS Unit} (keeps : Keeps c body) : Keeps c (call id body) :=
  Gives.tryCatch keeps fun _ => record rfl

theorem checkOpen : Keeps c checkOpen := by
  have closed : ∀ p : Prop, ∀ _ : Decidable p, Keeps c
      (if p then MonadExcept.throw Thrown.closed else Pure.pure () : JS Unit) :=
    fun _ _ => Gives.ite (fun _ => throw _) fun _ => pure ()
  refine Gives.get_bind fun _ => ?_
  dsimp only
  exact Gives.ite (fun _ => Gives.bind (throw _) fun _ => closed _ _)
    fun _ => Gives.bind (pure _) fun _ => closed _ _

theorem notifyRevoked (partitions : List TopicPartition) : Keeps c (notifyRevoked partitions) :=
  Gives.get_bind fun w => by
    cases w.consumer.rebalanceListener
    · exact pure ()
    · exact record rfl

theorem notifyAssigned (partitions : List TopicPartition) : Keeps c (notifyAssigned partitions) :=
  Gives.get_bind fun w => by
    cases w.consumer.rebalanceListener
    · exact pure ()
    · exact record rfl

theorem generateMockRecords (draws : List Nat) : Keeps c (generateMockRecords draws) :=
  Gives.get_bind fun _ => pure _

theorem checkAssigned (partition : TopicPartition) : Keeps c (checkAssigned partition) :=
  Gives.bind checkOpen fun _ => Gives.get_bind fun _ => Gives.ite (fun _ => throw _) fun _ => pure ()

theorem commitSync {promise : Option Nat} (other : promise ≠ some c) :
    Keeps c (commitSync promise) :=
  Gives.bind checkOpen fun _ => reportAndRethrow <| Gives.bind (setTimer (by simp) (by
    cases promise <;> simp_all [Timer.awaits])) fun _ => pure _

theorem invokeCallback {call : Nat} (other : call ≠ c) (callback : Option Bool)
    (error : Option Thrown) : Keeps c (invokeCallback call callback error) := by
  unfold KafkaConsumer.invokeCallback
  split
  · exact Gives.bind (record (by simpa [Observation.answers] using other)) fun _ =>
      Gives.ite (fun _ => throw _) fun _ => pure ()
  · exact pure ()

theorem commitAsync {call : Nat} (other : call ≠ c) (callback : Option Bool) :
    Keeps c (commitAsync call callback) :=
  Gives.get_bind fun _ => Gives.ite (fun _ => invokeCallback other _ _) fun _ =>
    Gives.ite (fun _ => invokeCallback other _ _) fun _ =>
      Gives.bind (setTimer (by simp) (by simp [Timer.awaits, other])) fun _ => pure ()

theorem connected {call : Nat} (other : call ≠ c) : Keeps c (connected call) :=
  async (by simpa using other) <| reportAndRethrow <|
    Gives.bind (modifyConsumer (fun _ => rfl) (fun _ => rfl) (fun _ => rfl) fun _ => rfl) fun _ =>
      Gives.bind (emit _) fun _ => pure _

theorem closed {call : Nat} (other : call ≠ c) : Keeps c (closed call) :=
  async (by simpa using other) <| reportAndRethrow <|
    Gives.bind (modifyConsumer (fun _ => rfl) (fun _ => rfl) (fun _ => rfl) fun _ => rfl) fun _ =>
      Gives.bind (emit _) fun _ => pure _

theorem connect {call : Nat} (other : call ≠ c) : Keeps c (connect call) :=
  async (by simpa using other) <| Gives.get_bind fun _ => Gives.ite (fun _ => pure _) fun _ =>
    reportAndRethrow <| Gives.bind (setTimer (by simp) (by simpa [Timer.awaits] using other))
      fun _ => pure _

end Keeps

/-! ## The methods that touch the interval or the assignment -/

section Special

variable {c : Nat} {w : World}

/-- The interval's timer is the one `pollInterval` names. -/
theorem Polling.interval_of_mem (polling : Polling w) {entry : Nat × Timer}
    (mem : entry ∈ w.timers) (poll : entry.2 = .poll) :
    w.consumer.pollInterval = some entry.1 := by
  have listed : entry.1 ∈ w.consumer.pollInterval.toList := by
    rw [← polling.interval]
    exact List.mem_map_of_mem _ (List.mem_filter.2 ⟨mem, by simpa using poll⟩)
  simpa using listed

/-- The id of the interval is the interval's alone. -/
theorem Polling.only_interval (polling : Polling w) {i : Nat}
    (named : w.consumer.pollInterval = some i) :
    ∀ entry ∈ w.timers, entry.1 = i → entry.2 = .poll := by
  intro entry mem same
  have listed : i ∈ (w.timers.filter (·.2 = .poll)).map (·.1) := by
    rw [polling.interval, named]; exact List.mem_singleton_self _
  obtain ⟨other, kept, rfl⟩ := List.mem_map.1 listed
  obtain ⟨found, poll⟩ := List.mem_filter.1 kept
  rw [List.inj_on_of_nodup_map polling.ids_nodup mem found same]
  simpa using poll

theorem countP_filter_of_imp {α : Type} {p q : α → Bool} {l : List α}
    (imp : ∀ x ∈ l, p x → q x) : (l.filter q).countP p = l.countP p := by
  rw [List.countP_filter]
  exact List.countP_congr fun x mem => by cases px : p x <;> simp [px, imp x mem]

theorem Keeps.stop : Keeps c stop := by
  intro k f w inv
  rw [stop_world]
  split
  · next running =>
      obtain ⟨i, named⟩ := Option.isSome_iff_exists.1 (inv.polling.running ▸ running)
      have only := inv.polling.only_interval named
      have polling := inv.polling
      obtain ⟨⟨nodup, below, -, -⟩, owes, rebalance, grown⟩ := inv
      simp only [named, Option.elim]
      refine ⟨⟨((List.filter_sublist _).map _).nodup nodup,
        fun entry mem => below entry (List.mem_filter.1 mem).1, rfl, ?_⟩, ?_,
        fun quiet => (rebalance quiet).of_same rfl rfl, grown⟩
      · simp only [Option.toList, List.map_eq_nil_iff, List.filter_eq_nil_iff, List.mem_filter]
        rintro entry ⟨mem, other⟩ poll
        have := polling.interval_of_mem mem (by simpa using poll)
        simp_all
      · rw [owed, countP_filter_of_imp fun entry mem waits => ?_]
        · exact owes
        · have : entry.2 ≠ .poll := fun poll => by rw [poll] at waits; cases waits
          simpa using fun same => this (only entry mem same)
  · exact inv

theorem Keeps.start : Keeps c start := by
  intro k f w inv
  rw [start_world]
  split
  · next ready =>
      have idle : w.consumer.pollInterval = none := by
        have := inv.polling.running
        cases named : w.consumer.pollInterval <;> simp_all
      obtain ⟨nodup, below⟩ := inv.polling.ids_push .poll
      refine ⟨⟨nodup, below, rfl, ?_⟩, ?_, fun quiet => (inv.rebalance quiet).of_same rfl rfl,
        Nat.le_succ_of_le inv.grown⟩
      · simpa [List.filter_append, idle] using inv.polling.interval
      · simpa [owed, Timer.awaits] using inv.owes
  · exact inv

theorem revokedLog_answers (consumer : Consumer) :
    (revokedLog consumer).countP (·.answers c) = 0 := by
  unfold revokedLog
  split
  · rfl
  · cases consumer.rebalanceListener <;> rfl

theorem Keeps.unsubscribe : Keeps c unsubscribe := by
  intro k f w inv
  rw [unsubscribe_world]
  split
  · exact inv.of_edit rfl rfl rfl rfl (by simp [revokedLog_answers]) rfl
      fun _ _ => Assigned.of_unsubscribed rfl
  · exact inv

theorem Keeps.assign (partitions : List TopicPartition) : Keeps c (assign partitions) :=
  Gives.bind Keeps.checkOpen fun _ _ _ _ inv =>
    inv.of_edit rfl rfl rfl rfl rfl rfl fun _ _ => Assigned.of_unsubscribed rfl

theorem setAdd_nodup (topics : List String) :
    ∀ {set : List String}, set.Nodup → (topics.foldl setAdd set).Nodup := by
  induction topics with
  | nil => exact id
  | cons topic topics ih =>
      intro set nodup
      apply ih
      unfold setAdd
      split
      · exact nodup
      · next fresh => exact nodup.append (List.nodup_singleton _) (by simpa using fresh)

theorem Keeps.subscribe (topics : List String) (listener : Option Nat) :
    Keeps c (subscribe topics listener) := by
  refine Gives.bind Keeps.checkOpen fun _ k f w inv => ?_
  have rebalanced : ∀ w₁ : World, w₁.timers = w.timers → w₁.nextId = w.nextId →
      w₁.log = w.log → w₁.listeners = w.listeners →
      w₁.consumer.isRunning = w.consumer.isRunning →
      w₁.consumer.pollInterval = w.consumer.pollInterval →
      w₁.consumer.subscriptions = topics.foldl setAdd [] →
      Inv c k f (simulateRebalance.run.run w₁).2 := by
    intro w₁ timers nextId log listeners running interval subscriptions
    obtain ⟨extra, partitions, world, quiet, assigned⟩ := simulateRebalance_world w₁
    have none : extra.countP (·.answers c) = 0 :=
      List.countP_eq_zero.2 fun o mem => by simpa using quiet o mem c
    rw [world]
    refine inv.of_edit timers nextId running interval (by simp [log, none]) listeners
      fun still _ => ⟨subscriptions ▸ setAdd_nodup topics List.nodup_nil, fun _ => ?_⟩
    exact assigned (by unfold Quiet; rw [listeners]; exact still)
  cases listener <;> simp only [KafkaConsumer.modifyConsumer, run_bind, run_modify, run_pure] <;>
    exact rebalanced _ rfl rfl rfl rfl rfl rfl rfl

theorem Keeps.close {call : Nat} (other : call ≠ c) : Keeps c (close call) :=
  Keeps.async (by simpa using other) <| Gives.get_bind fun _ => Gives.ite (fun _ => Keeps.pure _)
    fun _ => Keeps.reportAndRethrow <| Gives.bind Keeps.stop fun _ => Gives.bind Keeps.unsubscribe
      fun _ => Gives.bind (Keeps.setTimer (by simp) (by simpa [Timer.awaits] using other))
        fun _ => Keeps.pure _

theorem Keeps.poll (enableAutoCommit : Bool) {promise : Option Nat} (other : promise ≠ some c)
    (draws : List Nat) : Keeps c (poll enableAutoCommit promise draws) :=
  Keeps.async other <| Gives.bind Keeps.checkOpen fun _ => Gives.get_bind fun _ =>
    Gives.ite (fun _ => Keeps.pure _) fun _ => Keeps.reportAndRethrow <|
      Gives.bind (Keeps.generateMockRecords draws) fun records =>
        Gives.bind (Keeps.forM (fun _ => Keeps.emit _) records) fun _ =>
          Gives.ite (fun _ => Keeps.commitSync other) fun _ => Keeps.pure _

/-- A timer that does not wait for call `c`. -/
theorem Keeps.fire {t : Timer} (other : t.awaits c = false) : Keeps c (fire t) := by
  cases t with
  | connect call => exact Keeps.connected (by simpa [Timer.awaits] using other)
  | close call => exact Keeps.closed (by simpa [Timer.awaits] using other)
  | commit promise => exact Keeps.settle (by simpa [Timer.awaits] using other) none
  | commitAsync call callback =>
      refine Gives.tryCatch ?_ fun _ => Keeps.halt
      cases callback with
      | none => exact Keeps.pure ()
      | some throws => exact Keeps.invokeCallback (by simpa [Timer.awaits] using other) _ none
  | poll => exact Keeps.pure ()

end Special

/-! ## What a call's own code gives it -/

namespace Gives

variable {c : Nat}

theorem record {o : Observation} (answers : o.answers c = true) : Gives c 1 (record o) :=
  fun _ _ _ inv => by
    rw [record_world]
    exact ⟨inv.polling.of_frame rfl rfl rfl rfl, by simp [owed, answers, ← inv.owes]; omega,
      fun quiet => (inv.rebalance quiet).of_same rfl rfl, inv.grown⟩

theorem call (id : Nat) {n : Nat} {body : JS Unit} (gives : Gives c n body) :
    Gives c n (call id body) :=
  tryCatch gives fun _ => Keeps.record rfl

theorem settle (failure : Option Thrown) : Gives c 1 (settle (some c) failure) :=
  record (by simp [Observation.answers])

/-- Call `c`'s `async` method settles its promise once: at once, or by the timer its body waits
on. -/
theorem async {body : JS Ended} (waits : Waits c body) : Gives c 1 (async (some c) body) := by
  intro k floor w inv
  have waited := waits k floor w inv
  simp only [KafkaConsumer.async, run_tryCatch, run_bind]
  rcases ran : body.run.run w with ⟨_ | ended, next⟩
  · simp only [ran, KafkaConsumer.waits, Nat.add_zero] at waited ⊢
    exact settle _ k floor next waited
  · cases ended
    · simp only [ran, KafkaConsumer.waits, Nat.add_zero] at waited ⊢
      exact settle none k floor next waited
    · simpa [ran, KafkaConsumer.waits] using waited

theorem invokeCallback (callback : Option Bool) (error : Option Thrown) :
    Gives c callback.isSome.toNat (invokeCallback c callback error) := by
  cases callback with
  | none => exact Keeps.pure ()
  | some throws =>
      exact bind (record (by simp [Observation.answers])) fun _ =>
        Gives.ite (fun _ => Keeps.throw _) fun _ => Keeps.pure ()

/-- `commitAsync` calls its callback once, at once or from its timer. -/
theorem commitAsync (callback : Option Bool) :
    Gives c callback.isSome.toNat (commitAsync c callback) := by
  have timer : Gives c callback.isSome.toNat (KafkaConsumer.setTimer (.commitAsync c callback)) := by
    simpa [Timer.awaits] using setTimer (c := c) (t := .commitAsync c callback) (by simp)
  exact get_bind fun _ => ite (fun _ => invokeCallback _ _) fun _ =>
    ite (fun _ => invokeCallback _ _) fun _ => bind timer fun _ => Keeps.pure ()

end Gives

namespace Waits

variable {c : Nat}

theorem keeps_bind {α : Type} {x : JS α} {f : α → JS Ended} (hx : Keeps c x)
    (hf : ∀ a, Waits c (f a)) : Waits c (x >>= f) := by
  intro k floor w inv
  rw [run_bind]
  rcases ran : x.run.run w with ⟨_ | a, next⟩
  · simpa [ran, KafkaConsumer.waits] using hx k floor w inv
  · simpa [ran] using hf a k floor next (by simpa [ran] using hx k floor w inv)

theorem tryCatch {x : JS Ended} {handler : Thrown → JS Ended} (hx : Waits c x)
    (hh : ∀ e, Waits c (handler e)) : Waits c (tryCatch x handler) := by
  intro k floor w inv
  rw [run_tryCatch]
  rcases ran : x.run.run w with ⟨_ | a, next⟩
  · simpa [ran] using hh _ k floor next (by simpa [ran, KafkaConsumer.waits] using hx k floor w inv)
  · simpa [ran] using hx k floor w inv

theorem get_bind {f : World → JS Ended} (hf : ∀ w, Waits c (f w)) : Waits c (get >>= f) :=
  fun k floor w inv => by simpa using hf w k floor w inv

theorem ite {p : Prop} [Decidable p] {t e : JS Ended} (ht : p → Waits c t)
    (he : ¬p → Waits c e) : Waits c (if p then t else e) := by
  split
  · exact ht ‹_›
  · exact he ‹_›

theorem returned : Waits c (pure .returned) := fun _ _ _ inv => inv

theorem throw (e : Thrown) : Waits c (throw e) := fun _ _ _ inv => inv

/-- Setting the timer that will settle call `c`'s promise, and waiting on it. -/
theorem wait {t : Timer} (once : t ≠ .poll) (awaits : t.awaits c = true) :
    Waits c (KafkaConsumer.setTimer t >>= fun _ => pure .waiting) := by
  intro k floor w inv
  have timer := Gives.setTimer (c := c) once k floor w inv
  rw [awaits] at timer
  simpa using timer

theorem reportAndRethrow {body : JS Ended} (waits : Waits c body) :
    Waits c (reportAndRethrow body) :=
  tryCatch waits fun _ => keeps_bind (Keeps.emit _) fun _ => throw _

theorem commitSync : Waits c (commitSync (some c)) :=
  keeps_bind Keeps.checkOpen fun _ =>
    reportAndRethrow (wait (by simp) (by simp [Timer.awaits]))

end Waits

namespace Gives

variable {c : Nat}

theorem connect : Gives c 1 (connect c) :=
  async <| Waits.get_bind fun _ => Waits.ite (fun _ => Waits.returned) fun _ =>
    Waits.reportAndRethrow (Waits.wait (by simp) (by simp [Timer.awaits]))

theorem connected : Gives c 1 (connected c) :=
  async <| Waits.reportAndRethrow <|
    Waits.keeps_bind (Keeps.modifyConsumer (fun _ => rfl) (fun _ => rfl) (fun _ => rfl) fun _ => rfl)
      fun _ => Waits.keeps_bind (Keeps.emit _) fun _ => Waits.returned

theorem close : Gives c 1 (close c) :=
  async <| Waits.get_bind fun _ => Waits.ite (fun _ => Waits.returned) fun _ =>
    Waits.reportAndRethrow <| Waits.keeps_bind Keeps.stop fun _ =>
      Waits.keeps_bind Keeps.unsubscribe fun _ => Waits.wait (by simp) (by simp [Timer.awaits])

theorem closed : Gives c 1 (closed c) :=
  async <| Waits.reportAndRethrow <|
    Waits.keeps_bind (Keeps.modifyConsumer (fun _ => rfl) (fun _ => rfl) (fun _ => rfl) fun _ => rfl)
      fun _ => Waits.keeps_bind (Keeps.emit _) fun _ => Waits.returned

theorem poll (enableAutoCommit : Bool) (draws : List Nat) :
    Gives c 1 (poll enableAutoCommit (some c) draws) :=
  async <| Waits.keeps_bind Keeps.checkOpen fun _ => Waits.get_bind fun _ =>
    Waits.ite (fun _ => Waits.returned) fun _ => Waits.reportAndRethrow <|
      Waits.keeps_bind (Keeps.generateMockRecords draws) fun records =>
        Waits.keeps_bind (Keeps.forM (fun _ => Keeps.emit _) records) fun _ =>
          Waits.ite (fun _ => Waits.commitSync) fun _ => Waits.returned

/-- A timer that waits for call `c` answers it when it fires. -/
theorem fire {t : Timer} (awaits : t.awaits c = true) : Gives c 1 (fire t) := by
  cases t with
  | connect call =>
      obtain rfl : call = c := by simpa [Timer.awaits] using awaits
      exact connected
  | close call =>
      obtain rfl : call = c := by simpa [Timer.awaits] using awaits
      exact closed
  | commit promise =>
      obtain rfl : promise = some c := by simpa [Timer.awaits] using awaits
      exact settle none
  | commitAsync call callback =>
      obtain ⟨rfl, present⟩ : call = c ∧ callback.isSome := by simpa [Timer.awaits] using awaits
      obtain ⟨throws, rfl⟩ := Option.isSome_iff_exists.1 present
      exact tryCatch (invokeCallback (some throws) none) fun _ => Keeps.halt
  | poll => cases awaits

end Gives

/-! ## One step of the event loop -/

/-- How many times the call an input makes is answered: once for the promise of an `async`
method, once for a `commitAsync` callback, and never for the other inputs. -/
def Input.settles : Input → Nat
  | .connect | .poll _ | .commitSync | .close => 1
  | .commitAsync callback => callback.isSome.toNat
  | _ => 0

theorem Input.settles_le_one (input : Input) : input.settles ≤ 1 := by
  cases input <;> simp [Input.settles, Bool.toNat_le]

/-- The synchronous call of a method that keeps the invariant for every call answers nobody. -/
theorem plain {id : Nat} {body : JS Unit} (keeps : ∀ c, Keeps c body) :
    (∀ c ≠ id, Keeps c (call id body)) ∧ Gives id 0 (call id body) :=
  ⟨fun c _ => Keeps.call id (keeps c), Gives.call id (keeps id)⟩

/-- What one step can do: run the code of a call with the call's id taken, put a listener on, or
remove a one-shot timer and fire it. -/
theorem step_cases {e : Bool} {w w' : World} {input : Input} (stepped : step e w input = some w') :
    (∃ code : JS Unit, w' = exec code { w with nextId := w.nextId + 1 } ∧
      (∀ c ≠ w.nextId, Keeps c code) ∧ Gives w.nextId input.settles code) ∨
    (∃ event throws, input.settles = 0 ∧
      w' = { w with nextId := w.nextId + 1, listeners := w.listeners ++ [(event, throws)] }) ∨
    (∃ entry ∈ w.timers, entry.2 ≠ .poll ∧ input.settles = 0 ∧
      w' = exec (fire entry.2) { w with nextId := w.nextId + 1, timers := w.timers.erase entry }) := by
  unfold step at stepped
  split at stepped
  · cases stepped
  cases input <;> dsimp only at stepped
  case connect =>
    exact .inl ⟨_, (Option.some.inj stepped).symm, fun _ other => Keeps.connect other.symm,
      Gives.connect⟩
  case subscribe => exact .inl ⟨_, (Option.some.inj stepped).symm, plain fun _ => Keeps.subscribe _ _⟩
  case assign => exact .inl ⟨_, (Option.some.inj stepped).symm, plain fun _ => Keeps.assign _⟩
  case unsubscribe => exact .inl ⟨_, (Option.some.inj stepped).symm, plain fun _ => Keeps.unsubscribe⟩
  case start => exact .inl ⟨_, (Option.some.inj stepped).symm, plain fun _ => Keeps.start⟩
  case stop => exact .inl ⟨_, (Option.some.inj stepped).symm, plain fun _ => Keeps.stop⟩
  case poll draws =>
    split at stepped
    · exact .inl ⟨_, (Option.some.inj stepped).symm,
        fun _ other => Keeps.poll e (by simpa using other.symm) draws, Gives.poll e draws⟩
    · cases stepped
  case commitSync =>
    exact .inl ⟨_, (Option.some.inj stepped).symm, fun _ other =>
      Keeps.async (by simpa using other.symm) (Keeps.commitSync (by simpa using other.symm)),
      Gives.async Waits.commitSync⟩
  case commitAsync callback =>
    exact .inl ⟨_, (Option.some.inj stepped).symm,
      fun _ other => Keeps.call _ (Keeps.commitAsync other.symm _), Gives.call _ (Gives.commitAsync _)⟩
  case seek => exact .inl ⟨_, (Option.some.inj stepped).symm, plain fun _ => Keeps.checkAssigned _⟩
  case seekToBeginning => exact .inl ⟨_, (Option.some.inj stepped).symm, plain fun _ => Keeps.checkOpen⟩
  case seekToEnd => exact .inl ⟨_, (Option.some.inj stepped).symm, plain fun _ => Keeps.checkOpen⟩
  case position => exact .inl ⟨_, (Option.some.inj stepped).symm, plain fun _ => Keeps.checkAssigned _⟩
  case close =>
    exact .inl ⟨_, (Option.some.inj stepped).symm, fun _ other => Keeps.close other.symm, Gives.close⟩
  case listen event throws => exact .inr (.inl ⟨event, throws, rfl, (Option.some.inj stepped).symm⟩)
  case fire timer draws =>
    split at stepped
    · split at stepped
      · have keeps : ∀ c, Keeps c (poll e none draws) := fun _ => Keeps.poll e (by simp) draws
        exact .inl ⟨_, (Option.some.inj stepped).symm, fun c _ => keeps c, keeps _⟩
      · cases stepped
    · next entry other found =>
        refine .inr (.inr ⟨entry, List.mem_of_find?_eq_some found, fun poll => ?_, rfl,
          (Option.some.inj stepped).symm⟩)
        exact other entry.1 (by rw [← poll])
    · cases stepped

section Step

variable {c k floor : Nat} {w w' : World}

/-- Taking the next id for a call. -/
theorem Inv.next (inv : Inv c k floor w) :
    Inv c k (w.nextId + 1) { w with nextId := w.nextId + 1 } :=
  ⟨⟨inv.polling.ids_nodup, fun entry mem => Nat.lt_succ_of_lt (inv.polling.ids_below entry mem),
    inv.polling.running, inv.polling.interval⟩, inv.owes,
    fun quiet => (inv.rebalance quiet).of_same rfl rfl, le_refl _⟩

/-- A new listener: where no `'rebalance'` listener throws now, none threw before. -/
theorem Inv.listen (inv : Inv c k floor w) (event : ConsumerEvent) (throws : Bool) :
    Inv c k floor { w with listeners := w.listeners ++ [(event, throws)] } :=
  ⟨inv.polling.of_frame rfl rfl rfl rfl, inv.owes,
    fun quiet => (inv.rebalance fun entry mem => quiet entry (List.mem_append_left _ mem)).of_same
      rfl rfl, inv.grown⟩

/-- Removing a one-shot timer takes away what it owed call `c`. -/
theorem Inv.erase (inv : Inv c k floor w) {entry : Nat × Timer} (mem : entry ∈ w.timers)
    (once : entry.2 ≠ .poll) : ∃ rest, k = rest + (entry.2.awaits c).toNat ∧
      Inv c rest floor { w with timers := w.timers.erase entry } := by
  obtain ⟨before, after, -, split, erased⟩ := List.exists_erase_eq mem
  refine ⟨_, ?_, ⟨⟨((List.erase_sublist _ _).map _).nodup inv.polling.ids_nodup,
    fun other kept => inv.polling.ids_below other (List.mem_of_mem_erase kept),
    inv.polling.running, ?_⟩, rfl, fun quiet => (inv.rebalance quiet).of_same rfl rfl, inv.grown⟩⟩
  · rw [← inv.owes, owed, owed, erased, split]
    cases awaits : entry.2.awaits c <;> simp [List.countP_append, awaits, Nat.add_assoc]
  · rw [← inv.polling.interval, erased, split]
    simp [List.filter_append, once]

/-- One step keeps the invariant, and answers only the call it makes, as often as it
settles. -/
theorem Inv.step {e : Bool} {input : Input} (stepped : step e w input = some w')
    (inv : Inv c k floor w) :
    Inv c (k + if c = w.nextId then input.settles else 0) (w.nextId + 1) w' := by
  rcases step_cases stepped with ⟨code, rfl, keeps, gives⟩ | ⟨event, throws, none, rfl⟩ |
    ⟨entry, mem, once, none, rfl⟩
  · by_cases own : c = w.nextId
    · subst own
      simpa using gives _ _ _ inv.next
    · simpa [own] using keeps c own _ _ _ inv.next
  · simpa [none] using inv.next.listen event throws
  · obtain ⟨rest, rfl, erased⟩ := inv.next.erase mem once
    simp only [none, ite_self, Nat.add_zero]
    cases awaits : entry.2.awaits c
    · exact Keeps.fire awaits _ _ _ (by simpa [awaits] using erased)
    · exact Gives.fire awaits _ _ _ erased

end Step

/-! ## Every run -/

/-- What every world a run reaches satisfies: every call is owed at most one answer, and the
calls not yet made none. -/
structure Sound (w : World) : Prop where
  polling : Polling w
  rebalance : Quiet w → Assigned w
  once : ∀ c, owed c w ≤ 1
  fresh : ∀ c, w.nextId ≤ c → owed c w = 0

section Run

variable {e : Bool} {w w' : World}

theorem Sound.initial : Sound {} :=
  ⟨⟨List.nodup_nil, nofun, rfl, rfl⟩, fun _ => Assigned.of_unsubscribed rfl, fun _ => by simp [owed],
    fun _ _ => rfl⟩

theorem Sound.inv (sound : Sound w) (c : Nat) : Inv c (owed c w) w.nextId w :=
  ⟨sound.polling, rfl, sound.rebalance, le_refl _⟩

/-- One step keeps the world sound, leaves what the calls already made are owed alone, and owes
the call it makes what that call settles. -/
theorem Sound.step {input : Input} (sound : Sound w) (stepped : step e w input = some w') :
    Sound w' ∧ w.nextId < w'.nextId ∧ (∀ c < w.nextId, owed c w' = owed c w) ∧
      owed w.nextId w' = input.settles := by
  have after := fun c => (sound.inv c).step stepped
  have owes : ∀ c, owed c w' = owed c w + if c = w.nextId then input.settles else 0 :=
    fun c => (after c).owes
  have own : owed w.nextId w' = input.settles := by simp [owes, sound.fresh w.nextId le_rfl]
  refine ⟨⟨(after 0).polling, (after 0).rebalance, fun c => ?_, fun c later => ?_⟩,
    (after 0).grown, fun c made => by simp [owes, made.ne], own⟩
  · by_cases same : c = w.nextId
    · exact same ▸ own ▸ input.settles_le_one
    · simpa [owes, same] using sound.once c
  · have : w.nextId + 1 ≤ c := (after c).grown.trans later
    rw [owes, if_neg (by omega), sound.fresh c (by omega)]

/-- A run keeps the world sound and leaves what the calls already made are owed alone. -/
theorem Sound.run (sound : Sound w) {inputs : List Input} (ran : run e w inputs = some w') :
    Sound w' ∧ ∀ c < w.nextId, owed c w' = owed c w := by
  induction inputs generalizing w with
  | nil => cases ran; exact ⟨sound, fun _ _ => rfl⟩
  | cons input inputs ih =>
      obtain ⟨mid, stepped, rest⟩ := Option.bind_eq_some.1 ran
      obtain ⟨sound', grown, kept, -⟩ := sound.step stepped
      obtain ⟨final, kept'⟩ := ih sound' rest
      exact ⟨final, fun c made => (kept' c (made.trans grown)).trans (kept c made)⟩

theorem run_append (e : Bool) (w : World) (first rest : List Input) :
    run e w (first ++ rest) = (run e w first).bind (run e · rest) := by
  induction first generalizing w with
  | nil => rfl
  | cons input first ih =>
      show (step e w input).bind (run e · (first ++ rest)) =
        ((step e w input).bind (run e · first)).bind (run e · rest)
      cases step e w input with
      | none => rfl
      | some next => exact ih next

end Run

/-- `start()` during `close()`'s wait passes the guard, so the closed consumer keeps running, and
the interval's next `poll()` rejects with `'Consumer is closed'`, an unhandled rejection that stops
the process. -/
example : ∃ w, run false {} [.connect, .fire 1 [], .close, .start, .fire 4 [], .fire 6 []] = some w ∧
    w.consumer.isClosed ∧ w.consumer.isRunning ∧ w.halted :=
  ⟨_, rfl, rfl, rfl, rfl⟩

/-- In every world a run reaches where no `'rebalance'` listener throws, the subscribed topics
are distinct and, while there are any, the consumer is assigned partitions 0, 1 and 2 of each of
them, in order: `assign()` and `unsubscribe()` clear the subscriptions, and `subscribe()` assigns
what its topics give. -/
theorem assigned_rebalanced_while_quiet (enableAutoCommit : Bool) (inputs : List Input)
    (w : World) (ran : run enableAutoCommit {} inputs = some w) (quiet : Quiet w) :
    w.consumer.subscriptions.Nodup ∧ (w.consumer.subscriptions ≠ [] →
      w.consumer.assignedPartitions = rebalanced w.consumer.subscriptions) :=
  have assigned := (Sound.initial.run ran).1.rebalance quiet
  ⟨assigned.nodup, assigned.rebalanced⟩

theorem subscribed_consumer_assigned : ∃ w,
    run false {} [.connect, .fire 1 [], .subscribe ["orders", "orders"] none] = some w ∧
    w.consumer.subscriptions = ["orders"] ∧ (w.consumer.subscriptions.Nodup ∧
      (w.consumer.subscriptions ≠ [] →
        w.consumer.assignedPartitions = rebalanced w.consumer.subscriptions)) :=
  ⟨_, rfl, rfl, assigned_rebalanced_while_quiet false
    [.connect, .fire 1 [], .subscribe ["orders", "orders"] none] _ rfl nofun⟩

/-- A `'rebalance'` listener that throws on the `'revoked'` event stops `simulateRebalance()`
before it assigns: the consumer is left subscribed to `"b"` with the partitions of `"a"`. -/
example : ∃ w, run false {} [.connect, .fire 1 [], .listen .rebalance true, .subscribe ["a"] none,
    .subscribe ["b"] none] = some w ∧ w.consumer.subscriptions = ["b"] ∧
    w.consumer.assignedPartitions = rebalanced ["a"] :=
  ⟨_, rfl, rfl, rfl⟩

/-- Every call of a run is answered as often as it settles, once for an `async` method or a
`commitAsync` callback and never otherwise: the answers the program has seen and the pending
timers that will give one add up to that, whatever the program calls later and in whatever order
the timers fire. -/
theorem call_answered_once (enableAutoCommit : Bool) (before after : List Input) (input : Input)
    (mid w : World) (made : run enableAutoCommit {} before = some mid)
    (ran : run enableAutoCommit {} (before ++ input :: after) = some w) :
    w.log.countP (·.answers mid.nextId) + w.timers.countP (·.2.awaits mid.nextId) =
      input.settles := by
  rw [run_append, made, Option.some_bind, KafkaConsumer.run] at ran
  obtain ⟨next, stepped, rest⟩ := Option.bind_eq_some.1 ran
  obtain ⟨sound, grown, -, own⟩ := (Sound.initial.run made).1.step stepped
  exact ((sound.run rest).2 _ grown).trans own

theorem connect_answered_once : ∃ w, run false {} ([] ++ .connect :: [.fire 1 []]) = some w ∧
    (w.log.countP (·.answers 0) + w.timers.countP (·.2.awaits 0) = Input.connect.settles) :=
  ⟨_, rfl, call_answered_once false [] [.fire 1 []] .connect {} _ rfl rfl⟩


end KafkaClient.KafkaConsumer
