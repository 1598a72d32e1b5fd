import KafkaClient.Admin

/-! What every run of an `AdminClient` keeps: a connected or closed client never goes back, and
what the program has seen stays seen. So an operation called once the client is closed is
rejected with `AdminClient is closed`, and the client stays closed, whatever comes after. -/

namespace KafkaClient.AdminClient

open EventLoop

/-- A later world: a connected or closed client stays so, and the log only grows. -/
structure Later (w w' : World) : Prop where
  initialized : w.client.isInitialized = true → w'.client.isInitialized = true
  closed : w.client.isClosed = true → w'.client.isClosed = true
  log : w.log <+: w'.log

theorem Later.of_same {w w' : World} (client : w'.client = w.client) (log : w'.log = w.log) :
    Later w w' :=
  ⟨fun h => client ▸ h, fun h => client ▸ h, log ▸ List.prefix_refl _⟩

instance : IsPreorder World Later where
  refl _ := .of_same rfl rfl
  trans _ _ _ first second :=
    ⟨second.initialized ∘ first.initialized, second.closed ∘ first.closed,
      first.log.trans second.log⟩

/-- Code that leaves a later world, whatever it returns or throws. -/
def Keeps {α : Type} (code : JS α) : Prop :=
  Stays Later code

namespace Keeps

theorem record (observation : Observation) : Keeps (record observation) :=
  fun w => ⟨id, id, List.prefix_append w.log [observation]⟩

theorem raise (field : Client → Client)
    (rises : ∀ c, (c.isInitialized = true → (field c).isInitialized = true) ∧
      (c.isClosed = true → (field c).isClosed = true)) :
    Keeps (modifyClient field) :=
  fun w => ⟨(rises w.client).1, (rises w.client).2, List.prefix_refl _⟩

theorem setTimer (timer : Timer) : Keeps (setTimer timer) :=
  fun _ => .of_same rfl rfl

theorem emit (event : Emitted) : Keeps (emit event) := by
  refine Stays.get_bind fun _ => Stays.bind (record _) fun _ => ?_
  refine Stays.ite (fun _ => Stays.throw _) fun _ => ?_
  cases event
  all_goals first
    | exact Stays.pure ()
    | exact Stays.ite (fun _ => Stays.throw _) fun _ => Stays.pure ()

theorem reportAndRethrow {α : Type} {body : JS α} (keeps : Keeps body) :
    Keeps (reportAndRethrow body) :=
  Stays.tryCatch keeps fun _ => Stays.bind (emit _) fun _ => Stays.throw _

theorem outcome {body : JS Ended} (keeps : Keeps body) : Keeps (outcome body) :=
  Stays.tryCatch (Stays.map _ keeps) fun _ => Stays.pure _

theorem async (call : Nat) {body : JS Ended} (keeps : Keeps body) : Keeps (async call body) :=
  Stays.bind (outcome keeps) fun r => by
    rcases r with _ | _ | _
    · exact record _
    · exact record _
    · exact Stays.pure ()

theorem afterConnect (call : Nat) (operation : Operation) :
    Keeps (afterConnect call operation) :=
  Stays.bind (setTimer _) fun _ => Stays.pure _

theorem resolve (awaiter : Awaiter) (outcome : Except Thrown Unit) :
    Keeps (resolve awaiter outcome) := by
  rcases awaiter with call | ⟨call, operation⟩ <;> rcases outcome with _ | _
  · exact record _
  · exact record _
  · exact record _
  · exact async call (afterConnect call operation)

theorem asyncFor (awaiter : Awaiter) {body : JS Ended} (keeps : Keeps body) :
    Keeps (asyncFor awaiter body) :=
  Stays.bind (outcome keeps) fun r => by
    rcases r with _ | _ | _
    · exact resolve awaiter _
    · exact resolve awaiter _
    · exact Stays.pure ()

/-- The body of `connect()` and of `close()` up to its wait. -/
theorem wait (flag : Bool) (timer : Timer) :
    Keeps (if flag = true then (pure (.returned none) : JS Ended)
      else do let _ ← KafkaClient.AdminClient.setTimer timer; pure .waiting) :=
  Stays.ite (fun _ => Stays.pure _) fun _ => Stays.bind (setTimer _) fun _ => Stays.pure _

theorem fire (timer : Timer) : Keeps (fire timer) := by
  cases timer with
  | connect awaiter =>
      exact asyncFor awaiter <| reportAndRethrow <|
        Stays.bind (raise _ fun _ => ⟨fun _ => rfl, id⟩) fun _ =>
          Stays.bind (emit _) fun _ => Stays.pure _
  | close call =>
      exact async call <| reportAndRethrow <|
        Stays.bind (raise _ fun _ => ⟨id, fun _ => rfl⟩) fun _ =>
          Stays.bind (emit _) fun _ => Stays.pure _
  | operation call operation => exact async call (Stays.pure _)

end Keeps

/-! ## Every step and every run -/

/-- The code a call of the program runs leaves a later world. -/
theorem Keeps.call (input : Input) (id : Nat) :
    Keeps (match input with
      | .connect => connect (.program id)
      | .close => close id
      | .operate operation => operate id operation
      | _ => pure ()) := by
  cases input with
  | connect => exact Keeps.asyncFor _ (Stays.get_bind fun _ => Keeps.wait _ _)
  | close => exact Keeps.async _ (Stays.get_bind fun _ => Keeps.wait _ _)
  | operate operation =>
      refine Stays.get_bind fun _ => Stays.ite (fun _ => Keeps.record _) fun _ =>
        Stays.ite (fun _ => Keeps.async _ (Keeps.afterConnect _ _)) fun _ => ?_
      exact Keeps.asyncFor _ (Stays.get_bind fun _ => Keeps.wait _ _)
  | listen => exact Stays.pure ()
  | fire => exact Stays.pure ()

theorem step_later {w w' : World} {input : Input} (stepped : step w input = some w') :
    Later w w' := by
  have next : Later w { w with nextId := w.nextId + 1 } := .of_same rfl rfl
  unfold step at stepped
  cases input <;> dsimp only at stepped
  case connect => exact Option.some.inj stepped ▸ trans_of Later next (Keeps.call .connect _ _)
  case close => exact Option.some.inj stepped ▸ trans_of Later next (Keeps.call .close _ _)
  case operate operation =>
    exact Option.some.inj stepped ▸ trans_of Later next (Keeps.call (.operate operation) _ _)
  case listen => exact Option.some.inj stepped ▸ .of_same rfl rfl
  case fire timer =>
    split at stepped
    · next entry _ =>
        obtain rfl := Option.some.inj stepped
        have erased : Later w { w with nextId := w.nextId + 1, timers := w.timers.erase entry } :=
          .of_same rfl rfl
        exact trans_of Later erased (Keeps.fire entry.2 _)
    · cases stepped

theorem run_later {w w' : World} {inputs : List Input} (ran : run w inputs = some w') :
    Later w w' := by
  induction inputs generalizing w with
  | nil => exact Option.some.inj ran ▸ refl_of Later w
  | cons input inputs ih =>
      rw [run, Option.bind_eq_some] at ran
      obtain ⟨next, stepped, rest⟩ := ran
      exact trans_of Later (step_later stepped) (ih rest)

theorem run_append (w : World) (first rest : List Input) :
    run w (first ++ rest) = (run w first).bind (run · rest) := by
  induction first generalizing w with
  | nil => rfl
  | cons input first ih =>
      show (step w input).bind _ = ((step w input).bind _).bind _
      cases step w input with
      | none => rfl
      | some next => exact ih next

/-- `ensureConnected()` on a closed client: the operation is rejected at once. -/
theorem operate_closed (w : World) (call : Nat) (operation : Operation)
    (closed : w.client.isClosed = true) :
    exec (operate call operation) w =
      { w with log := w.log ++ [.settled call (.error .closed)] } := by
  simp [exec, operate, settle, KafkaClient.AdminClient.record, closed]

/-- In every run, an operation called once the client is closed is rejected with
`AdminClient is closed`, and the client is still closed at the end, whatever the program does and
whichever timers fire after. -/
theorem closed_client_rejects_operations (before after : List Input) (operation : Operation)
    (mid w : World) (reached : run {} before = some mid) (closed : mid.client.isClosed = true)
    (ran : run {} (before ++ .operate operation :: after) = some w) :
    w.client.isClosed = true ∧ Observation.settled mid.nextId (.error .closed) ∈ w.log := by
  rw [run_append, reached, Option.some_bind, run, Option.bind_eq_some] at ran
  obtain ⟨next, stepped, rest⟩ := ran
  simp only [step, Option.some.injEq] at stepped
  rw [← stepped, operate_closed { mid with nextId := mid.nextId + 1 } _ _ closed] at rest
  have later := run_later rest
  exact ⟨later.closed closed, later.log.subset (by simp)⟩

example : ∃ mid w,
    run {} [.close, .fire 1] = some mid ∧ mid.client.isClosed = true ∧
    run {} ([.close, .fire 1] ++ .operate (.listTopics false) :: []) = some w ∧
    w.client.isClosed = true ∧ Observation.settled mid.nextId (.error .closed) ∈ w.log :=
  ⟨_, _, rfl, rfl, rfl,
    closed_client_rejects_operations [.close, .fire 1] [] (.listTopics false) _ _ rfl rfl rfl⟩

/-- An operation already waiting when `close()` completes is still fulfilled afterwards, on a
closed client. -/
example : (run {} [.connect, .fire 1, .operate (.listTopics false), .close, .fire 6, .fire 4]).any
    fun w => w.client.isClosed && match w.log.getLast? with
      | some (.settled 3 (.ok (some _))) => true
      | _ => false :=
  rfl

end KafkaClient.AdminClient
