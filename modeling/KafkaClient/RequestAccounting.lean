import KafkaClient.ConnectionRuns

/-! The requests of one `BrokerConnection` over whole runs. A promise `send` returned is answered
or still awaited: settled, or held by a request in flight, which a response, the sweep, a failed
write or a disconnect settles later. Every macrotask keeps this as long as no `'response'` or
`'throttle'` listener throws (`handleResponse` emits both between taking a request out of
`inFlightRequests` and settling it) and the correlation ids have not wrapped around (a reused id
would overwrite the request holding it, and a write callback would reach another request). -/

namespace KafkaClient.BrokerConnection

/-! ## The invariant and what the code may do to it -/

/-- The promise is settled, or a request in flight holds it. -/
def Accounted (w : World) (promise : Nat) : Prop :=
  (w.settled.lookup promise).isSome ∨ ∃ request ∈ w.inFlightRequests, request.promise = promise

/-- A listener of the program on `'response'` or `'throttle'` that throws. -/
def throwsOnAnswer : Event × Listener → Bool
  | (.response, .program true) | (.throttle, .program true) => true
  | _ => false

/-- No listener of the program on `'response'` or `'throttle'` throws. -/
def Quiet (w : World) : Prop :=
  ∀ entry ∈ w.listeners, throwsOnAnswer entry = false

/-- Every request in flight under `correlationId` holds `promise`. -/
def Owns (correlationId : Int) (promise : Nat) (w : World) : Prop :=
  ∀ request ∈ w.inFlightRequests, request.correlationId = correlationId → request.promise = promise

/-- The world the code keeps: one request in flight per correlation id, none above the counter,
and a pending write callback's correlation id is that of its own request. -/
structure Sound (w : World) : Prop where
  keys_nodup : (w.inFlightRequests.map (·.correlationId)).Nodup
  requests_issued : ∀ request ∈ w.inFlightRequests, request.correlationId ≤ w.correlationIdCounter
  writes_issued : ∀ write ∈ w.writes, write.correlationId ≤ w.correlationIdCounter
  writes_owned : ∀ write ∈ w.writes, Owns write.correlationId write.promise w
  quiet : Quiet w

/-- What every piece of the connection's code but `send` does: a promise accounted for stays so,
no request or write is added, the counter stays, and no throwing listener of an answer appears. -/
structure Kept (w w' : World) : Prop where
  accounted : ∀ promise, Accounted w promise → Accounted w' promise
  requests : w'.inFlightRequests.Sublist w.inFlightRequests
  writes : w'.writes = w.writes
  counter : w'.correlationIdCounter = w.correlationIdCounter
  quiet : Quiet w → Quiet w'

namespace Kept

theorem refl (w : World) : Kept w w := ⟨fun _ => id, .refl _, rfl, rfl, id⟩

theorem trans {u v w : World} (first : Kept u v) (second : Kept v w) : Kept u w :=
  ⟨fun p h => second.accounted p (first.accounted p h), second.requests.trans first.requests,
    second.writes.trans first.writes, second.counter.trans first.counter, second.quiet ∘ first.quiet⟩

/-- A change of none of the fields the invariant reads. -/
theorem of_frame {w w' : World} (settled : w'.settled = w.settled)
    (requests : w'.inFlightRequests = w.inFlightRequests) (writes : w'.writes = w.writes)
    (counter : w'.correlationIdCounter = w.correlationIdCounter)
    (listeners : w'.listeners = w.listeners) : Kept w w' where
  accounted _ := by simp only [Accounted, settled, requests]; exact id
  requests := requests ▸ .refl _
  writes := writes
  counter := counter
  quiet := by simp only [Quiet, listeners]; exact id

/-- A change of the listeners that adds no throwing listener of an answer. -/
theorem of_listeners {w w' : World} (settled : w'.settled = w.settled)
    (requests : w'.inFlightRequests = w.inFlightRequests) (writes : w'.writes = w.writes)
    (counter : w'.correlationIdCounter = w.correlationIdCounter)
    (listeners : ∀ entry ∈ w'.listeners, entry ∈ w.listeners ∨ throwsOnAnswer entry = false) :
    Kept w w' where
  accounted _ := by simp only [Accounted, settled, requests]; exact id
  requests := requests ▸ .refl _
  writes := writes
  counter := counter
  quiet quiet entry mem := (listeners entry mem).elim (quiet entry) id

end Kept

/-- The invariant reads the requests, the writes, the counter and the listeners; it survives the
loss of requests. -/
theorem Sound.of_sublist {w w' : World} (sound : Sound w)
    (requests : w'.inFlightRequests.Sublist w.inFlightRequests) (writes : w'.writes.Sublist w.writes)
    (counter : w'.correlationIdCounter = w.correlationIdCounter) (quiet : Quiet w → Quiet w') :
    Sound w' where
  keys_nodup := sound.keys_nodup.sublist (requests.map _)
  requests_issued r mem := counter ▸ sound.requests_issued r (requests.subset mem)
  writes_issued write mem := counter ▸ sound.writes_issued write (writes.subset mem)
  writes_owned write mem r rmem :=
    sound.writes_owned write (writes.subset mem) r (requests.subset rmem)
  quiet := quiet sound.quiet

theorem Sound.of_kept {w w' : World} (sound : Sound w) (kept : Kept w w') : Sound w' :=
  sound.of_sublist kept.requests (kept.writes ▸ .refl _) kept.counter kept.quiet

theorem Sound.delete {w : World} (sound : Sound w) (correlationId : Int) :
    Sound { w with inFlightRequests := mapDelete correlationId w.inFlightRequests } :=
  sound.of_sublist (List.filter_sublist _) (.refl _) rfl id

theorem Owns.of_sublist {w w' : World} {correlationId : Int} {promise : Nat}
    (owns : Owns correlationId promise w) (requests : w'.inFlightRequests.Sublist w.inFlightRequests) :
    Owns correlationId promise w' :=
  fun r mem => owns r (requests.subset mem)

/-- With one request per correlation id, each request's id is its own. -/
theorem Sound.owns {w : World} (sound : Sound w) {request : Request}
    (mem : request ∈ w.inFlightRequests) : Owns request.correlationId request.promise w :=
  fun r rmem same => by rw [List.inj_on_of_nodup_map sound.keys_nodup rmem mem same]

theorem World.init_sound (clock : Nat) : Sound (World.init clock) :=
  ⟨List.nodup_nil, nofun, nofun, nofun, nofun⟩

/-! ## Settlements only accumulate -/

theorem settled_isSome_settle (promise p : Nat) (settlement : Settlement) (w : World) :
    (((settle promise settlement).run.run w).2.settled.lookup p).isSome ↔
      (w.settled.lookup p).isSome ∨ p = promise := by
  simp only [settle, run_modify]
  split
  · next already => exact ⟨.inl, by rintro (h | rfl) <;> assumption⟩
  · by_cases same : p = promise
    · simp [List.lookup_append, List.lookup_cons, List.lookup_nil, same]
    · simp [List.lookup_append, List.lookup_cons, List.lookup_nil, same, beq_false_of_ne same]

theorem Accounted.settle {w : World} {p : Nat} (promise : Nat) (settlement : Settlement)
    (accounted : Accounted w p) : Accounted ((settle promise settlement).run.run w).2 p := by
  refine accounted.imp (fun settled => (settled_isSome_settle promise p settlement w).2 (.inl settled)) ?_
  simp only [BrokerConnection.settle, run_modify]
  split <;> exact id

theorem accounted_settle (promise : Nat) (settlement : Settlement) (w : World) :
    Accounted ((settle promise settlement).run.run w).2 promise :=
  .inl ((settled_isSome_settle promise promise settlement w).2 (.inr rfl))

/-- What is settled after settling each of `requests` in turn. -/
theorem settled_isSome_forM_settle (requests : List Request) (settlement : Request → Settlement)
    (p : Nat) (w : World) :
    (((requests.forM fun r => settle r.promise (settlement r)).run.run w).2.settled.lookup p).isSome ↔
      (w.settled.lookup p).isSome ∨ ∃ r ∈ requests, r.promise = p := by
  induction requests generalizing w with
  | nil => simp
  | cons r requests ih =>
      have settled : (settle r.promise (settlement r)).run.run w =
          (.ok (), ((settle r.promise (settlement r)).run.run w).2) := rfl
      rw [List.forM, run_bind, settled]
      dsimp only
      rw [ih, settled_isSome_settle]
      simp only [List.mem_cons, or_and_right, exists_or, exists_eq_left, or_assoc, @eq_comm _ p]

theorem kept_settle (promise : Nat) (settlement : Settlement) (w : World) :
    Kept w ((settle promise settlement).run.run w).2 := by
  refine ⟨fun _ accounted => accounted.settle promise settlement, ?_, ?_, ?_, ?_⟩ <;>
    simp only [settle, run_modify] <;> split
  all_goals first | exact .refl _ | rfl | exact id

/-- Taking the requests under `correlationId` out of the map, running what keeps the invariant,
then settling `promise`: nothing is lost when `promise` is what the map holds under that id. -/
theorem Kept.delete_settle {w mid : World} {correlationId : Int} {promise : Nat}
    (owns : Owns correlationId promise w)
    (middle : Kept { w with inFlightRequests := mapDelete correlationId w.inFlightRequests } mid)
    (settlement : Settlement) : Kept w ((settle promise settlement).run.run mid).2 := by
  have kept := middle.trans (kept_settle promise settlement mid)
  refine ⟨fun p accounted => ?_, kept.requests.trans (List.filter_sublist _), kept.writes,
    kept.counter, kept.quiet⟩
  rcases accounted with settled | ⟨r, mem, rfl⟩
  · exact kept.accounted _ (.inl settled)
  · by_cases same : r.correlationId = correlationId
    · rw [owns r mem same]
      exact accounted_settle promise settlement mid
    · exact kept.accounted _ (.inr ⟨r, List.mem_filter.2 ⟨mem, by simpa [mapDelete] using same⟩, rfl⟩)

/-! ## Code that keeps the invariant, construct by construct -/

/-- Code that keeps the invariant, from every world where it holds. -/
def Keeps {α : Type} (code : JS α) : Prop :=
  ∀ w, Sound w → Kept w (code.run.run w).2

namespace Keeps

theorem bind {α β : Type} {x : JS α} {f : α → JS β} (first : Keeps x) (rest : ∀ a, Keeps (f a)) :
    Keeps (x >>= f) := by
  intro w sound
  have kept := first w sound
  rw [run_bind]
  rcases h : x.run.run w with ⟨_ | a, next⟩ <;> rw [h] at kept
  · exact kept
  · exact kept.trans (rest a next (sound.of_kept kept))

/-- A read of the world, for code whose invariant depends on what it read being the world. -/
theorem get_bind {α : Type} {f : World → JS α} (rest : ∀ w, Sound w → Kept w ((f w).run.run w).2) :
    Keeps (get >>= f) := by
  intro w sound
  simpa using rest w sound

theorem tryCatch {α : Type} {x : JS α} {handler : Failure → JS α} (first : Keeps x)
    (caught : ∀ e, Keeps (handler e)) : Keeps (tryCatch x handler) := by
  intro w sound
  have kept := first w sound
  rw [run_tryCatch]
  rcases h : x.run.run w with ⟨_ | a, next⟩ <;> rw [h] at kept
  · exact kept.trans (caught _ next (sound.of_kept kept))
  · exact kept

theorem pure {α : Type} (a : α) : Keeps (pure a : JS α) := fun w _ => .refl w

theorem throw {α : Type} (e : Failure) : Keeps (throw e : JS α) := fun w _ => .refl w

theorem get : Keeps (get : JS World) := fun w _ => .refl w

theorem modify {f : World → World} (keeps : ∀ w, Sound w → Kept w (f w)) :
    Keeps (modify f : JS Unit) := keeps

theorem modifyGet {α : Type} {f : World → α × World} (keeps : ∀ w, Sound w → Kept w (f w).2) :
    Keeps (modifyGet f : JS α) := keeps

theorem forM {α : Type} (items : List α) {body : α → JS Unit} (each : ∀ a ∈ items, Keeps (body a)) :
    Keeps (items.forM body) := by
  induction items with
  | nil => exact pure ()
  | cons a items ih =>
      exact bind (each a (.head _)) fun _ => ih fun b mem => each b (.tail _ mem)

theorem settle (promise : Nat) (settlement : Settlement) :
    Keeps (BrokerConnection.settle promise settlement) := fun w _ =>
  kept_settle promise settlement w

theorem callListener (event : Event) (arg : Option Failure) (listener : Listener) :
    Keeps (BrokerConnection.callListener event arg listener) := by
  cases listener with
  | program throws => cases throws <;> [exact pure (); exact throw _]
  | joiner promise =>
      refine bind (modify fun _ _ => .of_listeners rfl rfl rfl rfl
        fun _ mem => .inl (List.mem_of_mem_erase mem)) fun _ => ?_
      cases arg <;> exact settle _ _

theorem emit (event : Event) (arg : Option Failure) : Keeps (BrokerConnection.emit event arg) := by
  refine bind get fun w => bind (modify fun _ _ => .of_frame rfl rfl rfl rfl rfl) fun _ => ?_
  split
  · exact throw _
  · exact forM _ fun listener _ => callListener event arg listener

theorem newPromise : Keeps BrokerConnection.newPromise :=
  modifyGet fun _ _ => .of_frame rfl rfl rfl rfl rfl

theorem setTimer (timer : Nat → Timer) : Keeps (BrokerConnection.setTimer timer) :=
  modifyGet fun _ _ => .of_frame rfl rfl rfl rfl rfl

theorem clearTimer (id : Nat) : Keeps (BrokerConnection.clearTimer id) :=
  modify fun _ _ => .of_frame rfl rfl rfl rfl rfl

theorem updateSocket (socket : Nat) (f : Socket → Socket) :
    Keeps (BrokerConnection.updateSocket socket f) :=
  modify fun _ _ => .of_frame rfl rfl rfl rfl rfl

theorem clearConnectionTimeout : Keeps BrokerConnection.clearConnectionTimeout := by
  refine bind get fun w => ?_
  split
  · exact bind (clearTimer _) fun _ => modify fun _ _ => .of_frame rfl rfl rfl rfl rfl
  · exact pure _

theorem stopRequestTimeoutTimer : Keeps BrokerConnection.stopRequestTimeoutTimer := by
  refine bind get fun w => ?_
  split
  · exact bind (clearTimer _) fun _ => modify fun _ _ => .of_frame rfl rfl rfl rfl rfl
  · exact pure _

theorem startRequestTimeoutTimer : Keeps BrokerConnection.startRequestTimeoutTimer :=
  bind (setTimer _) fun _ => modify fun _ _ => .of_frame rfl rfl rfl rfl rfl

theorem rejectInFlight (error : Failure) : Keeps (BrokerConnection.rejectInFlight error) := by
  refine get_bind fun w sound => ?_
  have rejected := forM w.inFlightRequests (fun r _ => settle r.promise (.rejected error)) w sound
  have settled := settled_isSome_forM_settle w.inFlightRequests (fun _ => .rejected error)
  rw [run_bind]
  rcases h : (w.inFlightRequests.forM fun r => BrokerConnection.settle r.promise (.rejected error)).run.run w
    with ⟨_ | _, next⟩ <;> rw [h] at rejected
  · exact rejected
  · refine ⟨fun p accounted => .inl ?_, List.nil_sublist _, rejected.writes, rejected.counter,
      rejected.quiet⟩
    simpa [h] using (settled p w).2 accounted

theorem disconnect : Keeps BrokerConnection.disconnect := by
  refine bind get fun w => ?_
  dsimp only
  split
  · exact pure _
  · refine bind (pure _) fun _ => bind (modify fun _ _ => .of_frame rfl rfl rfl rfl rfl) fun _ =>
      bind clearConnectionTimeout fun _ => bind stopRequestTimeoutTimer fun _ =>
      bind (rejectInFlight _) fun _ => bind get fun w => ?_
    split
    · exact bind (updateSocket _ _) fun _ => bind (modify fun _ _ => .of_frame rfl rfl rfl rfl rfl)
        fun _ => bind (modify fun _ _ => .of_frame rfl rfl rfl rfl rfl) fun _ => emit _ _
    · exact bind (pure _) fun _ => bind (modify fun _ _ => .of_frame rfl rfl rfl rfl rfl)
        fun _ => emit _ _

theorem onError (error : Failure) : Keeps (BrokerConnection.onError error) :=
  bind (emit _ _) fun _ => tryCatch disconnect fun _ => pure _

theorem onDisconnect (error : Option Failure) : Keeps (BrokerConnection.onDisconnect error) := by
  refine bind get fun _ => bind (modify fun _ _ => .of_frame rfl rfl rfl rfl rfl) fun _ =>
    bind clearConnectionTimeout fun _ => bind stopRequestTimeoutTimer fun _ =>
    bind (rejectInFlight _) fun _ => bind get fun w => ?_
  dsimp only
  split
  · refine bind (updateSocket _ _) fun _ => bind (modify fun _ _ => .of_frame rfl rfl rfl rfl rfl)
      fun _ => ?_
    split
    · exact emit _ _
    · exact pure _
  · refine bind (pure _) fun _ => ?_
    split
    · exact emit _ _
    · exact pure _

theorem dialSocket (dial : Nat) : Keeps (BrokerConnection.dialSocket dial) :=
  modifyGet fun _ _ => .of_frame rfl rfl rfl rfl rfl

theorem connect : Keeps BrokerConnection.connect := by
  refine bind newPromise fun promise => bind get fun w => ?_
  dsimp only
  split
  · exact bind (settle _ _) fun _ => pure _
  · refine bind (modify fun _ _ => .of_listeners rfl rfl rfl rfl fun entry mem => ?_) fun _ => pure _
    simp only [List.mem_append, List.mem_cons, List.not_mem_nil, or_false] at mem
    rcases mem with mem | rfl | rfl
    · exact .inl mem
    all_goals exact .inr rfl
  · exact bind (modify fun _ _ => .of_frame rfl rfl rfl rfl rfl) fun _ => bind (dialSocket _)
      fun _ => bind (modify fun _ _ => .of_frame rfl rfl rfl rfl rfl) fun _ => bind (setTimer _)
      fun _ => bind (modify fun _ _ => .of_frame rfl rfl rfl rfl rfl) fun _ => pure _

theorem onSocketConnect (dial : Nat) : Keeps (BrokerConnection.onSocketConnect dial) :=
  bind clearConnectionTimeout fun _ => bind (modify fun _ _ => .of_frame rfl rfl rfl rfl rfl)
    fun _ => bind startRequestTimeoutTimer fun _ => bind (emit _ _) fun _ => settle _ _

theorem onSocketError (dial : Nat) (error : Failure) : Keeps (BrokerConnection.onSocketError dial error) :=
  bind (onError _) fun _ => settle _ _

theorem onSocketEnd (dial : Nat) : Keeps (BrokerConnection.onSocketEnd dial) :=
  bind (onDisconnect _) fun _ => settle _ _

theorem onSocketClose (hadError : Bool) : Keeps (BrokerConnection.onSocketClose hadError) := by
  cases hadError
  · exact onDisconnect _
  · exact pure _

theorem onConnectTimeout (dial : Nat) : Keeps (BrokerConnection.onConnectTimeout dial) :=
  bind (onError _) fun _ => settle _ _

end Keeps

/-! ## Answers and timeouts -/

/-- An answer's event returns, since none of its listeners throws. -/
theorem emit_answer {event : Event} (arg : Option Failure)
    (answer : event = .response ∨ event = .throttle) {w : World} (sound : Sound w) :
    ∃ next, (emit event arg).run.run w = (.ok (), next) ∧ Kept w next := by
  refine ⟨_, Prod.ext (emit_ok arg ?_ ?_) rfl, Keeps.emit event arg w sound⟩ <;>
    rcases answer with rfl | rfl
  all_goals first | decide | exact fun mem => absurd (sound.quiet _ mem) (by decide)

namespace Keeps

theorem handleResponse (responseBuffer : Bytes) :
    Keeps (BrokerConnection.handleResponse responseBuffer) := by
  refine bind (modify fun _ _ => .of_frame rfl rfl rfl rfl rfl) fun _ => tryCatch ?_ onError
  split
  · next correlationId size decoded =>
    refine get_bind fun w sound => ?_
    split
    · next request found =>
      have owns : Owns correlationId request.promise w := by
        rw [mapGet] at found
        have same := List.find?_some found
        rw [decide_eq_true_eq] at same
        exact same ▸ sound.owns (List.mem_of_find?_eq_some found)
      have header : size = 4 := by
        simp only [responseHeaderDecode, Option.map_eq_some'] at decoded
        obtain ⟨_, _, ⟨⟩⟩ := decoded
        rfl
      subst header
      obtain ⟨next, emitted, kept⟩ := emit_answer none (.inl rfl) (sound.delete correlationId)
      simp only [run_bind, run_modify, emitted]
      split
      · split
        · split
          · obtain ⟨last, throttled, keptLast⟩ := emit_answer none (.inr rfl) ((sound.delete correlationId).of_kept kept)
            simp only [run_bind, throttled]
            exact Kept.delete_settle owns (kept.trans keptLast) _
          · exact Kept.delete_settle owns kept _
        · next long _ unread =>
          have : ∃ v, readIntBE 4 responseBuffer (4 : Nat) = some v := by
            simp [readIntBE, readUIntBE]
            omega
          obtain ⟨v, read⟩ := this
          exact (unread v read).elim
      · exact Kept.delete_settle owns kept _
    · exact .refl w
  · exact throw _

theorem handleIncomingData (data : Bytes) : Keeps (BrokerConnection.handleIncomingData data) := by
  refine bind (emit _ _) fun _ => bind get fun _ =>
    bind (modify fun _ _ => .of_frame rfl rfl rfl rfl rfl) fun _ => ?_
  split
  refine bind (forM _ fun message _ => handleResponse message) fun _ => ?_
  split
  · exact modify fun _ _ => .of_frame rfl rfl rfl rfl rfl
  · exact throw _
  · exact throw _

/-- A loop over requests of the map, whose body keeps the invariant wherever the map holds the
request's promise under its id. -/
theorem forM_owned {requests : List Request} {body : Request → JS Unit}
    (each : ∀ request ∈ requests, ∀ w, Sound w → Owns request.correlationId request.promise w →
      Kept w ((body request).run.run w).2) :
    ∀ w, Sound w → (∀ request ∈ requests, Owns request.correlationId request.promise w) →
      Kept w ((requests.forM body).run.run w).2 := by
  induction requests with
  | nil => exact fun w _ _ => .refl w
  | cons request requests ih =>
      intro w sound owned
      have kept := each request (.head _) w sound (owned request (.head _))
      rw [List.forM, run_bind]
      rcases h : (body request).run.run w with ⟨_ | _, next⟩ <;> rw [h] at kept
      · exact kept
      · exact kept.trans (ih (fun r mem => each r (.tail _ mem)) next (sound.of_kept kept)
          fun r mem => (owned r (.tail _ mem)).of_sublist kept.requests)

theorem sweepRequests : Keeps BrokerConnection.sweepRequests := by
  refine get_bind fun w sound => forM_owned (fun request _ u _ owns => ?_) w sound
    fun request mem => sound.owns mem
  dsimp only
  split
  · exact Kept.delete_settle owns (.refl _) _
  · exact .refl u

end Keeps

theorem onWriteFailed_kept {write : Write} {w : World}
    (owns : Owns write.correlationId write.promise w) :
    Kept w ((onWriteFailed write).run.run w).2 :=
  Kept.delete_settle owns (.refl _) _

/-! ## Sending -/

/-- Every request in flight and every pending write has an id below `correlationId`. -/
def Below (correlationId : Nat) (w : World) : Prop :=
  (∀ request ∈ w.inFlightRequests, request.correlationId < correlationId) ∧
    ∀ write ∈ w.writes, write.correlationId < correlationId

theorem Below.of_kept {c : Nat} {w w' : World} (below : Below c w) (kept : Kept w w') : Below c w' :=
  ⟨fun r mem => below.1 r (kept.requests.subset mem), fun write mem => below.2 write (kept.writes ▸ mem)⟩

/-- A request under an id above every one in use joins a sound map. -/
theorem Sound.enqueue {w : World} (sound : Sound w) {correlationId : Nat}
    (below : Below correlationId w) (issued : correlationId ≤ w.correlationIdCounter)
    {request : Request} (named : request.correlationId = correlationId) :
    Sound { w with inFlightRequests := w.inFlightRequests ++ [request] } where
  keys_nodup := by
    rw [List.map_append, List.nodup_append]
    refine ⟨sound.keys_nodup, List.nodup_singleton _, ?_⟩
    simp only [List.map_cons, List.map_nil, List.disjoint_singleton, List.mem_map, not_exists,
      not_and, named]
    exact fun r mem same => (below.1 r mem).ne same
  requests_issued r mem := by
    rcases List.mem_append.1 mem with old | new
    · exact sound.requests_issued r old
    · rw [List.mem_singleton.1 new, named]; exact_mod_cast issued
  writes_issued := sound.writes_issued
  writes_owned write mem r rmem same := by
    rcases List.mem_append.1 rmem with old | new
    · exact sound.writes_owned write mem r old same
    · have := below.2 write mem
      rw [← same, List.mem_singleton.1 new, named] at this
      exact absurd this (lt_irrefl _)
  quiet := sound.quiet

/-- A write under an id of the counter's, naming the promise the map holds under it. -/
theorem Sound.write {w : World} (sound : Sound w) {socket correlationId promise : Nat}
    (issued : correlationId ≤ w.correlationIdCounter) (owns : Owns correlationId promise w) :
    Sound { w with writes := w.writes ++ [⟨socket, correlationId, promise⟩] } where
  keys_nodup := sound.keys_nodup
  requests_issued := sound.requests_issued
  writes_issued write mem := by
    rcases List.mem_append.1 mem with old | new
    · exact sound.writes_issued write old
    · rw [List.mem_singleton.1 new]; dsimp only; exact_mod_cast issued
  writes_owned write mem := by
    rcases List.mem_append.1 mem with old | new
    · exact sound.writes_owned write old
    · rw [List.mem_singleton.1 new]; exact owns
  quiet := sound.quiet

theorem Sound.advance {w : World} (sound : Sound w) {counter : Nat}
    (le : w.correlationIdCounter ≤ counter) : Sound { w with correlationIdCounter := counter } where
  keys_nodup := sound.keys_nodup
  requests_issued r mem := (sound.requests_issued r mem).trans (by exact_mod_cast le)
  writes_issued write mem := (sound.writes_issued write mem).trans (by exact_mod_cast le)
  writes_owned := sound.writes_owned
  quiet := sound.quiet

/-- A fresh key goes to the end of the map. -/
theorem mapSet_fresh {request : Request} {requests : List Request}
    (fresh : ∀ r ∈ requests, r.correlationId ≠ request.correlationId) :
    mapSet request requests = requests ++ [request] := by
  simp only [mapSet, List.any_eq_true, decide_eq_true_eq]
  rw [if_neg]
  rintro ⟨r, mem, same⟩
  exact fresh r mem same

/-- What one macrotask does to a sound world: it stays sound, no promise accounted for is lost,
and the counter moves up by at most `bump`. -/
structure Progress (bump : Nat) (w w' : World) : Prop where
  sound : Sound w'
  accounted : ∀ promise, Accounted w promise → Accounted w' promise
  counter : w'.correlationIdCounter ≤ w.correlationIdCounter + bump

theorem Progress.of_kept {w w' : World} (sound : Sound w) (kept : Kept w w') : Progress 0 w w' :=
  ⟨sound.of_kept kept, kept.accounted, kept.counter.le⟩

theorem Progress.trans {a b : Nat} {u v w : World} (first : Progress a u v) (second : Progress b v w) :
    Progress (a + b) u w :=
  ⟨second.sound, fun p h => second.accounted p (first.accounted p h), by
    have := first.counter; have := second.counter; omega⟩

theorem Progress.mono {a b : Nat} {w w' : World} (progress : Progress a w w') (le : a ≤ b) :
    Progress b w w' :=
  ⟨progress.sound, progress.accounted, progress.counter.trans (by omega)⟩

/-- The executor of `send`'s promise, under an id above every one in use: the request joins the
map at its end and the write names it. -/
theorem sendExecutor_progress (config : Config) (promise correlationId : Nat) (request : Bytes)
    (timeout : Int) {w : World} (sound : Sound w) (below : Below correlationId w)
    (issued : correlationId ≤ w.correlationIdCounter) :
    Progress 0 w ((sendExecutor config promise correlationId request timeout).run.run w).2 ∧
      Accounted ((sendExecutor config promise correlationId request timeout).run.run w).2 promise := by
  have fresh : ∀ r ∈ w.inFlightRequests, r.correlationId ≠ (⟨correlationId, w.clock,
      if timeout = 0 then config.requestTimeout else timeout, promise⟩ : Request).correlationId :=
    fun r mem => (below.1 r mem).ne
  simp only [sendExecutor, run_bind, run_get, run_modify, mapSet_fresh fresh]
  generalize entered : { w with inFlightRequests := _ } = w₁
  have sound₁ : Sound w₁ := entered ▸ sound.enqueue below issued rfl
  have held : Accounted w₁ promise := entered ▸ .inr ⟨_, List.mem_append_right _ (.head _), rfl⟩
  have kept := Keeps.emit .request none w₁ sound₁
  have progress : Progress 0 w w₁ := ⟨sound₁, fun p accounted => entered ▸
    accounted.imp id fun ⟨r, mem, same⟩ => ⟨r, List.mem_append_left _ mem, same⟩, entered ▸ le_refl _⟩
  rcases h : (emit .request none).run.run w₁ with ⟨_ | _, w₂⟩ <;> rw [h] at kept
  · exact ⟨progress.trans (.of_kept sound₁ kept), kept.accounted _ held⟩
  simp only [run_bind, run_get]
  split
  · exact ⟨progress.trans (.of_kept sound₁ kept), kept.accounted _ held⟩
  · next socket _ =>
    have owns : Owns correlationId promise w₂ := fun r mem same => by
      rcases List.mem_append.1 (entered ▸ kept.requests.subset mem) with old | new
      · exact absurd same (fresh r old)
      · rw [List.mem_singleton.1 new]
    have issued₂ : correlationId ≤ w₂.correlationIdCounter := by
      rw [kept.counter, ← entered]; exact issued
    have sound₃ : Sound { w₂ with
        sockets := w₂.sockets.modify (fun s => { s with written := s.written ++ [request] }) socket } :=
      (sound₁.of_kept kept).of_kept (.of_frame rfl rfl rfl rfl rfl)
    simp only [updateSocket, run_bind, run_modify]
    exact ⟨progress.trans (b := 0) ⟨sound₃.write issued₂ owns, kept.accounted, kept.counter.le⟩,
      kept.accounted _ held⟩

/-- `send` before the ids wrap around: the request it makes, if any, is under the next id, and
its promise is accounted for unless `send` throws. -/
theorem send_progress (config : Config) (promise : Nat) (apiKey apiVersion : Int)
    (requestData : Bytes) (timeout : Int) {w : World} (sound : Sound w)
    (fits : w.correlationIdCounter + 1 < 2147483647) :
    Progress 1 w ((send config promise apiKey apiVersion requestData timeout).run.run w).2 ∧
      (((send config promise apiKey apiVersion requestData timeout).run.run w).1 = .ok () →
        Accounted ((send config promise apiKey apiVersion requestData timeout).run.run w).2
          promise) := by
  simp only [send, run_bind, run_get]
  split
  · exact ⟨⟨sound, fun _ => id, Nat.le_succ _⟩, nofun⟩
  simp only [run_pure, run_bind, nextCorrelationId, run_modifyGet, Nat.mod_eq_of_lt fits]
  generalize advanced : { w with correlationIdCounter := _ } = w₁
  have sound₁ : Sound w₁ := advanced ▸ sound.advance (Nat.le_succ _)
  have below₁ : Below (w.correlationIdCounter + 1) w₁ := advanced ▸
    ⟨fun r mem => Int.lt_add_one_of_le (sound.requests_issued r mem),
      fun write mem => Int.lt_add_one_of_le (sound.writes_issued write mem)⟩
  have progress₁ : Progress 1 w w₁ := ⟨sound₁, fun _ accounted => advanced ▸ accounted,
    advanced ▸ le_refl _⟩
  have issued₁ : w.correlationIdCounter + 1 ≤ w₁.correlationIdCounter := advanced ▸ le_refl _
  split
  · split
    · exact ⟨progress₁, nofun⟩
    simp only [run_bind, run_pure]
    split
    · next sizeBytes _ =>
      have kept := Keeps.emit .bytesOut none w₁ sound₁
      rw [run_bind]
      rcases h : (emit .bytesOut none).run.run w₁ with ⟨_ | _, w₂⟩ <;> rw [h] at kept
      · exact ⟨progress₁.trans (.of_kept sound₁ kept), fun h => by cases h⟩
      obtain ⟨executed, held⟩ := sendExecutor_progress config promise _ (sizeBytes ++ _ ++ requestData)
        timeout (sound₁.of_kept kept) (below₁.of_kept kept) (kept.counter ▸ issued₁)
      simp only [run_tryCatch]
      rcases e : (sendExecutor config promise _ (sizeBytes ++ _ ++ requestData) timeout).run.run w₂
        with ⟨_ | _, w₃⟩ <;> rw [e] at executed held
      · exact ⟨(progress₁.trans (.of_kept sound₁ kept)).trans
          (executed.trans (.of_kept executed.sound (kept_settle _ _ w₃))), fun _ => held.settle _ _⟩
      · exact ⟨(progress₁.trans (.of_kept sound₁ kept)).trans executed, fun _ => held⟩
    · exact ⟨progress₁, nofun⟩
  · exact ⟨progress₁, nofun⟩

/-! ## Macrotasks and runs -/

theorem Kept.runTask {task : JS Unit} {w : World} (kept : Kept w (task.run.run w).2) :
    Kept w (runTask task w) := by
  unfold BrokerConnection.runTask
  split <;> rename_i h <;> rw [h] at kept
  · exact kept
  · exact kept.trans (.of_frame rfl rfl rfl rfl rfl)

theorem Keeps.callAsync {body : Nat → JS Unit} (keeps : ∀ promise, Keeps (body promise)) :
    Keeps (BrokerConnection.callAsync body) :=
  bind newPromise fun promise => tryCatch (keeps promise) fun _ => settle _ _

/-- A socket's event: the socket's flags change, then the handler runs as a macrotask. -/
theorem socketEvent_progress {w w' : World} {s : Nat} {enabled : Socket → Bool}
    {progress : Socket → Socket} {handler : Socket → JS Unit} (keeps : ∀ socket, Keeps (handler socket))
    (sound : Sound w) (happened : socketEvent w s enabled progress handler = some w') :
    Progress 0 w w' := by
  unfold socketEvent at happened
  split at happened
  · next socket _ =>
    split at happened
    · cases happened
      have frame : Kept w { w with sockets := w.sockets.set s (progress socket) } :=
        .of_frame rfl rfl rfl rfl rfl
      exact .of_kept sound (frame.trans (Kept.runTask (keeps _ _ (sound.of_kept frame))))
    · cases happened
  · cases happened

/-- A `send` call, as the program makes it: its promise is the next fresh number, and it is
accounted for once the macrotask is over. -/
theorem runTask_send_progress (config : Config) (apiKey apiVersion : Int) (requestData : Bytes)
    (timeout : Int) {w : World} (sound : Sound w) (fits : w.correlationIdCounter + 1 < 2147483647) :
    Progress 1 w (runTask (callAsync fun promise =>
        send config promise apiKey apiVersion requestData timeout) w) ∧
      Accounted (runTask (callAsync fun promise =>
        send config promise apiKey apiVersion requestData timeout) w) w.fresh := by
  have frame : Kept w { w with fresh := w.fresh + 1 } := .of_frame rfl rfl rfl rfl rfl
  obtain ⟨progress, held⟩ := send_progress config w.fresh apiKey apiVersion requestData timeout
    (sound.of_kept frame) fits
  simp only [runTask, callAsync, newPromise, run_bind, run_modifyGet, run_tryCatch]
  rcases h : (send config w.fresh apiKey apiVersion requestData timeout).run.run
    { w with fresh := w.fresh + 1 } with ⟨_ | _, out⟩ <;> rw [h] at progress held
  · have settled := kept_settle w.fresh (.rejected ‹_›) out
    have ran : (settle w.fresh (.rejected ‹_›)).run.run out =
        (.ok (), ((settle w.fresh (.rejected ‹_›)).run.run out).2) := rfl
    dsimp only
    rw [ran]
    exact ⟨(Progress.of_kept sound frame).trans (progress.trans (.of_kept progress.sound settled)),
      accounted_settle _ _ _⟩
  · exact ⟨(Progress.of_kept sound frame).trans progress, held rfl⟩

/-- The inputs that call `send`. -/
def Input.isSend : Input → Bool
  | .send .. => true
  | _ => false

@[simp] theorem Input.isSend_send (apiKey apiVersion : Int) (requestData : Bytes) (timeout : Int) :
    (Input.send apiKey apiVersion requestData timeout).isSend = true := rfl

/-- A listener put on `'response'` or `'throttle'` that throws. -/
def Input.throwsOnAnswer : Input → Bool
  | .listen event throws => BrokerConnection.throwsOnAnswer (event, .program throws)
  | _ => false

/-- One macrotask keeps the world sound and loses no promise accounted for; only a `send` moves
the counter, by one. -/
theorem step_progress (config : Config) {w w' : World} {input : Input} (sound : Sound w)
    (quiet : input.throwsOnAnswer = false)
    (fits : w.correlationIdCounter + (if input.isSend then 1 else 0) < 2147483647)
    (stepped : step config w input = some w') :
    Progress (if input.isSend then 1 else 0) w w' := by
  unfold step at stepped
  split at stepped
  · cases stepped
  cases input with
  | listen event throws =>
      cases stepped
      refine .of_kept sound (.of_listeners rfl rfl rfl rfl fun entry mem => ?_)
      rcases List.mem_append.1 mem with old | new
      · exact .inl old
      · exact .inr (List.mem_singleton.1 new ▸ quiet)
  | connect =>
      cases stepped
      exact .of_kept sound (Kept.runTask (Keeps.bind Keeps.connect (fun _ => Keeps.pure _) w sound))
  | disconnect =>
      cases stepped
      exact .of_kept sound (Kept.runTask (Keeps.callAsync (fun _ =>
        Keeps.bind Keeps.disconnect fun _ => Keeps.settle _ _) w sound))
  | send apiKey apiVersion requestData timeout =>
      cases stepped
      exact (runTask_send_progress config apiKey apiVersion requestData timeout sound fits).1
  | socketConnect s =>
      refine socketEvent_progress (fun k => ?_) sound stepped
      split
      · exact Keeps.onSocketConnect _
      · exact Keeps.pure _
  | socketData s data =>
      refine socketEvent_progress (fun k => ?_) sound stepped
      split
      · exact Keeps.handleIncomingData _
      · exact Keeps.pure _
  | socketError s =>
      refine socketEvent_progress (fun k => ?_) sound stepped
      split
      · exact Keeps.onSocketError _ _
      · exact Keeps.throw _
  | socketEnd s =>
      refine socketEvent_progress (fun k => ?_) sound stepped
      split
      · exact Keeps.onSocketEnd _
      · exact Keeps.pure _
  | socketClose s hadError =>
      refine socketEvent_progress (fun k => ?_) sound stepped
      split
      · exact Keeps.onSocketClose _
      · exact Keeps.pure _
  | socketTimeout s =>
      refine socketEvent_progress (fun k => ?_) sound stepped
      split
      · exact Keeps.onError _
      · exact Keeps.pure _
  | timerFires id =>
      dsimp only at stepped
      split at stepped
      · cases stepped
        have frame : Kept w { w with timers := w.timers.filter (·.id ≠ id) } :=
          .of_frame rfl rfl rfl rfl rfl
        exact .of_kept sound (frame.trans (Kept.runTask
          (Keeps.onConnectTimeout _ _ (sound.of_kept frame))))
      · cases stepped
        exact .of_kept sound (Kept.runTask (Keeps.sweepRequests w sound))
      · cases stepped
  | writeDone index failed =>
      dsimp only at stepped
      split at stepped
      · next write found =>
        cases stepped
        have erased : Progress 0 w { w with writes := w.writes.eraseIdx index } :=
          ⟨sound.of_sublist (.refl _) (List.eraseIdx_sublist _ _) rfl id, fun _ => id, le_refl _⟩
        cases failed
        · exact erased
        · exact erased.trans (b := 0) (.of_kept erased.sound (Kept.runTask (onWriteFailed_kept
            (w := { w with writes := w.writes.eraseIdx index })
            (sound.writes_owned write (List.getElem?_mem found)))))
      · cases stepped
  | tick elapsed =>
      cases stepped
      exact .of_kept sound (.of_frame rfl rfl rfl rfl rfl)

theorem run_append (config : Config) (w : World) (first rest : List Input) :
    run config w (first ++ rest) = (run config w first).bind (run config · rest) := by
  induction first generalizing w with
  | nil => rfl
  | cons input first ih =>
      simp only [List.cons_append, run]
      cases step config w input with
      | none => rfl
      | some next => exact ih next

/-- A run keeps the world sound and loses no promise accounted for, while no throwing listener of
an answer is put on and the ids do not wrap around; the counter moves by the sends at most. -/
theorem run_progress (config : Config) :
    ∀ (inputs : List Input) {w w' : World}, Sound w →
      (∀ input ∈ inputs, input.throwsOnAnswer = false) →
      w.correlationIdCounter + inputs.countP (·.isSend) < 2147483647 →
      run config w inputs = some w' → Progress (inputs.countP (·.isSend)) w w'
  | [], w, _, sound, _, _, ran => by
      cases ran
      exact ⟨sound, fun _ => id, le_refl _⟩
  | input :: inputs, w, w', sound, quiet, fits, ran => by
      obtain ⟨mid, stepped, rest⟩ := Option.bind_eq_some.1 ran
      rw [List.countP_cons] at fits ⊢
      have first := step_progress config sound (quiet input (.head _)) (by omega) stepped
      have second := run_progress config inputs first.sound (fun i mem => quiet i (.tail _ mem))
        (by have := first.counter; omega) rest
      exact (first.trans second).mono (by omega)

/-- No request is lost. Over a run from a sound world in which no listener that throws is put on
`'response'` or `'throttle'` and the ids do not wrap around, the world stays sound, a promise
settled or held by a request in flight stays so, and the promise of every `send` call of the run
is, at its end, settled or held by a request in flight. -/
theorem sent_requests_never_lost (config : Config) (w w' : World) (inputs : List Input)
    (sound : Sound w) (quiet : ∀ input ∈ inputs, input.throwsOnAnswer = false)
    (fits : w.correlationIdCounter + inputs.countP (·.isSend) < 2147483647)
    (ran : run config w inputs = some w') :
    Sound w' ∧ (∀ promise, Accounted w promise → Accounted w' promise) ∧
      ∀ before after mid apiKey apiVersion requestData timeout,
        inputs = before ++ .send apiKey apiVersion requestData timeout :: after →
        run config w before = some mid → Accounted w' mid.fresh := by
  have whole := run_progress config inputs sound quiet fits ran
  refine ⟨whole.sound, whole.accounted,
    fun before after mid apiKey apiVersion requestData timeout split reached => ?_⟩
  subst split
  rw [run_append, reached, Option.some_bind] at ran
  obtain ⟨sent, stepped, rest⟩ := Option.bind_eq_some.1 ran
  simp only [List.countP_append, List.countP_cons, Input.isSend_send, if_true] at fits
  have first := run_progress config before sound (fun i mem => quiet i (List.mem_append_left _ mem))
    (by omega) reached
  obtain ⟨progress, held⟩ := runTask_send_progress config apiKey apiVersion requestData timeout
    first.sound (by have := first.counter; omega)
  unfold step at stepped
  split at stepped
  · cases stepped
  cases stepped
  exact (run_progress config after progress.sound
    (fun i mem => quiet i (List.mem_append_right _ (.tail _ mem)))
    (by have := first.counter; have := progress.counter; omega) rest).accounted _ held

/-- A dial, its connection, and a request: the promise of the `send` is in flight at the end. -/
theorem first_request_never_lost :
    ∃ w', run defaults (World.init 0) [.connect, .socketConnect 0, .send 3 0 [] 0] = some w' ∧
      Sound w' ∧ Accounted w' 3 := by
  obtain ⟨sound, -, lost⟩ := sent_requests_never_lost defaults (World.init 0) _
    [.connect, .socketConnect 0, .send 3 0 [] 0] (World.init_sound 0) (by decide) (by decide) rfl
  exact ⟨_, rfl, sound, lost [.connect, .socketConnect 0] [] _ 3 0 [] 0 rfl rfl⟩

end KafkaClient.BrokerConnection
