import KafkaClient.SendRequest
import KafkaClient.ClusterMetadata

/-! `NetworkClient.sendToPartitionLeader`: `sendRequest` to the leader that
`findLeaderForPartition` finds in the cluster metadata and, with `autoRefreshMetadata`, on any
error of that lookup or of that request, `refreshMetadata([topic])`, a second lookup and a second
`sendRequest`. What the refresh did reaches the call only through the metadata the second lookup
reads and whether the pool then holds a connected connection for the leader it finds; both are
given, as are the outcomes of the refreshes and sends, by `Awaits`. -/

namespace KafkaClient.NetworkClient

/-- What a `sendToPartitionLeader` call rejects with: an error of `findLeaderForPartition`, or
one of `sendRequest` or of the awaited `refreshMetadata()`. -/
inductive LeaderFailure (Text : Type) where
  | lookup (error : LookupError Text)
  | request (failure : Failure)
  deriving DecidableEq, Repr

/-- The cluster as a call finds it before the refresh of its `catch` (`false`) and after it
(`true`): the metadata `findLeaderForPartition` reads, and whether the pool holds a connected
connection for a node. -/
structure Cluster (Text : Type) where
  metadata : Bool → ClusterMetadata Text
  connected : Bool → Int → Bool

variable {Text : Type} [DecidableEq Text] (awaits : Awaits) (autoRefreshMetadata : Bool)

/-- `findLeaderForPartition(topic, partition)`, then `sendRequest` to the leader it finds. -/
def sendToLeader (cluster : Cluster Text) (refreshed : Bool) (topic : Text) (partition : Int)
    (fuel : Nat) (calls : Calls) : Option (Except (LeaderFailure Text) Bytes × Calls) :=
  match (cluster.metadata refreshed).findLeader topic partition with
  | .error error => some (.error (.lookup error), calls)
  | .ok leaderId =>
      (sendRequest awaits autoRefreshMetadata leaderId fuel (cluster.connected refreshed leaderId)
        calls).map fun (result, calls) => (result.mapError .request, calls)

/-- `sendToPartitionLeader(topic, partition, apiKey, apiVersion, requestData, timeout)`: the
`catch` takes every error of the `try`, and rethrows it only without `autoRefreshMetadata`;
`none` when the fuel of a `sendRequest` runs out. -/
def sendToPartitionLeader (cluster : Cluster Text) (topic : Text) (partition : Int) (fuel : Nat)
    (calls : Calls) : Option (Except (LeaderFailure Text) Bytes × Calls) := do
  match ← sendToLeader awaits autoRefreshMetadata cluster false topic partition fuel calls with
  | (.ok response, calls) => pure (.ok response, calls)
  | (.error error, calls) =>
      if autoRefreshMetadata then
        match awaits.refresh calls.refreshes with
        | none => pure (.error (.request .refreshFailed), calls.refreshed)
        | some _ =>
            sendToLeader awaits autoRefreshMetadata cluster true topic partition fuel calls.refreshed
      else pure (.error error, calls)

/-- From two on, the fuel does not change what a lookup and its `sendRequest` give. -/
theorem sendToLeader_fuel (cluster : Cluster Text) (refreshed : Bool) (topic : Text)
    (partition : Int) (fuel : Nat) (calls : Calls) :
    sendToLeader awaits autoRefreshMetadata cluster refreshed topic partition (fuel + 2) calls =
      sendToLeader awaits autoRefreshMetadata cluster refreshed topic partition 2 calls := by
  unfold sendToLeader
  split
  · rfl
  · rw [sendRequest_eq_settledWith, sendRequest_eq_settledWith awaits autoRefreshMetadata _ 0]

/-- A lookup and its `sendRequest` end with two more refreshes and two more sends at most, and
without `autoRefreshMetadata` with no refresh and one send at most. -/
theorem sendToLeader_calls (cluster : Cluster Text) (refreshed : Bool) (topic : Text)
    (partition : Int) (calls : Calls) :
    ∃ outcome, sendToLeader awaits autoRefreshMetadata cluster refreshed topic partition 2 calls =
        some outcome ∧
      outcome.2.refreshes ≤ calls.refreshes + 2 ∧ outcome.2.sends ≤ calls.sends + 2 ∧
      (autoRefreshMetadata = false →
        outcome.2.refreshes = calls.refreshes ∧ outcome.2.sends ≤ calls.sends + 1) := by
  unfold sendToLeader
  split
  · exact ⟨_, rfl, by simp, by simp, fun _ => by simp⟩
  · rename_i leaderId _
    have bounds := settledWith_calls awaits autoRefreshMetadata leaderId
      (cluster.connected refreshed leaderId) calls
    rw [sendRequest_eq_settledWith awaits autoRefreshMetadata _ 0]
    exact ⟨_, rfl, bounds.1, bounds.2.1, bounds.2.2.2⟩

theorem sendToPartitionLeader_fuel (cluster : Cluster Text) (topic : Text) (partition : Int)
    (fuel : Nat) (calls : Calls) :
    sendToPartitionLeader awaits autoRefreshMetadata cluster topic partition (fuel + 2) calls =
      sendToPartitionLeader awaits autoRefreshMetadata cluster topic partition 2 calls := by
  simp only [sendToPartitionLeader, sendToLeader_fuel]

/-- The `catch` adds one refresh and a second lookup and `sendRequest`, and only with
`autoRefreshMetadata`. -/
theorem sendToPartitionLeader_calls (cluster : Cluster Text) (topic : Text) (partition : Int)
    (calls : Calls) :
    ∃ outcome, sendToPartitionLeader awaits autoRefreshMetadata cluster topic partition 2 calls =
        some outcome ∧
      outcome.2.refreshes ≤ calls.refreshes + 5 ∧ outcome.2.sends ≤ calls.sends + 4 ∧
      (autoRefreshMetadata = false →
        outcome.2.refreshes = calls.refreshes ∧ outcome.2.sends ≤ calls.sends + 1) := by
  obtain ⟨first, ran, refreshes, sends, off⟩ :=
    sendToLeader_calls awaits autoRefreshMetadata cluster false topic partition calls
  rw [sendToPartitionLeader, ran, Option.bind_eq_bind, Option.some_bind]
  rcases first with ⟨error | response, tried⟩ <;> dsimp only at refreshes sends off ⊢
  · cases autoRefreshMetadata
    · exact ⟨_, rfl, by dsimp only; omega, by dsimp only; omega, off⟩
    · cases awaits.refresh tried.refreshes with
      | none => exact ⟨_, rfl, by dsimp only; simp only [Calls.refreshed_refreshes]; omega,
          by dsimp only; simp only [Calls.refreshed_sends]; omega, nofun⟩
      | some _ =>
          obtain ⟨second, retried, refreshes', sends', -⟩ :=
            sendToLeader_calls awaits true cluster true topic partition tried.refreshed
          simp only [Calls.refreshed_refreshes, Calls.refreshed_sends] at refreshes' sends'
          exact ⟨second, retried, by omega, by omega, nofun⟩
  · exact ⟨_, rfl, by dsimp only; omega, by dsimp only; omega, off⟩

/-- `sendOver` sends once at least. -/
theorem sendOver_sends (calls : Calls) :
    calls.sends + 1 ≤ (sendOver awaits autoRefreshMetadata calls).2.sends := by
  unfold sendOver
  split
  · split
    · split <;> simp
    · simp
  · simp

/-- The `catch` takes any error: a first request that fails otherwise than by a lost connection
is sent again once the refresh resolves and the leader is found again. -/
theorem sendToPartitionLeader_resends (cluster : Cluster Text) (topic : Text)
    (partition leaderId : Int)
    (found : ∀ refreshed, (cluster.metadata refreshed).findLeader topic partition = .ok leaderId)
    (connected : ∀ refreshed, cluster.connected refreshed leaderId = true)
    (failed : awaits.send 0 = .failed) (resolved : (awaits.refresh 0).isSome) :
    ∃ outcome, sendToPartitionLeader awaits true cluster topic partition 2 ⟨0, 0⟩ = some outcome ∧
      2 ≤ outcome.2.sends := by
  obtain ⟨_, refreshed⟩ := Option.isSome_iff_exists.1 resolved
  have first : sendToLeader awaits true cluster false topic partition 2 ⟨0, 0⟩ =
      some (.error (.request .failed), ⟨0, 1⟩) := by
    simp [sendToLeader, found, connected, sendRequest_connected, sendOver, failed, Settled.result,
      Except.mapError, Calls.sent]
  refine ⟨((sendOver awaits true ⟨1, 1⟩).1.mapError .request, (sendOver awaits true ⟨1, 1⟩).2), ?_,
    sendOver_sends awaits true ⟨1, 1⟩⟩
  rw [sendToPartitionLeader, first]
  simp [refreshed, sendToLeader, found, connected, sendRequest_connected, Calls.refreshed]

/-- The bound is reached: the leader's connection is missing, each refresh finds it again and
each send fails with a `DisconnectedError`. -/
example : sendToPartitionLeader ⟨fun _ => some true, fun _ => .disconnected⟩ true
    (⟨fun _ => { topics := JsMap.empty.set 0 ⟨0, 0, false, [⟨0, 0, 1, 0, [], [], []⟩], 0⟩ },
      fun _ _ => false⟩ : Cluster Nat) 0 0 2 ⟨0, 0⟩ = some (.error (.request .disconnected), ⟨5, 4⟩) :=
  rfl

/-- The `catch` retries after any error, so a request that failed otherwise than by a lost
connection, a `TimeoutError` among them, is sent a second time. -/
example : sendToPartitionLeader
    ⟨fun _ => some true, fun n => if n = 0 then .failed else .resolved []⟩ true
    (⟨fun _ => { topics := JsMap.empty.set 0 ⟨0, 0, false, [⟨0, 0, 1, 0, [], [], []⟩], 0⟩ },
      fun _ _ => true⟩ : Cluster Nat) 0 0 2 ⟨0, 0⟩ = some (.ok [], ⟨1, 2⟩) :=
  rfl

end KafkaClient.NetworkClient
