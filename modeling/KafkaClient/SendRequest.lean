import KafkaClient.Buffer

/-! `NetworkClient.sendRequest`: its retries over the outcomes of what it awaits. The pool is seen
only through the check `!connection || !connection.isConnected()` for the node, which the code
makes before anything is awaited and again after each `refreshMetadata()`; whatever the refresh
did to the pool, only that check reaches the call. Each `refreshMetadata()` and each `send()` it
awaits settles in any way at all, given by `Awaits`. The recursive `return this.sendRequest(...)`
is taken with fuel. -/

namespace KafkaClient.NetworkClient

/-- How a `connection.send(...)` promise settles: with the response, with a `DisconnectedError`
(`Not connected to broker`, `Connection closed`, `Broker closed connection`), or with another
error (a request too large, a `TimeoutError`, a failed write). -/
inductive Settled where
  | resolved (response : Bytes)
  | disconnected
  | failed
  deriving DecidableEq, Repr

/-- What a `sendRequest` call rejects with. -/
inductive Failure where
  /-- `new DisconnectedError(No connection to node ${nodeId})` -/
  | noConnection (nodeId : Int)
  /-- the error of an awaited `refreshMetadata()` -/
  | refreshFailed
  /-- the `DisconnectedError` of a `send()` -/
  | disconnected
  /-- another error of a `send()` -/
  | failed
  deriving DecidableEq, Repr

/-- How the awaits of one call settle, in order: the `n`th `refreshMetadata()` rejects (`none`)
or resolves, with whether the pool then holds a connected connection for the node; the `n`th
`send()` settles as `send n` says. -/
structure Awaits where
  refresh : Nat → Option Bool
  send : Nat → Settled

/-- The `refreshMetadata()` and `send()` calls made so far. -/
structure Calls where
  refreshes : Nat
  sends : Nat
  deriving DecidableEq, Repr

def Calls.refreshed (calls : Calls) : Calls := { calls with refreshes := calls.refreshes + 1 }

def Calls.sent (calls : Calls) : Calls := { calls with sends := calls.sends + 1 }

@[simp] theorem Calls.refreshed_refreshes (calls : Calls) :
    calls.refreshed.refreshes = calls.refreshes + 1 := rfl
@[simp] theorem Calls.refreshed_sends (calls : Calls) : calls.refreshed.sends = calls.sends := rfl
@[simp] theorem Calls.sent_refreshes (calls : Calls) : calls.sent.refreshes = calls.refreshes := rfl
@[simp] theorem Calls.sent_sends (calls : Calls) : calls.sent.sends = calls.sends + 1 := rfl

/-- A settled `send()` as what `sendRequest` returns with it: its response, or its error
rethrown. -/
def Settled.result : Settled → Except Failure Bytes
  | .resolved response => .ok response
  | .disconnected => .error .disconnected
  | .failed => .error .failed

variable (awaits : Awaits) (autoRefreshMetadata : Bool)

/-- The `try` of `sendRequest` over a connected connection, with its `catch`: a
`DisconnectedError` with `autoRefreshMetadata` awaits `refreshMetadata()`, rethrows when the node
still has no connected connection, and otherwise returns the retried `send()`; any other error is
rethrown. -/
def sendOver (calls : Calls) : Except Failure Bytes × Calls :=
  match awaits.send calls.sends with
  | .disconnected =>
      if autoRefreshMetadata then
        match awaits.refresh calls.refreshes with
        | none => (.error .refreshFailed, calls.sent.refreshed)
        | some false => (.error .disconnected, calls.sent.refreshed)
        | some true => ((awaits.send (calls.sends + 1)).result, calls.sent.refreshed.sent)
      else (.error .disconnected, calls.sent)
  | settled => (settled.result, calls.sent)

/-- `sendRequest(nodeId, apiKey, apiVersion, requestData, timeout)` when the check finds a
connected connection for the node exactly if `available`: without one, `autoRefreshMetadata`
awaits `refreshMetadata()`, checks again and calls `sendRequest` anew; `none` when the fuel runs
out. -/
def sendRequest (nodeId : Int) : Nat → Bool → Calls → Option (Except Failure Bytes × Calls)
  | 0, _, _ => none
  | fuel + 1, available, calls =>
      if !available then
        if autoRefreshMetadata then
          match awaits.refresh calls.refreshes with
          | none => some (.error .refreshFailed, calls.refreshed)
          | some availableNow =>
              if !availableNow then some (.error (.noConnection nodeId), calls.refreshed)
              else sendRequest nodeId fuel availableNow calls.refreshed
        else some (.error (.noConnection nodeId), calls)
      else some (sendOver awaits autoRefreshMetadata calls)

/-- One `sendOver` refreshes at most once and sends at most twice, and without
`autoRefreshMetadata` it sends once and never refreshes. -/
theorem sendOver_calls (calls : Calls) :
    (sendOver awaits autoRefreshMetadata calls).2.refreshes ≤ calls.refreshes + 1 ∧
      (sendOver awaits autoRefreshMetadata calls).2.sends ≤ calls.sends + 2 ∧
      (autoRefreshMetadata = false →
        (sendOver awaits autoRefreshMetadata calls).2 = calls.sent) := by
  unfold sendOver
  split
  · split
    · split <;> simp_all
    · simp_all
  · simp_all

theorem sendRequest_connected (nodeId : Int) (fuel : Nat) (calls : Calls) :
    sendRequest awaits autoRefreshMetadata nodeId (fuel + 1) true calls =
      some (sendOver awaits autoRefreshMetadata calls) := rfl

/-- What a call settles with, whatever the fuel from two on: one recursive call at most is
made, since the check that precedes it has just found a connected connection. -/
def settledWith (nodeId : Int) (available : Bool) (calls : Calls) : Except Failure Bytes × Calls :=
  if available then sendOver awaits autoRefreshMetadata calls
  else if autoRefreshMetadata then
    match awaits.refresh calls.refreshes with
    | none => (.error .refreshFailed, calls.refreshed)
    | some false => (.error (.noConnection nodeId), calls.refreshed)
    | some true => sendOver awaits autoRefreshMetadata calls.refreshed
  else (.error (.noConnection nodeId), calls)

theorem sendRequest_eq_settledWith (nodeId : Int) (fuel : Nat) (available : Bool)
    (calls : Calls) :
    sendRequest awaits autoRefreshMetadata nodeId (fuel + 2) available calls =
      some (settledWith awaits autoRefreshMetadata nodeId available calls) := by
  cases available
  · cases autoRefreshMetadata
    · rfl
    · cases found : awaits.refresh calls.refreshes with
      | none => simp [sendRequest, settledWith, found]
      | some availableNow => cases availableNow <;> simp [sendRequest, settledWith, found]
  · rfl

theorem settledWith_calls (nodeId : Int) (available : Bool) (calls : Calls) :
    (settledWith awaits autoRefreshMetadata nodeId available calls).2.refreshes ≤
        calls.refreshes + 2 ∧
      (settledWith awaits autoRefreshMetadata nodeId available calls).2.sends ≤ calls.sends + 2 ∧
      (available = true →
        (settledWith awaits autoRefreshMetadata nodeId available calls).2.refreshes ≤
          calls.refreshes + 1) ∧
      (autoRefreshMetadata = false →
        (settledWith awaits autoRefreshMetadata nodeId available calls).2.refreshes =
          calls.refreshes ∧
        (settledWith awaits autoRefreshMetadata nodeId available calls).2.sends ≤ calls.sends + 1) := by
  cases available
  · cases autoRefreshMetadata
    · simp [settledWith]
    · have retried := sendOver_calls awaits true calls.refreshed
      simp only [settledWith, Bool.false_eq_true, if_false, if_true]
      split <;> simp at retried ⊢; omega
  · have sent := sendOver_calls awaits autoRefreshMetadata calls
    simp only [settledWith, if_true]
    refine ⟨by omega, sent.2.1, fun _ => sent.1, fun off => ?_⟩
    rw [sent.2.2 off]
    simp

/-- Every call ends, after two `refreshMetadata()` calls and two `send()` attempts at most, and
after one refresh at most when the check first finds a connected connection. -/
theorem sendRequest_settles (nodeId : Int) (available : Bool) :
    ∃ outcome : Except Failure Bytes × Calls,
      (∀ fuel, 2 ≤ fuel →
        sendRequest awaits autoRefreshMetadata nodeId fuel available ⟨0, 0⟩ = some outcome) ∧
      outcome.2.refreshes ≤ 2 ∧ outcome.2.sends ≤ 2 ∧
      (available = true → outcome.2.refreshes ≤ 1) ∧
      (autoRefreshMetadata = false → outcome.2.refreshes = 0 ∧ outcome.2.sends ≤ 1) := by
  refine ⟨settledWith awaits autoRefreshMetadata nodeId available ⟨0, 0⟩, fun fuel enough => ?_,
    settledWith_calls awaits autoRefreshMetadata nodeId available ⟨0, 0⟩⟩
  obtain ⟨fuel, rfl⟩ := Nat.exists_eq_add_of_le' enough
  exact sendRequest_eq_settledWith awaits autoRefreshMetadata nodeId fuel available ⟨0, 0⟩

/-- The second refresh: the node has no connected connection, the refresh finds one, the
recursive call sends, the send fails with a `DisconnectedError`, and the `catch` refreshes and
sends again. The second `DisconnectedError` is only then rethrown. -/
theorem sendRequest_bounded_retries :
    (∀ awaits autoRefreshMetadata nodeId available, ∃ outcome : Except Failure Bytes × Calls,
      (∀ fuel, 2 ≤ fuel →
        sendRequest awaits autoRefreshMetadata nodeId fuel available ⟨0, 0⟩ = some outcome) ∧
      outcome.2.refreshes ≤ 2 ∧ outcome.2.sends ≤ 2 ∧
      (available = true → outcome.2.refreshes ≤ 1) ∧
      (autoRefreshMetadata = false → outcome.2.refreshes = 0 ∧ outcome.2.sends ≤ 1)) ∧
    sendRequest ⟨fun _ => some true, fun _ => .disconnected⟩ true 1 2 false ⟨0, 0⟩ =
      some (.error .disconnected, ⟨2, 2⟩) :=
  ⟨sendRequest_settles, rfl⟩

end KafkaClient.NetworkClient
