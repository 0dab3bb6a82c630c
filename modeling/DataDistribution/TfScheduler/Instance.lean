import DataDistribution.TfScheduler.PartitionState
import DataDistribution.TfScheduler.ConnManager

/-!
# The scheduler instance: partition state, clients and connection requests together

`TfSchedulerInstanceRpc.cxx:40–154, 175–300` with `TfSchedulerConnManager.cxx:29–80, 307–376,
498–521` (under `src/src/TfScheduler/`).  The partition machine runs beside the connection
manager's clients; the TfBuilder handlers check `accepting_updates()` before they take the lock.
RPC answers, ready StfSenders and the clients `start()` opens are inputs; databases are left out.
-/

namespace DataDistribution.TfScheduler

open PartitionState StfSenderState StfSenderRpc

namespace ConnState

/-! ### Teardown, removal and the StfSender check -/

/-- The shape of `requestTfBuildersTerminate` and `requestStfSendersTerminate`
(`TfSchedulerConnManager.cxx:307–345`): `TerminatePartition` to each of `clients`, `ok` telling
whether the call succeeds; `deleteTfBuilderRpcClient` of each that failed; and the answer
whether no TfBuilder client is left. -/
def requestTerminate (clients : List String) (ok : String → Bool) (s : ConnState) :
    Bool × ConnState :=
  let s := (clients.filter fun id => !ok id).foldl deleteTfBuilderRpcClient s
  (s.mTfBuilderRpcClients.isEmpty, s)

/-- `requestTfBuildersTerminate` (lines 308–325). -/
def requestTfBuildersTerminate (ok : String → Bool) (s : ConnState) : Bool × ConnState :=
  requestTerminate s.mTfBuilderRpcClients ok s

/-- `requestStfSendersTerminate` (lines 327–345): its loop runs over the StfSender clients,
but it deletes through `deleteTfBuilderRpcClient` and answers for the TfBuilder clients, as
`requestTfBuildersTerminate` does. -/
def requestStfSendersTerminate (ok : String → Bool) (s : ConnState) : Bool × ConnState :=
  requestTerminate s.mStfSenderRpcClients ok s

/-- `removeTfBuilder` (lines 347–376): drop the TfBuilder's client, and send every StfSender
client a `DisconnectTfBuilderRequest` that carries only the TfBuilder's id. -/
def removeTfBuilder (s : ConnState) (pTfBuilderId : String) : ConnState :=
  let s := s.deleteTfBuilderRpcClient pTfBuilderId
  { s with sent := s.sent ++ s.mStfSenderRpcClients.map (DisconnectTfBuilderRequest · pTfBuilderId "") }

/-- `checkStfSenders` (lines 69–80): how many of the partition's StfSenders have a working
client, `ready` telling which. -/
def checkStfSenders (s : ConnState) (ready : String → Bool) : Nat :=
  (s.mStfSenderIdList.filter ready).length

/-- The StfSender state that one iteration of `StfSenderMonitoringThread` sets (lines 503–516). -/
def stfSenderMonitorState (s : ConnState) (ready : String → Bool) : StfSenderState :=
  if s.checkStfSenders ready < s.mStfSenderIdList.length then STF_SENDER_STATE_INCOMPLETE
  else STF_SENDER_STATE_OK

/-- `mStfSenderRpcClients.stop()` in the connection manager's `stop()` (lines 50–66), which
deletes the StfSender clients. -/
def stopClients (s : ConnState) : ConnState := { s with mStfSenderRpcClients := [] }

/-- The clients after a call: the same StfSender clients, and TfBuilder clients that were
there before or are among `ids`. -/
def ClientsFrom (s s' : ConnState) (ids : List String) : Prop :=
  s'.mStfSenderRpcClients = s.mStfSenderRpcClients ∧
    ∀ x ∈ s'.mTfBuilderRpcClients, x ∈ s.mTfBuilderRpcClients ∨ x ∈ ids

/-- A call that changes no client keeps the clients as they were. -/
theorem ClientsFrom.refl (s : ConnState) (ids : List String) : ClientsFrom s s ids :=
  ⟨rfl, fun _ hx => .inl hx⟩

/-- Calls one after another keep the clients so. -/
theorem ClientsFrom.trans {s₁ s₂ s₃ : ConnState} {ids : List String} (h₁ : ClientsFrom s₁ s₂ ids)
    (h₂ : ClientsFrom s₂ s₃ ids) : ClientsFrom s₁ s₃ ids :=
  ⟨h₂.1.trans h₁.1, fun x hx => (h₂.2 x hx).elim (h₁.2 x) .inr⟩

/-- Deleting one TfBuilder client, with the StfSender clients kept, keeps the clients so. -/
theorem ClientsFrom.of_delete {s s' : ConnState} {ids : List String} (id : String)
    (h : s'.mStfSenderRpcClients = s.mStfSenderRpcClients)
    (hc : s'.mTfBuilderRpcClients = s.mTfBuilderRpcClients.filter (· != id)) :
    ClientsFrom s s' ids :=
  ⟨h, fun _ hx => .inl (by rw [hc] at hx; exact (List.mem_filter.1 hx).1)⟩

/-- `removeTfBuilder` adds no client and keeps the StfSender clients. -/
theorem removeTfBuilder_clientsFrom (s : ConnState) (id : String) (ids : List String) :
    ClientsFrom s (s.removeTfBuilder id) ids :=
  .of_delete id rfl rfl

private theorem newTfBuilderRpcClient_eq {rp : RpcReplies} {s s₁ : ConnState} {id : String}
    (h : s.newTfBuilderRpcClient rp id = some s₁) :
    s₁ = { s with mTfBuilderRpcClients := s.mTfBuilderRpcClients.insert id } := by
  unfold newTfBuilderRpcClient at h
  split at h
  · exact (Option.some.inj h).symm
  · cases h

private theorem clientsFrom_insert (s : ConnState) (id : String) (sent : List StfSenderRpc) :
    ClientsFrom s { s with mTfBuilderRpcClients := s.mTfBuilderRpcClients.insert id, sent := sent }
      [id] :=
  ⟨rfl, fun x hx => by simpa [List.mem_insert_iff, or_comm] using hx⟩

private theorem clientsFrom_disconnect_insert (rp : RpcReplies) (s : ConnState) (p : TfBuilderConfigStatus)
    (sent : List StfSenderRpc) (ucx : Bool) :
    ClientsFrom s
      (if ucx then
        ({ s with mTfBuilderRpcClients := s.mTfBuilderRpcClients.insert p.processId, sent := sent }
          |>.disconnectTfBuilderUCX rp p).2
      else
        ({ s with mTfBuilderRpcClients := s.mTfBuilderRpcClients.insert p.processId, sent := sent }
          |>.disconnectTfBuilder rp p).2) [p.processId] := by
  refine ⟨by split <;> simp [disconnectTfBuilder_snd, disconnectTfBuilderUCX_snd,
    deleteTfBuilderRpcClient], fun x hx => ?_⟩
  have hx' : x ∈ s.mTfBuilderRpcClients.insert p.processId := by
    split at hx <;>
      simp only [disconnectTfBuilder_snd, disconnectTfBuilderUCX_snd, deleteTfBuilderRpcClient,
        List.mem_filter] at hx <;> exact hx.1
  simpa [List.mem_insert_iff, or_comm] using hx'

/-- A FairMQ connect call keeps the StfSender clients and adds no TfBuilder client but the
requester. -/
theorem connectTfBuilder_clientsFrom {rp : RpcReplies} {s s' : ConnState}
    {p : TfBuilderConfigStatus} {resp : TfBuilderConnectionResponse}
    (h : s.connectTfBuilder rp p = some (resp, s')) : ClientsFrom s s' [p.processId] := by
  rcases connectTfBuilder_cases rp h with ⟨-, rfl⟩ | ⟨s₁, r, hs₁, -, -, rfl⟩
  · exact .refl _ _
  · rw [newTfBuilderRpcClient_eq hs₁]
    split
    · exact clientsFrom_insert s _ _
    · exact clientsFrom_disconnect_insert rp s p _ false

/-- A UCX connect call keeps the StfSender clients and adds no TfBuilder client but the
requester. -/
theorem connectTfBuilderUCX_clientsFrom (rp : RpcReplies) (s : ConnState)
    (p : TfBuilderConfigStatus) : ClientsFrom s (s.connectTfBuilderUCX rp p).2 [p.processId] := by
  unfold connectTfBuilderUCX
  split_ifs
  · exact .refl s _
  · exact .refl s _
  cases hs₁ : s.newTfBuilderRpcClient rp p.processId with
  | none => simp only [hs₁]; exact .refl s _
  | some s₁ =>
    simp only [hs₁, newTfBuilderRpcClient_eq hs₁]
    split
    · exact clientsFrom_insert s _ _
    · exact clientsFrom_disconnect_insert rp s p _ true

/-- A disconnect call keeps the StfSender clients and drops the requester's client. -/
theorem disconnect_clientsFrom (rp : RpcReplies) (s : ConnState) (p : TfBuilderConfigStatus)
    (ucx : Bool) (ids : List String) :
    ClientsFrom s (if ucx then (s.disconnectTfBuilderUCX rp p).2 else (s.disconnectTfBuilder rp p).2)
      ids := by
  split <;>
    exact .of_delete p.processId (by simp [disconnectTfBuilder_snd, disconnectTfBuilderUCX_snd,
      deleteTfBuilderRpcClient]) (by simp [disconnectTfBuilder_snd, disconnectTfBuilderUCX_snd,
      deleteTfBuilderRpcClient])

end ConnState

namespace SchedulerState

end SchedulerState

/-! ### The handlers that read the partition state -/

/-- `GetPartitionState` (`TfSchedulerInstanceRpc.cxx:175–215`): the state and the message it
answers, `cnt` and `total` being the StfSenders connected and in the partition. -/
def getPartitionState (st : PartitionState) (ss : StfSenderState) (cnt total : Nat) :
    PartitionState × String :=
  if !acceptingUpdates st then (st, "")
  else match ss with
    | STF_SENDER_STATE_OK => (PARTITION_CONFIGURED, "Partition is fully configured.")
    | STF_SENDER_STATE_INITIALIZING => (PARTITION_CONFIGURING,
      "Partition is being configured. Connected to " ++ toString cnt ++ " out of " ++
        toString total ++ " StfSenders.")
    | STF_SENDER_STATE_INCOMPLETE => (PARTITION_ERROR, "Not all StfSenders are reachable.")

/-- `NumStfSendersInPartitionRequest` (lines 238–251): the number of StfSenders of the
partition, or `CANCELLED` (`none`) once it does not accept updates. -/
def numStfSendersInPartitionRequest (st : PartitionState) (s : ConnState) : Option Nat :=
  if acceptingUpdates st then some s.mStfSenderIdList.length else none

/-! ### The instance -/

/-- A TfBuilder connection request past its handler's `accepting_updates()` check
(`TfSchedulerInstanceRpc.cxx:253–267, 280–293`), waiting to run `connectTfBuilder` or
`connectTfBuilderUCX` under the clients lock. -/
structure ConnectHandler where
  request : TfBuilderConfigStatus
  ucx : Bool

/-- The scheduler instance: the partition state machine and its threads, the connection
manager's clients, the StfSender state its monitoring thread last set, and the connection
requests past the check. -/
structure Instance where
  sched : SchedulerState
  conn : ConnState
  mStfSenderState : StfSenderState
  handlers : List ConnectHandler

/-- One step of one party of the instance, with what it observes. -/
inductive InstanceAction where
  /-- `PartitionMonitorThread` at the top of its loop, with each TfBuilder's and each
  StfSender's answer to `TerminatePartition`. -/
  | monitorCheck (tfBuilderOk stfSenderOk : String → Bool)
  /-- One pass of `start()`'s loop (`TfSchedulerInstanceRpc.cxx:58`): while the partition accepts
  updates it calls the connection manager's `start()` (`TfSchedulerConnManager.cxx:29–48`), whose
  `mStfSenderRpcClients.start()` answers `connected` and leaves the StfSender clients `clients`. -/
  | startCheck (connected : Bool) (clients : List String)
  /-- Any other step of the partition state machine. -/
  | sched (a : SchedulerAction)
  /-- One iteration of `StfSenderMonitoringThread`, with the StfSenders that answer. -/
  | stfSenderMonitor (ready : String → Bool)
  /-- A connection request's handler reaches its `accepting_updates()` check. -/
  | connectRequest (p : TfBuilderConfigStatus) (ucx : Bool)
  /-- The `i`-th request past the check connects, with the replies it gets. -/
  | connect (i : Nat) (rp : RpcReplies)
  /-- `TfBuilderDisconnectionRequest` or the UCX one, which check nothing. -/
  | disconnectRequest (p : TfBuilderConfigStatus) (ucx : Bool) (rp : RpcReplies)
  /-- `removeTfBuilder`. -/
  | removeTfBuilder (id : String)
  /-- The connection manager's `stop()`, which deletes the StfSender clients. -/
  | connManagerStop

/-- The steps the instance makes together with the connection manager: the monitor's check with
its teardown requests, and the start loop's check with the manager's `start()`. -/
def SchedulerAction.isConnManagerStep : SchedulerAction → Bool
  | .monitorCheck _ _ | .startCheck _ => true
  | _ => false

namespace Instance

/-- The monitor's check finds the instance running and the partition in teardown
(`TfSchedulerInstanceRpc.cxx:112–117`). -/
def inTeardown (x : Instance) : Bool :=
  x.sched.mRunning && (x.sched.mPartitionState == PARTITION_TERMINATING ||
    x.sched.mPartitionState == PARTITION_ERROR)

/-- The requests of a teardown check (lines 118–131): `requestTfBuildersTerminate`, then
`requestStfSendersTerminate`, whose answer ends the teardown; outside teardown, none. -/
def teardown (x : Instance) (tfBuilderOk stfSenderOk : String → Bool) : Bool × ConnState :=
  if x.inTeardown then
    (x.conn.requestTfBuildersTerminate tfBuilderOk).2.requestStfSendersTerminate stfSenderOk
  else (false, x.conn)

/-- The clients after a pass of the start loop: the connection manager's `start()` runs only
while the partition accepts updates, and leaves the StfSender clients `clients`. -/
def startClients (x : Instance) (clients : List String) : ConnState :=
  if acceptingUpdates x.sched.mPartitionState then { x.conn with mStfSenderRpcClients := clients }
  else x.conn

/-- One step; `none` where the party is not at that point, or where `connectTfBuilder` reads
a socket the request does not have. -/
def step (x : Instance) : InstanceAction → Option Instance
  | .monitorCheck tfBuilderOk stfSenderOk =>
    if x.sched.monitor = .top then
      let r := x.teardown tfBuilderOk stfSenderOk
      some { x with sched := x.sched.monitorCheck x.mStfSenderState r.1, conn := r.2 }
    else none
  | .startCheck connected clients =>
    (x.sched.step (.startCheck connected)).map fun s =>
      { x with sched := s, conn := x.startClients clients }
  | .sched a =>
    if a.isConnManagerStep then none else (x.sched.step a).map fun s => { x with sched := s }
  | .stfSenderMonitor ready => some { x with mStfSenderState := x.conn.stfSenderMonitorState ready }
  | .connectRequest p ucx =>
    some (if acceptingUpdates x.sched.mPartitionState then
      { x with handlers := x.handlers ++ [⟨p, ucx⟩] } else x)
  | .connect i rp =>
    match x.handlers[i]? with
    | none => none
    | some h =>
      if h.ucx then
        some { x with handlers := x.handlers.eraseIdx i,
                      conn := (x.conn.connectTfBuilderUCX rp h.request).2 }
      else (x.conn.connectTfBuilder rp h.request).map fun r =>
        { x with handlers := x.handlers.eraseIdx i, conn := r.2 }
  | .disconnectRequest p ucx rp =>
    some { x with conn :=
      if ucx then (x.conn.disconnectTfBuilderUCX rp p).2 else (x.conn.disconnectTfBuilder rp p).2 }
  | .removeTfBuilder id => some { x with conn := x.conn.removeTfBuilder id }
  | .connManagerStop => some { x with conn := x.conn.stopClients }

/-- A run: the steps of an interleaving, in order. -/
def run (x : Instance) : List InstanceAction → Option Instance
  | [] => some x
  | a :: as => (x.step a).bind (run · as)

/-- The step of the partition state machine that an instance step makes, if any. -/
def schedAction (x : Instance) : InstanceAction → Option SchedulerAction
  | .monitorCheck tfBuilderOk stfSenderOk =>
    some (.monitorCheck x.mStfSenderState (x.teardown tfBuilderOk stfSenderOk).1)
  | .startCheck connected _ => some (.startCheck connected)
  | .sched a => some a
  | _ => none

/-- Everything an instance step can do: the monitor's check with its teardown requests; another
step of the partition state machine (the start loop's check among them, which may replace the
StfSender clients), keeping the TfBuilder clients; or, leaving the partition state machine alone,
admit a connection request while the partition accepts updates, let the `i`-th request connect,
or act on the clients alone, adding no TfBuilder client. -/
theorem step_cases {x y : Instance} {a : InstanceAction} (h : x.step a = some y) :
    (∃ tfBuilderOk stfSenderOk, a = .monitorCheck tfBuilderOk stfSenderOk ∧
      x.sched.monitor = .top ∧ y.handlers = x.handlers ∧
      y.sched = x.sched.monitorCheck x.mStfSenderState (x.teardown tfBuilderOk stfSenderOk).1 ∧
      y.conn = (x.teardown tfBuilderOk stfSenderOk).2) ∨
    (∃ b, x.schedAction a = some b ∧ x.sched.step b = some y.sched ∧ y.handlers = x.handlers ∧
      y.conn.mTfBuilderRpcClients = x.conn.mTfBuilderRpcClients) ∨
    (x.schedAction a = none ∧ y.sched = x.sched ∧
      ((∃ hd, acceptingUpdates x.sched.mPartitionState = true ∧ y.conn = x.conn ∧
          y.handlers = x.handlers ++ [hd]) ∨
        (∃ i rp hd, a = .connect i rp ∧ x.handlers[i]? = some hd ∧
          y.handlers = x.handlers.eraseIdx i ∧ x.conn.ClientsFrom y.conn [hd.request.processId]) ∨
        (y.handlers = x.handlers ∧
          ∀ id ∈ y.conn.mTfBuilderRpcClients, id ∈ x.conn.mTfBuilderRpcClients))) := by
  have conn : ∀ {c : ConnState}, x.conn.ClientsFrom c [] →
      ∀ id ∈ c.mTfBuilderRpcClients, id ∈ x.conn.mTfBuilderRpcClients :=
    fun hc id hid => (hc.2 id hid).resolve_right (List.not_mem_nil id)
  cases a with
  | monitorCheck tfBuilderOk stfSenderOk =>
    simp only [step] at h; split at h
    · cases h; exact .inl ⟨_, _, rfl, ‹_›, rfl, rfl, rfl⟩
    · cases h
  | startCheck connected clients =>
    obtain ⟨s, hs, rfl⟩ := Option.map_eq_some'.1 h
    exact .inr (.inl ⟨_, rfl, hs, rfl, by unfold startClients; split <;> rfl⟩)
  | sched b =>
    simp only [step] at h; split at h
    · cases h
    · obtain ⟨s, hs, rfl⟩ := Option.map_eq_some'.1 h
      exact .inr (.inl ⟨b, rfl, hs, rfl, rfl⟩)
  | stfSenderMonitor _ => cases h; exact .inr (.inr ⟨rfl, rfl, .inr (.inr ⟨rfl, conn (.refl _ [])⟩)⟩)
  | connectRequest p ucx =>
    cases h
    refine .inr (.inr ⟨rfl, by split <;> rfl, ?_⟩)
    split
    · next ha => exact .inl ⟨_, ha, rfl, rfl⟩
    · exact .inr (.inr ⟨rfl, conn (.refl _ [])⟩)
  | connect i rp =>
    simp only [step] at h
    split at h
    · cases h
    · next hd hi =>
      refine .inr (.inr ⟨rfl, ?_, .inr (.inl ⟨i, rp, hd, rfl, hi, ?_⟩)⟩) <;> split at h
      · cases h; rfl
      · obtain ⟨r, -, rfl⟩ := Option.map_eq_some'.1 h; rfl
      · cases h; exact ⟨rfl, ConnState.connectTfBuilderUCX_clientsFrom rp _ _⟩
      · obtain ⟨r, hr, rfl⟩ := Option.map_eq_some'.1 h
        exact ⟨rfl, @ConnState.connectTfBuilder_clientsFrom _ _ _ _ r.1 hr⟩
  | disconnectRequest p ucx rp =>
    cases h
    exact .inr (.inr ⟨rfl, rfl, .inr (.inr ⟨rfl, conn (ConnState.disconnect_clientsFrom rp _ p ucx [])⟩)⟩)
  | removeTfBuilder id =>
    cases h
    exact .inr (.inr ⟨rfl, rfl, .inr (.inr ⟨rfl, conn (ConnState.removeTfBuilder_clientsFrom _ id [])⟩)⟩)
  | connManagerStop => cases h; exact .inr (.inr ⟨rfl, rfl, .inr (.inr ⟨rfl, fun _ hid => hid⟩)⟩)

end Instance

end DataDistribution.TfScheduler
