import Mathlib.Data.List.Perm.Subperm

/-!
# TfScheduler connection manager: connecting a TfBuilder to the StfSenders

`src/src/TfScheduler/TfSchedulerConnManager.cxx:82–305`.  The replies of the StfSenders, whether
they are ready and whether the TfBuilder's client opens are inputs; the RPCs sent are recorded
in order.  The rollback takes `mStfSenderClientsLock` again; its type is not under `src/`, and
the model takes it to be re-entrant.  Logging is left out.
-/

namespace DataDistribution.TfScheduler

/-- `TfBuilderConnectionStatus`, with the values the sources name; `OK` is the status `0`. -/
inductive TfBuilderConnectionStatus where
  | OK
  | ERROR_TRANSPORT_NOT_ENABLED
  | ERROR_SOCKET_COUNT
  | ERROR_STF_SENDERS_NOT_READY
  | ERROR_GRPC_TF_BUILDER
  | ERROR_GRPC_STF_SENDER
  | ERROR_STF_SENDER_CONNECTING
  | ERROR_PARTITION_TERMINATING
  deriving DecidableEq, Repr

open TfBuilderConnectionStatus

/-- A FairMQ socket of the TfBuilder, as its config status reports it. -/
structure SocketInfo where
  endpoint : String
  peerId : String
  deriving DecidableEq, Repr

/-- `sockets().map()`: a protobuf map from socket index to socket, so its keys are distinct. -/
structure SocketMap where
  entries : List (Nat × SocketInfo)
  nodup : (entries.map (·.1)).Nodup

/-- `map().at(idx)`; `none` where the map has no socket at `idx`, a key protobuf's `Map::at`
does not accept (it stops the process). -/
def SocketMap.at (m : SocketMap) (idx : Nat) : Option SocketInfo := m.entries.lookup idx

/-- The parts of `TfBuilderConfigStatus` the connection calls read. -/
structure TfBuilderConfigStatus where
  processId : String
  socketsEnabled : Bool
  sockets : SocketMap
  ucxEnabled : Bool

/-- An RPC the scheduler sends to a StfSender about a TfBuilder. -/
inductive StfSenderRpc where
  | ConnectTfBuilderRequest (stfSenderId tfBuilderId endpoint : String)
  | DisconnectTfBuilderRequest (stfSenderId tfBuilderId endpoint : String)
  | ConnectTfBuilderUCXRequest (stfSenderId tfBuilderId : String)
  | DisconnectTfBuilderUCXRequest (stfSenderId tfBuilderId : String)
  deriving DecidableEq, Repr

open StfSenderRpc

/-- What the other parties answer: the StfSenders' replies by StfSender id (`none` for a gRPC
error; a UCX connect reply carries the StfSender's endpoint), whether the StfSenders are ready,
and whether the TfBuilder's gRPC client opens. -/
structure RpcReplies where
  stfSendersReady : Bool
  newTfBuilderRpcClient : Bool
  connectReply : String → Option TfBuilderConnectionStatus
  connectUCXReply : String → Option (TfBuilderConnectionStatus × String)
  disconnectReply : String → Option Nat
  disconnectUCXReply : String → Option Nat

/-- The connection manager's clients, the partition's StfSenders and the RPCs sent so far. -/
structure ConnState where
  mStfSenderIdList : List String
  mStfSenderRpcClients : List String
  mTfBuilderRpcClients : List String
  sent : List StfSenderRpc
  deriving DecidableEq, Repr

/-- `TfBuilderConnectionResponse`: the status and `connection_map` (socket index ↦ StfSender). -/
structure TfBuilderConnectionResponse where
  status : TfBuilderConnectionStatus
  connectionMap : List (Nat × String)
  deriving DecidableEq, Repr

/-- `TfBuilderUCXConnectionResponse`: the status and `connection_map` (StfSender ↦ endpoint). -/
structure TfBuilderUCXConnectionResponse where
  status : TfBuilderConnectionStatus
  connectionMap : List (String × String)
  deriving DecidableEq, Repr

namespace ConnState

variable (rp : RpcReplies)

/-- `newTfBuilderRpcClient`: adds the client unless it exists, when the connection opens. -/
def newTfBuilderRpcClient (s : ConnState) (id : String) : Option ConnState :=
  if rp.newTfBuilderRpcClient then some { s with mTfBuilderRpcClients := s.mTfBuilderRpcClients.insert id }
  else none

/-- `deleteTfBuilderRpcClient`. -/
def deleteTfBuilderRpcClient (s : ConnState) (id : String) : ConnState :=
  { s with mTfBuilderRpcClients := s.mTfBuilderRpcClients.filter (· != id) }

/-! ### FairMQ -/

/-- One pass of `disconnectTfBuilder`'s socket loop (`TfSchedulerConnManager.cxx:170–203`). -/
def disconnectSocket (tfBuilderId : String) (acc : TfBuilderConnectionStatus × ConnState)
    (sock : Nat × SocketInfo) : TfBuilderConnectionStatus × ConnState :=
  let (status, s) := acc
  let lStfSenderId := sock.2.peerId
  if lStfSenderId = "" ∨ lStfSenderId ∉ s.mStfSenderRpcClients then (status, s)
  else
    let s := { s with sent := s.sent ++ [DisconnectTfBuilderRequest lStfSenderId tfBuilderId sock.2.endpoint] }
    match rp.disconnectReply lStfSenderId with
    | none => (ERROR_GRPC_STF_SENDER, s)
    | some 0 => (status, s)
    | some _ => (ERROR_STF_SENDER_CONNECTING, s)

/-- `disconnectTfBuilder` (`TfSchedulerConnManager.cxx:158–205`): the response status and the
state after. -/
def disconnectTfBuilder (s : ConnState) (p : TfBuilderConfigStatus) :
    TfBuilderConnectionStatus × ConnState :=
  p.sockets.entries.foldl (disconnectSocket rp p.processId)
    (OK, s.deleteTfBuilderRpcClient p.processId)

/-- What the connect loop leaves: the status, the connections saved for the response, the RPCs
sent, and `lConnectionsOk`. -/
structure ConnectLoop (κ : Type) where
  status : TfBuilderConnectionStatus
  connectionMap : List (κ × String)
  sent : List StfSenderRpc
  lConnectionsOk : Bool

/-- The loop of `connectTfBuilder` over the StfSender clients from endpoint index
`lEndpointIdx` (`TfSchedulerConnManager.cxx:119–146`); `none` where `map().at` finds no socket. -/
def connectLoop (p : TfBuilderConfigStatus) :
    List String → Nat → Option (ConnectLoop Nat)
  | [], _ => some ⟨OK, [], [], true⟩
  | lStfSenderId :: rest, lEndpointIdx => do
    let sock ← p.sockets.at lEndpointIdx
    let rpc := ConnectTfBuilderRequest lStfSenderId p.processId sock.endpoint
    match rp.connectReply lStfSenderId with
    | none => some ⟨ERROR_GRPC_STF_SENDER, [], [rpc], false⟩
    | some st =>
      if st ≠ OK then some ⟨st, [], [rpc], false⟩
      else (connectLoop p rest (lEndpointIdx + 1)).map fun r =>
        { r with connectionMap := (lEndpointIdx, lStfSenderId) :: r.connectionMap,
                 sent := rpc :: r.sent }

/-- `connectTfBuilder` (`TfSchedulerConnManager.cxx:82–156`): the response and the state
after; `none` where `map().at` finds no socket. -/
def connectTfBuilder (s : ConnState) (p : TfBuilderConfigStatus) :
    Option (TfBuilderConnectionResponse × ConnState) :=
  if !p.socketsEnabled then some (⟨ERROR_TRANSPORT_NOT_ENABLED, []⟩, s)
  else if p.sockets.entries.length ≠ s.mStfSenderIdList.length then some (⟨ERROR_SOCKET_COUNT, []⟩, s)
  else if !rp.stfSendersReady then some (⟨ERROR_STF_SENDERS_NOT_READY, []⟩, s)
  else match s.newTfBuilderRpcClient rp p.processId with
    | none => some (⟨ERROR_GRPC_TF_BUILDER, []⟩, s)
    | some s =>
      (connectLoop rp p s.mStfSenderRpcClients 0).map fun r =>
        let s := { s with sent := s.sent ++ r.sent }
        (⟨r.status, r.connectionMap⟩,
          if r.lConnectionsOk then s else (s.disconnectTfBuilder rp p).2)

/-! ### UCX -/

/-- One pass of `disconnectTfBuilderUCX`'s loop (`TfSchedulerConnManager.cxx:290–303`). -/
def disconnectPeerUCX (tfBuilderId : String) (acc : TfBuilderConnectionStatus × ConnState)
    (lStfSenderId : String) : TfBuilderConnectionStatus × ConnState :=
  let s := { acc.2 with sent := acc.2.sent ++ [DisconnectTfBuilderUCXRequest lStfSenderId tfBuilderId] }
  match rp.disconnectUCXReply lStfSenderId with
  | none => (ERROR_GRPC_STF_SENDER, s)
  | some 0 => (acc.1, s)
  | some _ => (ERROR_STF_SENDER_CONNECTING, s)

/-- `disconnectTfBuilderUCX` (`TfSchedulerConnManager.cxx:275–305`): the response status and the
state after. -/
def disconnectTfBuilderUCX (s : ConnState) (p : TfBuilderConfigStatus) :
    TfBuilderConnectionStatus × ConnState :=
  let s := s.deleteTfBuilderRpcClient p.processId
  s.mStfSenderRpcClients.foldl (disconnectPeerUCX rp p.processId) (OK, s)

/-- The loop of `connectTfBuilderUCX` (`TfSchedulerConnManager.cxx:245–263`). -/
def connectLoopUCX (p : TfBuilderConfigStatus) : List String → ConnectLoop String
  | [] => ⟨OK, [], [], true⟩
  | lStfSenderId :: rest =>
    let rpc := ConnectTfBuilderUCXRequest lStfSenderId p.processId
    match rp.connectUCXReply lStfSenderId with
    | none => ⟨ERROR_GRPC_STF_SENDER, [], [rpc], false⟩
    | some (st, ep) =>
      if st ≠ OK then ⟨st, [], [rpc], false⟩
      else
        let r := connectLoopUCX p rest
        { r with connectionMap := (lStfSenderId, ep) :: r.connectionMap, sent := rpc :: r.sent }

/-- `connectTfBuilderUCX` (`TfSchedulerConnManager.cxx:207–273`): the response and the state
after. -/
def connectTfBuilderUCX (s : ConnState) (p : TfBuilderConfigStatus) :
    TfBuilderUCXConnectionResponse × ConnState :=
  if !p.ucxEnabled then (⟨ERROR_TRANSPORT_NOT_ENABLED, []⟩, s)
  else if !rp.stfSendersReady then (⟨ERROR_STF_SENDERS_NOT_READY, []⟩, s)
  else match s.newTfBuilderRpcClient rp p.processId with
    | none => (⟨ERROR_GRPC_TF_BUILDER, []⟩, s)
    | some s =>
      let r := connectLoopUCX rp p s.mStfSenderRpcClients
      let s := { s with sent := s.sent ++ r.sent }
      (⟨r.status, r.connectionMap⟩, if r.lConnectionsOk then s else (s.disconnectTfBuilderUCX rp p).2)

/-! ### What the calls send -/

/-- Opening the TfBuilder's client sends nothing and keeps the StfSender clients. -/
theorem sent_newTfBuilderRpcClient {s s' : ConnState} {id : String}
    (h : s.newTfBuilderRpcClient rp id = some s') :
    s'.sent = s.sent ∧ s'.mStfSenderRpcClients = s.mStfSenderRpcClients := by
  unfold newTfBuilderRpcClient at h
  split at h
  · obtain rfl := Option.some.inj h; exact ⟨rfl, rfl⟩
  · simp at h

private theorem disconnectSocket_snd (id : String) (acc : TfBuilderConnectionStatus × ConnState)
    (e : Nat × SocketInfo) :
    (disconnectSocket rp id acc e).2 =
      { acc.2 with sent := acc.2.sent ++
        if e.2.peerId ≠ "" ∧ e.2.peerId ∈ acc.2.mStfSenderRpcClients
        then [DisconnectTfBuilderRequest e.2.peerId id e.2.endpoint] else [] } := by
  obtain ⟨st, s⟩ := acc
  unfold disconnectSocket
  by_cases h : e.2.peerId ≠ "" ∧ e.2.peerId ∈ s.mStfSenderRpcClients
  · have h' : ¬(e.2.peerId = "" ∨ e.2.peerId ∉ s.mStfSenderRpcClients) := by tauto
    simp only [if_pos h, if_neg h']
    split <;> rfl
  · have h' : e.2.peerId = "" ∨ e.2.peerId ∉ s.mStfSenderRpcClients := by tauto
    simp only [if_pos h', if_neg h, List.append_nil]

private theorem foldl_disconnectSocket (id : String) (l : List (Nat × SocketInfo))
    (acc : TfBuilderConnectionStatus × ConnState) :
    (l.foldl (disconnectSocket rp id) acc).2 =
      { acc.2 with sent := (acc.2.sent ++
        (l.filter fun e => decide (e.2.peerId ≠ "" ∧ e.2.peerId ∈ acc.2.mStfSenderRpcClients)).map
          fun e => DisconnectTfBuilderRequest e.2.peerId id e.2.endpoint) } := by
  induction l generalizing acc with
  | nil => simp
  | cons e l ih =>
    rw [List.foldl_cons, ih, disconnectSocket_snd]
    by_cases h : e.2.peerId ≠ "" ∧ e.2.peerId ∈ acc.2.mStfSenderRpcClients
    · rw [List.filter_cons_of_pos (by simpa using h), if_pos h]; simp
    · rw [List.filter_cons_of_neg (by simpa using h), if_neg h]; simp

/-- `disconnectTfBuilder` drops the TfBuilder's client and sends `DisconnectTfBuilderRequest`
to exactly the sockets whose `peer_id` names a StfSender client, in socket order. -/
theorem disconnectTfBuilder_snd (s : ConnState) (p : TfBuilderConfigStatus) :
    (s.disconnectTfBuilder rp p).2 =
      { s.deleteTfBuilderRpcClient p.processId with
        sent := (s.sent ++
          (p.sockets.entries.filter fun e =>
            decide (e.2.peerId ≠ "" ∧ e.2.peerId ∈ s.mStfSenderRpcClients)).map
              fun e => DisconnectTfBuilderRequest e.2.peerId p.processId e.2.endpoint) } :=
  foldl_disconnectSocket rp _ _ _

private theorem disconnectPeerUCX_snd (id : String) (acc : TfBuilderConnectionStatus × ConnState)
    (lStfSenderId : String) :
    (disconnectPeerUCX rp id acc lStfSenderId).2 =
      { acc.2 with sent := acc.2.sent ++ [DisconnectTfBuilderUCXRequest lStfSenderId id] } := by
  unfold disconnectPeerUCX; split <;> rfl

/-- `disconnectTfBuilderUCX` drops the TfBuilder's client and sends
`DisconnectTfBuilderUCXRequest` to every StfSender client, in client order. -/
theorem disconnectTfBuilderUCX_snd (s : ConnState) (p : TfBuilderConfigStatus) :
    (s.disconnectTfBuilderUCX rp p).2 =
      { s.deleteTfBuilderRpcClient p.processId with
        sent := s.sent ++ s.mStfSenderRpcClients.map (DisconnectTfBuilderUCXRequest · p.processId) } := by
  suffices ∀ (l : List String) (acc : TfBuilderConnectionStatus × ConnState),
      (l.foldl (disconnectPeerUCX rp p.processId) acc).2 =
        { acc.2 with sent := acc.2.sent ++ l.map (DisconnectTfBuilderUCXRequest · p.processId) } from
    this _ _
  intro l
  induction l with
  | nil => simp
  | cons x l ih => intro acc; rw [List.foldl_cons, ih, disconnectPeerUCX_snd]; simp

/-- The FairMQ connect loop stops with `lConnectionsOk` false exactly when its status is not
`OK`, and sends connect requests only. -/
theorem connectLoop_spec {p : TfBuilderConfigStatus} {l : List String} {i : Nat}
    {r : ConnectLoop Nat} (h : connectLoop rp p l i = some r) :
    (r.lConnectionsOk = true ↔ r.status = OK) ∧
      ∀ rpc ∈ r.sent, ∃ sid ep, rpc = ConnectTfBuilderRequest sid p.processId ep := by
  induction l generalizing i r with
  | nil => obtain rfl := Option.some.inj h; simp
  | cons x l ih =>
    simp only [connectLoop, Option.bind_eq_bind] at h
    obtain ⟨sock, -, h⟩ := Option.bind_eq_some.mp h
    split at h
    · obtain rfl := Option.some.inj h; simp
    · split_ifs at h with hst
      · obtain rfl := Option.some.inj h; simp [hst]
      · obtain ⟨r', hr', rfl⟩ := Option.map_eq_some'.mp h
        obtain ⟨hok, hsent⟩ := ih hr'
        refine ⟨hok, fun rpc hrpc => ?_⟩
        rcases List.mem_cons.mp hrpc with rfl | hrpc
        · exact ⟨_, _, rfl⟩
        · exact hsent rpc hrpc

/-- Every way the FairMQ connect call answers: with an error before any RPC and the state left
as it was; or with the loop's answer once the TfBuilder's client is open, rolled back through
`disconnectTfBuilder` when the loop did not connect every StfSender. -/
theorem connectTfBuilder_cases {s s' : ConnState} {p : TfBuilderConfigStatus}
    {resp : TfBuilderConnectionResponse} (h : s.connectTfBuilder rp p = some (resp, s')) :
    (resp.status ≠ OK ∧ s' = s) ∨
    ∃ s₁ r, s.newTfBuilderRpcClient rp p.processId = some s₁ ∧
      connectLoop rp p s.mStfSenderRpcClients 0 = some r ∧ resp = ⟨r.status, r.connectionMap⟩ ∧
      s' = if r.lConnectionsOk then { s₁ with sent := s₁.sent ++ r.sent }
        else ({ s₁ with sent := s₁.sent ++ r.sent }.disconnectTfBuilder rp p).2 := by
  unfold connectTfBuilder at h
  split_ifs at h <;>
    try (obtain ⟨rfl, rfl⟩ := Prod.mk.inj (Option.some.inj h); exact .inl ⟨by decide, rfl⟩)
  cases hs₁ : s.newTfBuilderRpcClient rp p.processId with
  | none =>
    simp only [hs₁, Option.some.injEq, Prod.mk.injEq] at h
    obtain ⟨rfl, rfl⟩ := h
    exact .inl ⟨by decide, rfl⟩
  | some s₁ =>
    simp only [hs₁] at h
    obtain ⟨r, hr, he⟩ := Option.map_eq_some'.mp h
    obtain ⟨rfl, rfl⟩ := Prod.mk.inj he
    rw [(sent_newTfBuilderRpcClient rp hs₁).2] at hr
    exact .inr ⟨s₁, r, rfl, hr, rfl, rfl⟩

/-- A rejected FairMQ connection is rolled back through `disconnectTfBuilder`: after the
connect requests of its loop, the call sends `DisconnectTfBuilderRequest` to the sockets of the
request whose `peer_id` names a StfSender client, whichever StfSenders accepted. -/
theorem connectTfBuilder_rollback_sent {s s' : ConnState} {p : TfBuilderConfigStatus}
    {resp : TfBuilderConnectionResponse} (h : s.connectTfBuilder rp p = some (resp, s'))
    (hs : resp.status ≠ OK) :
    s'.sent = s.sent ∨ ∃ connects, (∀ rpc ∈ connects, ∃ sid ep,
        rpc = ConnectTfBuilderRequest sid p.processId ep) ∧
      s'.sent = s.sent ++ connects ++
        (p.sockets.entries.filter fun e =>
          decide (e.2.peerId ≠ "" ∧ e.2.peerId ∈ s.mStfSenderRpcClients)).map
            fun e => DisconnectTfBuilderRequest e.2.peerId p.processId e.2.endpoint := by
  rcases connectTfBuilder_cases rp h with ⟨-, rfl⟩ | ⟨s₁, r, hs₁, hr, rfl, rfl⟩
  · exact .inl rfl
  obtain ⟨hsent, hclients⟩ := sent_newTfBuilderRpcClient rp hs₁
  obtain ⟨hok, hconn⟩ := connectLoop_spec rp hr
  have hf : r.lConnectionsOk = false := Bool.eq_false_iff.2 fun hb => hs (hok.1 hb)
  simp only [hf, Bool.false_eq_true, if_false, disconnectTfBuilder_snd]
  exact .inr ⟨r.sent, hconn, by simp [deleteTfBuilderRpcClient, hsent, hclients]⟩

/-- Two StfSenders: `s0` accepts, `s1` cannot be reached over gRPC. -/
def twoSenderReplies : RpcReplies :=
  ⟨true, true, fun sid => if sid = "s0" then some OK else none,
    fun sid => if sid = "s0" then some (OK, "s0-ep") else none, fun _ => some 0, fun _ => some 0⟩

/-- A partition of the StfSenders `s0` and `s1`, both with a gRPC client. -/
def twoSenderState : ConnState := ⟨["s0", "s1"], ["s0", "s1"], [], []⟩

/-- A TfBuilder `tfb` with two FairMQ sockets that are not connected to a peer yet. -/
def freshTfBuilder : TfBuilderConfigStatus :=
  ⟨"tfb", true, ⟨[(0, ⟨"ep0", ""⟩), (1, ⟨"ep1", ""⟩)], by decide⟩, true⟩

/-- `s0` accepts the FairMQ connection and `s1` fails: the call answers
`ERROR_GRPC_STF_SENDER` with `s0` in its connection map, and the rollback sends no
`DisconnectTfBuilderRequest`, since no socket of the request names a peer. -/
theorem connectTfBuilder_rollback_misses_accepted :
    twoSenderState.connectTfBuilder twoSenderReplies freshTfBuilder =
      some (⟨ERROR_GRPC_STF_SENDER, [(0, "s0")]⟩,
        ⟨["s0", "s1"], ["s0", "s1"], [],
          [ConnectTfBuilderRequest "s0" "tfb" "ep0", ConnectTfBuilderRequest "s1" "tfb" "ep1"]⟩) := by
  decide

/-- The same call, as a case of `connectTfBuilder_rollback_sent`: the loop's two connect requests
and no disconnect. -/
theorem connectTfBuilder_rollback_sent_two_senders :
    twoSenderState.connectTfBuilder twoSenderReplies freshTfBuilder =
      some (⟨ERROR_GRPC_STF_SENDER, [(0, "s0")]⟩,
        ⟨["s0", "s1"], ["s0", "s1"], [],
          [ConnectTfBuilderRequest "s0" "tfb" "ep0", ConnectTfBuilderRequest "s1" "tfb" "ep1"]⟩) ∧
    ERROR_GRPC_STF_SENDER ≠ OK ∧
    ([ConnectTfBuilderRequest "s0" "tfb" "ep0", ConnectTfBuilderRequest "s1" "tfb" "ep1"] =
        twoSenderState.sent ∨
      ∃ connects, (∀ rpc ∈ connects, ∃ sid ep,
          rpc = ConnectTfBuilderRequest sid freshTfBuilder.processId ep) ∧
        [ConnectTfBuilderRequest "s0" "tfb" "ep0", ConnectTfBuilderRequest "s1" "tfb" "ep1"] =
          twoSenderState.sent ++ connects ++
            (freshTfBuilder.sockets.entries.filter fun e =>
              decide (e.2.peerId ≠ "" ∧ e.2.peerId ∈ twoSenderState.mStfSenderRpcClients)).map
                fun e => DisconnectTfBuilderRequest e.2.peerId freshTfBuilder.processId e.2.endpoint) :=
  have h : twoSenderState.connectTfBuilder twoSenderReplies freshTfBuilder =
      some (⟨ERROR_GRPC_STF_SENDER, [(0, "s0")]⟩,
        ⟨["s0", "s1"], ["s0", "s1"], [],
          [ConnectTfBuilderRequest "s0" "tfb" "ep0", ConnectTfBuilderRequest "s1" "tfb" "ep1"]⟩) := by
    decide
  ⟨h, by decide, connectTfBuilder_rollback_sent twoSenderReplies h (by decide)⟩

/-! ### The connection map -/

/-- `map().at(k)` finds a socket exactly at the keys of the map. -/
theorem SocketMap.at_isSome {m : SocketMap} {k : Nat} :
    (m.at k).isSome ↔ k ∈ m.entries.map (·.1) := by
  simp [SocketMap.at, @eq_comm _ k]

private theorem mem_keys_of_lt {m : SocketMap} {n : Nat} (hlen : m.entries.length = n)
    (hkeys : ∀ k ∈ m.entries.map (·.1), k < n) {j : Nat} (hj : j < n) :
    j ∈ m.entries.map (·.1) := by
  by_contra hne
  have hsub : j :: m.entries.map (·.1) ⊆ List.range n := by
    intro x hx
    rcases List.mem_cons.mp hx with rfl | hx
    · exact List.mem_range.2 hj
    · exact List.mem_range.2 (hkeys x hx)
  have := ((List.nodup_cons.2 ⟨hne, m.nodup⟩).subperm hsub).length_le
  simp only [List.length_cons, List.length_map, List.length_range, hlen] at this
  omega

/-- The request a saved connection stands for: its StfSender was sent the endpoint of the socket
at its index. -/
def SentFor (p : TfBuilderConfigStatus) (c : Nat × String) (rpc : StfSenderRpc) : Prop :=
  ∃ sock, p.sockets.at c.1 = some sock ∧ rpc = ConnectTfBuilderRequest c.2 p.processId sock.endpoint

/-- The loop from index `i` finds a socket at every index it reads when the indices
`i, …, i + |l| - 1` all have one. -/
theorem connectLoop_isSome {p : TfBuilderConfigStatus} {l : List String} {i : Nat}
    (h : ∀ j < l.length, (p.sockets.at (i + j)).isSome) : (connectLoop rp p l i).isSome := by
  induction l generalizing i with
  | nil => rfl
  | cons x l ih =>
    obtain ⟨sock, hsock⟩ := Option.isSome_iff_exists.1 (h 0 (by simp))
    simp only [connectLoop, Option.bind_eq_bind, Nat.add_zero] at hsock ⊢
    simp only [hsock, Option.some_bind]
    split
    · rfl
    · split_ifs
      · rfl
      · rw [Option.isSome_map']
        exact ih fun j hj => by
          simpa [Nat.add_assoc, Nat.add_comm 1] using h (j + 1) (by simp [hj])

/-- An `OK` loop from index `i` saves its clients at the indices `i, i+1, …` in order, and sent
each one, in the same order, the endpoint of the socket at its index. -/
theorem connectLoop_ok {p : TfBuilderConfigStatus} {l : List String} {i : Nat}
    {r : ConnectLoop Nat} (h : connectLoop rp p l i = some r) (hok : r.status = OK) :
    r.connectionMap = (List.range' i l.length).zip l ∧
      List.Forall₂ (SentFor p) r.connectionMap r.sent := by
  induction l generalizing i r with
  | nil => obtain rfl := Option.some.inj h; exact ⟨rfl, .nil⟩
  | cons x l ih =>
    simp only [connectLoop, Option.bind_eq_bind] at h
    obtain ⟨sock, hsock, h⟩ := Option.bind_eq_some.mp h
    split at h
    · obtain rfl := Option.some.inj h; cases hok
    · split_ifs at h with hst
      · obtain rfl := Option.some.inj h; exact absurd hok hst
      · obtain ⟨r', hr', rfl⟩ := Option.map_eq_some'.mp h
        obtain ⟨hmap, hfor⟩ := ih hr' hok
        exact ⟨by rw [hmap]; rfl, .cons ⟨sock, hsock, rfl⟩ hfor⟩

/-- An `OK` answer maps the socket indices `0, …, n-1` one-to-one onto the `n` StfSender clients,
in client order, and the call sent each client, once and in that order, the endpoint of the
socket at its index. -/
theorem connectTfBuilder_ok {s s' : ConnState} {p : TfBuilderConfigStatus}
    {resp : TfBuilderConnectionResponse} (h : s.connectTfBuilder rp p = some (resp, s'))
    (hok : resp.status = OK) :
    resp.connectionMap = (List.range s.mStfSenderRpcClients.length).zip s.mStfSenderRpcClients ∧
      ∃ connects, s'.sent = s.sent ++ connects ∧
        List.Forall₂ (SentFor p) resp.connectionMap connects := by
  rcases connectTfBuilder_cases rp h with ⟨hne, -⟩ | ⟨s₁, r, hs₁, hr, rfl, rfl⟩
  · exact absurd hok hne
  obtain ⟨hmap, hfor⟩ := connectLoop_ok rp hr hok
  have hc : r.lConnectionsOk = true := (connectLoop_spec rp hr).1.2 hok
  refine ⟨by rw [hmap, List.range_eq_range'], r.sent, ?_, hfor⟩
  simp [hc, (sent_newTfBuilderRpcClient rp hs₁).1]

/-- The call finds a socket at every index it reads when the socket keys are below the number
of StfSender clients and there are as many sockets as clients: the keys are then exactly
`0, …, n-1`. -/
theorem connectTfBuilder_isSome (s : ConnState) (p : TfBuilderConfigStatus)
    (hlen : p.sockets.entries.length = s.mStfSenderRpcClients.length)
    (hkeys : ∀ k ∈ p.sockets.entries.map (·.1), k < s.mStfSenderRpcClients.length) :
    (s.connectTfBuilder rp p).isSome := by
  unfold connectTfBuilder
  split_ifs
  iterate 3 rfl
  cases hs₁ : s.newTfBuilderRpcClient rp p.processId with
  | none => rfl
  | some s₁ =>
    rw [Option.isSome_map']
    refine connectLoop_isSome rp fun j hj => ?_
    rw [(sent_newTfBuilderRpcClient rp hs₁).2] at hj
    exact SocketMap.at_isSome.2 (mem_keys_of_lt hlen hkeys (by simpa using hj))

/-- When there are as many sockets as StfSender clients and their keys are below that number,
the FairMQ connect call returns; an `OK` answer then maps the socket indices `0, …, n-1` onto the
clients in client order, and the call sent each client, once and in that order, the endpoint of
the socket at its index. -/
theorem connectTfBuilder_connects_in_order (s : ConnState) (p : TfBuilderConfigStatus)
    (hlen : p.sockets.entries.length = s.mStfSenderRpcClients.length)
    (hkeys : ∀ k ∈ p.sockets.entries.map (·.1), k < s.mStfSenderRpcClients.length) :
    ∃ resp s', s.connectTfBuilder rp p = some (resp, s') ∧
      (resp.status = OK →
        resp.connectionMap = (List.range s.mStfSenderRpcClients.length).zip s.mStfSenderRpcClients ∧
        ∃ connects, s'.sent = s.sent ++ connects ∧
          List.Forall₂ (SentFor p) resp.connectionMap connects) := by
  obtain ⟨⟨resp, s'⟩, h⟩ := Option.isSome_iff_exists.1 (connectTfBuilder_isSome rp s p hlen hkeys)
  exact ⟨resp, s', h, connectTfBuilder_ok rp h⟩

/-- A TfBuilder `tfb` whose two FairMQ sockets have the keys 1 and 2. -/
def shiftedTfBuilder : TfBuilderConfigStatus :=
  ⟨"tfb", true, ⟨[(1, ⟨"ep1", ""⟩), (2, ⟨"ep2", ""⟩)], by decide⟩, true⟩

/-- Ready StfSenders that accept every connection. -/
def acceptingReplies : RpcReplies :=
  ⟨true, true, fun _ => some OK, fun sid => some (OK, sid), fun _ => some 0, fun _ => some 0⟩

/-- Two sockets for two StfSenders, sockets enabled and StfSenders ready: the request passes every
check of the call, and the loop's first read, `map().at(0)`, finds no socket. -/
theorem connectTfBuilder_reads_missing_socket :
    shiftedTfBuilder.socketsEnabled = true ∧
      shiftedTfBuilder.sockets.entries.length = twoSenderState.mStfSenderIdList.length ∧
      acceptingReplies.stfSendersReady = true ∧ acceptingReplies.newTfBuilderRpcClient = true ∧
      shiftedTfBuilder.sockets.at 0 = none ∧
      twoSenderState.connectTfBuilder acceptingReplies shiftedTfBuilder = none := by
  decide

/-- Two sockets keyed `0` and `1` for two StfSenders that accept. -/
theorem connectTfBuilder_connects_in_order_two_senders :
    freshTfBuilder.sockets.entries.length = twoSenderState.mStfSenderRpcClients.length ∧
    (∀ k ∈ freshTfBuilder.sockets.entries.map (·.1), k < twoSenderState.mStfSenderRpcClients.length) ∧
    ∃ resp s', twoSenderState.connectTfBuilder acceptingReplies freshTfBuilder = some (resp, s') ∧
      (resp.status = OK →
        resp.connectionMap = (List.range twoSenderState.mStfSenderRpcClients.length).zip
          twoSenderState.mStfSenderRpcClients ∧
        ∃ connects, s'.sent = twoSenderState.sent ++ connects ∧
          List.Forall₂ (SentFor freshTfBuilder) resp.connectionMap connects) :=
  ⟨by decide, by decide,
    connectTfBuilder_connects_in_order acceptingReplies _ _ (by decide) (by decide)⟩

/-- The UCX connect loop stops with `lConnectionsOk` false exactly when its status is not `OK`. -/
theorem lConnectionsOk_connectLoopUCX (p : TfBuilderConfigStatus) (l : List String) :
    (connectLoopUCX rp p l).lConnectionsOk = true ↔ (connectLoopUCX rp p l).status = OK := by
  induction l with
  | nil => simp [connectLoopUCX]
  | cons x l ih =>
    simp only [connectLoopUCX]
    split
    · simp
    · split_ifs with h <;> simp_all

/-- The UCX connect loop only asks the StfSenders it iterates over. -/
theorem mem_sent_connectLoopUCX {p : TfBuilderConfigStatus} {l : List String}
    {rpc : StfSenderRpc} (h : rpc ∈ (connectLoopUCX rp p l).sent) :
    ∃ sid ∈ l, rpc = ConnectTfBuilderUCXRequest sid p.processId := by
  induction l with
  | nil => simp [connectLoopUCX] at h
  | cons x l ih =>
    simp only [connectLoopUCX] at h
    split at h
    · exact ⟨x, List.mem_cons_self _ _, by simpa using h⟩
    · split_ifs at h
      · exact ⟨x, List.mem_cons_self _ _, by simpa using h⟩
      · rcases List.mem_cons.mp h with rfl | h
        · exact ⟨x, List.mem_cons_self _ _, rfl⟩
        · obtain ⟨sid, hs, rfl⟩ := ih h
          exact ⟨sid, List.mem_cons_of_mem _ hs, rfl⟩

/-- A rejected UCX connection is rolled back: every StfSender asked to connect during the call
is sent `DisconnectTfBuilderUCXRequest` before the call returns, and once a StfSender has been
asked, the TfBuilder's gRPC client is gone. -/
theorem connectTfBuilderUCX_rolls_back (s : ConnState) (p : TfBuilderConfigStatus)
    (h : (s.connectTfBuilderUCX rp p).1.status ≠ OK) :
    ∃ new, (s.connectTfBuilderUCX rp p).2.sent = s.sent ++ new ∧
      (∀ sid, ConnectTfBuilderUCXRequest sid p.processId ∈ new →
        DisconnectTfBuilderUCXRequest sid p.processId ∈ new) ∧
      (new ≠ [] → p.processId ∉ (s.connectTfBuilderUCX rp p).2.mTfBuilderRpcClients) := by
  unfold connectTfBuilderUCX at h ⊢
  split_ifs at h ⊢
  iterate 2 exact ⟨[], by simp, by simp, by simp⟩
  cases hs₁ : s.newTfBuilderRpcClient rp p.processId with
  | none => exact ⟨[], by simp [hs₁], by simp, by simp⟩
  | some s₁ =>
  simp only [hs₁] at h ⊢
  obtain ⟨hsent, hclients⟩ := sent_newTfBuilderRpcClient rp hs₁
  have hok : (connectLoopUCX rp p s₁.mStfSenderRpcClients).lConnectionsOk = false :=
    Bool.eq_false_iff.2 fun hb => h ((lConnectionsOk_connectLoopUCX rp p _).1 hb)
  simp only [hok, Bool.false_eq_true, if_false, disconnectTfBuilderUCX_snd]
  refine ⟨(connectLoopUCX rp p s₁.mStfSenderRpcClients).sent ++
    s₁.mStfSenderRpcClients.map (DisconnectTfBuilderUCXRequest · p.processId), ?_, ?_, ?_⟩
  · simp [deleteTfBuilderRpcClient, hsent]
  · intro sid hc
    rcases List.mem_append.mp hc with hc | hc
    · obtain ⟨sid', hs', he⟩ := mem_sent_connectLoopUCX rp hc
      obtain ⟨rfl, -⟩ := StfSenderRpc.ConnectTfBuilderUCXRequest.inj he
      exact List.mem_append_right _ (List.mem_map.mpr ⟨_, hs', rfl⟩)
    · simp at hc
  · intro _; simp [deleteTfBuilderRpcClient]

/-- The same StfSenders over UCX: the call is rejected, and `s0` and `s1` are both sent the
disconnect. -/
theorem connectTfBuilderUCX_rolls_back_two_senders :
    (twoSenderState.connectTfBuilderUCX twoSenderReplies freshTfBuilder).1.status ≠ OK ∧
    ∃ new, (twoSenderState.connectTfBuilderUCX twoSenderReplies freshTfBuilder).2.sent =
        twoSenderState.sent ++ new ∧
      (∀ sid, ConnectTfBuilderUCXRequest sid freshTfBuilder.processId ∈ new →
        DisconnectTfBuilderUCXRequest sid freshTfBuilder.processId ∈ new) ∧
      (new ≠ [] → freshTfBuilder.processId ∉
        (twoSenderState.connectTfBuilderUCX twoSenderReplies freshTfBuilder).2.mTfBuilderRpcClients) :=
  have h : (twoSenderState.connectTfBuilderUCX twoSenderReplies freshTfBuilder).1.status ≠ OK := by
    decide
  ⟨h, connectTfBuilderUCX_rolls_back twoSenderReplies _ _ h⟩

example :
    (twoSenderState.connectTfBuilderUCX twoSenderReplies freshTfBuilder).2.sent =
      [ConnectTfBuilderUCXRequest "s0" "tfb", ConnectTfBuilderUCXRequest "s1" "tfb",
        DisconnectTfBuilderUCXRequest "s0" "tfb", DisconnectTfBuilderUCXRequest "s1" "tfb"] := by
  decide

end ConnState

end DataDistribution.TfScheduler
