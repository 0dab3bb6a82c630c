import Mathlib.Order.Basic

/-!
# TfScheduler partition state

`src/src/TfScheduler/TfSchedulerInstanceRpc.cxx:40–154, 218–235`.  The monitor thread, the
`TerminatePartition` handler and `start()` write `mPartitionState` through
`updatePartitionState`, which ignores the final states; each call is one step, and the monitor's
read and write are two.  RPC outcomes and elapsed time are inputs; persisting is left out.
-/

namespace DataDistribution.TfScheduler

/-- `PartitionState` of the scheduler. -/
inductive PartitionState where
  | PARTITION_CONFIGURING
  | PARTITION_CONFIGURED
  | PARTITION_TERMINATING
  | PARTITION_TERMINATED
  | PARTITION_ERROR
  deriving DecidableEq, Repr

/-- `StfSenderState` as reported by the connection manager. -/
inductive StfSenderState where
  | STF_SENDER_STATE_OK
  | STF_SENDER_STATE_INITIALIZING
  | STF_SENDER_STATE_INCOMPLETE
  deriving DecidableEq, Repr

open PartitionState StfSenderState

/-- Modelled from the spec: `accepting_updates` (`TfSchedulerInstanceRpc.h`, not under `src/`):
the partition takes new work while it is being configured or configured, and not once
`Terminating`, `Terminated` or `Error` ("stop accepting new work immediately"). -/
def acceptingUpdates : PartitionState → Bool
  | PARTITION_CONFIGURING | PARTITION_CONFIGURED => true
  | _ => false

/-- `updatePartitionState` (`TfSchedulerInstanceRpc.cxx:90–108`): the state after the call. -/
def updatePartitionState (cur pNewState : PartitionState) : PartitionState :=
  if cur = PARTITION_TERMINATED ∨ cur = PARTITION_ERROR then cur else pNewState

/-- The partition state the monitor writes for a StfSender state
(`TfSchedulerInstanceRpc.cxx:137–150`). -/
def monitorTarget : StfSenderState → PartitionState
  | STF_SENDER_STATE_OK => PARTITION_CONFIGURED
  | STF_SENDER_STATE_INITIALIZING => PARTITION_CONFIGURING
  | STF_SENDER_STATE_INCOMPLETE => PARTITION_ERROR

/-- Where `PartitionMonitorThread` is: at the top of its loop, about to write a state it chose
after its read, about to write `TERMINATED` before leaving, or gone. -/
inductive MonitorPc where
  | top
  | updating (target : PartitionState)
  | finishing
  | exited
  deriving DecidableEq, Repr

/-- Where `start()` is in its connection loop. -/
inductive StartPc where
  | looping
  | sleeping
  | exited
  deriving DecidableEq, Repr

/-- The reply of `TerminatePartition`. -/
structure PartitionResponse where
  infoMessage : String
  partitionState : PartitionState
  deriving DecidableEq, Repr

/-- The scheduler instance: the shared state, the two threads and the replies sent so far. -/
structure SchedulerState where
  mPartitionState : PartitionState
  mRunning : Bool
  monitor : MonitorPc
  starting : StartPc
  responses : List PartitionResponse
  deriving DecidableEq, Repr

/-- Right after `start()` launched the monitor: configuring, nothing replied. -/
def SchedulerState.init : SchedulerState :=
  ⟨PARTITION_CONFIGURING, true, .top, .looping, []⟩

/-- One step of one party, with the outcomes it observes. -/
inductive SchedulerAction where
  | monitorCheck (stfSenderState : StfSenderState) (stfSendersTerminated : Bool)
  | monitorUpdate
  | monitorFinish
  | terminatePartition (partitionId : String)
  | startCheck (connected : Bool)
  | startRetry
  | startTimeout
  | stop
  deriving DecidableEq, Repr

namespace SchedulerState

/-- The top of `PartitionMonitorThread`'s loop (`TfSchedulerInstanceRpc.cxx:112–150`), up to
its `updatePartitionState` call. -/
def monitorCheck (s : SchedulerState) (ss : StfSenderState) (stfSendersTerminated : Bool) :
    SchedulerState :=
  if !s.mRunning then { s with monitor := .exited }
  else if s.mPartitionState = PARTITION_TERMINATING ∨ s.mPartitionState = PARTITION_ERROR then
    if stfSendersTerminated then
      { s with monitor := if s.mPartitionState = PARTITION_TERMINATING then .finishing else .exited }
    else s
  else { s with monitor := .updating (monitorTarget ss) }

/-- The `TerminatePartition` handler (`TfSchedulerInstanceRpc.cxx:218–235`). -/
def terminatePartition (s : SchedulerState) (partitionId : String) : SchedulerState :=
  if acceptingUpdates s.mPartitionState then
    let st := updatePartitionState s.mPartitionState PARTITION_TERMINATING
    { s with mPartitionState := st, responses := s.responses ++ [⟨"Terminate started.", st⟩] }
  else
    { s with responses := s.responses ++
      [⟨"Terminate was already requested. partition_id=" ++ partitionId, s.mPartitionState⟩] }

/-- One step; `none` when the party is not at that point. -/
def step (s : SchedulerState) : SchedulerAction → Option SchedulerState
  | .monitorCheck ss b => if s.monitor = .top then some (s.monitorCheck ss b) else none
  | .monitorUpdate =>
    match s.monitor with
    | .updating t =>
      some { s with mPartitionState := updatePartitionState s.mPartitionState t, monitor := .top }
    | _ => none
  | .monitorFinish =>
    if s.monitor = .finishing then
      some { s with mPartitionState := updatePartitionState s.mPartitionState PARTITION_TERMINATED
                    monitor := .exited }
    else none
  | .terminatePartition pid => some (s.terminatePartition pid)
  | .startCheck connected =>
    if s.starting = .looping then
      some { s with starting :=
        if acceptingUpdates s.mPartitionState && !connected then .sleeping else .exited }
    else none
  | .startRetry => if s.starting = .sleeping then some { s with starting := .looping } else none
  | .startTimeout =>
    if s.starting = .sleeping then
      some { s with mPartitionState := updatePartitionState s.mPartitionState PARTITION_ERROR
                    starting := .exited }
    else none
  | .stop => some { s with mRunning := false }

/-- A run: the steps of an interleaving, in order. -/
def run (s : SchedulerState) : List SchedulerAction → Option SchedulerState
  | [] => some s
  | a :: as => (s.step a).bind (run · as)

/-- The state a step passes to `updatePartitionState`, when it calls it. -/
def written (s : SchedulerState) : SchedulerAction → Option PartitionState
  | .monitorUpdate => match s.monitor with
    | .updating t => some t
    | _ => none
  | .monitorFinish => some PARTITION_TERMINATED
  | .terminatePartition _ =>
    if acceptingUpdates s.mPartitionState then some PARTITION_TERMINATING else none
  | .startTimeout => some PARTITION_ERROR
  | _ => none

/-- Every step writes the partition state through `updatePartitionState` only. -/
theorem step_state {s s' : SchedulerState} {a : SchedulerAction} (h : s.step a = some s') :
    s'.mPartitionState =
      ((s.written a).map (updatePartitionState s.mPartitionState)).getD s.mPartitionState := by
  cases a with
  | monitorCheck ss b =>
    simp only [step] at h
    split at h
    · obtain rfl := Option.some.inj h
      unfold monitorCheck; split_ifs <;> rfl
    · simp at h
  | monitorUpdate =>
    simp only [step] at h
    split at h
    · rename_i t hm; obtain rfl := Option.some.inj h; simp [written, hm]
    · simp at h
  | terminatePartition pid =>
    obtain rfl := Option.some.inj h
    unfold terminatePartition; split <;> simp_all [written]
  | stop => obtain rfl := Option.some.inj h; rfl
  | _ =>
    simp only [step] at h
    split at h
    · obtain rfl := Option.some.inj h; rfl
    · simp at h

/-- `PARTITION_TERMINATED` and `PARTITION_ERROR` are never left, by any step. -/
theorem step_final {s s' : SchedulerState} {a : SchedulerAction} (h : s.step a = some s')
    (hf : s.mPartitionState = PARTITION_TERMINATED ∨ s.mPartitionState = PARTITION_ERROR) :
    s'.mPartitionState = s.mPartitionState := by
  rw [step_state h]
  cases s.written a <;> simp [updatePartitionState, hf]

/-- From `PARTITION_TERMINATING`, a step stays or leads to `TERMINATED` or `ERROR`, except the
monitor's write of a state it chose earlier. -/
theorem step_terminating {s s' : SchedulerState} {a : SchedulerAction} (h : s.step a = some s')
    (ht : s.mPartitionState = PARTITION_TERMINATING) :
    s'.mPartitionState = PARTITION_TERMINATING ∨ s'.mPartitionState = PARTITION_TERMINATED ∨
      s'.mPartitionState = PARTITION_ERROR ∨
      (a = .monitorUpdate ∧ s.monitor = .updating s'.mPartitionState) := by
  rw [step_state h]
  cases a with
  | monitorUpdate =>
    cases hm : s.monitor <;> simp [written, hm, ht, updatePartitionState]
  | _ => simp [written, ht, updatePartitionState, acceptingUpdates]

/-! ### Termination with no stale monitor write -/

/-- Termination has begun, and the monitor holds no state it chose before: it is about to write
only once the state is final. -/
structure Terminating (s : SchedulerState) : Prop where
  state : s.mPartitionState = PARTITION_TERMINATING ∨ s.mPartitionState = PARTITION_TERMINATED ∨
    s.mPartitionState = PARTITION_ERROR
  monitor : ∀ t, s.monitor = .updating t →
    s.mPartitionState = PARTITION_TERMINATED ∨ s.mPartitionState = PARTITION_ERROR

/-- A step keeps termination under way: the only write that could undo it is a stale monitor
write, which `Terminating` rules out. -/
theorem terminating_step {s s' : SchedulerState} {a : SchedulerAction} (hs : Terminating s)
    (h : s.step a = some s') : Terminating s' := by
  have hstate : s'.mPartitionState = PARTITION_TERMINATING ∨
      s'.mPartitionState = PARTITION_TERMINATED ∨ s'.mPartitionState = PARTITION_ERROR := by
    rcases hs.state with ht | hf
    · rcases step_terminating h ht with h' | h' | h' | ⟨rfl, hm⟩
      · exact .inl h'
      · exact .inr (.inl h')
      · exact .inr (.inr h')
      · rcases hs.monitor _ hm with h' | h' <;> simp [ht] at h'
    · exact .inr (step_final h hf ▸ hf)
  refine ⟨hstate, fun t hm => ?_⟩
  have hfinal : s.mPartitionState = PARTITION_TERMINATED ∨
      s.mPartitionState = PARTITION_ERROR → s'.mPartitionState = s.mPartitionState :=
    step_final h
  cases a with
  | monitorCheck ss b =>
    simp only [step] at h
    split at h
    · obtain rfl := Option.some.inj h
      have hst := hs.state
      unfold monitorCheck at hm ⊢
      split_ifs at hm ⊢ <;> simp_all
    · simp at h
  | monitorUpdate | monitorFinish =>
    simp only [step] at h
    split at h
    · obtain rfl := Option.some.inj h; simp at hm
    · simp at h
  | terminatePartition pid =>
    obtain rfl := Option.some.inj h
    unfold terminatePartition at hm ⊢
    have hna : acceptingUpdates s.mPartitionState = false := by
      rcases hs.state with h' | h' | h' <;> simp [h', acceptingUpdates]
    simp only [hna, Bool.false_eq_true, if_false] at hm ⊢
    exact hs.monitor t hm
  | stop => obtain rfl := Option.some.inj h; exact hs.monitor t hm
  | startCheck c | startRetry =>
    simp only [step] at h
    split at h
    · obtain rfl := Option.some.inj h; exact hs.monitor t hm
    · simp at h
  | startTimeout =>
    simp only [step] at h
    split at h
    · obtain rfl := Option.some.inj h
      have hf := hs.monitor t hm
      rw [hfinal hf]; exact hf
    · simp at h

/-- Along any run from a state where termination is under way with no stale monitor write, the
partition never goes back to `CONFIGURING` or `CONFIGURED`. -/
theorem terminating_run {s t : SchedulerState} {as : List SchedulerAction} (hs : Terminating s)
    (h : s.run as = some t) : Terminating t := by
  induction as generalizing s with
  | nil => simp only [run, Option.some.injEq] at h; exact h ▸ hs
  | cons a as ih =>
    obtain ⟨s', hs', h⟩ := Option.bind_eq_some.mp h
    exact ih (terminating_step hs hs') h

/-- A `TerminatePartition` accepted while the monitor holds no state it chose before puts
termination under way, so it is never undone. -/
theorem terminating_terminatePartition {s : SchedulerState} (pid : String)
    (ha : acceptingUpdates s.mPartitionState = true) (hm : ∀ t, s.monitor ≠ .updating t) :
    Terminating (s.terminatePartition pid) := by
  have hs : (s.terminatePartition pid).mPartitionState = PARTITION_TERMINATING := by
    cases hp : s.mPartitionState <;> simp_all [terminatePartition, acceptingUpdates, updatePartitionState]
  exact ⟨.inl hs, fun t ht => absurd (by unfold terminatePartition at ht; split at ht <;> exact ht)
    (hm t)⟩

/-- A `TerminatePartition` accepted while the monitor holds no state it chose before is never
undone: along every later run the partition stays `TERMINATING`, `TERMINATED` or `ERROR`. -/
theorem terminatePartition_never_undone {s t : SchedulerState} {bs : List SchedulerAction}
    (pid : String) (ha : acceptingUpdates s.mPartitionState = true)
    (hm : ∀ t, s.monitor ≠ .updating t) (h : (s.terminatePartition pid).run bs = some t) :
    t.mPartitionState = PARTITION_TERMINATING ∨ t.mPartitionState = PARTITION_TERMINATED ∨
      t.mPartitionState = PARTITION_ERROR :=
  (terminating_run (terminating_terminatePartition pid ha hm) h).state

/-- From the start, `TerminatePartition` comes before the monitor's check, which then finds the
teardown under way and keeps the state. -/
theorem terminatePartition_never_undone_init :
    acceptingUpdates init.mPartitionState = true ∧ (∀ t, init.monitor ≠ .updating t) ∧
    (init.terminatePartition "p").run [.monitorCheck STF_SENDER_STATE_OK false] =
      some ⟨PARTITION_TERMINATING, true, .top, .looping,
        [⟨"Terminate started.", PARTITION_TERMINATING⟩]⟩ ∧
    (PARTITION_TERMINATING = PARTITION_TERMINATING ∨ PARTITION_TERMINATING = PARTITION_TERMINATED ∨
      PARTITION_TERMINATING = PARTITION_ERROR) :=
  have hm : ∀ t, init.monitor ≠ .updating t := fun _ h => by cases h
  have h : (init.terminatePartition "p").run [.monitorCheck STF_SENDER_STATE_OK false] =
      some ⟨PARTITION_TERMINATING, true, .top, .looping,
        [⟨"Terminate started.", PARTITION_TERMINATING⟩]⟩ := by decide
  ⟨rfl, hm, h, terminatePartition_never_undone "p" (by decide) hm h⟩

/-- The monitor reads `CONFIGURING` and picks `CONFIGURED`; `TerminatePartition` is accepted
and answered "Terminate started."; the monitor's write then moves `TERMINATING` back to
`CONFIGURED`. -/
theorem terminatePartition_undone_by_monitor :
    (init.run [.monitorCheck STF_SENDER_STATE_OK false, .terminatePartition "p",
        .monitorUpdate]).map (fun s => (s.responses, s.mPartitionState)) =
      some ([⟨"Terminate started.", PARTITION_TERMINATING⟩], PARTITION_CONFIGURED) := by
  decide

end SchedulerState

end DataDistribution.TfScheduler
