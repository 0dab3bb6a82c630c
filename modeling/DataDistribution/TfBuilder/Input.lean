import DataDistribution.DataModel.Merge

/-!
# TfBuilder input pipeline: pacing, completion and merging

`src/src/TfBuilder/TfBuilderInput.cxx:141–344`.  `StfPacingThread`, `StfDeserializingThread`
and `StfMergerThread` share `mStfMergeMap`; a `step` is one atomic region of one thread, the
merger having three.  The scheduler's fragment counts are environment steps, one per TF id at
most.  Header deserialization, `stop()` and the thread-state flag are left out.
-/

namespace DataDistribution.TfBuilder

open DataDistribution.Base DataDistribution.DataModel

/-- The payload of an `INFO` meta: the StfSender and the received STF, whose header gives the
meta's `mStfId` and `mStfOrigin`. -/
structure ReceivedStf where
  mStfSenderId : String
  mStf : SubTimeFrame

/-- `ReceivedStfMeta`, by `MetaType`. -/
inductive ReceivedStfMeta where
  | ADD (mStfId : Nat)
  | DELETE (mStfId : Nat)
  | INFO (stf : ReceivedStf)

/-- Where `StfMergerThread` is between its atomic regions. -/
inductive MergerPc where
  | idle
  | merged (tf : SubTimeFrame)
  | recorded (tf : SubTimeFrame)

/-- The merger after popping `v`: holding the merged TF.  An empty vector, which the source
would dereference, is skipped like a null seed (`TfBuilderInput.cxx:302–305`). -/
def MergerPc.ofVector (v : List ReceivedStf) : MergerPc :=
  match mergeStfVector (v.map (·.mStf)) with
  | none => .idle
  | some tf => .merged tf

/-- Shared state of `TfBuilderInput`, the fragment counts held by `TfBuilderRpc`, and the TFs
queued downstream (`mDevice.queue`). -/
structure InputState where
  mStfMergeMap : StdMap Nat (List ReceivedStf)
  mStfsForMerging : List (List ReceivedStf)
  mMaxMergedTfId : Nat
  merger : MergerPc
  numStfs : StdMap Nat Nat
  reported : List Nat
  built : List SubTimeFrame

/-- One atomic region of one thread, or one scheduler reply. -/
inductive InputAction where
  | pace (e : ReceivedStfMeta)
  | numberOfStfs (tfId n : Nat)
  | deserialize
  | mergerPop
  | mergerRecord
  | mergerQueue

/-- The pipeline after `start()`: empty maps and queues, `mMaxMergedTfId = 0`. -/
def InputState.init : InputState := ⟨StdMap.empty, [], 0, .idle, StdMap.empty, [], []⟩

namespace InputState

/-- TF id of a fragment, as filed. -/
abbrev fragId (r : ReceivedStf) : Nat := r.mStf.mHeader.mId

section Steps

-- `TfBuilderRpc::getIdForTopoTf`: the new id of a topology TF (the RPC is not under `src/`).
variable (getIdForTopoTf : String → Nat → Nat)

/-- `ADD` (`TfBuilderInput.cxx:156–163`); `none` when an assertion fails. -/
def paceAdd (s : InputState) (tfId : Nat) : Option InputState :=
  if s.mStfMergeMap.contains tfId = false ∧ s.mStfMergeMap.max?.all (fun e => e.1 < tfId) then
    some { s with mStfMergeMap := s.mStfMergeMap.upsert tfId fun o => o.getD [] }
  else none

/-- `DELETE` (`TfBuilderInput.cxx:164–171`); `none` when an assertion fails. -/
def paceDelete (s : InputState) (tfId : Nat) : Option InputState :=
  match s.mStfMergeMap.find? tfId with
  | some [] => some { s with mStfMergeMap := s.mStfMergeMap.erase tfId }
  | _ => none

/-- The topology renaming of `TfBuilderInput.cxx:178–189`. -/
def renameTopo (r : ReceivedStf) : ReceivedStf :=
  if r.mStf.mHeader.mOrigin = .eReadoutTopology then
    { r with mStf := r.mStf.updateId (getIdForTopoTf r.mStfSenderId r.mStf.mHeader.mId) }
  else r

/-- `INFO` (`TfBuilderInput.cxx:174–207`): file the fragment, or erase a late id. -/
def paceInfo (s : InputState) (r : ReceivedStf) : InputState :=
  let r := renameTopo getIdForTopoTf r
  if s.mMaxMergedTfId < fragId r then
    { s with mStfMergeMap := s.mStfMergeMap.upsert (fragId r) fun o => o.getD [] ++ [r] }
  else { s with mStfMergeMap := s.mStfMergeMap.erase (fragId r) }

/-- A `NumberOfStfs` reply reaching `TfBuilderRpc`; `none` for a second reply for one id. -/
def numberOfStfs (s : InputState) (tfId n : Nat) : Option InputState :=
  if tfId ∈ s.reported then none
  else some { s with numStfs := s.numStfs.upsert tfId (fun _ => n), reported := tfId :: s.reported }

/-- One iteration of `StfDeserializingThread` (`TfBuilderInput.cxx:237–273`). -/
def deserialize (s : InputState) : InputState :=
  match s.mStfMergeMap.min? with
  | none => s
  | some (tfId, v) =>
    match s.numStfs.find? tfId with
    | none => s
    | some n =>
      if v.length = n then
        { s with mStfsForMerging := s.mStfsForMerging ++ [v]
                 mStfMergeMap := s.mStfMergeMap.erase tfId
                 numStfs := s.numStfs.erase tfId }
      else s

/-- `StfMergerThread` pops a vector and merges it (`TfBuilderInput.cxx:290–311`). -/
def mergerPop (s : InputState) : Option InputState :=
  match s.merger, s.mStfsForMerging with
  | .idle, v :: rest => some { s with mStfsForMerging := rest, merger := .ofVector v }
  | _, _ => none

/-- The locked update of `mMaxMergedTfId` (`TfBuilderInput.cxx:313–318`). -/
def mergerRecord (s : InputState) : Option InputState :=
  match s.merger with
  | .merged tf =>
    some { s with mMaxMergedTfId := max s.mMaxMergedTfId tf.mHeader.mId, merger := .recorded tf }
  | _ => none

/-- The hand-off downstream (`TfBuilderInput.cxx:340`). -/
def mergerQueue (s : InputState) : Option InputState :=
  match s.merger with
  | .recorded tf => some { s with built := s.built ++ [tf], merger := .idle }
  | _ => none

/-- One step of the pipeline; `none` when the region cannot run or an assertion fails. -/
def step (s : InputState) : InputAction → Option InputState
  | .pace (.ADD tfId) => s.paceAdd tfId
  | .pace (.DELETE tfId) => s.paceDelete tfId
  | .pace (.INFO r) => some (s.paceInfo getIdForTopoTf r)
  | .numberOfStfs tfId n => s.numberOfStfs tfId n
  | .deserialize => some s.deserialize
  | .mergerPop => s.mergerPop
  | .mergerRecord => s.mergerRecord
  | .mergerQueue => s.mergerQueue

/-- A run: the steps of an interleaving, in order. -/
def run (s : InputState) : List InputAction → Option InputState
  | [] => some s
  | a :: as => (s.step getIdForTopoTf a).bind (run · as)

/-- The empty run leaves the state as it is. -/
@[simp] theorem run_nil (s : InputState) : s.run getIdForTopoTf [] = some s := rfl

/-- A run takes its first step, then the rest. -/
theorem run_cons (s : InputState) (a : InputAction) (as : List InputAction) :
    s.run getIdForTopoTf (a :: as) = (s.step getIdForTopoTf a).bind (run getIdForTopoTf · as) :=
  rfl

end Steps

end InputState

end DataDistribution.TfBuilder
