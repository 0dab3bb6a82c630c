import Mathlib.Data.List.Sort
import Mathlib.Data.List.Chain

/-!
# TfScheduler drop thread: sweeping the finished drop futures

`src/src/TfScheduler/TfSchedulerConnManager.cxx:422–496`.  The sweep's iterator is a zipper, and
after `erase` the loop's own `lFutureIt++` steps over a future, or past `end()` (`none`).  A
future's readiness is a field set when its lambda returns; `erase` returns the next element, as
in the standard sequence containers.  The gRPC request and the log texts are left out.
-/

namespace DataDistribution.TfScheduler

open scoped List

/-- An element of `mStfDropFutures`: the STF id its drop lambda returns, and whether
`wait_for(0s)` reports it ready. -/
structure DropFuture where
  stfId : Nat
  ready : Bool
  deriving DecidableEq, Repr

/-- The sweep loop of `DropWaitThread` (`TfSchedulerConnManager.cxx:476–482`), the iterator at
the head of the list it walks and `kept` the futures before it: the container and
`lDroppedStfs` after the loop, `none` where the iterator is incremented past `end()`. -/
def sweep : List DropFuture → List DropFuture → List Nat → Option (List DropFuture × List Nat)
  | kept, [], lDroppedStfs => some (kept, lDroppedStfs)
  | kept, f :: rest, lDroppedStfs =>
    if f.ready then
      match rest with
      | [] => none
      | g :: rest' => sweep (kept ++ [g]) rest' (lDroppedStfs ++ [f.stfId])
    else sweep (kept ++ [f]) rest lDroppedStfs

/-- A future that is not ready is stepped over, whatever follows it. -/
theorem sweep_cons_of_not_ready {kept rest : List DropFuture} {dropped : List Nat}
    {f : DropFuture} (hf : f.ready = false) :
    sweep kept (f :: rest) dropped = sweep (kept ++ [f]) rest dropped := by
  cases rest <;> simp [sweep, hf]

/-- The drop futures, `lDroppedTotal`, and the STF ids the thread has logged as dropped. -/
structure DropState where
  mStfDropFutures : List DropFuture
  lDroppedTotal : Nat
  logged : List Nat
  deriving DecidableEq, Repr

namespace DropState

/-- `dropSingleStfsAsync` (lines 422–461): the new future is appended, not yet ready. -/
def dropSingleStfsAsync (s : DropState) (pStfId : Nat) : DropState :=
  { s with mStfDropFutures := s.mStfDropFutures ++ [⟨pStfId, false⟩] }

/-- The drop lambda of the future at position `i` returns, so the future becomes ready. -/
def complete (s : DropState) (i : Nat) : DropState :=
  { s with mStfDropFutures := s.mStfDropFutures.modify (fun f => { f with ready := true }) i }

/-- One iteration of `DropWaitThread`'s `while (mRunning)` loop (lines 467–494): an empty
container is left alone; otherwise the sweep runs, and its ids are sorted, logged and counted. -/
def dropWaitIteration (s : DropState) : Option DropState :=
  if s.mStfDropFutures.isEmpty then some s
  else (sweep [] s.mStfDropFutures []).map fun r =>
    { mStfDropFutures := r.1, lDroppedTotal := s.lDroppedTotal + r.2.length,
      logged := s.logged ++ r.2.insertionSort (· ≤ ·) }

end DropState

/-- What happens to the drop futures: a new drop, a drop lambda returning, or one iteration of
`DropWaitThread`. -/
inductive DropEvent where
  | dropSingleStfsAsync (pStfId : Nat)
  | complete (i : Nat)
  | dropWaitIteration
  deriving DecidableEq, Repr

namespace DropState

/-- One event. -/
def step (s : DropState) : DropEvent → Option DropState
  | .dropSingleStfsAsync id => some (s.dropSingleStfsAsync id)
  | .complete i => some (s.complete i)
  | .dropWaitIteration => s.dropWaitIteration

/-- A run of events; `none` once a sweep increments its iterator past `end()`. -/
def run (s : DropState) : List DropEvent → Option DropState
  | [] => some s
  | e :: es => (s.step e).bind (·.run es)

end DropState

/-- Every sweep that returns keeps the futures before the iterator, erases only ready futures,
collects exactly the ids of the futures it erased, in order, and loses or duplicates none. -/
theorem sweep_spec {kept fs : List DropFuture} {dropped : List Nat}
    {r : List DropFuture × List Nat} (h : sweep kept fs dropped = some r) :
    ∃ k erased, r.1 = kept ++ k ∧ r.2 = dropped ++ erased.map (·.stfId) ∧
      k ++ erased ~ fs ∧ ∀ f ∈ erased, f.ready = true := by
  induction kept, fs, dropped using sweep.induct generalizing r with
  | case1 kept dropped =>
    obtain rfl := Option.some.inj h
    exact ⟨[], [], by simp, by simp, .nil, by simp⟩
  | case2 kept f dropped hf => simp [sweep, hf] at h
  | case3 kept f dropped hf g rest ih =>
    simp only [sweep, hf, if_true] at h
    obtain ⟨k, erased, h₁, h₂, hperm, hready⟩ := ih h
    refine ⟨g :: k, f :: erased, by simp [h₁], by simp [h₂], ?_, ?_⟩
    · exact List.perm_middle.trans ((hperm.cons g).cons f)
    · simpa [hf] using hready
  | case4 kept f rest dropped hf ih =>
    rw [sweep_cons_of_not_ready (by simpa using hf)] at h
    obtain ⟨k, erased, h₁, h₂, hperm, hready⟩ := ih h
    exact ⟨f :: k, erased, by simp [h₁], h₂, hperm.cons f, hready⟩

/-- The readiness patterns the sweep handles as intended: no ready future directly follows another
ready one, and the last future is not ready. -/
def SweepSafe (fs : List DropFuture) : Prop :=
  fs.Chain' (fun a b => a.ready = true → b.ready = false) ∧ ∀ f ∈ fs.getLast?, f.ready = false

instance : DecidablePred SweepSafe := fun _ => inferInstanceAs (Decidable (_ ∧ _))

/-- A future that is not ready neither breaks nor restores the pattern. -/
theorem sweepSafe_cons_of_not_ready {f : DropFuture} {fs : List DropFuture}
    (hf : f.ready = false) : SweepSafe (f :: fs) ↔ SweepSafe fs := by
  cases fs with
  | nil => simp [SweepSafe, hf]
  | cons g fs => simp [SweepSafe, List.chain'_cons, hf]

/-- A ready future must be followed by one that is not ready. -/
theorem sweepSafe_ready_cons {f g : DropFuture} {fs : List DropFuture} (hf : f.ready = true) :
    SweepSafe (f :: g :: fs) ↔ g.ready = false ∧ SweepSafe (g :: fs) := by
  simp [SweepSafe, List.chain'_cons, hf, and_assoc]

/-- The sweep leaves exactly the futures that were not ready, in their order, and collects the ids
of the ready ones, in their order, exactly for the readiness patterns of `SweepSafe`; on every
other pattern it skips a ready future or increments its iterator past `end()`. -/
theorem sweep_eq_filter_iff (kept fs : List DropFuture) (dropped : List Nat) :
    sweep kept fs dropped =
        some (kept ++ fs.filter (fun f => !f.ready),
          dropped ++ (fs.filter (·.ready)).map (·.stfId)) ↔ SweepSafe fs := by
  induction kept, fs, dropped using sweep.induct with
  | case1 kept dropped => simp [sweep, SweepSafe]
  | case2 kept f dropped hf => simp [sweep, SweepSafe, hf]
  | case3 kept f dropped hf g rest ih =>
    simp only [sweep, hf, if_true, sweepSafe_ready_cons hf]
    cases hg : g.ready
    · rw [sweepSafe_cons_of_not_ready hg, ← ih]
      simp [hf, hg]
    · refine iff_of_false (fun h => ?_) (by simp)
      obtain ⟨k, -, h₁, -⟩ := sweep_spec h
      have hk : g :: k = rest.filter (fun f => !f.ready) := by simpa [hf, hg] using h₁.symm
      have := List.mem_filter.1 (hk ▸ List.mem_cons_self g k : g ∈ rest.filter _)
      simp [hg] at this
  | case4 kept f rest dropped hf ih =>
    have hf : f.ready = false := by simpa using hf
    rw [sweep_cons_of_not_ready hf, sweepSafe_cons_of_not_ready hf, ← ih]
    simp [hf]

/-- A single ready future, and a ready future followed by another: the first sweep erases the
future and increments the iterator past `end()`; the second erases `1`, steps over the ready
future `2`, and leaves it in the container. -/
theorem sweep_increments_past_end :
    sweep [] [⟨1, true⟩] [] = none ∧
      sweep [] [⟨1, true⟩, ⟨2, true⟩, ⟨3, false⟩] [] = some ([⟨2, true⟩, ⟨3, false⟩], [1]) := by
  decide

/-! ### Runs of the drop thread -/

namespace DropState

/-- `lDroppedTotal` counts the logged ids. -/
def Inv (s : DropState) : Prop := s.lDroppedTotal = s.logged.length

/-- The STF ids still pending in a future, then the logged ones. -/
def ids (s : DropState) : List Nat := s.mStfDropFutures.map (·.stfId) ++ s.logged

end DropState

end DataDistribution.TfScheduler
