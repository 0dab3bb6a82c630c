import Mathlib.Data.List.Nodup
import DataDistribution.TfBuilder.Input

/-!
# TfBuilder input pipeline: what every run keeps

The TF ids past the hand-off never repeat, and `mMaxMergedTfId` only grows, so a late `INFO`
fragment is never filed.  Neither guard keeps the built ids increasing: a lower id admitted
between the hand-off of a TF and the merger's update is built after it.
-/

namespace DataDistribution.TfBuilder

open DataDistribution.Base DataDistribution.DataModel

namespace InputState

/-- TF id of a handed-off vector: that of its first fragment. -/
def vectorId (v : List ReceivedStf) : Option Nat := v.head?.map fragId

/-- TF id the merger holds. -/
def MergerPc.tfIds : MergerPc → List Nat
  | .idle => []
  | .merged tf => [tf.mHeader.mId]
  | .recorded tf => [tf.mHeader.mId]

/-- TF ids past the hand-off, in order: built, in the merger, queued for merging. -/
def handedIds (s : InputState) : List Nat :=
  s.built.map (·.mHeader.mId) ++ MergerPc.tfIds s.merger ++ s.mStfsForMerging.filterMap vectorId

/-- The invariant of the pipeline. -/
structure Inv (s : InputState) : Prop where
  filed : ∀ tfId v, s.mStfMergeMap.find? tfId = some v → ∀ r ∈ v, fragId r = tfId
  uniform : ∀ v ∈ s.mStfsForMerging, ∀ r ∈ v, some (fragId r) = vectorId v
  nodup : (handedIds s).Nodup
  handed_reported : ∀ tfId ∈ handedIds s, tfId ∈ s.reported ∧ s.numStfs.find? tfId = none
  count_reported : ∀ tfId n, s.numStfs.find? tfId = some n → tfId ∈ s.reported

/-- The pipeline starts in the invariant. -/
theorem inv_init : Inv init :=
  ⟨by simp [init], by simp [init], by simp [init, handedIds, MergerPc.tfIds],
    by simp [init, handedIds, MergerPc.tfIds], by simp [init]⟩

/-! ### One step -/

/-- Filing into or erasing from the merge map keeps every vector under its own id. -/
private theorem filed_upsert {m : StdMap Nat (List ReceivedStf)} {k : Nat} {w : List ReceivedStf}
    (hm : ∀ tfId v, m.find? tfId = some v → ∀ r ∈ v, fragId r = tfId)
    (hw : ∀ r ∈ w, fragId r = k) :
    ∀ tfId v, (m.upsert k fun o => o.getD [] ++ w).find? tfId = some v →
      ∀ r ∈ v, fragId r = tfId := by
  intro tfId v hv r hr
  rw [StdMap.find?_upsert] at hv
  split at hv
  · subst tfId
    simp only [Option.some.injEq] at hv
    subst hv
    rcases List.mem_append.mp hr with hr | hr
    · cases ho : m.find? k with
      | none => simp [ho] at hr
      | some v₀ => simp only [ho, Option.getD_some] at hr; exact hm _ _ ho r hr
    · exact hw r hr
  · exact hm tfId v hv r hr

private theorem filed_erase {m : StdMap Nat (List ReceivedStf)} (k : Nat)
    (hm : ∀ tfId v, m.find? tfId = some v → ∀ r ∈ v, fragId r = tfId) :
    ∀ tfId v, (m.erase k).find? tfId = some v → ∀ r ∈ v, fragId r = tfId := by
  intro tfId v hv
  rw [StdMap.find?_erase] at hv
  split at hv
  · simp at hv
  · exact hm tfId v hv

/-- A step of the pacing thread touches the merge map only: it files fragments of one id under
that id, or erases an id. -/
theorem pace_cases {s s' : InputState} {getIdForTopoTf : String → Nat → Nat} {e : ReceivedStfMeta}
    (h : s.step getIdForTopoTf (.pace e) = some s') :
    ∃ m, s' = { s with mStfMergeMap := m } ∧
      ((∃ k w, (∀ r ∈ w, fragId r = k) ∧ m = s.mStfMergeMap.upsert k fun o => o.getD [] ++ w) ∨
        ∃ k, m = s.mStfMergeMap.erase k) := by
  cases e with
  | ADD tfId =>
    simp only [step, paceAdd] at h
    split at h
    · exact ⟨_, (Option.some.inj h).symm, .inl ⟨tfId, [], by simp, by simp⟩⟩
    · simp at h
  | DELETE tfId =>
    simp only [step, paceDelete] at h
    split at h
    · exact ⟨_, (Option.some.inj h).symm, .inr ⟨tfId, rfl⟩⟩
    · simp at h
  | INFO r =>
    simp only [step, paceInfo, Option.some.injEq] at h
    split at h
    · exact ⟨_, h.symm, .inl ⟨_, [_], by simp, rfl⟩⟩
    · exact ⟨_, h.symm, .inr ⟨_, rfl⟩⟩

/-- A step of the pacing thread keeps the invariant. -/
theorem inv_pace {s s' : InputState} {getIdForTopoTf : String → Nat → Nat} {e : ReceivedStfMeta}
    (hi : Inv s) (h : s.step getIdForTopoTf (.pace e) = some s') : Inv s' := by
  obtain ⟨m, rfl, hm⟩ := pace_cases h
  refine ⟨?_, hi.uniform, hi.nodup, hi.handed_reported, hi.count_reported⟩
  rcases hm with ⟨k, w, hw, rfl⟩ | ⟨k, rfl⟩
  · exact filed_upsert hi.filed hw
  · exact filed_erase k hi.filed

/-- A fragment count from the scheduler keeps the invariant. -/
theorem inv_numberOfStfs {s s' : InputState} {tfId n : Nat} (hi : Inv s)
    (h : s.numberOfStfs tfId n = some s') : Inv s' := by
  simp only [numberOfStfs] at h
  split at h
  · simp at h
  · rename_i hnew
    simp only [Option.some.injEq] at h
    subst h
    refine ⟨hi.filed, hi.uniform, hi.nodup, fun x hx => ?_, fun x k hx => ?_⟩
    · have ⟨hr, hn⟩ := hi.handed_reported x hx
      have hne : x ≠ tfId := fun he => hnew (he ▸ hr)
      exact ⟨List.mem_cons_of_mem _ hr, by simp [StdMap.find?_upsert, hne, hn]⟩
    · rw [StdMap.find?_upsert] at hx
      split at hx
      · simp_all
      · exact List.mem_cons_of_mem _ (hi.count_reported x k hx)

/-- A handed-off vector filed under `tfId` has id `tfId`, unless it is empty. -/
private theorem vectorId_of_filed {v : List ReceivedStf} {tfId : Nat}
    (hv : ∀ r ∈ v, fragId r = tfId) : (vectorId v).toList ⊆ [tfId] := by
  cases v with
  | nil => simp [vectorId]
  | cons r rest => simp [vectorId, hv r (List.mem_cons_self _ _)]

/-- A step of the deserializing thread keeps the invariant. -/
theorem inv_deserialize {s : InputState} (hi : Inv s) : Inv s.deserialize := by
  unfold deserialize
  split
  · exact hi
  · rename_i tfId v hmin
    have hv := hi.filed tfId v (StdMap.min?_spec hmin).1
    split
    · exact hi
    · rename_i n hn
      split
      · have hnot : tfId ∉ handedIds s := fun hh => by simp [(hi.handed_reported tfId hh).2] at hn
        have hids : handedIds
            { s with mStfsForMerging := s.mStfsForMerging ++ [v],
                     mStfMergeMap := s.mStfMergeMap.erase tfId, numStfs := s.numStfs.erase tfId } =
            handedIds s ++ (vectorId v).toList := by
          cases hvid : vectorId v <;> simp [handedIds, List.filterMap_append, hvid]
        refine ⟨filed_erase tfId hi.filed, ?_, ?_, ?_, ?_⟩
        · intro w hw r hr
          rcases List.mem_append.mp hw with hw | hw
          · exact hi.uniform w hw r hr
          · simp only [List.mem_singleton] at hw
            subst hw
            cases w with
            | nil => simp at hr
            | cons r₀ rest =>
              simp [vectorId, hv r hr, hv r₀ (List.mem_cons_self _ _)]
        · rw [hids]
          refine List.nodup_append.2 ⟨hi.nodup, ?_, ?_⟩
          · cases vectorId v <;> simp
          · intro a ha hb
            exact hnot (by simpa [List.mem_singleton.mp (vectorId_of_filed hv hb)] using ha)
        · intro x hx
          rw [hids, List.mem_append] at hx
          rcases hx with hx | hx
          · have ⟨hr, hn'⟩ := hi.handed_reported x hx
            exact ⟨hr, by simp [StdMap.find?_erase, hn']⟩
          · have hx : x = tfId := List.mem_singleton.mp (vectorId_of_filed hv hx)
            subst hx
            exact ⟨hi.count_reported x n hn, by simp⟩
        · intro x k hx
          rw [StdMap.find?_erase] at hx
          split at hx
          · simp at hx
          · exact hi.count_reported x k hx
      · exact hi

/-- The merged TF carries the id shared by its fragments. -/
private theorem mergeStfVector_id {v : List ReceivedStf} {tf : SubTimeFrame}
    (hu : ∀ r ∈ v, some (fragId r) = vectorId v)
    (h : mergeStfVector (v.map (·.mStf)) = some tf) : some tf.mHeader.mId = vectorId v := by
  cases v with
  | nil => simp [mergeStfVector] at h
  | cons r₀ rest =>
    simp only [List.map_cons, mergeStfVector, Option.some.injEq] at h
    subst h
    have hm := SubTimeFrame.mHeader_foldl_mergeStf_mem r₀.mStf (rest.map (·.mStf))
    simp only [List.map_cons, List.map_map, List.mem_cons, List.mem_map, Function.comp_apply] at hm
    rcases hm with hm | ⟨r, hr, hm⟩
    · rw [hm]; exact hu r₀ (List.mem_cons_self _ _)
    · rw [← hm]; exact hu r (List.mem_cons_of_mem _ hr)

/-- Popping a vector moves its id from the queue into the merger. -/
private theorem tfIds_ofVector {v : List ReceivedStf}
    (hu : ∀ r ∈ v, some (fragId r) = vectorId v) :
    MergerPc.tfIds (MergerPc.ofVector v) = (vectorId v).toList := by
  unfold MergerPc.ofVector
  split
  · rename_i hnone
    cases v with
    | nil => rfl
    | cons r₀ rest => simp [mergeStfVector] at hnone
  · rename_i tf htf
    simp [MergerPc.tfIds, ← mergeStfVector_id hu htf]

/-- The merger's pop keeps the invariant. -/
theorem inv_mergerPop {s s' : InputState} (hi : Inv s) (h : s.mergerPop = some s') : Inv s' := by
  unfold mergerPop at h
  split at h
  · rename_i v rest hpc hq
    simp only [Option.some.injEq] at h
    subst h
    have heq : handedIds { s with mStfsForMerging := rest, merger := .ofVector v } =
        handedIds s := by
      simp only [handedIds, tfIds_ofVector (hi.uniform v (by simp [hq])), hpc, hq,
        List.filterMap_cons]
      cases vectorId v <;> simp [MergerPc.tfIds]
    refine ⟨hi.filed, fun w hw => hi.uniform w (by simp [hq, hw]), ?_, ?_, hi.count_reported⟩
    · rw [heq]; exact hi.nodup
    · rw [heq]; exact hi.handed_reported
  · simp at h

/-- The merger's record of a built TF keeps the invariant. -/
theorem inv_mergerRecord {s s' : InputState} (hi : Inv s) (h : s.mergerRecord = some s') :
    Inv s' := by
  unfold mergerRecord at h
  split at h
  · rename_i tf hpc
    simp only [Option.some.injEq] at h
    subst h
    have heq : handedIds
        { s with mMaxMergedTfId := max s.mMaxMergedTfId tf.mHeader.mId, merger := .recorded tf } =
        handedIds s := by
      simp [handedIds, hpc, MergerPc.tfIds]
    exact ⟨hi.filed, hi.uniform, heq ▸ hi.nodup, heq ▸ hi.handed_reported, hi.count_reported⟩
  · simp at h

/-- The merger's hand-off downstream keeps the invariant. -/
theorem inv_mergerQueue {s s' : InputState} (hi : Inv s) (h : s.mergerQueue = some s') :
    Inv s' := by
  unfold mergerQueue at h
  split at h
  · rename_i tf hpc
    simp only [Option.some.injEq] at h
    subst h
    have heq : handedIds { s with built := s.built ++ [tf], merger := .idle } = handedIds s := by
      simp [handedIds, hpc, MergerPc.tfIds]
    exact ⟨hi.filed, hi.uniform, heq ▸ hi.nodup, heq ▸ hi.handed_reported, hi.count_reported⟩
  · simp at h

/-- Every step of the pipeline keeps the invariant. -/
theorem inv_step {s s' : InputState} {getIdForTopoTf : String → Nat → Nat} {a : InputAction}
    (hi : Inv s) (h : s.step getIdForTopoTf a = some s') : Inv s' := by
  cases a with
  | pace e => exact inv_pace hi h
  | numberOfStfs tfId n => exact inv_numberOfStfs hi h
  | deserialize => simp only [step, Option.some.injEq] at h; exact h ▸ inv_deserialize hi
  | mergerPop => exact inv_mergerPop hi h
  | mergerRecord => exact inv_mergerRecord hi h
  | mergerQueue => exact inv_mergerQueue hi h

/-- `mMaxMergedTfId` never decreases. -/
theorem maxMerged_le_step {s s' : InputState} {getIdForTopoTf : String → Nat → Nat}
    {a : InputAction} (h : s.step getIdForTopoTf a = some s') :
    s.mMaxMergedTfId ≤ s'.mMaxMergedTfId := by
  cases a with
  | pace e => obtain ⟨m, rfl, -⟩ := pace_cases h; exact le_refl _
  | deserialize =>
    obtain rfl := Option.some.inj h
    unfold deserialize
    split
    · exact le_refl _
    · split
      · exact le_refl _
      · split <;> exact le_refl _
  | mergerRecord =>
    simp only [step, mergerRecord] at h
    split at h
    · obtain rfl := Option.some.inj h; exact le_max_left _ _
    · simp at h
  | numberOfStfs tfId n | mergerPop | mergerQueue =>
    simp only [step, numberOfStfs, mergerPop, mergerQueue] at h
    split at h <;> first | (obtain rfl := Option.some.inj h; exact le_refl _) | simp at h

/-! ### Whole runs -/

section Runs

variable (getIdForTopoTf : String → Nat → Nat)

/-- Every run from a state in the invariant stays in it. -/
theorem inv_run {s t : InputState} (hi : Inv s) :
    ∀ {as : List InputAction}, s.run getIdForTopoTf as = some t → Inv t := by
  intro as
  induction as generalizing s with
  | nil => intro h; simp only [run_nil, Option.some.injEq] at h; exact h ▸ hi
  | cons a as ih =>
    intro h
    rw [run_cons] at h
    obtain ⟨s', hs', h⟩ := Option.bind_eq_some.mp h
    exact ih (inv_step hi hs') h

/-- Along a run `mMaxMergedTfId` never decreases. -/
theorem maxMerged_le_run {s t : InputState} :
    ∀ {as : List InputAction}, s.run getIdForTopoTf as = some t →
      s.mMaxMergedTfId ≤ t.mMaxMergedTfId := by
  intro as
  induction as generalizing s with
  | nil => intro h; simp only [run_nil, Option.some.injEq] at h; exact h ▸ le_refl _
  | cons a as ih =>
    intro h
    rw [run_cons] at h
    obtain ⟨s', hs', h⟩ := Option.bind_eq_some.mp h
    exact (maxMerged_le_step hs').trans (ih h)

/-- No TF id is queued downstream twice, and once the merger has built a TF, an `INFO`
fragment whose (renamed) id is not above the largest built id is never filed: its id is
erased from the merge map. -/
theorem input_builds_once_and_drops_late :
    (∀ as s, init.run getIdForTopoTf as = some s → (s.built.map (·.mHeader.mId)).Nodup) ∧
    (∀ (s : InputState) (as : List InputAction) (t : InputState) (r : ReceivedStf),
      s.run getIdForTopoTf as = some t →
      fragId (renameTopo getIdForTopoTf r) ≤ s.mMaxMergedTfId →
      t.step getIdForTopoTf (.pace (.INFO r)) = some
        { t with mStfMergeMap := t.mStfMergeMap.erase (fragId (renameTopo getIdForTopoTf r)) }) := by
  refine ⟨fun as s h => ?_, fun s as t r h hle => ?_⟩
  · have hn := (inv_run getIdForTopoTf inv_init h).nodup
    exact (List.nodup_append.1 (List.nodup_append.1 hn).1).1
  · have hlt : ¬ t.mMaxMergedTfId < fragId (renameTopo getIdForTopoTf r) :=
      not_lt.2 (hle.trans (maxMerged_le_run getIdForTopoTf h))
    simp [step, paceInfo, hlt]

/-- A fragment of TF `n` from StfSender `a`: one message of one byte. -/
def oneByteFragment (n : Nat) : ReceivedStf :=
  ⟨"a", SubTimeFrame.ofMessage ⟨n, 1, 0, .eReadout, 0⟩ 0 0 ⟨some ⟨n, some ⟨0, 0, 0, 0, 0⟩⟩, [⟨n, 1⟩]⟩⟩

/-- TF 2 is handed off; TF 1 is admitted and its fragment filed before the merger raises
`mMaxMergedTfId`, so a fragment with an id below a handed-off TF enters the merge map, and the
merger builds TF 2 and then TF 1. -/
theorem input_builds_out_of_order :
    (init.run (fun _ n => n) [.pace (.ADD 2), .numberOfStfs 2 1, .pace (.INFO (oneByteFragment 2)),
        .deserialize, .pace (.ADD 1), .pace (.INFO (oneByteFragment 1))]).map
      (fun s => (s.mStfsForMerging.filterMap vectorId,
        (s.mStfMergeMap.find? 1).map (·.map fragId))) = some ([2], some [1]) ∧
    (init.run (fun _ n => n) [.pace (.ADD 2), .numberOfStfs 2 1, .pace (.INFO (oneByteFragment 2)),
        .deserialize, .pace (.ADD 1), .pace (.INFO (oneByteFragment 1)), .numberOfStfs 1 1,
        .deserialize, .mergerPop, .mergerRecord, .mergerQueue, .mergerPop, .mergerRecord,
        .mergerQueue]).map (fun s => s.built.map (·.mHeader.mId)) = some [2, 1] := by
  decide

end Runs

end InputState

end DataDistribution.TfBuilder
