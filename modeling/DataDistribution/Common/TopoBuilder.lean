import DataDistribution.Common.ReadoutBuilder
import DataDistribution.DataModel.Merge

/-!
# Readout STF builder: topology STFs

`src/src/common/SubTimeFrameBuilder.cxx:229–318`.  `addTopoStfData` builds one STF per
subspecification in `mTopoStfMap`, with ids from the static `uint32_t` counter `sTfId`, and
returns it once it holds `pMaxNumMessages` frames.  Whether the header allocates is an input;
`payloadSize`, the DPL header and logging are left out.
-/

namespace DataDistribution.Common

open scoped List
open DataDistribution.Base DataDistribution.DataModel

/-- The state of `SubTimeFrameReadoutBuilder` that `addTopoStfData` reads and writes, and its
static counter `sTfId`.  `mTopoStfMap` maps a subspecification to the number of frames its STF
has taken and the STF (`none` for a null pointer). -/
structure TopoBuilder where
  mRunning : Bool
  mAcceptStfData : Bool
  mTopoStfMap : StdMap Nat (Nat × Option SubTimeFrame)
  sTfId : Nat

/-- One `addTopoStfData` call: its arguments, and whether the header of its frame 0 allocates. -/
structure TopoCall where
  pDataOrig : Nat
  pSubSpecification : Nat
  pHdr : ReadoutSubTimeframeHeader
  frames : List DataPart
  pMaxNumMessages : Nat
  hdrAlloc : Option Nat

/-- Lines 251–260: a new STF with id `sTfId`, the run number, and the first orbit when the
header has one. -/
def newTopoStf (sTfId : Nat) (pHdr : ReadoutSubTimeframeHeader) : SubTimeFrame :=
  if pHdr.mTimeframeOrbitFirst ≠ 0 then
    ((SubTimeFrame.ofId sTfId).updateRunNumber pHdr.mRunNumber).updateFirstOrbit
      pHdr.mTimeframeOrbitFirst
  else (SubTimeFrame.ofId sTfId).updateRunNumber pHdr.mRunNumber

/-- The add loop (lines 272–301): frame 0 with a new header message when `newHeaderMessage`
allocates one (`none` when it does not), then every later frame with a null header, each by its
own `addStfDataReadout` under `(di, ss)`. -/
def addTopoFrames (hdrAlloc : Option Nat) (di : DataIdentifier) (ss : SubSpecificationType)
    (lStf : SubTimeFrame) : List DataPart → Option SubTimeFrame
  | [] => some lStf
  | f :: rest => hdrAlloc.map fun a =>
    rest.foldl (fun s g => s.addStfDataReadout di ss ⟨none, [g]⟩)
      (lStf.addStfDataReadout di ss ⟨some ⟨a, some rawDataHeader⟩, [f]⟩)

namespace TopoBuilder

/-- The builder when the program starts: no topology STF, and `sTfId` at its initial 1. -/
def start (mRunning mAcceptStfData : Bool) : TopoBuilder :=
  ⟨mRunning, mAcceptStfData, StdMap.empty, 1⟩

/-- Lines 247–260: the count and STF of `mTopoStfMap[pSubSpecification]`, and `sTfId` after;
when there is no STF, a new one with count 0 takes `sTfId`, which is incremented modulo
`2^32`. -/
def slot (b : TopoBuilder) (pSubSpecification : Nat) (pHdr : ReadoutSubTimeframeHeader) :
    Nat × SubTimeFrame × Nat :=
  match b.mTopoStfMap.find? pSubSpecification with
  | some (n, some lStf) => (n, lStf, b.sTfId)
  | _ => (0, newTopoStf b.sTfId pHdr, (b.sTfId + 1) % 2 ^ 32)

/-- `SubTimeFrameReadoutBuilder::addTopoStfData` (lines 229–318): the builder after the call and
the STF it returns. -/
def addTopoStfData (b : TopoBuilder) (pDataOrig pSubSpecification : Nat)
    (pHdr : ReadoutSubTimeframeHeader) (frames : List DataPart) (pMaxNumMessages : Nat)
    (hdrAlloc : Option Nat) : TopoBuilder × Option SubTimeFrame :=
  if !b.mRunning || !b.mAcceptStfData then (b, none)
  else
    let s := b.slot pSubSpecification pHdr
    match addTopoFrames hdrAlloc (rawDataIdentifier pDataOrig) pSubSpecification s.2.1 frames with
    | none =>
      ({ b with
          mAcceptStfData := false, sTfId := s.2.2,
          mTopoStfMap := b.mTopoStfMap.upsert pSubSpecification fun _ => (s.1, some s.2.1.clear) },
        none)
    | some lStf =>
      if pMaxNumMessages ≤ s.1 + frames.length then
        ({ b with
            sTfId := s.2.2,
            mTopoStfMap := b.mTopoStfMap.upsert pSubSpecification fun _ => (0, none) },
          some (lStf.setOrigin .eReadoutTopology))
      else
        ({ b with
            sTfId := s.2.2,
            mTopoStfMap := b.mTopoStfMap.upsert pSubSpecification fun _ =>
              (s.1 + frames.length, some lStf) },
          none)

/-- A sequence of calls: the builder after them, and the STFs they return, in order. -/
def runTopo (b : TopoBuilder) : List TopoCall → TopoBuilder × List SubTimeFrame
  | [] => (b, [])
  | c :: cs =>
    let r := b.addTopoStfData c.pDataOrig c.pSubSpecification c.pHdr c.frames c.pMaxNumMessages
      c.hdrAlloc
    ((runTopo r.1 cs).1, r.2.toList ++ (runTopo r.1 cs).2)

end TopoBuilder

/-! ### Frames and ids -/

/-- The frames stored under `(di, ss)`, in order: the data parts of the messages there. -/
def framesAt (s : SubTimeFrame) (di : DataIdentifier) (ss : SubSpecificationType) :
    List DataPart :=
  ((lookup s.mData di ss).getD []).flatMap StfMessage.mDataParts

/-- The frames a sequence of calls hands in for `(di, ss)`, in order. -/
def handedIn (cs : List TopoCall) (di : DataIdentifier) (ss : Nat) : List DataPart :=
  (cs.filter fun c => di = rawDataIdentifier c.pDataOrig ∧ ss = c.pSubSpecification).flatMap
    TopoCall.frames

/-- The ids `sTfId` gives the first `c` STFs made: 1, 2, … modulo `2^32`. -/
def topoIds (c : Nat) : List Nat := (List.range c).map fun i => (1 + i) % 2 ^ 32

namespace TopoBuilder

/-- The STF waiting for `ss` in `mTopoStfMap`, if any. -/
def pendingStf (b : TopoBuilder) (ss : Nat) : Option SubTimeFrame :=
  (b.mTopoStfMap.find? ss).bind (·.2)

/-- The frames under `(di, ss)` of the STF waiting for `ss`. -/
def pendingFrames (b : TopoBuilder) (di : DataIdentifier) (ss : Nat) : List DataPart :=
  ((b.pendingStf ss).map (framesAt · di ss)).getD []

/-- Every STF waiting in `mTopoStfMap`, in key order. -/
def pendingStfs (b : TopoBuilder) : List SubTimeFrame := b.mTopoStfMap.entries.filterMap (·.2.2)

/-- Every STF waiting for a subspecification holds frames under that subspecification only. -/
def Keyed (b : TopoBuilder) : Prop :=
  ∀ ss lStf, b.pendingStf ss = some lStf → ∀ di ss', ss' ≠ ss → framesAt lStf di ss' = []

end TopoBuilder

/-- The frames under `(di, ss)` that a builder and the STFs it returned hold: those of the
returned STFs, in order, then those of the STF waiting. -/
def heldFrames (r : TopoBuilder × List SubTimeFrame) (di : DataIdentifier) (ss : Nat) :
    List DataPart :=
  r.2.flatMap (framesAt · di ss) ++ r.1.pendingFrames di ss

/-- The STFs a builder and the STFs it returned hold: the returned ones, then the waiting ones. -/
def madeStfs (r : TopoBuilder × List SubTimeFrame) : List SubTimeFrame := r.2 ++ r.1.pendingStfs

/-! ### What one call does -/

/-- Adding a message appends its frames under its key and changes no other key. -/
theorem framesAt_addStfDataReadout (s : SubTimeFrame) (di : DataIdentifier)
    (ss : SubSpecificationType) (m : StfMessage) (k₁ : DataIdentifier) (k₂ : SubSpecificationType) :
    framesAt (s.addStfDataReadout di ss m) k₁ k₂ =
      framesAt s k₁ k₂ ++ if k₁ = di ∧ k₂ = ss then m.mDataParts else [] := by
  simp only [framesAt, SubTimeFrame.addStfDataReadout, lookup_appendMessages]
  split_ifs with h
  · obtain ⟨rfl, rfl⟩ := h; simp
  · simp

/-- A cleared STF holds no frame. -/
@[simp] theorem framesAt_clear (s : SubTimeFrame) (k₁ : DataIdentifier)
    (k₂ : SubSpecificationType) : framesAt s.clear k₁ k₂ = [] := rfl

/-- Setting the origin keeps the frames. -/
@[simp] theorem framesAt_setOrigin (s : SubTimeFrame) (o : Origin) (k₁ : DataIdentifier)
    (k₂ : SubSpecificationType) : framesAt (s.setOrigin o) k₁ k₂ = framesAt s k₁ k₂ := rfl

/-- A new topology STF holds no frame. -/
theorem framesAt_newTopoStf (id : Nat) (pHdr : ReadoutSubTimeframeHeader) (k₁ : DataIdentifier)
    (k₂ : SubSpecificationType) : framesAt (newTopoStf id pHdr) k₁ k₂ = [] := by
  unfold newTopoStf; split_ifs <;> rfl

/-- A new topology STF carries the id it is made with. -/
theorem mId_newTopoStf (id : Nat) (pHdr : ReadoutSubTimeframeHeader) :
    (newTopoStf id pHdr).mHeader.mId = id := by
  unfold newTopoStf; split_ifs <;> rfl

private theorem foldl_nullHeaders (di : DataIdentifier) (ss : SubSpecificationType) :
    ∀ (rest : List DataPart) (s : SubTimeFrame),
      (rest.foldl (fun s g => s.addStfDataReadout di ss ⟨none, [g]⟩) s).mHeader = s.mHeader ∧
      ∀ k₁ k₂, framesAt (rest.foldl (fun s g => s.addStfDataReadout di ss ⟨none, [g]⟩) s) k₁ k₂ =
        framesAt s k₁ k₂ ++ if k₁ = di ∧ k₂ = ss then rest else []
  | [], s => by simp
  | g :: rest, s => by
    obtain ⟨h₁, h₂⟩ := foldl_nullHeaders di ss rest (s.addStfDataReadout di ss ⟨none, [g]⟩)
    refine ⟨h₁, fun k₁ k₂ => ?_⟩
    rw [List.foldl_cons, h₂, framesAt_addStfDataReadout]
    split_ifs <;> simp

/-- The add loop keeps the STF's header and appends the frames, in order, under `(di, ss)`. -/
theorem addTopoFrames_spec {hdrAlloc : Option Nat} {di : DataIdentifier}
    {ss : SubSpecificationType} {lStf lStf' : SubTimeFrame} {frames : List DataPart}
    (h : addTopoFrames hdrAlloc di ss lStf frames = some lStf') :
    lStf'.mHeader = lStf.mHeader ∧ ∀ k₁ k₂,
      framesAt lStf' k₁ k₂ = framesAt lStf k₁ k₂ ++ if k₁ = di ∧ k₂ = ss then frames else [] := by
  cases frames with
  | nil => obtain rfl := Option.some.inj h; simp
  | cons f rest =>
    obtain ⟨a, -, rfl⟩ := Option.map_eq_some'.mp h
    obtain ⟨h₁, h₂⟩ := foldl_nullHeaders di ss rest
      (lStf.addStfDataReadout di ss ⟨some ⟨a, some rawDataHeader⟩, [f]⟩)
    refine ⟨h₁, fun k₁ k₂ => ?_⟩
    rw [h₂, framesAt_addStfDataReadout]
    split_ifs <;> simp

/-- The add loop fails exactly when there are frames and the header of frame 0 is not allocated. -/
theorem addTopoFrames_eq_none_iff {hdrAlloc : Option Nat} {di : DataIdentifier}
    {ss : SubSpecificationType} {lStf : SubTimeFrame} {frames : List DataPart} :
    addTopoFrames hdrAlloc di ss lStf frames = none ↔ frames ≠ [] ∧ hdrAlloc = none := by
  cases frames <;> cases hdrAlloc <;> simp [addTopoFrames]

/-- One more STF made takes the next id modulo `2^32`. -/
theorem topoIds_succ (c : Nat) : topoIds (c + 1) = topoIds c ++ [(1 + c) % 2 ^ 32] := by
  simp [topoIds, List.range_succ]

/-- The ids handed out are distinct exactly while at most `2^32` STFs have been made. -/
theorem topoIds_nodup_iff (c : Nat) : (topoIds c).Nodup ↔ c ≤ 2 ^ 32 := by
  constructor
  · intro h
    by_contra hc
    have h0 : (0 : Nat) = 2 ^ 32 := List.inj_on_of_nodup_map h
      (List.mem_range.2 (by omega)) (List.mem_range.2 (by omega)) rfl
    omega
  · intro hc
    exact (List.nodup_range c).map_on fun x hx y hy h => by
      simp only [List.mem_range] at hx hy
      omega

namespace TopoBuilder

variable {b : TopoBuilder}

/-- The slot's STF is the one waiting for the subspecification, or a new one taking `sTfId`. -/
theorem slot_cases (b : TopoBuilder) (ss : Nat) (pHdr : ReadoutSubTimeframeHeader) :
    b.pendingStf ss = some (b.slot ss pHdr).2.1 ∧ (b.slot ss pHdr).2.2 = b.sTfId ∨
    b.pendingStf ss = none ∧ (b.slot ss pHdr).2.1 = newTopoStf b.sTfId pHdr ∧
      (b.slot ss pHdr).2.2 = (b.sTfId + 1) % 2 ^ 32 := by
  unfold slot pendingStf
  cases h : b.mTopoStfMap.find? ss with
  | none => simp
  | some p => obtain ⟨n, _ | lStf⟩ := p <;> simp

/-- The slot's STF holds the frames waiting under the subspecification. -/
theorem framesAt_slot (b : TopoBuilder) (ss : Nat) (pHdr : ReadoutSubTimeframeHeader)
    (di : DataIdentifier) : framesAt (b.slot ss pHdr).2.1 di ss = b.pendingFrames di ss := by
  rcases slot_cases b ss pHdr with ⟨h, -⟩ | ⟨h, h', -⟩
  · simp [pendingFrames, h]
  · simp [pendingFrames, h, h', framesAt_newTopoStf]

/-- With the waiting STFs keyed, the slot's STF holds no frame under another subspecification. -/
theorem framesAt_slot_of_ne (hb : b.Keyed) {ss ss' : Nat} (pHdr : ReadoutSubTimeframeHeader)
    (di : DataIdentifier) (hne : ss' ≠ ss) : framesAt (b.slot ss pHdr).2.1 di ss' = [] := by
  rcases slot_cases b ss pHdr with ⟨h, -⟩ | ⟨-, h', -⟩
  · exact hb ss _ h di ss' hne
  · rw [h', framesAt_newTopoStf]

@[simp] private theorem pendingStf_upsert (b : TopoBuilder) (acc : Bool) (sTfId ss : Nat)
    (v : Nat × Option SubTimeFrame) (ss' : Nat) :
    ({ b with mAcceptStfData := acc, sTfId := sTfId,
              mTopoStfMap := b.mTopoStfMap.upsert ss fun _ => v } : TopoBuilder).pendingStf ss' =
      if ss' = ss then v.2 else b.pendingStf ss' := by
  simp only [pendingStf, StdMap.find?_upsert]
  split_ifs <;> rfl

private theorem pendingStfs_perm (b : TopoBuilder) (ss : Nat) :
    b.pendingStfs ~ (b.pendingStf ss).toList ++ (b.mTopoStfMap.erase ss).entries.filterMap (·.2.2) := by
  cases h : b.mTopoStfMap.find? ss with
  | none => simp [pendingStfs, pendingStf, h, StdMap.erase_entries_of_find?_none h]
  | some p =>
    have hp := (StdMap.entries_perm_erase h).filterMap fun e : Nat × Nat × Option SubTimeFrame => e.2.2
    obtain ⟨n, _ | lStf⟩ := p <;> simpa [pendingStfs, pendingStf, h] using hp

private theorem pendingStfs_upsert_perm (b : TopoBuilder) (acc : Bool) (sTfId ss : Nat)
    (v : Nat × Option SubTimeFrame) :
    ({ b with mAcceptStfData := acc, sTfId := sTfId,
              mTopoStfMap := b.mTopoStfMap.upsert ss fun _ => v } : TopoBuilder).pendingStfs ~
      v.2.toList ++ (b.mTopoStfMap.erase ss).entries.filterMap (·.2.2) := by
  have hp := (StdMap.entries_upsert_perm b.mTopoStfMap ss fun _ => v).filterMap
    fun e : Nat × Nat × Option SubTimeFrame => e.2.2
  obtain ⟨n, _ | lStf⟩ := v <;> simpa [pendingStfs] using hp

/-- Every way a call can go: nothing happens when the builder is not running or not accepting;
otherwise the subspecification's entry is rewritten and `sTfId` moves on as `slot` says, and
either the header of frame 0 fails, clearing the STF and stopping the builder, or the frames go
in and the STF is returned once its count reaches `pMaxNumMessages`. -/
theorem addTopoStfData_cases (b : TopoBuilder) (o ss : Nat) (pHdr : ReadoutSubTimeframeHeader)
    (frames : List DataPart) (M : Nat) (hdrAlloc : Option Nat) :
    (b.mRunning && b.mAcceptStfData) = false ∧ b.addTopoStfData o ss pHdr frames M hdrAlloc = (b, none) ∨
    ∃ v ret acc, (b.mRunning && b.mAcceptStfData) = true ∧
      b.addTopoStfData o ss pHdr frames M hdrAlloc =
        ({ b with
            mAcceptStfData := acc, sTfId := (b.slot ss pHdr).2.2,
            mTopoStfMap := b.mTopoStfMap.upsert ss fun _ => v }, ret) ∧
      ((frames ≠ [] ∧ hdrAlloc = none ∧ acc = false ∧ ret = none ∧
          v = ((b.slot ss pHdr).1, some (b.slot ss pHdr).2.1.clear)) ∨
        ∃ lStf, addTopoFrames hdrAlloc (rawDataIdentifier o) ss (b.slot ss pHdr).2.1 frames =
            some lStf ∧ acc = true ∧
          (M ≤ (b.slot ss pHdr).1 + frames.length ∧ ret = some (lStf.setOrigin .eReadoutTopology) ∧
              v = (0, none) ∨
            (b.slot ss pHdr).1 + frames.length < M ∧ ret = none ∧
              v = ((b.slot ss pHdr).1 + frames.length, some lStf))) := by
  unfold addTopoStfData
  rw [← Bool.not_and]
  cases hacc : (b.mRunning && b.mAcceptStfData)
  · exact .inl ⟨rfl, rfl⟩
  have ha : b.mAcceptStfData = true := by simp only [Bool.and_eq_true] at hacc; exact hacc.2
  refine .inr ?_
  simp only [Bool.not_true, Bool.false_eq_true, if_false]
  cases hf : addTopoFrames hdrAlloc (rawDataIdentifier o) ss (b.slot ss pHdr).2.1 frames with
  | none =>
    exact ⟨_, none, false, trivial, rfl,
      .inl ⟨(addTopoFrames_eq_none_iff.1 hf).1, (addTopoFrames_eq_none_iff.1 hf).2, rfl, rfl, rfl⟩⟩
  | some lStf =>
    dsimp only
    split_ifs with hM
    · exact ⟨_, _, true, trivial, by rw [← ha], .inr ⟨lStf, rfl, rfl, .inl ⟨hM, rfl, rfl⟩⟩⟩
    · exact ⟨_, _, true, trivial, by rw [← ha], .inr ⟨lStf, rfl, rfl, .inr ⟨by omega, rfl, rfl⟩⟩⟩

/-- A call never changes `mRunning`, and never makes the builder accept data again. -/
theorem addTopoStfData_flags (b : TopoBuilder) (o ss : Nat) (pHdr : ReadoutSubTimeframeHeader)
    (frames : List DataPart) (M : Nat) (hdrAlloc : Option Nat) :
    (b.addTopoStfData o ss pHdr frames M hdrAlloc).1.mRunning = b.mRunning ∧
      ((b.addTopoStfData o ss pHdr frames M hdrAlloc).1.mAcceptStfData = true →
        b.mAcceptStfData = true) := by
  rcases addTopoStfData_cases b o ss pHdr frames M hdrAlloc with ⟨-, h⟩ | ⟨v, ret, acc, hacc, h, -⟩
  · rw [h]; exact ⟨rfl, id⟩
  · rw [h]
    simp only [Bool.and_eq_true] at hacc
    exact ⟨rfl, fun _ => hacc.2⟩

/-- A call keeps the waiting STFs keyed by their subspecification. -/
theorem keyed_addTopoStfData (hb : b.Keyed) (o ss : Nat) (pHdr : ReadoutSubTimeframeHeader)
    (frames : List DataPart) (M : Nat) (hdrAlloc : Option Nat) :
    (b.addTopoStfData o ss pHdr frames M hdrAlloc).1.Keyed := by
  rcases addTopoStfData_cases b o ss pHdr frames M hdrAlloc with ⟨-, h⟩ | ⟨v, ret, acc, -, h, hv⟩
  · rw [h]; exact hb
  rw [h]
  intro ss' lStf hl di ss'' hne
  rw [pendingStf_upsert] at hl
  split_ifs at hl with hss
  · subst hss
    rcases hv with ⟨-, -, -, -, rfl⟩ | ⟨l, hl', -, ⟨-, -, rfl⟩ | ⟨-, -, rfl⟩⟩
    · obtain rfl := Option.some.inj hl; simp
    · simp at hl
    · obtain rfl := Option.some.inj hl
      rw [(addTopoFrames_spec hl').2, framesAt_slot_of_ne hb pHdr di hne]
      simp [hne]
  · exact hb ss' lStf hl di ss'' hne

/-- What one call does to the frames under `(di, ss')`: the frames of the STF it returns
followed by those now waiting are a sublist of those waiting before followed by the call's own
frames, when it is for `(di, ss')`; they are exactly those when the call leaves the builder
accepting data, that is, unless the header of frame 0 failed. -/
theorem heldFrames_addTopoStfData (hb : b.Keyed) (o ss : Nat) (pHdr : ReadoutSubTimeframeHeader)
    (frames : List DataPart) (M : Nat) (hdrAlloc : Option Nat) (di : DataIdentifier) (ss' : Nat) :
    heldFrames ((b.addTopoStfData o ss pHdr frames M hdrAlloc).1,
        (b.addTopoStfData o ss pHdr frames M hdrAlloc).2.toList) di ss' <+
      b.pendingFrames di ss' ++ (if di = rawDataIdentifier o ∧ ss' = ss then frames else []) ∧
    (b.mRunning = true → (b.addTopoStfData o ss pHdr frames M hdrAlloc).1.mAcceptStfData = true →
      heldFrames ((b.addTopoStfData o ss pHdr frames M hdrAlloc).1,
          (b.addTopoStfData o ss pHdr frames M hdrAlloc).2.toList) di ss' =
        b.pendingFrames di ss' ++ if di = rawDataIdentifier o ∧ ss' = ss then frames else []) := by
  rcases addTopoStfData_cases b o ss pHdr frames M hdrAlloc with
    ⟨hacc, h⟩ | ⟨v, ret, acc, -, h, hv⟩
  · rw [h]
    refine ⟨by simp [heldFrames], fun hr ha => ?_⟩
    simp only at ha
    simp [hr, ha] at hacc
  rw [h]
  rcases hv with ⟨-, -, rfl, rfl, rfl⟩ | ⟨l, hl, rfl, hret⟩
  · refine ⟨?_, fun _ ha => absurd ha (by simp)⟩
    by_cases hss : ss' = ss
    · subst hss; simp [heldFrames, pendingFrames]
    · simp [heldFrames, pendingFrames, hss]
  · have heq : heldFrames (({ b with
          mAcceptStfData := true, sTfId := (b.slot ss pHdr).2.2,
          mTopoStfMap := b.mTopoStfMap.upsert ss fun _ => v } : TopoBuilder), ret.toList) di ss' =
        b.pendingFrames di ss' ++ if di = rawDataIdentifier o ∧ ss' = ss then frames else [] := by
      have hfr := (addTopoFrames_spec hl).2 di ss'
      by_cases hss : ss' = ss
      · subst hss
        rcases hret with ⟨-, rfl, rfl⟩ | ⟨-, rfl, rfl⟩ <;>
          simp [heldFrames, pendingFrames, hfr, framesAt_slot]
      · rw [framesAt_slot_of_ne hb pHdr di hss] at hfr
        rcases hret with ⟨-, rfl, rfl⟩ | ⟨-, rfl, rfl⟩ <;>
          simp [heldFrames, pendingFrames, hfr, hss]
    exact ⟨heq ▸ List.Sublist.refl _, fun _ _ => heq⟩

/-- What one call does to the STFs made: the one it touches keeps its id, whether it is
returned, kept or cleared; a new one takes `sTfId`, which then moves on. -/
theorem ids_addTopoStfData (b : TopoBuilder) (o ss : Nat) (pHdr : ReadoutSubTimeframeHeader)
    (frames : List DataPart) (M : Nat) (hdrAlloc : Option Nat) :
    (madeStfs ((b.addTopoStfData o ss pHdr frames M hdrAlloc).1,
        (b.addTopoStfData o ss pHdr frames M hdrAlloc).2.toList)).map (·.mHeader.mId) ~
      b.pendingStfs.map (·.mHeader.mId) ++
        (if b.mRunning && b.mAcceptStfData && (b.pendingStf ss).isNone then [b.sTfId] else []) ∧
    (b.addTopoStfData o ss pHdr frames M hdrAlloc).1.sTfId =
      if b.mRunning && b.mAcceptStfData && (b.pendingStf ss).isNone then (b.sTfId + 1) % 2 ^ 32
      else b.sTfId := by
  rcases addTopoStfData_cases b o ss pHdr frames M hdrAlloc with
    ⟨hacc, h⟩ | ⟨v, ret, acc, hacc, h, hv⟩
  · rw [h]; simp [madeStfs, hacc]
  rw [h]
  have hone : (ret.toList ++ v.2.toList).map (·.mHeader.mId) = [(b.slot ss pHdr).2.1.mHeader.mId] := by
    rcases hv with ⟨-, -, -, rfl, rfl⟩ | ⟨l, hl, -, ⟨-, rfl, rfl⟩ | ⟨-, rfl, rfl⟩⟩
    · rfl
    · simp [SubTimeFrame.setOrigin, (addTopoFrames_spec hl).1]
    · simp [(addTopoFrames_spec hl).1]
  have hperm : (madeStfs (({ b with
        mAcceptStfData := acc, sTfId := (b.slot ss pHdr).2.2,
        mTopoStfMap := b.mTopoStfMap.upsert ss fun _ => v } : TopoBuilder), ret.toList)).map
          (·.mHeader.mId) ~
        (b.slot ss pHdr).2.1.mHeader.mId ::
          ((b.mTopoStfMap.erase ss).entries.filterMap (·.2.2)).map (·.mHeader.mId) := by
    have := ((pendingStfs_upsert_perm b acc (b.slot ss pHdr).2.2 ss v).append_left ret.toList).map
      (·.mHeader.mId : SubTimeFrame → Nat)
    simpa [madeStfs, ← List.append_assoc, hone] using this
  have hold := (pendingStfs_perm b ss).map (·.mHeader.mId : SubTimeFrame → Nat)
  rcases slot_cases b ss pHdr with ⟨hs, hid⟩ | ⟨hs, hnew, hid⟩
  · refine ⟨hperm.trans ?_, by simp [hs, hid]⟩
    simpa [hs] using hold.symm
  · refine ⟨hperm.trans ?_, by simp [hacc, hs, hid]⟩
    rw [hnew, mId_newTopoStf, if_pos (by simp [hacc, hs])]
    have hold' : b.pendingStfs.map (·.mHeader.mId) ~
        ((b.mTopoStfMap.erase ss).entries.filterMap (·.2.2)).map (·.mHeader.mId) := by
      simpa [hs] using hold
    exact (List.perm_append_singleton _ _).symm.trans (hold'.symm.append_right _)

/-! ### Whole runs -/

/-- At the start no STF waits, so the waiting STFs are keyed. -/
theorem keyed_start (mRunning mAcceptStfData : Bool) : (start mRunning mAcceptStfData).Keyed :=
  fun _ _ h => by simp [start, pendingStf] at h

private theorem handedIn_cons (c : TopoCall) (cs : List TopoCall) (di : DataIdentifier) (ss : Nat) :
    handedIn (c :: cs) di ss =
      (if di = rawDataIdentifier c.pDataOrig ∧ ss = c.pSubSpecification then c.frames else []) ++
        handedIn cs di ss := by
  unfold handedIn
  rw [List.filter_cons]
  split_ifs <;> simp_all

/-- A run keeps `mRunning`, and accepts data at its end only if it did at its start. -/
theorem runTopo_flags (b : TopoBuilder) (cs : List TopoCall) :
    (runTopo b cs).1.mRunning = b.mRunning ∧
      ((runTopo b cs).1.mAcceptStfData = true → b.mAcceptStfData = true) := by
  induction cs generalizing b with
  | nil => exact ⟨rfl, id⟩
  | cons c cs ih =>
    obtain ⟨h₁, h₂⟩ := addTopoStfData_flags b c.pDataOrig c.pSubSpecification c.pHdr c.frames
      c.pMaxNumMessages c.hdrAlloc
    obtain ⟨ih₁, ih₂⟩ := ih (b.addTopoStfData c.pDataOrig c.pSubSpecification c.pHdr c.frames
      c.pMaxNumMessages c.hdrAlloc).1
    exact ⟨ih₁.trans h₁, fun h => h₂ (ih₂ h)⟩

/-- Over every run from a state where waiting STFs are keyed by their subspecification, the frames
under `(di, ss)` of the returned STFs and of the one waiting at the end are a sublist of those
waiting at the start followed by those handed in, and equal to them when the builder is running
and still accepts data at the end. -/
theorem runTopo_heldFrames (hb : b.Keyed) (cs : List TopoCall) (di : DataIdentifier) (ss : Nat) :
    heldFrames (runTopo b cs) di ss <+ b.pendingFrames di ss ++ handedIn cs di ss ∧
    (b.mRunning = true → (runTopo b cs).1.mAcceptStfData = true →
      heldFrames (runTopo b cs) di ss = b.pendingFrames di ss ++ handedIn cs di ss) := by
  induction cs generalizing b with
  | nil => simp [runTopo, heldFrames, handedIn]
  | cons c cs ih =>
    obtain ⟨hsub, heq⟩ := heldFrames_addTopoStfData hb c.pDataOrig c.pSubSpecification c.pHdr
      c.frames c.pMaxNumMessages c.hdrAlloc di ss
    obtain ⟨ihsub, iheq⟩ := ih (keyed_addTopoStfData hb c.pDataOrig c.pSubSpecification c.pHdr
      c.frames c.pMaxNumMessages c.hdrAlloc)
    have hsplit : ∀ l, heldFrames (runTopo b (c :: cs)) di ss = l ↔
        (b.addTopoStfData c.pDataOrig c.pSubSpecification c.pHdr c.frames c.pMaxNumMessages
          c.hdrAlloc).2.toList.flatMap (framesAt · di ss) ++
          heldFrames (runTopo (b.addTopoStfData c.pDataOrig c.pSubSpecification c.pHdr c.frames
            c.pMaxNumMessages c.hdrAlloc).1 cs) di ss = l := by
      simp [runTopo, heldFrames]
    rw [handedIn_cons]
    refine ⟨?_, fun hrun hacc => (hsplit _).2 ?_⟩
    · rw [(hsplit _).2 rfl, ← List.append_assoc]
      refine (ihsub.append_left _).trans ?_
      rw [← List.append_assoc]
      exact hsub.append_right _
    · have hacc₁ := (runTopo_flags _ cs).2 hacc
      have hrun₁ := (addTopoStfData_flags b c.pDataOrig c.pSubSpecification c.pHdr c.frames
        c.pMaxNumMessages c.hdrAlloc).1
      rw [iheq (hrun₁.trans hrun) hacc, ← List.append_assoc, ← List.append_assoc]
      exact congrArg (· ++ handedIn cs di ss) (heq hrun hacc₁)

/-- Over every run from a state whose STFs made so far (`done` returned, and the waiting ones)
carry `topoIds k` and whose `sTfId` is the next of them, the STFs made at the end carry
`topoIds k'` for some `k'`, and `sTfId` is the next of them. -/
theorem runTopo_ids {b : TopoBuilder} {done : List SubTimeFrame} {k : Nat}
    (hk : (done ++ b.pendingStfs).map (·.mHeader.mId) ~ topoIds k)
    (hs : b.sTfId = (1 + k) % 2 ^ 32) (cs : List TopoCall) :
    ∃ k', (done ++ madeStfs (runTopo b cs)).map (·.mHeader.mId) ~ topoIds k' ∧
      (runTopo b cs).1.sTfId = (1 + k') % 2 ^ 32 := by
  induction cs generalizing b done k with
  | nil => exact ⟨k, by simpa [madeStfs, runTopo] using hk, hs⟩
  | cons c cs ih =>
    obtain ⟨hid, hsid⟩ := ids_addTopoStfData b c.pDataOrig c.pSubSpecification c.pHdr c.frames
      c.pMaxNumMessages c.hdrAlloc
    have hk' : done.map (·.mHeader.mId) ++ b.pendingStfs.map (·.mHeader.mId) ~ topoIds k := by
      rw [← List.map_append]; exact hk
    simp only [runTopo, madeStfs, List.map_append] at hid ⊢
    generalize b.addTopoStfData c.pDataOrig c.pSubSpecification c.pHdr c.frames c.pMaxNumMessages
      c.hdrAlloc = r at hid hsid ⊢
    obtain ⟨k₁, hk₁, hs₁⟩ : ∃ k₁, (done ++ r.2.toList ++ r.1.pendingStfs).map (·.mHeader.mId) ~
        topoIds k₁ ∧ r.1.sTfId = (1 + k₁) % 2 ^ 32 := by
      by_cases hc : (b.mRunning && b.mAcceptStfData &&
          (b.pendingStf c.pSubSpecification).isNone) = true
      · rw [if_pos hc] at hid hsid
        refine ⟨k + 1, ?_, by rw [hsid, hs]; omega⟩
        rw [topoIds_succ, ← hs, List.map_append, List.map_append, List.append_assoc]
        exact (hid.append_left _).trans (by rw [← List.append_assoc]; exact hk'.append_right _)
      · rw [if_neg hc, List.append_nil] at hid
        rw [if_neg hc] at hsid
        refine ⟨k, ?_, hsid.trans hs⟩
        rw [List.map_append, List.map_append, List.append_assoc]
        exact (hid.append_left _).trans hk'
    obtain ⟨k', h₁, h₂⟩ := @ih r.1 (done ++ r.2.toList) k₁ hk₁ hs₁
    exact ⟨k', by simpa [madeStfs] using h₁, h₂⟩


/-- Over every run from the program's start, for every data identifier and subspecification,
the frames of the returned STFs followed by those of the STF still waiting are, in order, a
sublist of the frames the calls handed in: none is duplicated or reordered.  They are exactly
those frames when the builder is running and still accepts data at the end, that is, when no
header allocation failed. -/
theorem runTopo_frames_conserved (mRunning mAcceptStfData : Bool) (cs : List TopoCall)
    (di : DataIdentifier) (ss : Nat) :
    heldFrames (runTopo (start mRunning mAcceptStfData) cs) di ss <+ handedIn cs di ss ∧
    (mRunning = true → (runTopo (start mRunning mAcceptStfData) cs).1.mAcceptStfData = true →
      heldFrames (runTopo (start mRunning mAcceptStfData) cs) di ss = handedIn cs di ss) := by
  simpa [pendingFrames, pendingStf, start] using
    runTopo_heldFrames (keyed_start mRunning mAcceptStfData) cs di ss

/-- Over every run from the program's start, the STFs made, returned or still waiting in
`mTopoStfMap`, carry the ids `1, 2, …, c` modulo `2^32`, one each, `c` being their number; so
their ids are distinct exactly while at most `2^32` STFs have been made. -/
theorem runTopo_stf_ids (mRunning mAcceptStfData : Bool) (cs : List TopoCall) :
    (madeStfs (runTopo (start mRunning mAcceptStfData) cs)).map (·.mHeader.mId) ~
      topoIds (madeStfs (runTopo (start mRunning mAcceptStfData) cs)).length ∧
    (((madeStfs (runTopo (start mRunning mAcceptStfData) cs)).map (·.mHeader.mId)).Nodup ↔
      (madeStfs (runTopo (start mRunning mAcceptStfData) cs)).length ≤ 2 ^ 32) := by
  obtain ⟨k, hk, -⟩ := @runTopo_ids (start mRunning mAcceptStfData) [] 0
    (by simp [start, pendingStfs, topoIds, StdMap.empty]) rfl cs
  rw [List.nil_append] at hk
  have hlen : (madeStfs (runTopo (start mRunning mAcceptStfData) cs)).length = k := by
    simpa [topoIds] using hk.length_eq
  rw [hlen]
  exact ⟨hk, hk.nodup_iff.trans (topoIds_nodup_iff k)⟩

end TopoBuilder

end DataDistribution.Common
