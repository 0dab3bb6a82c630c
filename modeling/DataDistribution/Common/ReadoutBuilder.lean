import Mathlib.Data.List.Nodup
import DataDistribution.DataModel.SubTimeFrame

/-!
# Readout STF builder: adding an update of HB frames

`src/src/common/SubTimeFrameBuilder.cxx:52–227`.  `addHbFrames` marks the frames that the
empty-trigger filter and the RDH sanity check remove, and adds the rest as one message.  What
`RDHReader` and `ReadoutDataUtils` report is an input, as is the header allocation; the dump
loop runs on `fuel`.  The header's `payloadSize` and DPL header and logging are left out.
-/

namespace DataDistribution.Common

open DataDistribution.Base DataDistribution.DataModel

/-- `ReadoutDataUtils::SanityCheckMode`. -/
inductive SanityCheckMode where
  | eNoSanityCheck
  | eSanityCheckDrop
  | eSanityCheckPrint
  deriving DecidableEq, Repr

/-- The static `ReadoutDataUtils` settings that `addHbFrames` reads. -/
structure ReadoutSettings where
  sEmptyTriggerHBFrameFilterring : Bool
  sRdhSanityCheckMode : SanityCheckMode
  deriving DecidableEq, Repr

/-- The fields of `ReadoutSubTimeframeHeader` that `addHbFrames` uses. -/
structure ReadoutSubTimeframeHeader where
  mTimeFrameId : Nat
  mRunNumber : Nat
  mTimeframeOrbitFirst : Nat
  deriving DecidableEq, Repr

/-- What `RDHReader` reads from a frame's first RDH: `getSubSpecification(R)` and `getOrbit()`. -/
structure RdhInfo where
  subSpecification : Nat
  orbit : Nat
  deriving DecidableEq, Repr

/-- An HB frame message and what the readout helpers report on it: its first RDH (`none` where
`RDHReader` throws), whether `filterEmptyTriggerBlocks` flags it, whether `rdhSanityCheck` passes
it, and the `offsetToNext` of the RDH that `RDHReader` reads at each byte index (`none` where it
throws). -/
structure HbFrame where
  msg : DataPart
  rdh : Option RdhInfo
  emptyTrigger : Bool
  sanityOk : Bool
  offsetToNext : Nat → Option Nat

/-- The state of `SubTimeFrameReadoutBuilder` that `addHbFrames` reads and writes;
`mFirstFiltered` holds the subspecifications whose entry is `true`. -/
structure ReadoutBuilder where
  mRunning : Bool
  mAcceptStfData : Bool
  mStf : Option SubTimeFrame
  mFirstFiltered : List Nat

/-! ### The RDH dump loop -/

/-- How a bounded run of the dump loop ends: past the frame's end with the indices it dumped, by
an exception of `RDHReader`, or still running. -/
inductive DumpResult where
  | finished (idxs : List Nat)
  | threw
  | running
  deriving DecidableEq, Repr

/-- One more dumped index in front. -/
def DumpResult.cons (i : Nat) : DumpResult → DumpResult
  | .finished idxs => .finished (i :: idxs)
  | r => r

/-- A dumped index in front does not make a finished or failed dump run on. -/
theorem DumpResult.cons_ne_running {r : DumpResult} (i : Nat) (h : r ≠ .running) :
    r.cons i ≠ .running := by
  cases r <;> simp_all [DumpResult.cons]

/-- The RDH dump loop of the `eSanityCheckPrint` branch (lines 159–173) over a frame of `size`
bytes, for at most `fuel` iterations, from `lCurrentDataIdx`. -/
def dumpLoop (size : Nat) (offsetToNext : Nat → Option Nat) : Nat → Nat → DumpResult
  | 0, _ => .running
  | fuel + 1, lCurrentDataIdx =>
    if lCurrentDataIdx < size then
      match offsetToNext lCurrentDataIdx with
      | none => .threw
      | some off =>
        (dumpLoop size offsetToNext fuel
          (lCurrentDataIdx + min off (size - lCurrentDataIdx))).cons lCurrentDataIdx
    else .finished []

/-- An RDH inside the frame whose `offsetToNext` is 0 keeps the index where it is: the loop runs
out of every bound. -/
theorem dumpLoop_stuck {size : Nat} {offsetToNext : Nat → Option Nat} {i : Nat} (hi : i < size)
    (h0 : offsetToNext i = some 0) (fuel : Nat) : dumpLoop size offsetToNext fuel i = .running := by
  induction fuel with
  | zero => rfl
  | succ fuel ih => simp [dumpLoop, hi, h0, ih, DumpResult.cons]

/-- When every RDH the loop can reach has a positive `offsetToNext`, the index strictly grows
until it leaves the frame, so the loop ends within `size - i + 1` iterations. -/
theorem dumpLoop_finishes {size : Nat} {offsetToNext : Nat → Option Nat}
    (hpos : ∀ j < size, ∀ off, offsetToNext j = some off → 0 < off) {fuel i : Nat}
    (hfuel : size - i < fuel) : dumpLoop size offsetToNext fuel i ≠ .running := by
  induction fuel generalizing i with
  | zero => omega
  | succ fuel ih =>
    unfold dumpLoop
    split_ifs with hi
    · cases hoff : offsetToNext i with
      | none => simp
      | some off =>
        have := hpos i hi off hoff
        exact DumpResult.cons_ne_running i (ih (by omega))
    · simp

/-- A frame of three bytes whose every RDH points one byte on: four iterations finish the dump. -/
theorem dumpLoop_finishes_one_byte_steps :
    (∀ j < 3, ∀ off, (fun _ => some 1 : Nat → Option Nat) j = some off → 0 < off) ∧ 3 - 0 < 4 ∧
      dumpLoop 3 (fun _ => some 1) 4 0 ≠ .running :=
  have hpos : ∀ j < 3, ∀ off, (fun _ => some 1 : Nat → Option Nat) j = some off → 0 < off :=
    fun _ _ _ h => by cases h; decide
  ⟨hpos, by decide, dumpLoop_finishes hpos (by decide)⟩

/-! ### Marking the frames -/

/-- The empty-trigger filter (lines 91–123): the removal marks and `mFirstFiltered` after it.
Frame 0 is kept when its subspecification has no entry yet, which it then gets; every other
frame is marked as `filterEmptyTriggerBlocks` says.  `none` where `RDHReader` throws on
frame 0. -/
def emptyTriggerFilter (filtering : Bool) (mFirstFiltered : List Nat) :
    List HbFrame → Option (List Bool × List Nat)
  | [] => some ([], mFirstFiltered)
  | f :: rest =>
    if filtering then
      match f.rdh with
      | none => none
      | some r =>
        if r.subSpecification ∈ mFirstFiltered then
          some ((f :: rest).map (·.emptyTrigger), mFirstFiltered)
        else some (false :: rest.map (·.emptyTrigger), r.subSpecification :: mFirstFiltered)
    else some ((f :: rest).map fun _ => false, mFirstFiltered)

/-- The RDH sanity check of a frame not yet removed (lines 135–175): its mark, or `none` where
`RDHReader` throws on it or its dump throws or is still running after `fuel` iterations. -/
def sanityCheckBlock (mode : SanityCheckMode) (fuel : Nat) (f : HbFrame) : Option Bool :=
  if f.sanityOk then some false
  else match mode with
    | .eSanityCheckDrop => some true
    | .eSanityCheckPrint =>
      match f.rdh, dumpLoop f.msg.size f.offsetToNext fuel 0 with
      | some _, .finished _ => some false
      | _, _ => none
    | .eNoSanityCheck => some false

/-- The loop of the RDH sanity check over the frames and their marks. -/
def sanityLoop (mode : SanityCheckMode) (fuel : Nat) : List (HbFrame × Bool) → Option (List Bool)
  | [] => some []
  | (f, removed) :: rest =>
    if removed then (sanityLoop mode fuel rest).map (true :: ·)
    else (sanityCheckBlock mode fuel f).bind fun r => (sanityLoop mode fuel rest).map (r :: ·)

/-- The RDH sanity check (lines 125–177). -/
def sanityCheck (mode : SanityCheckMode) (fuel : Nat) (blocks : List (HbFrame × Bool)) :
    Option (List Bool) :=
  if mode = .eNoSanityCheck then some (blocks.map (·.2)) else sanityLoop mode fuel blocks

/-- Lines 88–177: the removal marks of the frames, and `mFirstFiltered` after the filter. -/
def markBlocks (cfg : ReadoutSettings) (fuel : Nat) (mFirstFiltered : List Nat)
    (frames : List HbFrame) : Option (List Bool × List Nat) :=
  (emptyTriggerFilter cfg.sEmptyTriggerHBFrameFilterring mFirstFiltered frames).bind fun p =>
    (sanityCheck cfg.sRdhSanityCheckMode fuel (frames.zip p.1)).map fun remove => (remove, p.2)

/-! ### Adding the frames -/

/-- Modelled from the spec: the `DataHeader` stacked into the header of a new message (lines
180–187), with the defaults of `o2::header::DataHeader` for the fields `updateStf` writes. -/
def rawDataHeader : DataHeader := ⟨0, 0, 0, 0, 1⟩

/-- The identifier `(RawData, pDataOrig)`: the description is fixed, so the origin tells these
identifiers apart. -/
def rawDataIdentifier (pDataOrig : Nat) : DataIdentifier := pDataOrig

/-- The messages of the frames not marked removed, in order. -/
def keptFrames (blocks : List (HbFrame × Bool)) : List DataPart :=
  blocks.filterMap fun b => if b.2 then none else some b.1.msg

/-- The add loop (lines 194–225) from the message it has started (`pInVector`): the first frame
not marked removed allocates the header (`hdrAlloc`; the loop fails with `none` when
`newHeaderMessage` does) and starts the message, and every later one is appended to it. -/
def addLoop (hdrAlloc : Option Nat) :
    Option StfMessage → List (HbFrame × Bool) → Option (Option StfMessage)
  | pInVector, [] => some pInVector
  | pInVector, (_, true) :: rest => addLoop hdrAlloc pInVector rest
  | none, (f, false) :: rest =>
    match hdrAlloc with
    | none => none
    | some a => addLoop hdrAlloc (some ⟨some ⟨a, some rawDataHeader⟩, [f.msg]⟩) rest
  | some m, (f, false) :: rest =>
    addLoop hdrAlloc (some { m with mDataParts := m.mDataParts ++ [f.msg] }) rest

/-- The first orbit to set (lines 78–89): the header's, or that of frame 0's RDH; `some none`
where `RDHReader` throws on frame 0 (the call returns `false`), `none` where the update has no
frame 0 to read. -/
def firstOrbit (pHdr : ReadoutSubTimeframeHeader) (frames : List HbFrame) : Option (Option Nat) :=
  if pHdr.mTimeframeOrbitFirst ≠ 0 then some (some pHdr.mTimeframeOrbitFirst)
  else match frames with
    | [] => none
    | f :: _ => some (f.rdh.map (·.orbit))

namespace ReadoutBuilder

/-- Lines 70–76: the STF being built, a new one when there is none. -/
def currentStf (b : ReadoutBuilder) (pHdr : ReadoutSubTimeframeHeader) : SubTimeFrame :=
  match b.mStf with
  | some stf => stf
  | none => (SubTimeFrame.ofId pHdr.mTimeFrameId).updateRunNumber pHdr.mRunNumber

/-- `mFirstFiltered` as the filter sees it: cleared when a new STF is opened. -/
def currentFirstFiltered (b : ReadoutBuilder) : List Nat :=
  match b.mStf with
  | some _ => b.mFirstFiltered
  | none => []

/-- Lines 78–226, on the STF being built and its `mFirstFiltered`. -/
def addFrames (stf : SubTimeFrame) (mFirstFiltered : List Nat) (cfg : ReadoutSettings)
    (fuel pDataOrig pSubSpecification : Nat) (pHdr : ReadoutSubTimeframeHeader)
    (frames : List HbFrame) (hdrAlloc : Option Nat) : Option (ReadoutBuilder × Bool) :=
  match firstOrbit pHdr frames with
  | none => none
  | some none => some (⟨true, true, some stf, mFirstFiltered⟩, false)
  | some (some o) =>
    (markBlocks cfg fuel mFirstFiltered frames).bind fun p =>
      if pHdr.mTimeFrameId ≠ stf.mHeader.mId then none
      else match addLoop hdrAlloc none (frames.zip p.1) with
        | none => some (⟨true, false, some (stf.updateFirstOrbit o).clear, p.2⟩, false)
        | some none => some (⟨true, true, some (stf.updateFirstOrbit o), p.2⟩, true)
        | some (some m) =>
          some (⟨true, true, some ((stf.updateFirstOrbit o).addStfDataReadout
            (rawDataIdentifier pDataOrig) pSubSpecification m), p.2⟩, true)

/-- `SubTimeFrameReadoutBuilder::addHbFrames` (lines 52–227): the builder after the call and
what the call returns. -/
def addHbFrames (b : ReadoutBuilder) (cfg : ReadoutSettings) (fuel pDataOrig pSubSpecification : Nat)
    (pHdr : ReadoutSubTimeframeHeader) (frames : List HbFrame) (hdrAlloc : Option Nat) :
    Option (ReadoutBuilder × Bool) :=
  if !b.mRunning then some ({ b with mAcceptStfData := false }, false)
  else if !b.mAcceptStfData then some (b, false)
  else addFrames (b.currentStf pHdr) b.currentFirstFiltered cfg fuel pDataOrig pSubSpecification
    pHdr frames hdrAlloc

end ReadoutBuilder

/-! ### What one call adds -/

variable {cfg : ReadoutSettings} {fuel pDataOrig pSubSpecification : Nat}
  {pHdr : ReadoutSubTimeframeHeader} {frames : List HbFrame} {hdrAlloc : Option Nat}

/-- The filter marks every frame. -/
theorem emptyTriggerFilter_length {filtering : Bool} {ff ff' : List Nat} {remove : List Bool}
    (h : emptyTriggerFilter filtering ff frames = some (remove, ff')) :
    remove.length = frames.length := by
  cases frames with
  | nil => obtain ⟨rfl, -⟩ := Prod.mk.inj (Option.some.inj h); rfl
  | cons f rest =>
    simp only [emptyTriggerFilter] at h
    split_ifs at h
    · split at h
      · cases h
      · split_ifs at h <;> obtain ⟨rfl, -⟩ := Prod.mk.inj (Option.some.inj h) <;> simp
    · obtain ⟨rfl, -⟩ := Prod.mk.inj (Option.some.inj h); simp

/-- The filter only adds the subspecification of frame 0 to `mFirstFiltered`. -/
theorem emptyTriggerFilter_firstFiltered {filtering : Bool} {ff ff' : List Nat}
    {remove : List Bool} (h : emptyTriggerFilter filtering ff frames = some (remove, ff')) :
    ∀ X ∈ ff', X ∈ ff ∨ (frames.head?.bind (·.rdh)).map (·.subSpecification) = some X := by
  cases frames with
  | nil => obtain ⟨-, rfl⟩ := Prod.mk.inj (Option.some.inj h); exact fun X hX => .inl hX
  | cons f rest =>
    simp only [emptyTriggerFilter] at h
    split_ifs at h
    · split at h
      · cases h
      · next r hr =>
        split_ifs at h
        · obtain ⟨-, rfl⟩ := Prod.mk.inj (Option.some.inj h); exact fun X hX => .inl hX
        · obtain ⟨-, rfl⟩ := Prod.mk.inj (Option.some.inj h)
          intro X hX
          rcases List.mem_cons.mp hX with rfl | hX
          · exact .inr (by simp [hr])
          · exact .inl hX
    · obtain ⟨-, rfl⟩ := Prod.mk.inj (Option.some.inj h); exact fun X hX => .inl hX

/-- With filtering on, frame 0 is kept when its subspecification has no entry yet. -/
theorem emptyTriggerFilter_keeps_first {ff ff' : List Nat} {remove : List Bool} {f : HbFrame}
    {rest : List HbFrame} {r : RdhInfo} (h : emptyTriggerFilter true ff (f :: rest) = some (remove, ff'))
    (hr : f.rdh = some r) (hX : r.subSpecification ∉ ff) : remove.head? = some false := by
  simp only [emptyTriggerFilter, if_true, hr, hX, if_false] at h
  obtain ⟨rfl, -⟩ := Prod.mk.inj (Option.some.inj h)
  rfl

/-- The sanity check marks every frame. -/
theorem sanityLoop_length {mode : SanityCheckMode} {blocks : List (HbFrame × Bool)}
    {remove : List Bool} (h : sanityLoop mode fuel blocks = some remove) :
    remove.length = blocks.length := by
  induction blocks generalizing remove with
  | nil => obtain rfl := Option.some.inj h; rfl
  | cons b rest ih =>
    obtain ⟨f, removed⟩ := b
    simp only [sanityLoop] at h
    split_ifs at h
    · obtain ⟨r, hr, rfl⟩ := Option.map_eq_some'.mp h; simp [ih hr]
    · obtain ⟨r, -, h⟩ := Option.bind_eq_some.mp h
      obtain ⟨rs, hrs, rfl⟩ := Option.map_eq_some'.mp h
      simp [ih hrs]

/-- The marks cover every frame, and the `mFirstFiltered` after them is the empty-trigger
filter's. -/
theorem markBlocks_spec {ff ff' : List Nat} {remove : List Bool}
    (h : markBlocks cfg fuel ff frames = some (remove, ff')) :
    remove.length = frames.length ∧
      ∃ remove₀, emptyTriggerFilter cfg.sEmptyTriggerHBFrameFilterring ff frames = some (remove₀, ff') := by
  obtain ⟨⟨remove₀, ff₀⟩, h₀, h⟩ := Option.bind_eq_some.mp h
  obtain ⟨remove', h₁, he⟩ := Option.map_eq_some'.mp h
  obtain ⟨rfl, rfl⟩ := Prod.mk.inj he
  have hlen₀ := emptyTriggerFilter_length h₀
  refine ⟨?_, remove₀, h₀⟩
  unfold sanityCheck at h₁
  split_ifs at h₁
  · obtain rfl := Option.some.inj h₁; simp [hlen₀]
  · simp [sanityLoop_length h₁, hlen₀]

/-- Once a message is started, every later frame not marked removed is appended to it. -/
theorem addLoop_some (m : StfMessage) (blocks : List (HbFrame × Bool)) :
    addLoop hdrAlloc (some m) blocks =
      some (some { m with mDataParts := m.mDataParts ++ keptFrames blocks }) := by
  induction blocks generalizing m with
  | nil => simp [addLoop, keptFrames]
  | cons b rest ih =>
    obtain ⟨f, _ | _⟩ := b
    · simp [addLoop, ih, keptFrames]
    · simpa [addLoop, keptFrames] using ih m

/-- The add loop from no message: nothing when every frame is marked, otherwise one message of a
new header and the kept frames, if the header allocates. -/
theorem addLoop_none (blocks : List (HbFrame × Bool)) :
    addLoop hdrAlloc none blocks =
      if keptFrames blocks = [] then some none
      else hdrAlloc.map fun a => some ⟨some ⟨a, some rawDataHeader⟩, keptFrames blocks⟩ := by
  induction blocks with
  | nil => rfl
  | cons b rest ih =>
    obtain ⟨f, _ | _⟩ := b
    · cases hdrAlloc <;> simp [addLoop, addLoop_some, keptFrames]
    · simpa [addLoop, keptFrames] using ih

/-- With distinct frame messages, no frame marked removed is among the kept messages. -/
theorem not_mem_keptFrames {remove : List Bool} (hlen : remove.length = frames.length)
    (hnd : (frames.map (·.msg)).Nodup) {fr : HbFrame × Bool} (hfr : fr ∈ frames.zip remove)
    (hr : fr.2 = true) : fr.1.msg ∉ keptFrames (frames.zip remove) := by
  intro hm
  obtain ⟨g, hg, hgm⟩ := List.mem_filterMap.1 hm
  have hnd' : ((frames.zip remove).map fun p => p.1.msg).Nodup := by
    rw [← List.map_fst_zip frames remove hlen.ge, List.map_map] at hnd
    exact hnd
  split_ifs at hgm with hg2
  obtain rfl := List.inj_on_of_nodup_map hnd' hg hfr (Option.some.inj hgm)
  simp [hr] at hg2

namespace ReadoutBuilder

/-- Every way a call can end: returning `false` with the filter's view of `mFirstFiltered` left
as it was; or after marking the frames, with the filter's `mFirstFiltered`, and either returning
`false` or leaving in the STF being built what the add loop made. -/
theorem addHbFrames_cases {b b' : ReadoutBuilder} {ret : Bool}
    (h : b.addHbFrames cfg fuel pDataOrig pSubSpecification pHdr frames hdrAlloc = some (b', ret)) :
    (ret = false ∧ b'.currentFirstFiltered = b.currentFirstFiltered) ∨
    ∃ remove ff, markBlocks cfg fuel b.currentFirstFiltered frames = some (remove, ff) ∧
      b'.currentFirstFiltered = ff ∧
      (ret = false ∨
        addLoop hdrAlloc none (frames.zip remove) = some none ∧
          b'.mStf.map (·.mData) = some (b.currentStf pHdr).mData ∨
        ∃ m, addLoop hdrAlloc none (frames.zip remove) = some (some m) ∧
          b'.mStf.map (·.mData) = some (SubTimeFrame.appendMessages (b.currentStf pHdr).mData
            (rawDataIdentifier pDataOrig) pSubSpecification [m])) := by
  unfold addHbFrames at h
  split_ifs at h
  · obtain ⟨rfl, rfl⟩ := Prod.mk.inj (Option.some.inj h); exact .inl ⟨rfl, rfl⟩
  · obtain ⟨rfl, rfl⟩ := Prod.mk.inj (Option.some.inj h); exact .inl ⟨rfl, rfl⟩
  unfold addFrames at h
  cases ho : firstOrbit pHdr frames with
  | none => simp [ho] at h
  | some o =>
    cases o with
    | none =>
      simp only [ho, Option.some.injEq, Prod.mk.injEq] at h
      obtain ⟨rfl, rfl⟩ := h
      exact .inl ⟨rfl, rfl⟩
    | some o =>
      simp only [ho] at h
      obtain ⟨⟨remove, ff⟩, hm, h⟩ := Option.bind_eq_some.mp h
      refine .inr ⟨remove, ff, hm, ?_⟩
      split_ifs at h
      split at h <;> obtain ⟨rfl, rfl⟩ := Prod.mk.inj (Option.some.inj h)
      · exact ⟨rfl, .inl rfl⟩
      · exact ⟨rfl, .inr (.inl ⟨‹_›, rfl⟩)⟩
      · exact ⟨rfl, .inr (.inr ⟨_, ‹_›, rfl⟩)⟩

/-- A call that returns `true` adds to the STF being built exactly one message under
`(RawData, pDataOrig)` and `pSubSpecification`: a new header followed, in order, by the frames its
marks keep; or nothing, when every frame is marked. -/
theorem addHbFrames_true {b b' : ReadoutBuilder}
    (h : b.addHbFrames cfg fuel pDataOrig pSubSpecification pHdr frames hdrAlloc = some (b', true)) :
    ∃ remove ff, markBlocks cfg fuel b.currentFirstFiltered frames = some (remove, ff) ∧
      (keptFrames (frames.zip remove) = [] ∧ b'.mStf.map (·.mData) = some (b.currentStf pHdr).mData ∨
        ∃ a, hdrAlloc = some a ∧ b'.mStf.map (·.mData) =
          some (SubTimeFrame.appendMessages (b.currentStf pHdr).mData (rawDataIdentifier pDataOrig)
            pSubSpecification [⟨some ⟨a, some rawDataHeader⟩, keptFrames (frames.zip remove)⟩])) := by
  rcases addHbFrames_cases h with ⟨h', -⟩ | ⟨remove, ff, hm, -, hret | ⟨hl, hd⟩ | ⟨m, hl, hd⟩⟩
  · cases h'
  · cases hret
  · refine ⟨remove, ff, hm, .inl ⟨?_, hd⟩⟩
    rw [addLoop_none] at hl
    split_ifs at hl with hk
    · exact hk
    · cases hdrAlloc <;> simp at hl
  · refine ⟨remove, ff, hm, .inr ?_⟩
    rw [addLoop_none] at hl
    split_ifs at hl
    · simp at hl
    obtain ⟨a, ha, hma⟩ := Option.map_eq_some'.mp hl
    obtain rfl := Option.some.inj hma
    exact ⟨a, ha, hd⟩

/-- A call only adds the subspecification of its frame 0 to `mFirstFiltered` of the STF being
built. -/
theorem addHbFrames_firstFiltered {b b' : ReadoutBuilder} {ret : Bool}
    (h : b.addHbFrames cfg fuel pDataOrig pSubSpecification pHdr frames hdrAlloc = some (b', ret)) :
    ∀ X ∈ b'.currentFirstFiltered,
      X ∈ b.currentFirstFiltered ∨ (frames.head?.bind (·.rdh)).map (·.subSpecification) = some X := by
  rcases addHbFrames_cases h with ⟨-, hff⟩ | ⟨remove, ff, hm, hff, -⟩
  · rw [hff]; exact fun X hX => .inl hX
  · obtain ⟨-, remove₀, hf⟩ := markBlocks_spec hm
    rw [hff]; exact emptyTriggerFilter_firstFiltered hf

end ReadoutBuilder

/-! ### Runs of calls -/

/-- One `addHbFrames` call: its arguments, and whether the header it needs allocates. -/
structure HbFramesCall where
  pDataOrig : Nat
  pSubSpecification : Nat
  pHdr : ReadoutSubTimeframeHeader
  frames : List HbFrame
  hdrAlloc : Option Nat

/-- The subspecification of the call's frame 0, when `RDHReader` reads it. -/
def HbFramesCall.firstSubSpecification (c : HbFramesCall) : Option Nat :=
  (c.frames.head?.bind (·.rdh)).map (·.subSpecification)

/-- A sequence of calls; `none` once a call has no result. -/
def runCalls (cfg : ReadoutSettings) (fuel : Nat) : ReadoutBuilder → List HbFramesCall →
    Option ReadoutBuilder
  | b, [] => some b
  | b, c :: cs =>
    (b.addHbFrames cfg fuel c.pDataOrig c.pSubSpecification c.pHdr c.frames c.hdrAlloc).bind
      fun r => runCalls cfg fuel r.1 cs

/-- Over every run, `mFirstFiltered` of the STF being built only holds subspecifications that it
held before or that frame 0 of a call of the run had. -/
theorem runCalls_firstFiltered {b b' : ReadoutBuilder} {cs : List HbFramesCall}
    (h : runCalls cfg fuel b cs = some b') :
    ∀ X ∈ b'.currentFirstFiltered,
      X ∈ b.currentFirstFiltered ∨ ∃ c ∈ cs, c.firstSubSpecification = some X := by
  induction cs generalizing b with
  | nil => obtain rfl := Option.some.inj h; exact fun X hX => .inl hX
  | cons c cs ih =>
    obtain ⟨⟨b₁, ret⟩, h₁, h⟩ := Option.bind_eq_some.mp h
    intro X hX
    rcases ih h X hX with hX | ⟨c', hc', hc'X⟩
    · rcases ReadoutBuilder.addHbFrames_firstFiltered h₁ X hX with hX | hX
      · exact .inl hX
      · exact .inr ⟨c, List.mem_cons_self _ _, hX⟩
    · exact .inr ⟨c', List.mem_cons_of_mem _ hc', hc'X⟩

/-! ### What the calls add to an STF -/

/-- What a call that returns `true` did to the STF being built: it marked the frames, and the
STF gained one message under `(RawData, pDataOrig)` and `pSubSpecification` holding a new header
and, in input order, exactly the frames not marked removed, or nothing when every frame was
marked; and a frame marked removed is not in the message, when the frames' messages are
distinct. -/
def AddsKeptFrames (b b' : ReadoutBuilder) (cfg : ReadoutSettings)
    (fuel pDataOrig pSubSpecification : Nat) (pHdr : ReadoutSubTimeframeHeader)
    (frames : List HbFrame) (hdrAlloc : Option Nat) : Prop :=
  ∃ remove ff, markBlocks cfg fuel b.currentFirstFiltered frames = some (remove, ff) ∧
    remove.length = frames.length ∧
    (keptFrames (frames.zip remove) = [] ∧
        b'.mStf.map (·.mData) = some (b.currentStf pHdr).mData ∨
      ∃ a, hdrAlloc = some a ∧ b'.mStf.map (·.mData) =
        some (SubTimeFrame.appendMessages (b.currentStf pHdr).mData (rawDataIdentifier pDataOrig)
          pSubSpecification [⟨some ⟨a, some rawDataHeader⟩, keptFrames (frames.zip remove)⟩])) ∧
    ((frames.map (·.msg)).Nodup →
      ∀ fr ∈ frames.zip remove, fr.2 = true → fr.1.msg ∉ keptFrames (frames.zip remove))

/-- Every call that returns `true` adds its kept frames as `AddsKeptFrames` says.  Over every
sequence of calls that starts with no STF, frame 0 of a call whose subspecification no earlier
call's frame 0 had is not marked by the empty-trigger filter with filtering on. -/
theorem addHbFrames_adds_kept_frames :
    (∀ (b b' : ReadoutBuilder) (cfg : ReadoutSettings) (fuel pDataOrig pSubSpecification : Nat)
        (pHdr : ReadoutSubTimeframeHeader) (frames : List HbFrame) (hdrAlloc : Option Nat),
      b.addHbFrames cfg fuel pDataOrig pSubSpecification pHdr frames hdrAlloc = some (b', true) →
      AddsKeptFrames b b' cfg fuel pDataOrig pSubSpecification pHdr frames hdrAlloc) ∧
    (∀ (cfg : ReadoutSettings) (fuel : Nat) (b₀ b : ReadoutBuilder) (pre : List HbFramesCall)
        (c : HbFramesCall) (r : RdhInfo) (remove : List Bool) (ff : List Nat),
      b₀.mStf = none → runCalls cfg fuel b₀ pre = some b →
      c.frames.head?.bind (·.rdh) = some r →
      (∀ c' ∈ pre, c'.firstSubSpecification ≠ some r.subSpecification) →
      emptyTriggerFilter true b.currentFirstFiltered c.frames = some (remove, ff) →
      remove.head? = some false) := by
  refine ⟨fun b b' cfg fuel pDataOrig pSubSpecification pHdr frames hdrAlloc h => ?_,
    fun cfg fuel b₀ b pre c r remove ff h₀ hrun hr hfirst hf => ?_⟩
  · obtain ⟨remove, ff, hm, hdata⟩ := ReadoutBuilder.addHbFrames_true h
    have hlen := (markBlocks_spec hm).1
    exact ⟨remove, ff, hm, hlen, hdata, fun hnd fr hfr hr => not_mem_keptFrames hlen hnd hfr hr⟩
  · have hX : r.subSpecification ∉ b.currentFirstFiltered := by
      intro hX
      rcases runCalls_firstFiltered hrun _ hX with hX | ⟨c', hc', hc'X⟩
      · simp [ReadoutBuilder.currentFirstFiltered, h₀] at hX
      · exact hfirst c' hc' hc'X
    cases hc : c.frames with
    | nil => simp [hc] at hr
    | cons f rest =>
      rw [hc] at hf hr
      exact emptyTriggerFilter_keeps_first hf (by simpa using hr) hX

/-- A builder with no STF yet, running and accepting data. -/
def freshReadoutBuilder : ReadoutBuilder := ⟨true, true, none, []⟩

/-- Empty-trigger filtering on, no RDH sanity check. -/
def filteringSettings : ReadoutSettings := ⟨true, .eNoSanityCheck⟩

/-- The header of STF 1 of run 1, with first orbit 1. -/
def firstHeader : ReadoutSubTimeframeHeader := ⟨1, 1, 1⟩

/-- Two 64-byte empty-trigger frames of equipment 5. -/
def twoEmptyFrames : List HbFrame :=
  [⟨⟨10, 64⟩, some ⟨5, 1⟩, true, true, fun _ => some 64⟩,
   ⟨⟨11, 64⟩, some ⟨5, 1⟩, true, true, fun _ => some 64⟩]

/-- The builder after the first update of equipment 5: one message of a new header and frame 0. -/
def firstUpdateResult : ReadoutBuilder :=
  ⟨true, true, some ((((SubTimeFrame.ofId 1).updateRunNumber 1).updateFirstOrbit 1).addStfDataReadout
    (rawDataIdentifier 0) 5 ⟨some ⟨7, some rawDataHeader⟩, [⟨10, 64⟩]⟩), [5]⟩

/-- The first update of equipment 5, two empty-trigger frames: frame 0 stays and frame 1 goes. -/
theorem addHbFrames_adds_kept_frames_first_update :
    (freshReadoutBuilder.addHbFrames filteringSettings 1 0 5 firstHeader twoEmptyFrames (some 7) =
        some (firstUpdateResult, true) ∧
      AddsKeptFrames freshReadoutBuilder firstUpdateResult filteringSettings 1 0 5 firstHeader
        twoEmptyFrames (some 7)) ∧
    (emptyTriggerFilter true freshReadoutBuilder.currentFirstFiltered twoEmptyFrames =
        some ([false, true], [5]) ∧ ([false, true] : List Bool).head? = some false) :=
  have h : freshReadoutBuilder.addHbFrames filteringSettings 1 0 5 firstHeader twoEmptyFrames
      (some 7) = some (firstUpdateResult, true) := rfl
  have hf : emptyTriggerFilter true freshReadoutBuilder.currentFirstFiltered twoEmptyFrames =
      some ([false, true], [5]) := rfl
  ⟨⟨h, addHbFrames_adds_kept_frames.1 _ _ _ _ _ _ _ _ _ h⟩,
    ⟨hf, addHbFrames_adds_kept_frames.2 filteringSettings 1 freshReadoutBuilder freshReadoutBuilder []
      ⟨0, 5, firstHeader, twoEmptyFrames, some 7⟩ ⟨5, 1⟩ _ _ rfl rfl rfl (by simp) hf⟩⟩

/-- RDH sanity checking in `eSanityCheckPrint` mode, no empty-trigger filtering. -/
def printSettings : ReadoutSettings := ⟨false, .eSanityCheckPrint⟩

/-- A 64-byte frame that fails the RDH sanity check and whose RDH reads `offsetToNext = 0`. -/
def zeroOffsetFrame : HbFrame := ⟨⟨10, 64⟩, some ⟨5, 1⟩, false, false, fun _ => some 0⟩

/-- Printing a frame whose RDH reads `offsetToNext = 0` never ends: for every bound on the dump
loop, `addHbFrames` is still dumping index 0 of the frame. -/
theorem addHbFrames_dump_never_returns (fuel : Nat) :
    freshReadoutBuilder.addHbFrames printSettings fuel 0 5 firstHeader [zeroOffsetFrame] (some 7) =
      none := by
  have hstuck : dumpLoop 64 (fun _ => some 0) fuel 0 = .running :=
    @dumpLoop_stuck 64 (fun _ => some 0) 0 (by decide) rfl fuel
  simp [ReadoutBuilder.addHbFrames, ReadoutBuilder.addFrames, freshReadoutBuilder, printSettings,
    firstHeader, zeroOffsetFrame, firstOrbit, markBlocks, emptyTriggerFilter, sanityCheck,
    sanityLoop, sanityCheckBlock, hstuck]

end DataDistribution.Common
