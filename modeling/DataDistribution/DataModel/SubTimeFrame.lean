import Mathlib.Algebra.Order.Ring.Nat
import DataDistribution.Base.StdMap

/-!
# SubTimeFrame: payload map, size cache and merging

`src/src/common/SubTimeFrameDataModel.cxx:31–173`.  A `DataPart` and a `HeaderMessage` carry an
address as their identity, so "the same message" survives the in-place header stamping.  The
log-only work of `mergeStf` (mismatch warnings, the equipment-duplicate scan) is left out.
-/

namespace DataDistribution.DataModel

open DataDistribution.Base

/-- The `o2::header::DataHeader` fields that `updateStf` writes. -/
structure DataHeader where
  tfCounter : Nat
  runNumber : Nat
  firstTForbit : Nat
  splitPayloadIndex : Nat
  splitPayloadParts : Nat
  deriving DecidableEq, Repr

/-- The header message of an `StfMessage`: its identity and the `DataHeader` of its stack. -/
structure HeaderMessage where
  addr : Nat
  dataHeader : Option DataHeader
  deriving DecidableEq, Repr

/-- One payload message: its identity and `GetSize()`. -/
structure DataPart where
  addr : Nat
  size : Nat
  deriving DecidableEq, Repr

/-- `StfMessage`: a (possibly null) header message and its data parts. -/
structure StfMessage where
  mHeader : Option HeaderMessage
  mDataParts : List DataPart
  deriving DecidableEq, Repr

/-- `SubTimeFrame::Header::Origin`, with the values the source compares against. -/
inductive Origin where
  | eNull
  | eReadout
  | eReadoutTopology
  deriving DecidableEq, Repr

/-- `SubTimeFrame::Header`. -/
structure Header where
  mId : Nat
  mRunNumber : Nat
  mFirstOrbit : Nat
  mOrigin : Origin
  mCreationTimeMs : Nat
  deriving DecidableEq, Repr

/-- `o2::header::DataIdentifier`, ordered as its `operator<`; kept abstract as a number. -/
abbrev DataIdentifier := Nat

/-- `o2::header::DataHeader::SubSpecificationType` (`uint32_t`). -/
abbrev SubSpecificationType := Nat

/-- `StfSubSpecMap`: sub-specification to message vector. -/
abbrev StfSubSpecMap := StdMap SubSpecificationType (List StfMessage)

/-- `StfDataIdentMap`: data identifier to sub-specification map. -/
abbrev StfDataIdentMap := StdMap DataIdentifier StfSubSpecMap

/-- `SubTimeFrame` with its mutable size cache (`mDataSize`, `mDataUpdated`). -/
structure SubTimeFrame where
  mHeader : Header
  mData : StfDataIdentMap
  mDataSize : Nat
  mDataUpdated : Bool

/-- `std::numeric_limits<std::uint32_t>::max()`: the first orbit is not set. -/
def invalidFirstOrbit : Nat := 4294967295

namespace StfMessage

/-- The messages `updateStf` counts: non-null header, some data part, a `DataHeader`. -/
def counted (m : StfMessage) : Bool :=
  match m.mHeader with
  | none => false
  | some h => !m.mDataParts.isEmpty && h.dataHeader.isSome

/-- Bytes `updateStf` adds to `mDataSize` for this message. -/
def countedSize (m : StfMessage) : Nat :=
  if m.counted then (m.mDataParts.map DataPart.size).sum else 0

/-- Modelled from the spec: `StfMessage::setTfCounter_RunNumber` and `setFirstOrbit`
(`SubTimeFrameDataModel.h`, not under `src/`) write the STF's id, run number and first orbit
into the message's `DataHeader`.  The split-payload counters follow
`SubTimeFrameDataModel.cxx:88–97`. -/
def stampDataHeader (h : Header) (nParts : Nat) (dh : DataHeader) : DataHeader :=
  let dh := { dh with tfCounter := h.mId, runNumber := h.mRunNumber }
  let dh := if h.mFirstOrbit ≠ invalidFirstOrbit then { dh with firstTForbit := h.mFirstOrbit }
    else dh
  if 1 < nParts then { dh with splitPayloadIndex := nParts, splitPayloadParts := nParts }
  else if nParts = 1 then { dh with splitPayloadIndex := 0, splitPayloadParts := 1 }
  else dh

/-- One iteration of `updateStf`'s message loop (`SubTimeFrameDataModel.cxx:56–98`). -/
def update (h : Header) (m : StfMessage) : StfMessage :=
  match m.mHeader with
  | none => m
  | some hm =>
    match hm.dataHeader with
    | none => m
    | some dh =>
      if m.mDataParts.isEmpty then m
      else { m with mHeader := some { hm with
        dataHeader := some (stampDataHeader h m.mDataParts.length dh) } }

/-- The message as an object: header identity and data parts, unaffected by stamping. -/
def ident (m : StfMessage) : Option Nat × List DataPart :=
  (m.mHeader.map HeaderMessage.addr, m.mDataParts)

/-- A counted message whose `DataHeader` carries the header's id, run number and orbit. -/
def StampedBy (h : Header) (m : StfMessage) : Prop :=
  ∃ hm dh, m.mHeader = some hm ∧ hm.dataHeader = some dh ∧ dh.tfCounter = h.mId ∧
    dh.runNumber = h.mRunNumber ∧ (h.mFirstOrbit ≠ invalidFirstOrbit → dh.firstTForbit = h.mFirstOrbit)

/-- Stamping keeps the message's header identity and data parts. -/
@[simp] theorem ident_update (h : Header) (m : StfMessage) : (m.update h).ident = m.ident := by
  obtain ⟨_ | ⟨addr, _ | dh⟩, parts⟩ := m <;> cases parts <;> simp [update, ident]

/-- Stamping keeps the data parts. -/
@[simp] theorem mDataParts_update (h : Header) (m : StfMessage) :
    (m.update h).mDataParts = m.mDataParts := by
  obtain ⟨_ | ⟨addr, _ | dh⟩, parts⟩ := m <;> cases parts <;> simp [update]

/-- Stamping keeps whether `updateStf` counts the message. -/
@[simp] theorem counted_update (h : Header) (m : StfMessage) : (m.update h).counted = m.counted := by
  obtain ⟨_ | ⟨addr, _ | dh⟩, parts⟩ := m <;> cases parts <;> simp [update, counted]

/-- Stamping keeps the bytes `updateStf` counts for the message. -/
@[simp] theorem countedSize_update (h : Header) (m : StfMessage) :
    (m.update h).countedSize = m.countedSize := by
  simp only [countedSize, counted_update, mDataParts_update]

/-- A counted message is stamped with the header it is updated by. -/
theorem stampedBy_update (h : Header) (m : StfMessage) (hc : m.counted) :
    (m.update h).StampedBy h := by
  obtain ⟨_ | ⟨addr, _ | dh⟩, _ | ⟨p, parts⟩⟩ := m <;> simp [counted] at hc
  refine ⟨_, _, rfl, rfl, ?_⟩
  simp only [stampDataHeader]
  split_ifs <;> simp_all

end StfMessage

/-- Every message of the payload, in map iteration order. -/
def messages (d : StfDataIdentMap) : List StfMessage :=
  d.entries.flatMap fun e => e.2.entries.flatMap Prod.snd

/-- The size `updateStf` computes: the counted bytes of every message. -/
def dataSize (d : StfDataIdentMap) : Nat := ((messages d).map StfMessage.countedSize).sum

/-- Apply a message update to every message of the payload, keeping every key. -/
def mapMessages (f : StfMessage → StfMessage) (d : StfDataIdentMap) : StfDataIdentMap :=
  d.mapVal (StdMap.mapVal (List.map f))

/-- The message vector stored under `(di, ss)`, if both keys are present. -/
def lookup (d : StfDataIdentMap) (di : DataIdentifier) (ss : SubSpecificationType) :
    Option (List StfMessage) :=
  (d.find? di).bind fun sm => sm.find? ss

/-- The messages after `mapMessages f` are the messages mapped by `f`, in order. -/
theorem messages_mapMessages (f : StfMessage → StfMessage) (d : StfDataIdentMap) :
    messages (mapMessages f d) = (messages d).map f := by
  simp [messages, mapMessages, StdMap.mapVal, List.map_flatMap, List.flatMap_map]

/-- The vector under a key after `mapMessages f` is the vector there mapped by `f`. -/
theorem lookup_mapMessages (f : StfMessage → StfMessage) (d : StfDataIdentMap) di ss :
    lookup (mapMessages f d) di ss = (lookup d di ss).map (List.map f) := by
  simp only [lookup, mapMessages, StdMap.find?_mapVal]
  cases d.find? di <;> simp

namespace SubTimeFrame

/-- `SubTimeFrame::updateStf` (`SubTimeFrameDataModel.cxx:38–102`). -/
def updateStf (s : SubTimeFrame) : SubTimeFrame :=
  if s.mDataUpdated then s
  else { s with
    mData := mapMessages (StfMessage.update s.mHeader) s.mData
    mDataSize := dataSize s.mData
    mDataUpdated := true }

/-- Modelled from the spec: `SubTimeFrame::getDataSize` (`SubTimeFrameDataModel.h`, not under
`src/`) refreshes the cache with `updateStf` and returns `mDataSize`. -/
def getDataSize (s : SubTimeFrame) : Nat × SubTimeFrame :=
  (s.updateStf.mDataSize, s.updateStf)

/-- Modelled from the spec: `SubTimeFrame::updateId` (`SubTimeFrameDataModel.h`, not under
`src/`) rewrites the STF's id (the topology-TF renaming of the TfBuilder). -/
def updateId (s : SubTimeFrame) (pNewId : Nat) : SubTimeFrame :=
  { s with mHeader := { s.mHeader with mId := pNewId } }

/-- `SubTimeFrame::getEquipmentIdentifiers`: every `(DataIdentifier, SubSpecification)` key. -/
def getEquipmentIdentifiers (s : SubTimeFrame) : List (DataIdentifier × SubSpecificationType) :=
  s.mData.entries.flatMap fun e => e.2.entries.map fun e' => (e.1, e'.1)

/-- `mData[lDataId][lSubSpec]` followed by the `std::move` of a vector onto its end. -/
def appendMessages (d : StfDataIdentMap) (di : DataIdentifier) (ss : SubSpecificationType)
    (v : List StfMessage) : StfDataIdentMap :=
  d.upsert di fun o => (o.getD StdMap.empty).upsert ss fun o' => o'.getD [] ++ v

/-- The merge loop of `mergeStf` (`SubTimeFrameDataModel.cxx:154–169`). -/
def mergeData (dst src : StfDataIdentMap) : StfDataIdentMap :=
  src.entries.foldl (fun d e => e.2.entries.foldl (fun d e' => appendMessages d e.1 e'.1 e'.2) d) dst

/-- `SubTimeFrame::mergeStf` (`SubTimeFrameDataModel.cxx:117–173`).  `getDataSize` runs, and
stamps the incoming STF, only when its origin is `eNull` (short-circuit `&&`). -/
def mergeStf (s pStf : SubTimeFrame) : SubTimeFrame :=
  let p := if pStf.mHeader.mOrigin = .eNull then pStf.updateStf else pStf
  if pStf.mHeader.mOrigin = .eNull ∧ p.mDataSize = 0 then s
  else
    let hdr := if s.mHeader.mOrigin = .eNull then p.mHeader else s.mHeader
    { s with mHeader := hdr, mData := mergeData s.mData p.mData }

/-! ### Building a readout STF -/

/-- Modelled from the spec: the constructor `SubTimeFrame(pStfId)` (`SubTimeFrameDataModel.h`,
not under `src/`): the id, no origin, no first orbit and no data.  The creation time is a clock
reading that nothing modelled reads; it is 0 here. -/
def ofId (pStfId : Nat) : SubTimeFrame :=
  ⟨⟨pStfId, 0, invalidFirstOrbit, .eNull, 0⟩, StdMap.empty, 0, false⟩

/-- Modelled from the spec: `updateRunNumber` sets the run number. -/
def updateRunNumber (s : SubTimeFrame) (pRunNumber : Nat) : SubTimeFrame :=
  { s with mHeader := { s.mHeader with mRunNumber := pRunNumber } }

/-- Modelled from the spec: `updateFirstOrbit` keeps the smallest orbit it is given; the unset
value `invalidFirstOrbit` lies above every 32-bit orbit. -/
def updateFirstOrbit (s : SubTimeFrame) (pOrbit : Nat) : SubTimeFrame :=
  { s with mHeader := { s.mHeader with mFirstOrbit := min s.mHeader.mFirstOrbit pOrbit } }

/-- Modelled from the spec: `addStfDataReadout` appends a message under `(pDataId, pSubSpec)` and
marks the size cache stale.  `addHbFrames` appends the later frames of an update to the message's
data parts through the vector it returns; the model appends the finished message. -/
def addStfDataReadout (s : SubTimeFrame) (pDataId : DataIdentifier)
    (pSubSpec : SubSpecificationType) (m : StfMessage) : SubTimeFrame :=
  { s with mData := appendMessages s.mData pDataId pSubSpec [m], mDataUpdated := false }

/-- Modelled from the spec: `clear` drops the STF's payload. -/
def clear (s : SubTimeFrame) : SubTimeFrame :=
  { s with mData := StdMap.empty, mDataUpdated := false }

/-- Modelled from the spec: `setOrigin` sets the origin of the STF's header. -/
def setOrigin (s : SubTimeFrame) (pOrigin : Origin) : SubTimeFrame :=
  { s with mHeader := { s.mHeader with mOrigin := pOrigin } }

end SubTimeFrame

end DataDistribution.DataModel
