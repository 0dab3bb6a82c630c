import DataDistribution.Common.AdaptHeaders

/-!
# TF builders: what adapting the headers does to a TF

The contracts of the loop bodies of `src/src/common/SubTimeFrameBuilder.cxx:349–566` and,
through the loop rules `forEach_spec` and `forEach_guard`, what whole calls do: where a call
never finishes, where it adapts every message, and that a second call changes nothing.
-/

namespace DataDistribution.Common

open DataDistribution.Base DataDistribution.DataModel SyncMemoryResources

/-- The addresses of a message's header and data messages. -/
def messageAddrs (m : StfMessage) : List Nat :=
  (m.mHeader.map HeaderMessage.addr).toList ++ m.mDataParts.map DataPart.addr

/-- What adapting must keep of a message: the `DataHeader` behind a non-null header, and the
sizes of the data messages. -/
def messagePayload (m : StfMessage) : Option (Option DataHeader) × List Nat :=
  (m.mHeader.map HeaderMessage.dataHeader, m.mDataParts.map DataPart.size)

/-- A message allocated before the call: its messages lie below the regions' next address. -/
def Fresh (r : SyncMemoryResources) (m : StfMessage) : Prop :=
  ∀ a ∈ messageAddrs m, a < r.nextFree

instance (r : SyncMemoryResources) : DecidablePred (Fresh r) :=
  fun m => inferInstanceAs (Decidable (∀ a ∈ messageAddrs m, a < r.nextFree))

section Fresh

variable {r r' : SyncMemoryResources} {hm : HeaderMessage} {parts : List DataPart}

private theorem fresh_some :
    Fresh r ⟨some hm, parts⟩ ↔
      hm.addr < r.nextFree ∧ ∀ p ∈ parts, p.addr < r.nextFree := by
  simp [Fresh, messageAddrs]

/-- A message allocated before some next address is allocated before every later one. -/
theorem Fresh.mono {m : StfMessage} (h : Fresh r m) (hn : r.nextFree ≤ r'.nextFree) :
    Fresh r' m :=
  fun a ha => lt_of_lt_of_le (h a ha) hn

end Fresh

/-- The bytes `updateStf` counts for a message, read off its payload. -/
def payloadSize (p : Option (Option DataHeader) × List Nat) : Nat :=
  match p.1 with
  | some (some _) => if p.2.isEmpty then 0 else p.2.sum
  | _ => 0

private theorem countedSize_eq_payloadSize (m : StfMessage) :
    m.countedSize = payloadSize (messagePayload m) := by
  obtain ⟨_ | ⟨a, _ | dh⟩, _ | ⟨p, parts⟩⟩ := m <;>
    simp [StfMessage.countedSize, StfMessage.counted, payloadSize, messagePayload]

/-- A TF whose messages keep their payloads keeps its data size. -/
theorem dataSize_eq_of_payload {d d' : StfDataIdentMap}
    (h : (messages d').map messagePayload = (messages d).map messagePayload) :
    dataSize d' = dataSize d := by
  have e : ∀ l : List StfMessage,
      l.map StfMessage.countedSize = (l.map messagePayload).map payloadSize := fun l => by
    simp only [List.map_map]
    exact List.map_congr_left fun m _ => countedSize_eq_payloadSize m
  simp only [dataSize, e, h]

/-! ### `TimeFrameBuilder::adaptHeaders` -/

namespace TimeFrameBuilder

variable (L : HeaderConsts)

/-- A message the DPL loop adapts without leaving: a header whose stack holds a `DataHeader`, is
at least a `DataHeader` long and starts with one. -/
def Adaptable (r : SyncMemoryResources) (m : StfMessage) : Prop :=
  match m.mHeader with
  | none => False
  | some hm => hm.dataHeader.isSome ∧ L.sizeofDataHeader ≤ (r.headerBytes hm.addr).size ∧
      (r.headerBytes hm.addr).startsWithDataHeader = true

instance (r : SyncMemoryResources) : DecidablePred (Adaptable L r) := fun m =>
  match m with
  | ⟨none, _⟩ => isFalse id
  | ⟨some hm, _⟩ => inferInstanceAs (Decidable (hm.dataHeader.isSome ∧
      L.sizeofDataHeader ≤ (r.headerBytes hm.addr).size ∧
      (r.headerBytes hm.addr).startsWithDataHeader = true))

/-- A message after the DPL loop with `d`: allocated, with a stack at least a `DataHeader` long,
starting with one, and with `d` as its DPL header. -/
def Stamped (r : SyncMemoryResources) (d : DataProcessingHeader) (m : StfMessage) : Prop :=
  match m.mHeader with
  | none => False
  | some hm => Fresh r m ∧ L.sizeofDataHeader ≤ (r.headerBytes hm.addr).size ∧
      (r.headerBytes hm.addr).startsWithDataHeader = true ∧ (r.headerBytes hm.addr).dpl = some d

/-- A message ready for the DPL channel: allocated, its header in shared memory with `d` as its
DPL header, and its data in shared memory. -/
def Adapted (r : SyncMemoryResources) (d : DataProcessingHeader) (m : StfMessage) : Prop :=
  match m.mHeader with
  | none => False
  | some hm => Fresh r m ∧ (r.headerBytes hm.addr).shm = true ∧
      (r.headerBytes hm.addr).dpl = some d ∧ ∀ p ∈ m.mDataParts, r.dataShm p.addr = true

instance (r : SyncMemoryResources) (d : DataProcessingHeader) : DecidablePred (Adapted r d) :=
  fun m => match m with
  | ⟨none, _⟩ => isFalse id
  | ⟨some hm, parts⟩ => inferInstanceAs (Decidable (Fresh r ⟨some hm, parts⟩ ∧
      (r.headerBytes hm.addr).shm = true ∧ (r.headerBytes hm.addr).dpl = some d ∧
      ∀ p ∈ parts, r.dataShm p.addr = true))

private theorem newHeaderMessage_of_valid {r : SyncMemoryResources} {b : HeaderBytes} (hg : r.Granted)
    (hsize : L.sizeofDataHeader ≤ b.size) (hstart : b.startsWithDataHeader = true)
    (dh : Option DataHeader) :
    newHeaderMessage L r b dh = some (⟨r.nextFree, dh⟩, r.allocHeader b) := by
  simp [newHeaderMessage, Nat.not_lt.2 hsize, hstart, newHeaderMessage_of_granted hg]

section Branches

variable {s : AdaptState} {hm : HeaderMessage} {parts : List DataPart} {d : DataProcessingHeader}

private theorem stampMessage_of_null (d : DataProcessingHeader) (s : AdaptState) {m : StfMessage}
    (h : m.mHeader = none) : stampMessage L d s m = (s, m) := by
  simp [stampMessage, h]

private theorem stampMessage_of_dpl {dh : DataHeader} {x : DataProcessingHeader}
    (hsize : L.sizeofDataHeader ≤ (s.mem.headerBytes hm.addr).size)
    (hdh : hm.dataHeader = some dh) (hdpl : (s.mem.headerBytes hm.addr).dpl = some x) :
    stampMessage L d s ⟨some hm, parts⟩ =
      ({ s with mem := s.mem.setDpl hm.addr d }, ⟨some hm, parts⟩) := by
  simp [stampMessage, Nat.not_lt.2 hsize, hdh, hdpl]

private theorem stampMessage_of_no_dpl {dh : DataHeader} (hg : s.mem.Granted)
    (hsize : L.sizeofDataHeader ≤ (s.mem.headerBytes hm.addr).size)
    (hstart : (s.mem.headerBytes hm.addr).startsWithDataHeader = true)
    (hdh : hm.dataHeader = some dh) (hdpl : (s.mem.headerBytes hm.addr).dpl = none) :
    stampMessage L d s ⟨some hm, parts⟩ =
      ({ s with mem := s.mem.allocHeader { s.mem.headerBytes hm.addr with
          size := (s.mem.headerBytes hm.addr).size + L.sizeofDataProcessingHeader
          dpl := some d } },
        ⟨some ⟨s.mem.nextFree, some dh⟩, parts⟩) := by
  have hn := newHeaderMessage_of_valid L hg (b := { s.mem.headerBytes hm.addr with
    size := (s.mem.headerBytes hm.addr).size + L.sizeofDataProcessingHeader, dpl := some d })
    (Nat.le_add_right_of_le hsize) hstart (some dh)
  simp [stampMessage, Nat.not_lt.2 hsize, hdh, hdpl, hn]

private theorem moveDataPart_of_shm {p : DataPart} (h : s.mem.dataShm p.addr = true) :
    moveDataPart s p = (s, p) := by
  simp [moveDataPart, h]

private theorem moveDataPart_of_not_shm {p : DataPart} (hg : s.mem.Granted)
    (h : s.mem.dataShm p.addr = false) :
    moveDataPart s p = ({ s with mem := s.mem.allocData }, ⟨s.mem.nextFree, p.size⟩) := by
  simp [moveDataPart, h, newDataMessage_of_granted hg]

private theorem moveHeader_of_shm (h : (s.mem.headerBytes hm.addr).shm = true) :
    moveHeader L s hm = (s, hm) := by
  simp [moveHeader, h]

private theorem moveHeader_of_not_shm (hg : s.mem.Granted)
    (hsize : L.sizeofDataHeader ≤ (s.mem.headerBytes hm.addr).size)
    (hstart : (s.mem.headerBytes hm.addr).startsWithDataHeader = true)
    (h : (s.mem.headerBytes hm.addr).shm = false) :
    moveHeader L s hm =
      ({ s with mem := s.mem.allocHeader (s.mem.headerBytes hm.addr) },
        ⟨s.mem.nextFree, hm.dataHeader⟩) := by
  simp [moveHeader, h, newHeaderMessage_of_valid L hg hsize hstart]

private theorem moveMessage_some (s : AdaptState) (hm : HeaderMessage) (parts : List DataPart) :
    moveMessage L s ⟨some hm, parts⟩ =
      ((forEach moveDataPart (moveHeader L s hm).1 parts).1,
        ⟨some (moveHeader L s hm).2, (forEach moveDataPart (moveHeader L s hm).1 parts).2⟩) :=
  rfl

end Branches

/-- The DPL loop leaves the function only after nulling the header it was adapting. -/
theorem stampMessage_leaves (d : DataProcessingHeader) {s : AdaptState} (hs : s.pc = .running)
    (m : StfMessage) (h : (stampMessage L d s m).1.pc ≠ .running) :
    (stampMessage L d s m).2.mHeader = none := by
  obtain ⟨_ | hm, parts⟩ := m
  · exact absurd hs h
  by_cases hlt : (s.mem.headerBytes hm.addr).size < L.sizeofDataHeader
  · simp only [stampMessage, hlt, if_true] at h; exact absurd hs h
  cases hdh : hm.dataHeader with
  | none => simp only [stampMessage, hlt, if_false, hdh] at h; exact absurd hs h
  | some dh =>
    cases hdpl : (s.mem.headerBytes hm.addr).dpl with
    | some x => rw [stampMessage_of_dpl L (Nat.not_lt.1 hlt) hdh hdpl] at h; exact absurd hs h
    | none =>
      simp only [stampMessage, hlt, if_false, hdh, hdpl] at h ⊢
      split at h
      · simp_all
      · exact absurd hs h

/-- The body of the DPL loop on a message it can adapt: the stack's DPL header is set to `d` in
place, or a copy of the stack with `d` is allocated, and the payload is kept. -/
theorem stampMessage_spec (d : DataProcessingHeader) :
    LoopSpec (stampMessage L d) (Stamps d) (fun r m => r.Granted ∧ Fresh r m ∧ Adaptable L r m)
      (Stamped L · d ·) messagePayload where
  refl := Stamps.refl
  trans := Stamps.trans
  pre := by
    rintro r r' ⟨_ | hm, parts⟩ h ⟨hg, hf, ha⟩
    · exact ha.elim
    have hb := h.bytes (fresh_some.1 hf).1
    exact ⟨hg.mono h.1 h.2.1, hf.mono h.1, ha.1, hb.1 ▸ ha.2.1, hb.2.1 ▸ ha.2.2⟩
  post := by
    rintro r r' ⟨_ | hm, parts⟩ h ⟨hf, hs, hst, hd⟩
    have hb := h.bytes (fresh_some.1 hf).1
    exact ⟨hf.mono h.1, hb.1 ▸ hs, hb.2.1 ▸ hst, hb.2.2.2 hd⟩
  step := by
    rintro ⟨pc, r⟩ ⟨_ | hm, parts⟩ (rfl : pc = _) ⟨hg, hf, ha⟩
    · exact ha.elim
    dsimp only at hg hf ha
    obtain ⟨hdh, hsize, hstart⟩ := ha
    obtain ⟨dh, hdh⟩ := Option.isSome_iff_exists.1 hdh
    have hf' := fresh_some.1 hf
    cases hdpl : (r.headerBytes hm.addr).dpl with
    | some x =>
      rw [stampMessage_of_dpl L hsize hdh hdpl]
      exact ⟨rfl, stamps_setDpl (by simp [hdpl]),
        ⟨hf, by simpa [setDpl] using ⟨hsize, hstart⟩⟩, rfl⟩
    | none =>
      rw [stampMessage_of_no_dpl L hg hsize hstart hdh hdpl]
      refine ⟨rfl, stamps_allocHeader, ⟨fresh_some.2 ⟨by simp, fun p hp => ?_⟩, ?_⟩, by
        simp [messagePayload, hdh]⟩
      · exact lt_of_lt_of_le (hf'.2 p hp) (Nat.le_succ _)
      · simpa using ⟨Nat.le_add_right_of_le hsize, hstart⟩

/-- The body of the data loop: a data message outside shared memory is replaced by a copy of
its size in shared memory. -/
theorem moveDataPart_spec :
    LoopSpec moveDataPart Grows (fun r p => r.Granted ∧ p.addr < r.nextFree)
      (fun r p => p.addr < r.nextFree ∧ r.dataShm p.addr = true) DataPart.size where
  refl := Grows.refl
  trans := Grows.trans
  pre := fun h hp => ⟨hp.1.mono h.1 h.2.1, lt_of_lt_of_le hp.2 h.1⟩
  post := fun h hp => ⟨lt_of_lt_of_le hp.1 h.1, (h.2.2 _ hp.1).2 ▸ hp.2⟩
  step := by
    rintro ⟨pc, r⟩ p (rfl : pc = _) ⟨hg, hp⟩
    cases hshm : r.dataShm p.addr
    · rw [moveDataPart_of_not_shm hg hshm]
      exact ⟨rfl, grows_allocData, ⟨by simp, by simp⟩, rfl⟩
    · rw [moveDataPart_of_shm hshm]
      exact ⟨rfl, Grows.refl r, ⟨hp, hshm⟩, rfl⟩

/-- The header block of the shared-memory loop on a stamped header: it keeps running, and the
header it leaves is an allocated shared-memory copy of the stack. -/
theorem moveHeader_spec {r : SyncMemoryResources} {hm : HeaderMessage} (hg : r.Granted)
    (haddr : hm.addr < r.nextFree) (hsize : L.sizeofDataHeader ≤ (r.headerBytes hm.addr).size)
    (hstart : (r.headerBytes hm.addr).startsWithDataHeader = true) :
    let h := moveHeader L ⟨.running, r⟩ hm
    h.1.pc = .running ∧ Grows r h.1.mem ∧ h.2.addr < h.1.mem.nextFree ∧
      h.2.dataHeader = hm.dataHeader ∧
      h.1.mem.headerBytes h.2.addr = { r.headerBytes hm.addr with shm := true } := by
  cases hshm : (r.headerBytes hm.addr).shm
  · rw [moveHeader_of_not_shm L hg hsize hstart hshm]
    exact ⟨rfl, grows_allocHeader, by simp, rfl, by simp⟩
  · rw [moveHeader_of_shm L hshm]
    refine ⟨rfl, Grows.refl r, haddr, rfl, ?_⟩
    rw [← hshm]

/-- The body of the shared-memory loop on a stamped message: the header block, then the data
loop, leave it adapted, with its payload kept. -/
theorem moveMessage_spec (d : DataProcessingHeader) :
    LoopSpec (moveMessage L) Grows (fun r m => r.Granted ∧ Stamped L r d m) (Adapted · d ·)
      messagePayload where
  refl := Grows.refl
  trans := Grows.trans
  pre := by
    rintro r r' ⟨_ | hm, parts⟩ h ⟨hg, hf, hs, hst, hd⟩
    have hb := (h.2.2 _ (fresh_some.1 hf).1).1
    exact ⟨hg.mono h.1 h.2.1, hf.mono h.1, hb ▸ hs, hb ▸ hst, hb ▸ hd⟩
  post := by
    rintro r r' ⟨_ | hm, parts⟩ h ⟨hf, hs, hd, hp⟩
    have hf' := fresh_some.1 hf
    refine ⟨hf.mono h.1, (h.2.2 _ hf'.1).1 ▸ hs, (h.2.2 _ hf'.1).1 ▸ hd, fun p hp' => ?_⟩
    exact (h.2.2 _ (hf'.2 p hp')).2 ▸ hp p hp'
  step := by
    rintro ⟨pc, r⟩ ⟨_ | hm, parts⟩ (rfl : pc = _) ⟨hg, hst⟩
    · exact hst.elim
    dsimp only at hg hst
    obtain ⟨hf, hsize, hstart, hd⟩ := hst
    have hf' := fresh_some.1 hf
    obtain ⟨h₁, hR₁, haddr₁, hdh₁, hb₁⟩ := moveHeader_spec L hg hf'.1 hsize hstart
    obtain ⟨h₂, hR₂, hP₂, hf₂⟩ := forEach_spec moveDataPart_spec _ parts h₁
      fun p hp => ⟨hg.mono hR₁.1 hR₁.2.1, lt_of_lt_of_le (hf'.2 p hp) hR₁.1⟩
    have hb₂ := (hR₂.2.2 _ haddr₁).1
    rw [moveMessage_some]
    refine ⟨h₂, hR₁.trans hR₂,
      ⟨fresh_some.2 ⟨lt_of_lt_of_le haddr₁ hR₂.1, fun p hp => (hP₂ p hp).1⟩,
        by simp [hb₂, hb₁], by simp [hb₂, hb₁, hd], fun p hp => (hP₂ p hp).2⟩, ?_⟩
    simp [messagePayload, hdh₁, hf₂]

/-! #### Whole calls -/

section Calls

variable {now : Nat} {mem : SyncMemoryResources} {stf : SubTimeFrame}

private theorem adaptHeaders_of_no_region (h : ¬(mem.mHeaderMemRes = true ∧ mem.mDataMemRes = true)) :
    adaptHeaders L now mem stf = (⟨.returned, mem⟩, stf) := by
  rw [adaptHeaders, if_pos]
  cases h₁ : mem.mHeaderMemRes <;> cases h₂ : mem.mDataMemRes <;> simp_all

/-- With both regions, `adaptHeaders` is the shared-memory loop after the DPL loop, over the TF's
messages in map order. -/
theorem adaptHeaders_eq_forEach (now : Nat) (stf : SubTimeFrame)
    (h : mem.mHeaderMemRes = true ∧ mem.mDataMemRes = true) :
    (adaptHeaders L now mem stf).1 = (forEach (moveMessage L)
        (forEach (stampMessage L ⟨stf.mHeader.mId, creationTime L now stf⟩) ⟨.running, mem⟩
          (messages stf.mData)).1
        (forEach (stampMessage L ⟨stf.mHeader.mId, creationTime L now stf⟩) ⟨.running, mem⟩
          (messages stf.mData)).2).1 ∧
    messages (adaptHeaders L now mem stf).2.mData = (forEach (moveMessage L)
        (forEach (stampMessage L ⟨stf.mHeader.mId, creationTime L now stf⟩) ⟨.running, mem⟩
          (messages stf.mData)).1
        (forEach (stampMessage L ⟨stf.mHeader.mId, creationTime L now stf⟩) ⟨.running, mem⟩
          (messages stf.mData)).2).2 := by
  simp only [adaptHeaders, h.1, h.2, Bool.not_true, Bool.or_self, Bool.false_eq_true, if_false,
    adaptForShm, adaptForDpl, forEachMessage_fst, messages_forEachMessage, and_self]

end Calls

/-- A call on a TF that holds a message with a null header never finishes: it returns early, or its
shared-memory loop reads the null header. -/
theorem adaptHeaders_null_header_never_finishes (now : Nat) (mem : SyncMemoryResources)
    (stf : SubTimeFrame) (hnull : ∃ m ∈ messages stf.mData, m.mHeader = none) :
    (adaptHeaders L now mem stf).1.pc ≠ .running := by
  by_cases hres : mem.mHeaderMemRes = true ∧ mem.mDataMemRes = true
  · obtain ⟨m, hm, hnone⟩ := hnull
    rw [(adaptHeaders_eq_forEach L now stf hres).1]
    -- the DPL loop keeps the null header; the shared-memory loop stops at it, if it gets there
    have hkeep : m ∈ (forEach (stampMessage L ⟨stf.mHeader.mId, creationTime L now stf⟩)
        ⟨.running, mem⟩ (messages stf.mData)).2 :=
      mem_forEach_of_keeps (Q := fun m : StfMessage => m.mHeader = none)
        (fun s a ha => by rw [stampMessage_of_null L _ s ha]) _ _ m hm hnone
    generalize forEach (stampMessage L _) _ (messages stf.mData) = p at hkeep ⊢
    by_cases hp : p.1.pc = .running
    · exact forEach_not_running (R := fun _ _ => True)
        (B := fun _ (m : StfMessage) => m.mHeader = none) (fun _ _ _ => trivial) (fun _ h => h)
        (fun s a _ ha => by simp [moveMessage, ha])
        m p.2 hkeep p.1 hnone
    · rwa [forEach_stopped hp]
  · rw [adaptHeaders_of_no_region L hres]
    exact fun h => Pc.noConfusion h

/-- Header sizes and invalid time for the concrete calls below. -/
def sampleConsts : HeaderConsts := ⟨96, 48, 2 ^ 64 - 1⟩

/-- Regions that allocate exactly when `grant`, from address 2 on; below it, 96-byte stacks that
start with a `DataHeader`, with no DPL header, outside shared memory, and data outside shared
memory. -/
def sampleMem (grant : Bool) : SyncMemoryResources :=
  ⟨true, true, 2, fun _ => grant, fun _ => ⟨96, true, none, false⟩, fun _ => false⟩

/-- A TF with id 7 and the given creation time, with one 64-byte message under `hdr`. -/
def sampleStf (creation : Nat) (hdr : Option HeaderMessage) : SubTimeFrame :=
  SubTimeFrame.addStfDataReadout
    ⟨⟨7, 0, invalidFirstOrbit, .eNull, creation⟩, StdMap.empty, 0, false⟩
    1 0 ⟨hdr, [⟨1, 64⟩]⟩

/-- The header message at address 0, holding a `DataHeader`. -/
def sampleHeader : HeaderMessage := ⟨0, some ⟨0, 0, 0, 0, 1⟩⟩

/-- The sample TF without a creation time, its message under `sampleHeader`. -/
def sampleTf : SubTimeFrame := sampleStf 0 (some sampleHeader)

/-- The sample TF with a null header, in memory that can allocate. -/
theorem adaptHeaders_null_header_never_finishes_sample :
    (∃ m ∈ messages (sampleStf 0 none).mData, m.mHeader = none) ∧
    (adaptHeaders sampleConsts 5 (sampleMem true) (sampleStf 0 none)).1.pc ≠ .running :=
  ⟨by decide, adaptHeaders_null_header_never_finishes sampleConsts 5 _ _ (by decide)⟩

/-- When the DPL loop returns early, the call returns with a TF that holds a null header. -/
theorem adaptHeaders_failed_realloc_leaves_null_header (now : Nat) (mem : SyncMemoryResources)
    (stf : SubTimeFrame) (hres : mem.mHeaderMemRes = true ∧ mem.mDataMemRes = true)
    (hret : (adaptForDpl L ⟨stf.mHeader.mId, creationTime L now stf⟩ ⟨.running, mem⟩
      stf.mData).1.pc = .returned) :
    (adaptHeaders L now mem stf).1.pc = .returned ∧
    ∃ m ∈ messages (adaptHeaders L now mem stf).2.mData, m.mHeader = none := by
  obtain ⟨e₁, e₂⟩ := adaptHeaders_eq_forEach L now stf hres
  rw [adaptForDpl, forEachMessage_fst] at hret
  have hp : (forEach (stampMessage L ⟨stf.mHeader.mId, creationTime L now stf⟩)
      ⟨.running, mem⟩ (messages stf.mData)).1.pc ≠ .running :=
    hret ▸ fun h => Pc.noConfusion h
  rw [forEach_stopped hp] at e₁ e₂
  rw [e₁, e₂]
  exact ⟨hret,
    exists_forEach_of_leaves (fun s a hs h => stampMessage_leaves L _ hs a h) _ _ rfl hp⟩

/-- The sample TF in regions that grant nothing: the stack with the DPL header cannot be allocated.
-/
theorem adaptHeaders_failed_realloc_sample :
    ((sampleMem false).mHeaderMemRes = true ∧ (sampleMem false).mDataMemRes = true) ∧
    (adaptForDpl sampleConsts ⟨(sampleTf).mHeader.mId,
      creationTime sampleConsts 5 (sampleTf)⟩ ⟨.running, sampleMem false⟩
      (sampleTf).mData).1.pc = .returned ∧
    (adaptHeaders sampleConsts 5 (sampleMem false) (sampleTf)).1.pc = .returned ∧
    ∃ m ∈ messages (adaptHeaders sampleConsts 5 (sampleMem false)
      (sampleTf)).2.mData, m.mHeader = none :=
  ⟨⟨rfl, rfl⟩, by decide,
    adaptHeaders_failed_realloc_leaves_null_header sampleConsts 5 _ _ ⟨rfl, rfl⟩ (by decide)⟩

/-- With regions that allocate and messages allocated before the call whose headers hold a
`DataHeader`, the call finishes, every message ends adapted, and the payloads and the data size are
kept. -/
theorem adaptHeaders_adapts_every_message (now : Nat) (mem : SyncMemoryResources)
    (stf : SubTimeFrame) (hres : mem.mHeaderMemRes = true ∧ mem.mDataMemRes = true)
    (hg : mem.Granted) (hm : ∀ m ∈ messages stf.mData, Fresh mem m ∧ Adaptable L mem m) :
    (adaptHeaders L now mem stf).1.pc = .running ∧
    (∀ m ∈ messages (adaptHeaders L now mem stf).2.mData,
      Adapted (adaptHeaders L now mem stf).1.mem
        ⟨stf.mHeader.mId, creationTime L now stf⟩ m) ∧
    (messages (adaptHeaders L now mem stf).2.mData).map messagePayload =
      (messages stf.mData).map messagePayload ∧
    dataSize (adaptHeaders L now mem stf).2.mData = dataSize stf.mData := by
  obtain ⟨e₁, e₂⟩ := adaptHeaders_eq_forEach L now stf hres
  obtain ⟨h₁, hR₁, hP₁, hf₁⟩ :=
    forEach_spec (stampMessage_spec L _) ⟨.running, mem⟩ _ rfl fun m h => ⟨hg, hm m h⟩
  obtain ⟨h₂, -, hP₂, hf₂⟩ := forEach_spec (moveMessage_spec L _) _ _ h₁
    fun m h => ⟨hg.mono hR₁.1 hR₁.2.1, hP₁ m h⟩
  have hpay : (messages (adaptHeaders L now mem stf).2.mData).map messagePayload =
      (messages stf.mData).map messagePayload := by rw [e₂, hf₂, hf₁]
  rw [e₁]
  exact ⟨h₂, e₂ ▸ hP₂, hpay, dataSize_eq_of_payload hpay⟩

/-- The sample TF in regions that allocate: its one message is adapted. -/
theorem adaptHeaders_adapts_every_message_sample :
    ((sampleMem true).mHeaderMemRes = true ∧ (sampleMem true).mDataMemRes = true) ∧
    (sampleMem true).Granted ∧
    (∀ m ∈ messages (sampleTf).mData,
      Fresh (sampleMem true) m ∧ Adaptable sampleConsts (sampleMem true) m) ∧
    (adaptHeaders sampleConsts 5 (sampleMem true) (sampleTf)).1.pc = .running ∧
    (∀ m ∈ messages (adaptHeaders sampleConsts 5 (sampleMem true)
        (sampleTf)).2.mData,
      Adapted (adaptHeaders sampleConsts 5 (sampleMem true) (sampleTf)).1.mem
        ⟨7, creationTime sampleConsts 5 (sampleTf)⟩ m) ∧
    (messages (adaptHeaders sampleConsts 5 (sampleMem true)
        (sampleTf)).2.mData).map messagePayload =
      (messages (sampleTf).mData).map messagePayload ∧
    dataSize (adaptHeaders sampleConsts 5 (sampleMem true) (sampleTf)).2.mData =
      dataSize (sampleTf).mData :=
  ⟨⟨rfl, rfl⟩, fun _ _ => rfl, by decide,
    adaptHeaders_adapts_every_message sampleConsts 5 _ _ ⟨rfl, rfl⟩ (fun _ _ => rfl)
      (by decide)⟩

/-! #### A second call -/

/-- A message the DPL loop is done with, for `d`: a null header, or a stack shorter than a
`DataHeader`, without a `DataHeader`, or with `d` as its DPL header. -/
def DplDone (r : SyncMemoryResources) (d : DataProcessingHeader) (m : StfMessage) : Prop :=
  ∀ hm, m.mHeader = some hm → (r.headerBytes hm.addr).size < L.sizeofDataHeader ∨
    hm.dataHeader = none ∨ (r.headerBytes hm.addr).dpl = some d

/-- A message both loops leave as it is, for `d`: its header in shared memory and done with by
the DPL loop, and its data in shared memory. -/
def Settled (r : SyncMemoryResources) (d : DataProcessingHeader) (m : StfMessage) : Prop :=
  match m.mHeader with
  | none => False
  | some hm => (r.headerBytes hm.addr).shm = true ∧
      ((r.headerBytes hm.addr).size < L.sizeofDataHeader ∨ hm.dataHeader = none ∨
        (r.headerBytes hm.addr).dpl = some d) ∧
      ∀ p ∈ m.mDataParts, r.dataShm p.addr = true

/-- The memory steps of a finished call: a DPL loop's or the shared-memory loop's, keeping the
regions. -/
def SameRegions (r r' : SyncMemoryResources) : Prop :=
  r'.mHeaderMemRes = r.mHeaderMemRes ∧ r'.mDataMemRes = r.mDataMemRes

private theorem SameRegions.trans {r r' r'' : SyncMemoryResources} (h₁ : SameRegions r r')
    (h₂ : SameRegions r' r'') : SameRegions r r'' :=
  ⟨h₂.1.trans h₁.1, h₂.2.trans h₁.2⟩

private theorem newHeaderMessage_eq_some {r : SyncMemoryResources} {b : HeaderBytes}
    {dh : Option DataHeader} {x : HeaderMessage × SyncMemoryResources}
    (h : newHeaderMessage L r b dh = some x) : x = (⟨r.nextFree, dh⟩, r.allocHeader b) := by
  simp only [newHeaderMessage, SyncMemoryResources.newHeaderMessage] at h
  split_ifs at h
  exact (Option.some.inj h).symm

private theorem newDataMessage_eq_some {r : SyncMemoryResources} {size : Nat}
    {x : DataPart × SyncMemoryResources} (h : r.newDataMessage size = some x) :
    x = (⟨r.nextFree, size⟩, r.allocData) := by
  simp only [newDataMessage] at h
  split_ifs at h
  exact (Option.some.inj h).symm

/-- The body of the DPL loop on the steps that keep running: the message is done with. -/
theorem stampMessage_guard (d : DataProcessingHeader) :
    LoopGuard (stampMessage L d) (fun r r' => Stamps d r r' ∧ SameRegions r r') Fresh
      (fun r m => Fresh r m ∧ DplDone L r d m) where
  refl r := ⟨Stamps.refl r, rfl, rfl⟩
  trans h₁ h₂ := ⟨h₁.1.trans h₂.1, h₁.2.trans h₂.2⟩
  pre h hf := hf.mono h.1.1
  post := by
    rintro r r' ⟨_ | hm, parts⟩ h ⟨hf, hd⟩
    · exact ⟨hf.mono h.1.1, fun _ e => by cases e⟩
    obtain ⟨hs, -, -, hdpl⟩ := h.1.bytes (fresh_some.1 hf).1
    refine ⟨hf.mono h.1.1, fun hm' e => ?_⟩
    cases e
    rw [hs]
    exact (hd hm rfl).imp_right (Or.imp_right hdpl)
  step := by
    rintro ⟨pc, r⟩ ⟨_ | hm, parts⟩ (rfl : pc = _) hf hrun
    · rw [stampMessage_of_null L d _ rfl]
      exact ⟨⟨Stamps.refl r, rfl, rfl⟩, hf, fun _ e => by cases e⟩
    have hf' := fresh_some.1 hf
    by_cases hlt : (r.headerBytes hm.addr).size < L.sizeofDataHeader
    · simp only [stampMessage, hlt, if_true]
      exact ⟨⟨Stamps.refl r, rfl, rfl⟩, hf, fun _ e => by cases e; exact .inl hlt⟩
    cases hdh : hm.dataHeader with
    | none =>
      simp only [stampMessage, hlt, if_false, hdh]
      exact ⟨⟨Stamps.refl r, rfl, rfl⟩, hf, fun _ e => by cases e; exact .inr (.inl hdh)⟩
    | some dh =>
      cases hdpl : (r.headerBytes hm.addr).dpl with
      | some x =>
        rw [stampMessage_of_dpl L (Nat.not_lt.1 hlt) hdh hdpl]
        exact ⟨⟨stamps_setDpl (by simp [hdpl]), rfl, rfl⟩, hf,
          fun _ e => by cases e; exact .inr (.inr (by simp [setDpl]))⟩
      | none =>
        cases hx : newHeaderMessage L r { r.headerBytes hm.addr with
            size := (r.headerBytes hm.addr).size + L.sizeofDataProcessingHeader
            dpl := some d } (some dh) with
        | none => simp [stampMessage, hlt, hdh, hdpl, hx] at hrun
        | some x =>
          obtain rfl := newHeaderMessage_eq_some L hx
          simp only [stampMessage, hlt, if_false, hdh, hdpl, hx]
          refine ⟨⟨stamps_allocHeader, rfl, rfl⟩,
            fresh_some.2 ⟨by simp, fun p hp => Nat.lt_succ_of_lt (hf'.2 p hp)⟩,
            fun _ e => by cases e; exact .inr (.inr (by simp))⟩

/-- The body of the data loop on the steps that keep running: the data message is in shared
memory. -/
theorem moveDataPart_guard :
    LoopGuard moveDataPart (fun r r' => Grows r r' ∧ SameRegions r r')
      (fun r p => p.addr < r.nextFree) (fun r p => p.addr < r.nextFree ∧ r.dataShm p.addr = true) where
  refl r := ⟨Grows.refl r, rfl, rfl⟩
  trans h₁ h₂ := ⟨h₁.1.trans h₂.1, h₁.2.trans h₂.2⟩
  pre h hp := lt_of_lt_of_le hp h.1.1
  post h hp := ⟨lt_of_lt_of_le hp.1 h.1.1, (h.1.2.2 _ hp.1).2 ▸ hp.2⟩
  step := by
    rintro ⟨pc, r⟩ p (rfl : pc = _) hp hrun
    cases hshm : r.dataShm p.addr
    · cases hx : r.newDataMessage p.size with
      | none => simp [moveDataPart, hshm, hx] at hrun
      | some x =>
        obtain rfl := newDataMessage_eq_some hx
        simp only [moveDataPart, hshm, hx]
        exact ⟨⟨grows_allocData, rfl, rfl⟩, by simp, by simp⟩
    · rw [moveDataPart_of_shm hshm]
      exact ⟨⟨Grows.refl r, rfl, rfl⟩, hp, hshm⟩

/-- The header block of the shared-memory loop, when it keeps running: the header it leaves is
a shared-memory copy of the stack, or the stack itself. -/
theorem moveHeader_guard {r : SyncMemoryResources} {hm : HeaderMessage}
    (haddr : hm.addr < r.nextFree) (hrun : (moveHeader L ⟨.running, r⟩ hm).1.pc = .running) :
    let h := moveHeader L ⟨.running, r⟩ hm
    Grows r h.1.mem ∧ SameRegions r h.1.mem ∧ h.2.addr < h.1.mem.nextFree ∧
      h.2.dataHeader = hm.dataHeader ∧
      h.1.mem.headerBytes h.2.addr = { r.headerBytes hm.addr with shm := true } := by
  cases hshm : (r.headerBytes hm.addr).shm
  · cases hx : newHeaderMessage L r (r.headerBytes hm.addr) hm.dataHeader with
    | none => simp [moveHeader, hshm, hx] at hrun
    | some x =>
      obtain rfl := newHeaderMessage_eq_some L hx
      simp only [moveHeader, hshm, hx]
      exact ⟨grows_allocHeader, ⟨rfl, rfl⟩, by simp, rfl, by simp⟩
  · rw [moveHeader_of_shm L hshm]
    exact ⟨Grows.refl r, ⟨rfl, rfl⟩, haddr, rfl, by rw [← hshm]⟩

/-- The body of the shared-memory loop on the steps that keep running: a message the DPL loop
is done with is left settled. -/
theorem moveMessage_guard (d : DataProcessingHeader) :
    LoopGuard (moveMessage L) (fun r r' => Grows r r' ∧ SameRegions r r')
      (fun r m => Fresh r m ∧ DplDone L r d m) (fun r m => Fresh r m ∧ Settled L r d m) where
  refl r := ⟨Grows.refl r, rfl, rfl⟩
  trans h₁ h₂ := ⟨h₁.1.trans h₂.1, h₁.2.trans h₂.2⟩
  pre := by
    rintro r r' ⟨_ | hm, parts⟩ h ⟨hf, hd⟩
    · exact ⟨hf.mono h.1.1, fun _ e => by cases e⟩
    have hb := (h.1.2.2 _ (fresh_some.1 hf).1).1
    exact ⟨hf.mono h.1.1, fun hm' e => by cases e; rw [hb]; exact hd hm rfl⟩
  post := by
    rintro r r' ⟨_ | hm, parts⟩ h ⟨hf, hs⟩
    · exact hs.elim
    have hf' := fresh_some.1 hf
    have hb := (h.1.2.2 _ hf'.1).1
    exact ⟨hf.mono h.1.1, by rw [hb]; exact hs.1, by rw [hb]; exact hs.2.1,
      fun p hp => (h.1.2.2 _ (hf'.2 p hp)).2 ▸ hs.2.2 p hp⟩
  step := by
    rintro ⟨pc, r⟩ ⟨_ | hm, parts⟩ (rfl : pc = _) ⟨hf, hd⟩ hrun
    · cases hrun
    have hf' := fresh_some.1 hf
    rw [moveMessage_some] at hrun ⊢
    have h₁ : (moveHeader L ⟨.running, r⟩ hm).1.pc = .running := running_of_forEach_running hrun
    obtain ⟨hG₁, hS₁, haddr₁, hdh₁, hb₁⟩ := moveHeader_guard L hf'.1 h₁
    obtain ⟨⟨hG₂, hS₂⟩, hP₂⟩ := forEach_guard moveDataPart_guard _ parts h₁
      (fun p hp => lt_of_lt_of_le (hf'.2 p hp) hG₁.1) hrun
    have hb₂ := (hG₂.2.2 _ haddr₁).1
    refine ⟨⟨hG₁.trans hG₂, hS₁.trans hS₂⟩,
      fresh_some.2 ⟨lt_of_lt_of_le haddr₁ hG₂.1, fun p hp => (hP₂ p hp).1⟩,
      by rw [hb₂, hb₁], ?_, fun p hp => (hP₂ p hp).2⟩
    rw [hb₂, hb₁, hdh₁]
    exact hd hm rfl

private theorem stampMessage_of_settled {d : DataProcessingHeader} {s : AdaptState} {m : StfMessage}
    (h : Settled L s.mem d m) : stampMessage L d s m = (s, m) := by
  obtain ⟨_ | hm, parts⟩ := m
  · exact h.elim
  obtain ⟨-, hdone, -⟩ := h
  by_cases hlt : (s.mem.headerBytes hm.addr).size < L.sizeofDataHeader
  · simp [stampMessage, hlt]
  cases hdh : hm.dataHeader with
  | none => simp [stampMessage, hlt, hdh]
  | some dh =>
    have hd := (hdone.resolve_left hlt).resolve_left (by simp [hdh])
    rw [stampMessage_of_dpl L (Nat.not_lt.1 hlt) hdh hd, setDpl_of_dpl hd]

private theorem moveMessage_of_settled {d : DataProcessingHeader} {s : AdaptState} {m : StfMessage}
    (h : Settled L s.mem d m) : moveMessage L s m = (s, m) := by
  obtain ⟨_ | hm, parts⟩ := m
  · exact h.elim
  simp only [moveMessage_some, moveHeader_of_shm L h.1,
    forEach_of_fixed fun p hp => moveDataPart_of_shm (h.2.2 p hp)]

/-- On a TF with a valid creation time whose messages are all settled, `adaptHeaders` allocates
nothing and returns the TF and the memory as they were. -/
theorem adaptHeaders_of_settled (now : Nat) (mem : SyncMemoryResources) (stf : SubTimeFrame)
    (hres : mem.mHeaderMemRes = true ∧ mem.mDataMemRes = true)
    (hc : stf.mHeader.mCreationTimeMs ≠ L.sInvalidTimeMs ∧ stf.mHeader.mCreationTimeMs ≠ 0)
    (hs : ∀ m ∈ messages stf.mData,
      Settled L mem ⟨stf.mHeader.mId, stf.mHeader.mCreationTimeMs⟩ m) :
    adaptHeaders L now mem stf = (⟨.running, mem⟩, stf) := by
  have hct : creationTime L now stf = stf.mHeader.mCreationTimeMs := by
    simp [creationTime, hc.1, hc.2]
  have h₁ : adaptForDpl L ⟨stf.mHeader.mId, stf.mHeader.mCreationTimeMs⟩ ⟨.running, mem⟩
      stf.mData = (⟨.running, mem⟩, stf.mData) :=
    forEachMessage_of_fixed fun m hm => stampMessage_of_settled L (hs m hm)
  have h₂ : adaptForShm L ⟨.running, mem⟩ stf.mData = (⟨.running, mem⟩, stf.mData) :=
    forEachMessage_of_fixed fun m hm => moveMessage_of_settled L (hs m hm)
  simp only [adaptHeaders, hres.1, hres.2, Bool.not_true, Bool.or_self, Bool.false_eq_true,
    if_false, hct, h₁, h₂]

/-- After a call that finished, on messages allocated before it and with a valid creation time, a
second call with any clock reading returns the TF and the memory unchanged. -/
theorem adaptHeaders_second_call_changes_nothing (now now' : Nat) (mem : SyncMemoryResources)
    (stf : SubTimeFrame) (hfresh : ∀ m ∈ messages stf.mData, Fresh mem m)
    (hc : creationTime L now stf ≠ L.sInvalidTimeMs ∧ creationTime L now stf ≠ 0)
    (hfin : (adaptHeaders L now mem stf).1.pc = .running) :
    adaptHeaders L now' (adaptHeaders L now mem stf).1.mem (adaptHeaders L now mem stf).2 =
      adaptHeaders L now mem stf := by
  by_cases hres : mem.mHeaderMemRes = true ∧ mem.mDataMemRes = true
  swap
  · rw [adaptHeaders_of_no_region L hres] at hfin; cases hfin
  obtain ⟨e₁, e₂⟩ := adaptHeaders_eq_forEach L now stf hres
  have hhdr : (adaptHeaders L now mem stf).2.mHeader =
      { stf.mHeader with mCreationTimeMs := creationTime L now stf } := by
    simp [adaptHeaders, hres.1, hres.2]
  generalize hp : forEach (stampMessage L ⟨stf.mHeader.mId, creationTime L now stf⟩)
    ⟨.running, mem⟩ (messages stf.mData) = p at e₁ e₂
  have hp₁ : p.1.pc = .running := running_of_forEach_running (e₁ ▸ hfin)
  obtain ⟨hR₁, hP₁⟩ := forEach_guard (stampMessage_guard L _) _ _ rfl hfresh (hp ▸ hp₁)
  rw [hp] at hR₁ hP₁
  obtain ⟨hR₂, hP₂⟩ := forEach_guard (moveMessage_guard L _) _ _ hp₁ hP₁ (e₁ ▸ hfin)
  generalize adaptHeaders L now mem stf = r at e₁ e₂ hhdr hfin ⊢
  obtain ⟨⟨pc, mem'⟩, stf'⟩ := r
  obtain rfl : pc = .running := hfin
  have hmem : mem' = (forEach (moveMessage L) p.1 p.2).1.mem := congrArg AdaptState.mem e₁
  rw [adaptHeaders_of_settled L now' mem' stf'
    ⟨by rw [hmem, hR₂.2.1, hR₁.2.1, hres.1], by rw [hmem, hR₂.2.2, hR₁.2.2, hres.2]⟩
    (by rw [hhdr]; exact hc)
    (fun m hm => by rw [hhdr, hmem]; exact (hP₂ m (e₂ ▸ hm)).2)]

/-- The sample TF, adapted at time 5 in the sample memory, is left alone by a call at time 9. -/
theorem adaptHeaders_second_call_changes_nothing_sample :
    (∀ m ∈ messages sampleTf.mData, Fresh (sampleMem true) m) ∧
    (creationTime sampleConsts 5 sampleTf ≠ sampleConsts.sInvalidTimeMs ∧
      creationTime sampleConsts 5 sampleTf ≠ 0) ∧
    (adaptHeaders sampleConsts 5 (sampleMem true) sampleTf).1.pc = .running ∧
    adaptHeaders sampleConsts 9 (adaptHeaders sampleConsts 5 (sampleMem true) sampleTf).1.mem
        (adaptHeaders sampleConsts 5 (sampleMem true) sampleTf).2 =
      adaptHeaders sampleConsts 5 (sampleMem true) sampleTf :=
  ⟨by decide, by decide, by decide, adaptHeaders_second_call_changes_nothing sampleConsts 5 9 _ _
    (by decide) (by decide) (by decide)⟩

end TimeFrameBuilder

/-! ### `SubTimeFrameFileBuilder::adaptHeaders` -/

namespace SubTimeFrameFileBuilder

variable (L : HeaderConsts)

/-- A header the file builder adapts: a stack at least a `DataHeader` long holding a DPL header
or a `DataHeader`. -/
def Valid (r : SyncMemoryResources) (m : StfMessage) : Prop :=
  match m.mHeader with
  | none => False
  | some hm => L.sizeofDataHeader ≤ (r.headerBytes hm.addr).size ∧
      ((r.headerBytes hm.addr).dpl.isSome ∨ hm.dataHeader.isSome)

instance (r : SyncMemoryResources) : DecidablePred (Valid L r) := fun m =>
  match m with
  | ⟨none, _⟩ => isFalse id
  | ⟨some hm, _⟩ => inferInstanceAs (Decidable (
      L.sizeofDataHeader ≤ (r.headerBytes hm.addr).size ∧
      ((r.headerBytes hm.addr).dpl.isSome ∨ hm.dataHeader.isSome)))

/-- A message whose header, allocated, carries `d` as its DPL header. -/
def DplStamped (r : SyncMemoryResources) (d : DataProcessingHeader) (m : StfMessage) : Prop :=
  match m.mHeader with
  | none => False
  | some hm => hm.addr < r.nextFree ∧ (r.headerBytes hm.addr).dpl = some d

section Branches

variable {s : AdaptState} {hm : HeaderMessage} {parts : List DataPart} {d : DataProcessingHeader}

private theorem stampMessage_of_dpl {x : DataProcessingHeader}
    (hsize : L.sizeofDataHeader ≤ (s.mem.headerBytes hm.addr).size)
    (hdpl : (s.mem.headerBytes hm.addr).dpl = some x) :
    stampMessage L d s ⟨some hm, parts⟩ =
      ({ s with mem := s.mem.setDpl hm.addr d }, ⟨some hm, parts⟩) := by
  simp [stampMessage, Nat.not_lt.2 hsize, hdpl]

private theorem stampMessage_of_no_dpl {dh : DataHeader} (hg : s.mem.Granted)
    (hsize : L.sizeofDataHeader ≤ (s.mem.headerBytes hm.addr).size)
    (hdpl : (s.mem.headerBytes hm.addr).dpl = none) (hdh : hm.dataHeader = some dh) :
    stampMessage L d s ⟨some hm, parts⟩ =
      ({ s with mem := s.mem.allocHeader (dplStack L d) },
        ⟨some ⟨s.mem.nextFree, some dh⟩, parts⟩) := by
  simp [stampMessage, Nat.not_lt.2 hsize, hdpl, hdh, newHeaderMessage_of_granted hg]

end Branches

/-- Every step of the file builder's loop is a memory step of a DPL loop. -/
theorem stamps_stampMessage (d : DataProcessingHeader) (s : AdaptState) (m : StfMessage) :
    Stamps d s.mem (stampMessage L d s m).1.mem := by
  obtain ⟨_ | hm, parts⟩ := m
  · exact Stamps.refl _
  simp only [stampMessage]
  split_ifs
  · exact Stamps.refl _
  split
  · next hdpl => exact stamps_setDpl (by simp [hdpl])
  · exact Stamps.refl _
  · split
    · exact Stamps.refl _
    · next hn => rw [snd_of_newHeaderMessage_eq_some hn]; exact stamps_allocHeader

/-- The file builder leaves the function at an invalid header. -/
theorem stampMessage_stops (d : DataProcessingHeader) (s : AdaptState) (m : StfMessage)
    (hv : ¬Valid L s.mem m) : (stampMessage L d s m).1.pc ≠ .running := by
  obtain ⟨_ | hm, parts⟩ := m
  · simp [stampMessage]
  simp only [Valid, not_and_or, not_le, not_or, Option.not_isSome_iff_eq_none] at hv
  rcases hv with hlt | ⟨hdpl, hdh⟩
  · simp [stampMessage, hlt]
  · by_cases hlt : (s.mem.headerBytes hm.addr).size < L.sizeofDataHeader <;>
      simp [stampMessage, hlt, hdpl, hdh]

/-- Below the next address, a DPL loop's memory steps keep whether a header is valid. -/
theorem valid_iff_of_stamps {r r' : SyncMemoryResources} {d : DataProcessingHeader}
    {m : StfMessage} (h : Stamps d r r') (hf : Fresh r m) : Valid L r' m ↔ Valid L r m := by
  obtain ⟨_ | hm, parts⟩ := m
  · exact Iff.rfl
  obtain ⟨hs, -, hd, -⟩ := h.bytes (fresh_some.1 hf).1
  simp only [Valid, hs, hd]

/-- The body of the file builder's loop on a valid header: the stack's DPL header is set to `d`
in place, or a stack of the `DataHeader` and `d` is allocated, and the payload is kept. -/
theorem stampMessage_spec (d : DataProcessingHeader) :
    LoopSpec (stampMessage L d) (Stamps d) (fun r m => r.Granted ∧ Fresh r m ∧ Valid L r m)
      (DplStamped · d ·) messagePayload where
  refl := Stamps.refl
  trans := Stamps.trans
  pre := fun h ⟨hg, hf, hv⟩ =>
    ⟨hg.mono h.1 h.2.1, hf.mono h.1, (valid_iff_of_stamps L h hf).2 hv⟩
  post := by
    rintro r r' ⟨_ | hm, parts⟩ h ⟨ha, hd⟩
    exact ⟨lt_of_lt_of_le ha h.1, (h.bytes ha).2.2.2 hd⟩
  step := by
    rintro ⟨pc, r⟩ ⟨_ | hm, parts⟩ (rfl : pc = _) ⟨hg, hf, hv⟩
    · exact hv.elim
    dsimp only at hg hf hv
    obtain ⟨hsize, hv⟩ := hv
    have hf' := fresh_some.1 hf
    cases hdpl : (r.headerBytes hm.addr).dpl with
    | some x =>
      rw [stampMessage_of_dpl L hsize hdpl]
      exact ⟨rfl, stamps_setDpl (by simp [hdpl]), ⟨hf'.1, by simp [setDpl]⟩, rfl⟩
    | none =>
      obtain ⟨dh, hdh⟩ := Option.isSome_iff_exists.1 (hv.resolve_left (by simp [hdpl]))
      rw [stampMessage_of_no_dpl L hg hsize hdpl hdh]
      exact ⟨rfl, stamps_allocHeader, ⟨by simp, by simp [dplStack]⟩,
        by simp [messagePayload, hdh]⟩

/-- With regions that allocate and messages allocated before the call, the call finishes exactly
when every message is valid, and then every header carries the DPL header of the STF. -/
theorem fileAdaptHeaders_finishes_iff_valid (mem : SyncMemoryResources) (stf : SubTimeFrame)
    (hg : mem.Granted) (hfresh : ∀ m ∈ messages stf.mData, Fresh mem m) :
    ((adaptHeaders L mem stf).1.pc = .running ↔ ∀ m ∈ messages stf.mData, Valid L mem m) ∧
    ((adaptHeaders L mem stf).1.pc = .running →
      ∀ m ∈ messages (adaptHeaders L mem stf).2.mData, DplStamped (adaptHeaders L mem stf).1.mem
        ⟨stf.mHeader.mId, stf.mHeader.mCreationTimeMs⟩ m) := by
  simp only [adaptHeaders, forEachMessage_fst, messages_forEachMessage]
  have hrun : (forEach (stampMessage L ⟨stf.mHeader.mId, stf.mHeader.mCreationTimeMs⟩)
      ⟨.running, mem⟩ (messages stf.mData)).1.pc = .running →
      ∀ m ∈ messages stf.mData, Valid L mem m := fun h m hm => by
    by_contra hv
    exact forEach_not_running (B := fun r m => Fresh r m ∧ ¬Valid L r m)
      (fun s a _ => stamps_stampMessage L _ s a)
      (fun h ⟨hf, hv⟩ => ⟨hf.mono h.1, mt (valid_iff_of_stamps L h hf).1 hv⟩)
      (fun s a _ ha => stampMessage_stops L _ s a ha.2) m _ hm ⟨.running, mem⟩
      ⟨hfresh m hm, hv⟩ h
  have hall := fun hv : ∀ m ∈ messages stf.mData, Valid L mem m =>
    forEach_spec (stampMessage_spec L ⟨stf.mHeader.mId, stf.mHeader.mCreationTimeMs⟩)
      ⟨.running, mem⟩ _ rfl fun m h => ⟨hg, hfresh m h, hv m h⟩
  exact ⟨⟨hrun, fun hv => (hall hv).1⟩, fun h => (hall (hrun h)).2.2.1⟩

open TimeFrameBuilder (sampleConsts sampleMem sampleTf) in
/-- The sample TF in regions that allocate: its message is valid and the call finishes. -/
theorem fileAdaptHeaders_finishes_iff_valid_sample :
    (sampleMem true).Granted ∧
    (∀ m ∈ messages (sampleTf).mData, Fresh (sampleMem true) m) ∧
    (((adaptHeaders sampleConsts (sampleMem true) (sampleTf)).1.pc = .running ↔
      ∀ m ∈ messages (sampleTf).mData, Valid sampleConsts (sampleMem true) m) ∧
    ((adaptHeaders sampleConsts (sampleMem true) (sampleTf)).1.pc = .running →
      ∀ m ∈ messages (adaptHeaders sampleConsts (sampleMem true)
        (sampleTf)).2.mData,
      DplStamped (adaptHeaders sampleConsts (sampleMem true) (sampleTf)).1.mem
        ⟨(sampleTf).mHeader.mId,
          (sampleTf).mHeader.mCreationTimeMs⟩ m)) :=
  ⟨fun _ _ => rfl, by decide,
    fileAdaptHeaders_finishes_iff_valid sampleConsts _ _ (fun _ _ => rfl) (by decide)⟩

end SubTimeFrameFileBuilder

end DataDistribution.Common
