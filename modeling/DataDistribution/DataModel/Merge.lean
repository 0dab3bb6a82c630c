import DataDistribution.DataModel.SubTimeFrame

/-!
# Merging the fragments of one TimeFrame

`StfMergerThread` (`src/src/TfBuilder/TfBuilderInput.cxx:296–310`) folds `mergeStf` over the
fragments.  Per key the merged vector concatenates the fragments' vectors in order, skipping an
empty fragment with no origin; `mergeStf` leaves the size cache set, so it can go stale.
-/

namespace DataDistribution.DataModel

open DataDistribution.Base

/-- Concatenation of the vectors that are present; `none` when the key is in no fragment. -/
def concatPresent {β : Type} (l : List (Option (List β))) : Option (List β) :=
  l.foldl (Option.merge (· ++ ·)) none

private theorem concatPresent_cons {β : Type} (a : Option (List β)) (l : List (Option (List β))) :
    concatPresent (a :: l) = l.foldl (Option.merge (· ++ ·)) a := by
  cases a <;> rfl

private theorem isSome_foldl_merge {β : Type} :
    ∀ (l : List (Option (List β))) (a : Option (List β)),
      (l.foldl (Option.merge (· ++ ·)) a).isSome ↔ a.isSome ∨ ∃ x ∈ l, x.isSome
  | [], a => by simp
  | x :: l, a => by
    rw [List.foldl_cons, isSome_foldl_merge l]
    cases a <;> cases x <;> simp [Option.merge]

/-- Merging nothing in leaves a vector as it was. -/
@[simp] theorem merge_none_right {β : Type} (f : β → β → β) (a : Option β) :
    Option.merge f a none = a := by
  cases a <;> rfl

/-- Merging a vector in appends it to what is there, or to nothing. -/
@[simp] theorem merge_append_some {β : Type} (o : Option (List β)) (v : List β) :
    Option.merge (· ++ ·) o (some v) = some (o.getD [] ++ v) := by
  cases o <;> rfl

private theorem find?_getD_empty (o : Option StfSubSpecMap) (k : SubSpecificationType) :
    (o.getD StdMap.empty).find? k = o.bind (·.find? k) := by
  cases o <;> rfl

/-- `appendMessages` appends the vector under its key and changes no other key. -/
theorem lookup_appendMessages (d : StfDataIdentMap) di ss v k₁ k₂ :
    lookup (SubTimeFrame.appendMessages d di ss v) k₁ k₂ =
      if k₁ = di ∧ k₂ = ss then Option.merge (· ++ ·) (lookup d di ss) (some v)
      else lookup d k₁ k₂ := by
  simp only [lookup, SubTimeFrame.appendMessages, StdMap.find?_upsert]
  by_cases h₁ : k₁ = di
  · subst h₁
    by_cases h₂ : k₂ = ss
    · subst h₂; simp [find?_getD_empty]
    · simp [StdMap.find?_upsert, h₂, find?_getD_empty]
  · simp [h₁]

private theorem lookup_inner_foldl (di : DataIdentifier) :
    ∀ (l : List (SubSpecificationType × List StfMessage)) (d : StfDataIdentMap) k₁ k₂, Sorted l →
      lookup (l.foldl (fun d e' => SubTimeFrame.appendMessages d di e'.1 e'.2) d) k₁ k₂ =
        if k₁ = di then Option.merge (· ++ ·) (lookup d k₁ k₂) (findEntry k₂ l)
        else lookup d k₁ k₂
  | [], d, k₁, k₂, _ => by simp [findEntry]
  | (ss, v) :: rest, d, k₁, k₂, hs => by
    rw [List.foldl_cons, lookup_inner_foldl di rest _ k₁ k₂ hs.of_cons, lookup_appendMessages]
    by_cases h₁ : k₁ = di
    · subst h₁
      by_cases h₂ : k₂ = ss
      · subst h₂
        have hn : findEntry k₂ rest = none := findEntry_of_lt hs.head_lt
        cases lookup d k₁ k₂ <;> simp [hn, findEntry, Option.merge]
      · simp [h₂, findEntry]
    · simp [h₁]

private theorem lookup_outer_foldl :
    ∀ (l : List (DataIdentifier × StfSubSpecMap)) (d : StfDataIdentMap) k₁ k₂, Sorted l →
      lookup (l.foldl (fun d e => e.2.entries.foldl
          (fun d e' => SubTimeFrame.appendMessages d e.1 e'.1 e'.2) d) d) k₁ k₂ =
        Option.merge (· ++ ·) (lookup d k₁ k₂) ((findEntry k₁ l).bind (·.find? k₂))
  | [], d, k₁, k₂, _ => by simp [findEntry]
  | (di, sm) :: rest, d, k₁, k₂, hs => by
    rw [List.foldl_cons, lookup_outer_foldl rest _ k₁ k₂ hs.of_cons,
      lookup_inner_foldl di sm.entries d k₁ k₂ sm.sorted]
    by_cases h₁ : k₁ = di
    · subst h₁
      simp [findEntry_of_lt hs.head_lt, findEntry, StdMap.find?]
    · simp [h₁, findEntry]

/-- The merge loop appends, key by key, the incoming vector to the present one. -/
theorem lookup_mergeData (dst src : StfDataIdentMap) k₁ k₂ :
    lookup (SubTimeFrame.mergeData dst src) k₁ k₂ =
      Option.merge (· ++ ·) (lookup dst k₁ k₂) (lookup src k₁ k₂) :=
  lookup_outer_foldl src.entries dst k₁ k₂ src.sorted

/-- The stored vectors under `(di, ss)` as message objects. -/
def identsAt (s : SubTimeFrame) (di : DataIdentifier) (ss : SubSpecificationType) :
    Option (List (Option Nat × List DataPart)) :=
  (lookup s.mData di ss).map (List.map StfMessage.ident)

private theorem map_merge_append {β γ : Type} (f : β → γ) (a b : Option (List β)) :
    (Option.merge (· ++ ·) a b).map (List.map f) =
      Option.merge (· ++ ·) (a.map (List.map f)) (b.map (List.map f)) := by
  cases a <;> cases b <;> simp [Option.merge]

namespace SubTimeFrame

/-- The test of `mergeStf` for an incoming empty STF (`SubTimeFrameDataModel.cxx:120`). -/
def incomingEmpty (p : SubTimeFrame) : Bool :=
  p.mHeader.mOrigin == .eNull && p.updateStf.mDataSize == 0

/-- `updateStf` keeps the header. -/
@[simp] theorem mHeader_updateStf (s : SubTimeFrame) : s.updateStf.mHeader = s.mHeader := by
  unfold updateStf; split <;> rfl

/-- `updateStf` keeps the identity of every message under every key. -/
theorem identsAt_updateStf (s : SubTimeFrame) di ss : identsAt s.updateStf di ss = identsAt s di ss := by
  unfold updateStf; split
  · rfl
  · simp [identsAt, lookup_mapMessages, Option.map_map, Function.comp_def]

/-- An incoming fragment that is skipped leaves the STF as it was. -/
theorem mergeStf_of_incomingEmpty (s p : SubTimeFrame) (h : p.incomingEmpty) : s.mergeStf p = s := by
  simp only [incomingEmpty, Bool.and_eq_true, beq_iff_eq] at h
  simp [mergeStf, h]

/-- A fragment that is not skipped is appended key by key, and it gives its header to an STF with no
origin. -/
theorem mergeStf_of_not_incomingEmpty (s p : SubTimeFrame) (h : p.incomingEmpty = false) :
    ∃ p', identsAt p' = identsAt p ∧ s.mergeStf p =
      { s with mHeader := if s.mHeader.mOrigin = .eNull then p.mHeader else s.mHeader
               mData := mergeData s.mData p'.mData } := by
  simp only [incomingEmpty, Bool.and_eq_false_iff, beq_eq_false_iff_ne, ne_eq] at h
  by_cases ho : p.mHeader.mOrigin = .eNull
  · refine ⟨p.updateStf, funext₂ (identsAt_updateStf p), ?_⟩
    simp_all [mergeStf]
  · exact ⟨p, rfl, by simp [mergeStf, ho]⟩

/-- One merge step: the incoming vectors go after the present ones, unless skipped. -/
theorem identsAt_mergeStf (s p : SubTimeFrame) di ss :
    identsAt (s.mergeStf p) di ss =
      if p.incomingEmpty then identsAt s di ss
      else Option.merge (· ++ ·) (identsAt s di ss) (identsAt p di ss) := by
  cases h : p.incomingEmpty
  · obtain ⟨p', hp', heq⟩ := mergeStf_of_not_incomingEmpty s p h
    rw [heq, ← hp']
    simp [identsAt, lookup_mergeData, map_merge_append]
  · simp [mergeStf_of_incomingEmpty s p h]

/-- The header after a merge: the incoming one when it is not skipped and the STF has no origin. -/
theorem mHeader_mergeStf (s p : SubTimeFrame) :
    (s.mergeStf p).mHeader =
      if !p.incomingEmpty && s.mHeader.mOrigin == .eNull then p.mHeader else s.mHeader := by
  cases h : p.incomingEmpty
  · obtain ⟨p', _, heq⟩ := mergeStf_of_not_incomingEmpty s p h
    rw [heq]
    by_cases ho : s.mHeader.mOrigin = .eNull <;> simp [ho]
  · simp [mergeStf_of_incomingEmpty s p h]

/-- `mergeStf` never touches the size cache. -/
@[simp] theorem mDataUpdated_mergeStf (s p : SubTimeFrame) :
    (s.mergeStf p).mDataUpdated = s.mDataUpdated := by
  simp only [mergeStf]; split_ifs <;> rfl

/-- Per key, merging a list of fragments appends the vectors of those not skipped, in order. -/
theorem identsAt_foldl_mergeStf (s : SubTimeFrame) (rest : List SubTimeFrame) di ss :
    identsAt (rest.foldl mergeStf s) di ss =
      ((rest.filter (fun p => !p.incomingEmpty)).map (identsAt · di ss)).foldl
        (Option.merge (· ++ ·)) (identsAt s di ss) := by
  induction rest generalizing s with
  | nil => rfl
  | cons p rest ih =>
    rw [List.foldl_cons, ih, identsAt_mergeStf]
    cases h : p.incomingEmpty <;> simp [h]

/-- The merged header is the header of the first fragment that has an origin. -/
theorem mHeader_foldl_mergeStf (s : SubTimeFrame) (rest : List SubTimeFrame) (hdr : Header)
    (h : ((s :: rest).find? (fun f => f.mHeader.mOrigin != .eNull)).map (·.mHeader) = some hdr) :
    (rest.foldl mergeStf s).mHeader = hdr := by
  induction rest generalizing s with
  | nil =>
    by_cases hs : s.mHeader.mOrigin = .eNull <;> simp_all [List.find?_cons]
  | cons p rest ih =>
    rw [List.foldl_cons]
    apply ih
    by_cases hs : s.mHeader.mOrigin = .eNull
    · by_cases hp : p.mHeader.mOrigin = .eNull
      · have hne : (s.mergeStf p).mHeader.mOrigin = .eNull := by
          rw [mHeader_mergeStf]; split <;> simp_all
        simpa [List.find?_cons, hs, hp, hne] using h
      · have he : p.incomingEmpty = false := by simp [incomingEmpty, hp]
        have hm : (s.mergeStf p).mHeader = p.mHeader := by simp [mHeader_mergeStf, he, hs]
        simpa [List.find?_cons, hs, hp, hm] using h
    · have hm : (s.mergeStf p).mHeader = s.mHeader := by simp [mHeader_mergeStf, hs]
      simpa [List.find?_cons, hs, hm] using h

/-- The merged header is the header of one of the merged fragments. -/
theorem mHeader_foldl_mergeStf_mem (s : SubTimeFrame) (rest : List SubTimeFrame) :
    (rest.foldl mergeStf s).mHeader ∈ (s :: rest).map (·.mHeader) := by
  induction rest generalizing s with
  | nil => simp
  | cons p rest ih =>
    have h := ih (s.mergeStf p)
    simp only [List.foldl_cons, List.map_cons, List.mem_cons] at h ⊢
    rcases h with h | h
    · rw [h, mHeader_mergeStf]; split <;> simp
    · exact Or.inr (Or.inr h)

end SubTimeFrame

open SubTimeFrame

/-- The merge loop of `StfMergerThread` (`TfBuilderInput.cxx:300–310`): the first fragment is the
seed and every later one is merged into it in vector order.  An empty vector, which the source
never hands over (it would read `begin()` of it), gives `none`. -/
def mergeStfVector : List SubTimeFrame → Option SubTimeFrame
  | [] => none
  | seed :: rest => some (rest.foldl mergeStf seed)

/-- Fragments whose messages reach the merged TF: the seed and every non-skipped later one. -/
def mergedFragments : List SubTimeFrame → List SubTimeFrame
  | [] => []
  | seed :: rest => seed :: rest.filter (fun p => !p.incomingEmpty)

/-- Merging a fragment vector: per key, the merged messages are the concatenation of the kept
fragments' messages in vector order, the key set is their union, and the header is that of the
first fragment with an origin. -/
theorem mergeStfVector_spec (seed : SubTimeFrame) (rest : List SubTimeFrame) :
    ∃ tf, mergeStfVector (seed :: rest) = some tf ∧
      (∀ di ss, identsAt tf di ss =
        concatPresent ((mergedFragments (seed :: rest)).map (identsAt · di ss))) ∧
      (∀ di ss, (lookup tf.mData di ss).isSome ↔
        ∃ f ∈ mergedFragments (seed :: rest), (lookup f.mData di ss).isSome) ∧
      (∀ f, (seed :: rest).find? (fun f => f.mHeader.mOrigin != .eNull) = some f →
        tf.mHeader = f.mHeader) := by
  have hi : ∀ di ss, identsAt (rest.foldl mergeStf seed) di ss =
      concatPresent ((mergedFragments (seed :: rest)).map (identsAt · di ss)) := by
    intro di ss
    rw [identsAt_foldl_mergeStf, mergedFragments, List.map_cons, concatPresent_cons]
  refine ⟨_, rfl, hi, fun di ss => ?_,
    fun f hf => mHeader_foldl_mergeStf seed rest f.mHeader (by rw [hf]; rfl)⟩
  have hk : ∀ t : SubTimeFrame, (identsAt t di ss).isSome = (lookup t.mData di ss).isSome :=
    fun t => by simp [identsAt]
  rw [← hk, hi, concatPresent, isSome_foldl_merge]
  simp [hk]

/-- An STF holding one message under `(di, ss)`, with its size cache clear. -/
def SubTimeFrame.ofMessage (hdr : Header) (di : DataIdentifier) (ss : SubSpecificationType)
    (m : StfMessage) : SubTimeFrame :=
  ⟨hdr, StdMap.empty.upsert di (fun _ => StdMap.empty.upsert ss fun _ => [m]), 0, false⟩

/-- A fragment with origin `eNull` whose one counted message has a zero-byte payload is skipped
whole: its message under `(2, 2)` does not reach the merged TF. -/
theorem mergeStfVector_skips_empty_null_origin :
    (mergeStfVector [SubTimeFrame.ofMessage ⟨7, 1, 0, .eReadout, 0⟩ 1 1
        ⟨some ⟨1, some ⟨0, 0, 0, 0, 0⟩⟩, [⟨2, 8⟩]⟩,
      SubTimeFrame.ofMessage ⟨7, 1, 0, .eNull, 0⟩ 2 2
        ⟨some ⟨3, some ⟨0, 0, 0, 0, 0⟩⟩, [⟨4, 0⟩]⟩]).map (identsAt · 2 2) = some none ∧
    identsAt (SubTimeFrame.ofMessage ⟨7, 1, 0, .eNull, 0⟩ 2 2
        ⟨some ⟨3, some ⟨0, 0, 0, 0, 0⟩⟩, [⟨4, 0⟩]⟩) 2 2 = some [(some 3, [⟨4, 0⟩])] := by
  decide

/-! ### The size cache -/

/-- A set `mDataUpdated` means the cached size and every counted message's stamp are current. -/
def Coherent (s : SubTimeFrame) : Prop :=
  s.mDataUpdated = true →
    s.mDataSize = dataSize s.mData ∧
      ∀ m ∈ messages s.mData, m.counted = true → m.StampedBy s.mHeader

/-- `updateStf` leaves a coherent STF coherent, and makes a cleared one coherent. -/
theorem coherent_updateStf (s : SubTimeFrame) (h : Coherent s) : Coherent s.updateStf := by
  unfold SubTimeFrame.updateStf
  split
  · exact h
  · intro _
    refine ⟨by simp [dataSize, messages_mapMessages, Function.comp_def], fun m hm hc => ?_⟩
    rw [messages_mapMessages, List.mem_map] at hm
    obtain ⟨m, -, rfl⟩ := hm
    exact StfMessage.stampedBy_update _ m (by simpa using hc)

/-- After `mergeStf` into an STF whose size is cached, `updateStf` does nothing. -/
theorem updateStf_mergeStf_of_updated (s p : SubTimeFrame) (h : s.mDataUpdated = true) :
    (s.mergeStf p).updateStf = s.mergeStf p := by
  simp [SubTimeFrame.updateStf, h]

/-- The STF A of the failing input: id 1, one counted message of 5 bytes under `(0, 0)`. -/
def staleReceiver : SubTimeFrame :=
  SubTimeFrame.ofMessage ⟨1, 1, 0, .eReadout, 0⟩ 0 0 ⟨some ⟨1, some ⟨0, 0, 0, 0, 0⟩⟩, [⟨2, 5⟩]⟩

/-- The STF B merged into it: id 1, one counted message of 7 bytes under `(0, 0)`. -/
def staleIncoming : SubTimeFrame :=
  SubTimeFrame.ofMessage ⟨1, 1, 0, .eReadout, 0⟩ 0 0 ⟨some ⟨3, some ⟨0, 0, 0, 0, 0⟩⟩, [⟨4, 7⟩]⟩

/-- A is coherent and `A.updateStf()` keeps it so; `A.mergeStf(B)` then leaves it incoherent, and
`updateStf()`, which sees the cache set, keeps the 5 bytes counted before the merge although the
counted messages now hold 12. -/
theorem updateStf_stale_after_mergeStf :
    Coherent staleReceiver ∧ Coherent staleReceiver.updateStf ∧
    ¬Coherent (staleReceiver.updateStf.mergeStf staleIncoming) ∧
    (staleReceiver.updateStf.mergeStf staleIncoming).updateStf.mDataSize = 5 ∧
    dataSize (staleReceiver.updateStf.mergeStf staleIncoming).updateStf.mData = 12 := by
  have hA : Coherent staleReceiver := fun h => absurd h (by decide)
  have hkeep := updateStf_mergeStf_of_updated staleReceiver.updateStf staleIncoming (by decide)
  refine ⟨hA, coherent_updateStf _ hA, fun h => absurd (h (by decide)).1 (by decide), ?_⟩
  rw [hkeep]
  decide

end DataDistribution.DataModel
