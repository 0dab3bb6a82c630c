import DataDistribution.DataModel.SubTimeFrame

/-!
# TF builders: adapting the headers of a TF for DPL

`src/src/common/SubTimeFrameBuilder.cxx:349–566`.  `adaptHeaders` stamps every header stack with
a `DataProcessingHeader` and moves every message to shared memory.  The bytes behind a message
pointer are kept by address in `SyncMemoryResources`; whether a region allocates, O2's header
sizes and the clock reading are inputs.  Logging and the stack's other headers are left out.
-/

namespace DataDistribution.Common

open DataDistribution.Base DataDistribution.DataModel

/-- Constants of headers not under `src/`: `sizeof(o2::header::DataHeader)`,
`sizeof(o2::framework::DataProcessingHeader)` and `SubTimeFrame::Header::sInvalidTimeMs`. -/
structure HeaderConsts where
  sizeofDataHeader : Nat
  sizeofDataProcessingHeader : Nat
  sInvalidTimeMs : Nat

/-- `o2::framework::DataProcessingHeader`: the two fields `adaptHeaders` writes. -/
structure DataProcessingHeader where
  startTime : Nat
  creation : Nat
  deriving DecidableEq, Repr

/-- The bytes behind a header message as `adaptHeaders` reads them: `GetSize()`, whether the
stack starts with a `DataHeader` (the description check of `newHeaderMessage`), the DPL header
`get<DataProcessingHeader*>` finds (`none` for `nullptr`), and whether the message is in shared
memory (`GetType() == SHM`).  The `DataHeader` itself is kept in the `HeaderMessage`. -/
structure HeaderBytes where
  size : Nat
  startsWithDataHeader : Bool
  dpl : Option DataProcessingHeader
  shm : Bool
  deriving DecidableEq, Repr

/-- `SyncMemoryResources` as the builders use it: whether the header and data regions exist, the
next address the regions hand out and whether they can allocate there, and the bytes behind
every address (a header's stack; whether a data message is in shared memory). -/
structure SyncMemoryResources where
  mHeaderMemRes : Bool
  mDataMemRes : Bool
  nextFree : Nat
  grants : Nat → Bool
  headerBytes : Nat → HeaderBytes
  dataShm : Nat → Bool

namespace SyncMemoryResources

/-- The header region's allocation at the next address, holding a shared-memory copy of `b`. -/
def allocHeader (r : SyncMemoryResources) (b : HeaderBytes) : SyncMemoryResources :=
  { r with nextFree := r.nextFree + 1
           headerBytes := Function.update r.headerBytes r.nextFree { b with shm := true } }

/-- The data region's allocation at the next address, in shared memory. -/
def allocData (r : SyncMemoryResources) : SyncMemoryResources :=
  { r with nextFree := r.nextFree + 1
           dataShm := Function.update r.dataShm r.nextFree true }

/-- `mMemRes.newHeaderMessage(pData, pSize)`: a shared-memory copy of the stack at the next
address, or `nullptr` when the header region does not allocate. -/
def newHeaderMessage (r : SyncMemoryResources) (b : HeaderBytes) (dh : Option DataHeader) :
    Option (HeaderMessage × SyncMemoryResources) :=
  if r.grants r.nextFree then some (⟨r.nextFree, dh⟩, r.allocHeader b) else none

/-- `newDataMessage(pSize)` (declared in a header not under `src/`): a shared-memory data
message of that size at the next address, or `nullptr`. -/
def newDataMessage (r : SyncMemoryResources) (size : Nat) :
    Option (DataPart × SyncMemoryResources) :=
  if r.grants r.nextFree then some (⟨r.nextFree, size⟩, r.allocData) else none

/-- The in-place write of the DPL header of the stack at `addr`. -/
def setDpl (r : SyncMemoryResources) (addr : Nat) (d : DataProcessingHeader) :
    SyncMemoryResources :=
  { r with headerBytes :=
      Function.update r.headerBytes addr { r.headerBytes addr with dpl := some d } }

/-- Every allocation from the next address on succeeds. -/
def Granted (r : SyncMemoryResources) : Prop := ∀ a, r.nextFree ≤ a → r.grants a = true

/-- The memory steps of a DPL loop writing `d`: later addresses only are allocated, and a stack
below the old next address keeps its bytes or, where it held a DPL header, has it set to `d`. -/
def Stamps (d : DataProcessingHeader) (r r' : SyncMemoryResources) : Prop :=
  r.nextFree ≤ r'.nextFree ∧ r'.grants = r.grants ∧
  ∀ a < r.nextFree, r'.headerBytes a = r.headerBytes a ∨
    ((r.headerBytes a).dpl.isSome ∧ r'.headerBytes a = { r.headerBytes a with dpl := some d })

/-- The memory steps of the shared-memory loop: later addresses only are allocated, and every
message below the old next address keeps its bytes. -/
def Grows (r r' : SyncMemoryResources) : Prop :=
  r.nextFree ≤ r'.nextFree ∧ r'.grants = r.grants ∧
  ∀ a < r.nextFree, r'.headerBytes a = r.headerBytes a ∧ r'.dataShm a = r.dataShm a

variable {r r' r'' : SyncMemoryResources} {b : HeaderBytes} {d : DataProcessingHeader} {a : Nat}

/-- A header allocation takes the next address. -/
@[simp] theorem allocHeader_nextFree : (r.allocHeader b).nextFree = r.nextFree + 1 := rfl

/-- The allocated header holds the bytes given, in shared memory. -/
@[simp] theorem headerBytes_allocHeader_self :
    (r.allocHeader b).headerBytes r.nextFree = { b with shm := true } := by
  simp [allocHeader]

/-- A data allocation takes the next address. -/
@[simp] theorem allocData_nextFree : r.allocData.nextFree = r.nextFree + 1 := rfl

/-- The allocated data part is in shared memory. -/
@[simp] theorem dataShm_allocData_self : r.allocData.dataShm r.nextFree = true := by
  simp [allocData]

/-- Where the region grants the next address, `newHeaderMessage` allocates there. -/
theorem newHeaderMessage_of_granted (h : r.Granted) (dh : Option DataHeader) :
    r.newHeaderMessage b dh = some (⟨r.nextFree, dh⟩, r.allocHeader b) := by
  simp [newHeaderMessage, h r.nextFree le_rfl]

/-- Where the region grants the next address, `newDataMessage` allocates there. -/
theorem newDataMessage_of_granted (h : r.Granted) (size : Nat) :
    r.newDataMessage size = some (⟨r.nextFree, size⟩, r.allocData) := by
  simp [newDataMessage, h r.nextFree le_rfl]

/-- Writing the DPL header a stack already holds changes nothing. -/
theorem setDpl_of_dpl (h : (r.headerBytes a).dpl = some d) : r.setDpl a d = r := by
  have hb : { r.headerBytes a with dpl := some d } = r.headerBytes a := by rw [← h]
  simp only [setDpl, hb, Function.update_eq_self]

/-- A header allocation that succeeds leaves the memory `allocHeader` gives. -/
theorem snd_of_newHeaderMessage_eq_some {dh : Option DataHeader}
    {x : HeaderMessage × SyncMemoryResources} (h : r.newHeaderMessage b dh = some x) :
    x.2 = r.allocHeader b := by
  simp only [newHeaderMessage] at h
  split_ifs at h
  exact (Option.some.inj h).symm ▸ rfl

/-- A region that grants from an address grants from every later one. -/
theorem Granted.mono (h : r.Granted) (hn : r.nextFree ≤ r'.nextFree) (hg : r'.grants = r.grants) :
    r'.Granted :=
  fun a ha => hg ▸ h a (le_trans hn ha)

/-- Leaving the memory as it is counts as a DPL loop's memory step. -/
theorem Stamps.refl (r : SyncMemoryResources) : Stamps d r r :=
  ⟨le_rfl, rfl, fun _ _ => .inl rfl⟩

/-- The DPL loop's memory steps compose. -/
theorem Stamps.trans (h₁ : Stamps d r r') (h₂ : Stamps d r' r'') : Stamps d r r'' := by
  refine ⟨le_trans h₁.1 h₂.1, h₂.2.1.trans h₁.2.1, fun a ha => ?_⟩
  rcases h₁.2.2 a ha with e₁ | ⟨hs₁, e₁⟩ <;>
    rcases h₂.2.2 a (lt_of_lt_of_le ha h₁.1) with e₂ | ⟨hs₂, e₂⟩ <;> simp_all

/-- What a DPL loop's memory steps keep of a stack below the old next address: its size, its
first header, whether it has a DPL header, and a DPL header equal to `d`. -/
theorem Stamps.bytes (h : Stamps d r r') (ha : a < r.nextFree) :
    (r'.headerBytes a).size = (r.headerBytes a).size ∧
    (r'.headerBytes a).startsWithDataHeader = (r.headerBytes a).startsWithDataHeader ∧
    (r'.headerBytes a).dpl.isSome = (r.headerBytes a).dpl.isSome ∧
    ((r.headerBytes a).dpl = some d → (r'.headerBytes a).dpl = some d) := by
  rcases h.2.2 a ha with e | ⟨hs, e⟩ <;> simp_all

/-- A header allocation is a DPL loop's memory step. -/
theorem stamps_allocHeader : Stamps d r (r.allocHeader b) :=
  ⟨Nat.le_succ _, rfl, fun _ ha => .inl (Function.update_noteq (Nat.ne_of_lt ha) _ _)⟩

/-- Writing `d` over a DPL header is a DPL loop's memory step. -/
theorem stamps_setDpl (h : (r.headerBytes a).dpl.isSome) : Stamps d r (r.setDpl a d) := by
  refine ⟨le_rfl, rfl, fun a' _ => ?_⟩
  by_cases ha : a' = a
  · subst ha; exact .inr ⟨h, by simp [setDpl]⟩
  · exact .inl (Function.update_noteq ha _ _)

/-- Leaving the memory as it is counts as a shared-memory loop's memory step. -/
theorem Grows.refl (r : SyncMemoryResources) : Grows r r :=
  ⟨le_rfl, rfl, fun _ _ => ⟨rfl, rfl⟩⟩

/-- The shared-memory loop's memory steps compose. -/
theorem Grows.trans (h₁ : Grows r r') (h₂ : Grows r' r'') : Grows r r'' := by
  refine ⟨le_trans h₁.1 h₂.1, h₂.2.1.trans h₁.2.1, fun a ha => ?_⟩
  obtain ⟨e₁, f₁⟩ := h₁.2.2 a ha
  obtain ⟨e₂, f₂⟩ := h₂.2.2 a (lt_of_lt_of_le ha h₁.1)
  exact ⟨e₂.trans e₁, f₂.trans f₁⟩

/-- A header allocation is a shared-memory loop's memory step. -/
theorem grows_allocHeader : Grows r (r.allocHeader b) :=
  ⟨Nat.le_succ _, rfl, fun _ ha => ⟨Function.update_noteq (Nat.ne_of_lt ha) _ _, rfl⟩⟩

/-- A data allocation is a shared-memory loop's memory step. -/
theorem grows_allocData : Grows r r.allocData :=
  ⟨Nat.le_succ _, rfl, fun _ ha => ⟨rfl, Function.update_noteq (Nat.ne_of_lt ha) _ _⟩⟩

end SyncMemoryResources

/-! ### Loops that update in place and may leave the function -/

/-- Where `adaptHeaders` is: in its loops (`running`; at the end, it has finished), left by a
`return`, or stopped by undefined behaviour. -/
inductive Pc where
  | running
  | returned
  | undefined
  deriving DecidableEq, Repr

/-- What the loops of `adaptHeaders` thread: where the function is, and the memory. -/
structure AdaptState where
  pc : Pc
  mem : SyncMemoryResources

/-- A range-for over a vector whose body updates the element in place and may leave the
function; once it has left, no later element is visited. -/
def forEach {α : Type} (body : AdaptState → α → AdaptState × α) :
    AdaptState → List α → AdaptState × List α
  | s, [] => (s, [])
  | s, a :: l =>
    if s.pc = .running then
      let r := body s a
      let r' := forEach body r.1 l
      (r'.1, r.2 :: r'.2)
    else (s, a :: l)

/-- The range-for over the entries of a `std::map`, updating each mapped value in place. -/
def forEachEntry {κ α : Type} (body : AdaptState → α → AdaptState × α) (s : AdaptState)
    (l : List (κ × α)) : AdaptState × List (κ × α) :=
  forEach (fun s e => let r := body s e.2; (r.1, (e.1, r.2))) s l

section Loop

variable {α β : Type} {body : AdaptState → α → AdaptState × α}

/-- The loop over no element returns at once. -/
@[simp] theorem forEach_nil (s : AdaptState) : forEach body s [] = (s, []) := rfl

/-- A running loop applies the body to the first element and goes on with the rest. -/
theorem forEach_cons_running {s : AdaptState} (hs : s.pc = .running) (a : α) (l : List α) :
    forEach body s (a :: l) =
      ((forEach body (body s a).1 l).1, (body s a).2 :: (forEach body (body s a).1 l).2) := by
  simp only [forEach, hs, if_true]

/-- A loop that has returned leaves the rest of the elements as they are. -/
theorem forEach_stopped {s : AdaptState} (hs : s.pc ≠ .running) (l : List α) :
    forEach body s l = (s, l) := by
  cases l <;> simp [forEach, hs]

/-- A loop that ends running was running when it started. -/
theorem running_of_forEach_running {s : AdaptState} {l : List α}
    (h : (forEach body s l).1.pc = .running) : s.pc = .running := by
  by_contra hs; rw [forEach_stopped hs] at h; exact hs h

/-- The loop over two lists is the loop over the first, then over the second. -/
theorem forEach_append (s : AdaptState) (l₁ l₂ : List α) :
    forEach body s (l₁ ++ l₂) =
      ((forEach body (forEach body s l₁).1 l₂).1,
        (forEach body s l₁).2 ++ (forEach body (forEach body s l₁).1 l₂).2) := by
  induction l₁ generalizing s with
  | nil => rfl
  | cons a l ih =>
    by_cases hs : s.pc = .running
    · simp only [List.cons_append, forEach_cons_running hs, ih]
    · simp only [List.cons_append, forEach_stopped hs]

/-- A view of the elements that every body keeps is kept by the loop. -/
theorem map_forEach (f : α → β) (hf : ∀ s a, f (body s a).2 = f a) :
    ∀ (s : AdaptState) (l : List α), (forEach body s l).2.map f = l.map f
  | _, [] => rfl
  | s, a :: l => by
    by_cases hs : s.pc = .running
    · simp only [forEach_cons_running hs, List.map_cons, hf, map_forEach f hf]
    · rw [forEach_stopped hs]

/-- Nested loops: a loop over containers whose body loops over each container's elements is
the loop over all elements, in order. -/
theorem forEach_flatMap {g : AdaptState → β → AdaptState × β} (flat : β → List α)
    (hg : ∀ s b, Prod.map id flat (g s b) = forEach body s (flat b)) :
    ∀ (s : AdaptState) (l : List β),
      Prod.map id (fun l => l.flatMap flat) (forEach g s l) = forEach body s (l.flatMap flat)
  | _, [] => rfl
  | s, b :: l => by
    by_cases hs : s.pc = .running
    · have hb := hg s b
      simp only [Prod.map, id] at hb
      rw [forEach_cons_running hs, List.flatMap_cons, forEach_append, ← hb,
        ← forEach_flatMap flat hg (g s b).1 l]
      simp [Prod.map]
    · simp [forEach_stopped hs, Prod.map]

/-- Elements the body keeps as they are stay in the vector. -/
theorem mem_forEach_of_keeps {Q : α → Prop} (hq : ∀ s a, Q a → (body s a).2 = a) :
    ∀ (s : AdaptState) (l : List α) (a : α), a ∈ l → Q a → a ∈ (forEach body s l).2
  | _, [], _, ha, _ => absurd ha (List.not_mem_nil _)
  | s, b :: l, a, ha, hqa => by
    by_cases hs : s.pc = .running
    · rw [forEach_cons_running hs]
      rcases List.mem_cons.1 ha with rfl | ha
      · rw [hq s a hqa]; exact List.mem_cons_self _ _
      · exact List.mem_cons_of_mem _ (mem_forEach_of_keeps hq _ l a ha hqa)
    · rw [forEach_stopped hs]; exact ha

/-- When every way the body leaves the function leaves an element with `Q` behind, a loop that
has left holds such an element. -/
theorem exists_forEach_of_leaves {Q : α → Prop}
    (hq : ∀ s a, s.pc = .running → (body s a).1.pc ≠ .running → Q (body s a).2) :
    ∀ (s : AdaptState) (l : List α), s.pc = .running → (forEach body s l).1.pc ≠ .running →
      ∃ a ∈ (forEach body s l).2, Q a
  | _, [], hs, hl => absurd hs hl
  | s, b :: l, hs, hl => by
    rw [forEach_cons_running hs] at hl ⊢
    by_cases h₁ : (body s b).1.pc = .running
    · obtain ⟨a, ha, hqa⟩ := exists_forEach_of_leaves hq _ l h₁ hl
      exact ⟨a, List.mem_cons_of_mem _ ha, hqa⟩
    · exact ⟨_, List.mem_cons_self _ _, hq s b hs h₁⟩

/-- An element on which the body always leaves, and which stays such while the loop runs up to
it, keeps the loop from finishing. -/
theorem forEach_not_running {R : SyncMemoryResources → SyncMemoryResources → Prop}
    {B : SyncMemoryResources → α → Prop}
    (hR : ∀ s a, s.pc = .running → R s.mem (body s a).1.mem)
    (hB : ∀ {m m' a}, R m m' → B m a → B m' a)
    (hstop : ∀ s a, s.pc = .running → B s.mem a → (body s a).1.pc ≠ .running)
    (a : α) (l : List α) (ha : a ∈ l) : ∀ s : AdaptState, B s.mem a →
      (forEach body s l).1.pc ≠ .running := by
  induction l with
  | nil => exact absurd ha (List.not_mem_nil _)
  | cons b l ih =>
    intro s hba
    by_cases hs : s.pc = .running
    · rw [forEach_cons_running hs]
      by_cases h₁ : (body s b).1.pc = .running
      · rcases List.mem_cons.1 ha with rfl | ha
        · exact absurd h₁ (hstop s a hs hba)
        · exact ih ha _ (hB (hR s b hs) hba)
      · rw [forEach_stopped h₁]; exact h₁
    · rwa [forEach_stopped hs]

/-- A loop whose body leaves the state and every element as they are changes nothing. -/
theorem forEach_of_fixed {s : AdaptState} :
    ∀ {l : List α}, (∀ a ∈ l, body s a = (s, a)) → forEach body s l = (s, l)
  | [], _ => rfl
  | a :: l, h => by
    by_cases hs : s.pc = .running
    · simp only [forEach_cons_running hs, h a (List.mem_cons_self _ _),
        forEach_of_fixed fun b hb => h b (List.mem_cons_of_mem _ hb)]
    · exact forEach_stopped hs _

/-- The contract of a loop body: from a running state and an element meeting `Pre`, it keeps
running, takes the memory one `R`-step, and makes an element meeting `Post` with the same view
`f`; `R` is a preorder along which `Pre` and `Post` hold on. -/
structure LoopSpec (body : AdaptState → α → AdaptState × α)
    (R : SyncMemoryResources → SyncMemoryResources → Prop)
    (Pre Post : SyncMemoryResources → α → Prop) (f : α → β) : Prop where
  refl : ∀ m, R m m
  trans : ∀ {m₁ m₂ m₃}, R m₁ m₂ → R m₂ m₃ → R m₁ m₃
  pre : ∀ {m m' a}, R m m' → Pre m a → Pre m' a
  post : ∀ {m m' a}, R m m' → Post m a → Post m' a
  step : ∀ s a, s.pc = .running → Pre s.mem a → (body s a).1.pc = .running ∧
    R s.mem (body s a).1.mem ∧ Post (body s a).1.mem (body s a).2 ∧ f (body s a).2 = f a

/-- The loop rule: a body meeting its contract on every element makes the whole loop finish, with
every element meeting `Post` and the view `f` of the vector kept. -/
theorem forEach_spec {R : SyncMemoryResources → SyncMemoryResources → Prop}
    {Pre Post : SyncMemoryResources → α → Prop} {f : α → β}
    (h : LoopSpec body R Pre Post f) :
    ∀ (s : AdaptState) (l : List α), s.pc = .running → (∀ a ∈ l, Pre s.mem a) →
      (forEach body s l).1.pc = .running ∧ R s.mem (forEach body s l).1.mem ∧
      (∀ a ∈ (forEach body s l).2, Post (forEach body s l).1.mem a) ∧
      (forEach body s l).2.map f = l.map f
  | _, [], hs, _ => ⟨hs, h.refl _, by simp, rfl⟩
  | s, a :: l, hs, hl => by
    obtain ⟨h₁, hR₁, hP₁, hf₁⟩ := h.step s a hs (hl a (List.mem_cons_self _ _))
    obtain ⟨h₂, hR₂, hP₂, hf₂⟩ := forEach_spec h _ l h₁
      fun b hb => h.pre hR₁ (hl b (List.mem_cons_of_mem _ hb))
    rw [forEach_cons_running hs]
    refine ⟨h₂, h.trans hR₁ hR₂, ?_, by simp [hf₁, hf₂]⟩
    rintro b (_ | ⟨_, hb⟩)
    · exact h.post hR₂ hP₁
    · exact hP₂ b hb

/-- The contract of a loop body on the steps that keep running: from a running state and an
element meeting `Pre`, a step that keeps running takes the memory one `R`-step and makes an
element meeting `Post`. -/
structure LoopGuard (body : AdaptState → α → AdaptState × α)
    (R : SyncMemoryResources → SyncMemoryResources → Prop)
    (Pre Post : SyncMemoryResources → α → Prop) : Prop where
  refl : ∀ m, R m m
  trans : ∀ {m₁ m₂ m₃}, R m₁ m₂ → R m₂ m₃ → R m₁ m₃
  pre : ∀ {m m' a}, R m m' → Pre m a → Pre m' a
  post : ∀ {m m' a}, R m m' → Post m a → Post m' a
  step : ∀ s a, s.pc = .running → Pre s.mem a → (body s a).1.pc = .running →
    R s.mem (body s a).1.mem ∧ Post (body s a).1.mem (body s a).2

/-- The loop rule for a loop that finished: every step kept running, so every element meets
`Post`. -/
theorem forEach_guard {R : SyncMemoryResources → SyncMemoryResources → Prop}
    {Pre Post : SyncMemoryResources → α → Prop} (h : LoopGuard body R Pre Post) :
    ∀ (s : AdaptState) (l : List α), s.pc = .running → (∀ a ∈ l, Pre s.mem a) →
      (forEach body s l).1.pc = .running →
      R s.mem (forEach body s l).1.mem ∧ ∀ a ∈ (forEach body s l).2, Post (forEach body s l).1.mem a
  | _, [], _, _, _ => ⟨h.refl _, by simp⟩
  | s, a :: l, hs, hl, hend => by
    rw [forEach_cons_running hs] at hend ⊢
    have h₁ := running_of_forEach_running hend
    obtain ⟨hR₁, hP₁⟩ := h.step s a hs (hl a (List.mem_cons_self _ _)) h₁
    obtain ⟨hR₂, hP₂⟩ := forEach_guard h _ l h₁
      (fun b hb => h.pre hR₁ (hl b (List.mem_cons_of_mem _ hb))) hend
    refine ⟨h.trans hR₁ hR₂, ?_⟩
    rintro b (_ | ⟨_, hb⟩)
    · exact h.post hR₂ hP₁
    · exact hP₂ b hb

end Loop

/-! ### The payload loops -/

private theorem sorted_of_map_fst {κ α : Type} [LinearOrder κ] {l l' : List (κ × α)}
    (h : l'.map Prod.fst = l.map Prod.fst) (hl : Sorted l) : Sorted l' := by
  have hm : (l.map Prod.fst).Pairwise (· < ·) := List.pairwise_map.2 hl
  exact List.pairwise_map.1 (h ▸ hm)

private theorem map_fst_forEachEntry {κ α : Type} (body : AdaptState → α → AdaptState × α)
    (s : AdaptState) (l : List (κ × α)) :
    (forEachEntry body s l).2.map Prod.fst = l.map Prod.fst :=
  map_forEach Prod.fst (fun _ _ => rfl) s l

/-- The range-for over a `std::map`: the keys stay, so the result is a map again. -/
def forEachVal {κ α : Type} [LinearOrder κ] (body : AdaptState → α → AdaptState × α)
    (s : AdaptState) (m : StdMap κ α) : AdaptState × StdMap κ α :=
  ((forEachEntry body s m.entries).1,
    ⟨(forEachEntry body s m.entries).2,
      sorted_of_map_fst (map_fst_forEachEntry body s m.entries) m.sorted⟩)

/-- The three nested range-for loops over a TF's payload, each message updated in place. -/
def forEachMessage (body : AdaptState → StfMessage → AdaptState × StfMessage)
    (s : AdaptState) (d : StfDataIdentMap) : AdaptState × StfDataIdentMap :=
  forEachVal (fun s sm => forEachVal (fun s v => forEach body s v) s sm) s d

private theorem forEachVal_flatMap {κ γ : Type} [LinearOrder κ]
    {body : AdaptState → StfMessage → AdaptState × StfMessage}
    {g : AdaptState → γ → AdaptState × γ} (flat : γ → List StfMessage)
    (hg : ∀ s b, Prod.map id flat (g s b) = forEach body s (flat b)) (s : AdaptState)
    (m : StdMap κ γ) :
    Prod.map id (fun m : StdMap κ γ => m.entries.flatMap fun e => flat e.2) (forEachVal g s m) =
      forEach body s (m.entries.flatMap fun e => flat e.2) :=
  forEach_flatMap (fun e : κ × γ => flat e.2) (fun s e => by
    simpa [Prod.map] using hg s e.2) s m.entries

/-- The nested loops visit the messages in the order of `messages`. -/
theorem forEachMessage_eq (body : AdaptState → StfMessage → AdaptState × StfMessage)
    (s : AdaptState) (d : StfDataIdentMap) :
    Prod.map id messages (forEachMessage body s d) = forEach body s (messages d) :=
  forEachVal_flatMap (fun sm : StfSubSpecMap => sm.entries.flatMap fun e => e.2)
    (fun s sm => forEachVal_flatMap id (fun _ _ => rfl) s sm) s d

/-- The loop over the payload ends in the state of the loop over its messages in order. -/
theorem forEachMessage_fst (body : AdaptState → StfMessage → AdaptState × StfMessage)
    (s : AdaptState) (d : StfDataIdentMap) :
    (forEachMessage body s d).1 = (forEach body s (messages d)).1 :=
  congrArg Prod.fst (forEachMessage_eq body s d)

/-- The messages the loop over the payload returns are those of the loop over its messages. -/
theorem messages_forEachMessage (body : AdaptState → StfMessage → AdaptState × StfMessage)
    (s : AdaptState) (d : StfDataIdentMap) :
    messages (forEachMessage body s d).2 = (forEach body s (messages d)).2 :=
  congrArg Prod.snd (forEachMessage_eq body s d)

private theorem forEachVal_of_fixed {κ α : Type} [LinearOrder κ]
    {body : AdaptState → α → AdaptState × α}
    {s : AdaptState} {m : StdMap κ α} (h : ∀ e ∈ m.entries, body s e.2 = (s, e.2)) :
    forEachVal body s m = (s, m) := by
  have he : forEachEntry body s m.entries = (s, m.entries) :=
    forEach_of_fixed fun e he => by simp only [h e he]
  obtain ⟨entries, sorted⟩ := m
  simp only [forEachVal, Prod.mk.injEq, StdMap.mk.injEq]
  exact ⟨congrArg Prod.fst he, congrArg Prod.snd he⟩

/-- The nested loops change nothing when the body leaves every message as it is. -/
theorem forEachMessage_of_fixed {body : AdaptState → StfMessage → AdaptState × StfMessage}
    {s : AdaptState} {d : StfDataIdentMap} (h : ∀ m ∈ messages d, body s m = (s, m)) :
    forEachMessage body s d = (s, d) :=
  forEachVal_of_fixed fun e he => forEachVal_of_fixed fun e' he' => forEach_of_fixed fun m hm =>
    h m (List.mem_flatMap.2 ⟨e, he, List.mem_flatMap.2 ⟨e', he', hm⟩⟩)

/-! ### `TimeFrameBuilder::adaptHeaders` -/

namespace TimeFrameBuilder

variable (L : HeaderConsts)

/-- `TimeFrameBuilder::newHeaderMessage` (lines 431–451): `nullptr` for a stack shorter than a
`DataHeader` or not starting with one, otherwise the header region's new message.  The check for
a missing DPL header (lines 446–448) only logs. -/
def newHeaderMessage (mem : SyncMemoryResources) (b : HeaderBytes) (dh : Option DataHeader) :
    Option (HeaderMessage × SyncMemoryResources) :=
  if b.size < L.sizeofDataHeader then none
  else if !b.startsWithDataHeader then none
  else mem.newHeaderMessage b dh

/-- One message of the DPL loop (lines 474–520), with `d` the TF's id and creation time: a null
header, a stack shorter than a `DataHeader` or one without a `DataHeader` is skipped; a DPL
header in the stack is written in place; otherwise the stack with `d` appended is reallocated,
and when that fails the function returns with the message's header already null.  The second
`get<DataHeader*>` (lines 501–510) reads the same stack as the first and finds it again. -/
def stampMessage (d : DataProcessingHeader) (s : AdaptState) (m : StfMessage) :
    AdaptState × StfMessage :=
  match m.mHeader with
  | none => (s, m)
  | some hm =>
    let b := s.mem.headerBytes hm.addr
    if b.size < L.sizeofDataHeader then (s, m)
    else match hm.dataHeader, b.dpl with
      | none, _ => (s, m)
      | some _, some _ => ({ s with mem := s.mem.setDpl hm.addr d }, m)
      | some _, none =>
        match newHeaderMessage L s.mem
            { b with size := b.size + L.sizeofDataProcessingHeader, dpl := some d }
            hm.dataHeader with
        | none => ({ s with pc := .returned }, { m with mHeader := none })
        | some r => ({ s with mem := r.2 }, { m with mHeader := some r.1 })

/-- One data message of the shared-memory loop (lines 546–559): a message outside shared memory
is copied into a new one, and the function returns when that cannot be allocated. -/
def moveDataPart (s : AdaptState) (p : DataPart) : AdaptState × DataPart :=
  if s.mem.dataShm p.addr then (s, p)
  else match s.mem.newDataMessage p.size with
    | none => ({ s with pc := .returned }, p)
    | some r => ({ s with mem := r.2 }, r.1)

/-- The header block of the shared-memory loop (lines 533–544): a header outside shared memory
is copied by `newHeaderMessage`, and the function returns when that fails. -/
def moveHeader (s : AdaptState) (hm : HeaderMessage) : AdaptState × HeaderMessage :=
  if (s.mem.headerBytes hm.addr).shm then (s, hm)
  else match newHeaderMessage L s.mem (s.mem.headerBytes hm.addr) hm.dataHeader with
    | none => ({ s with pc := .returned }, hm)
    | some r => ({ s with mem := r.2 }, r.1)

/-- One message of the shared-memory loop (lines 529–560): `lHeaderMsg->GetType()` on a null
header is undefined behaviour; otherwise the header block, then the data loop. -/
def moveMessage (s : AdaptState) (m : StfMessage) : AdaptState × StfMessage :=
  match m.mHeader with
  | none => ({ s with pc := .undefined }, m)
  | some hm =>
    let h := moveHeader L s hm
    let d := forEach moveDataPart h.1 m.mDataParts
    (d.1, ⟨some h.2, d.2⟩)

/-- Lines 460–467: the TF's creation time, or the clock's `now` where it is `sInvalidTimeMs` or
0 (`updateCreationTimeMs`). -/
def creationTime (now : Nat) (stf : SubTimeFrame) : Nat :=
  if stf.mHeader.mCreationTimeMs = L.sInvalidTimeMs ∨ stf.mHeader.mCreationTimeMs = 0 then now
  else stf.mHeader.mCreationTimeMs

/-- The DPL loop (lines 469–522) over the payload. -/
def adaptForDpl (d : DataProcessingHeader) (s : AdaptState) (data : StfDataIdentMap) :
    AdaptState × StfDataIdentMap :=
  forEachMessage (stampMessage L d) s data

/-- The shared-memory loop (lines 524–565) over the payload. -/
def adaptForShm (s : AdaptState) (data : StfDataIdentMap) : AdaptState × StfDataIdentMap :=
  forEachMessage (moveMessage L) s data

/-- `TimeFrameBuilder::adaptHeaders` (lines 453–566), with `now` the clock reading of
`updateCreationTimeMs`: nothing without both memory regions, else the creation time, the DPL
loop and the shared-memory loop. -/
def adaptHeaders (now : Nat) (mem : SyncMemoryResources) (stf : SubTimeFrame) :
    AdaptState × SubTimeFrame :=
  if !mem.mHeaderMemRes || !mem.mDataMemRes then (⟨.returned, mem⟩, stf)
  else
    let c := creationTime L now stf
    let p := adaptForDpl L ⟨stf.mHeader.mId, c⟩ ⟨.running, mem⟩ stf.mData
    let q := adaptForShm L p.1 p.2
    (q.1, { stf with mHeader := { stf.mHeader with mCreationTimeMs := c }, mData := q.2 })

end TimeFrameBuilder

/-! ### `SubTimeFrameFileBuilder::adaptHeaders` -/

namespace SubTimeFrameFileBuilder

variable (L : HeaderConsts)

/-- The stack of a `DataHeader` and `d` that the file builder makes (lines 382–387). -/
def dplStack (d : DataProcessingHeader) : HeaderBytes :=
  ⟨L.sizeofDataHeader + L.sizeofDataProcessingHeader, true, some d, true⟩

/-- One message of `SubTimeFrameFileBuilder::adaptHeaders` (lines 357–394), with `d` the STF's
id and creation time: a null header or a stack shorter than a `DataHeader` ends the function; a
DPL header in the stack is written in place; otherwise a new stack of the `DataHeader` and `d`
is allocated, and the function returns where the stack has no `DataHeader` or the allocation
fails (the header is then already null). -/
def stampMessage (d : DataProcessingHeader) (s : AdaptState) (m : StfMessage) :
    AdaptState × StfMessage :=
  match m.mHeader with
  | none => ({ s with pc := .returned }, m)
  | some hm =>
    let b := s.mem.headerBytes hm.addr
    if b.size < L.sizeofDataHeader then ({ s with pc := .returned }, m)
    else match b.dpl, hm.dataHeader with
      | some _, _ => ({ s with mem := s.mem.setDpl hm.addr d }, m)
      | none, none => ({ s with pc := .returned }, m)
      | none, some _ =>
        match s.mem.newHeaderMessage (dplStack L d) hm.dataHeader with
        | none => ({ s with pc := .returned }, { m with mHeader := none })
        | some r => ({ s with mem := r.2 }, { m with mHeader := some r.1 })

/-- `SubTimeFrameFileBuilder::adaptHeaders` (lines 349–398). -/
def adaptHeaders (mem : SyncMemoryResources) (stf : SubTimeFrame) : AdaptState × SubTimeFrame :=
  let p := forEachMessage (stampMessage L ⟨stf.mHeader.mId, stf.mHeader.mCreationTimeMs⟩)
    ⟨.running, mem⟩ stf.mData
  (p.1, { stf with mData := p.2 })

end SubTimeFrameFileBuilder

end DataDistribution.Common
