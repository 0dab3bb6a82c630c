import Mathlib.Algebra.Group.Nat.Basic
import Mathlib.Data.List.Basic

/-!
# SubTimeFrame file sink: rotating the output files

`src/src/common/SubTimeFrameFileSink.cxx:95–294`.  `SubTimeFrameFileWriter` is not under
`src/`: whether its constructor throws, whether a write succeeds and the bytes it adds are
inputs, as is the acceptance draw.  File names, sidecar files, `updateStf`, the output queue and
the logged counters are left out.
-/

namespace DataDistribution.Common

/-- The members of `SubTimeFrameFileSink` that `DataHandlerThread` reads. -/
structure FileSink where
  mEnabled : Bool
  mReady : Bool
  mStfsPerFile : Nat
  mFileSize : Nat
  mPercentage : Nat
  deriving DecidableEq, Repr

/-- The limits `loadVerifyConfig` sets on an enabled sink (lines 114–119), from the configured
`std::uint64_t` and `unsigned` values: `mFileSize = max(1, fileSize)`, then `mFileSize <<= 20`,
which wraps modulo `2^64`.  The directory checks and the file name options are left out. -/
def FileSink.loadVerifyConfig (s : FileSink) (stfsPerFile fileSize stfPercent : Nat) :
    FileSink :=
  { s with mStfsPerFile := stfsPerFile, mFileSize := (max 1 fileSize <<< 20) % 2 ^ 64,
           mPercentage := min stfPercent 100 }

/-- The open `SubTimeFrameFileWriter`: its `size()`, and the number of STFs written to its file,
which the code does not keep (`lCurrentFileStfs` stands for it). -/
structure OpenFile where
  size : Nat
  stfs : Nat
  deriving DecidableEq, Repr

/-- What the writer thread keeps between STFs: the writer, the two counters, and
`mCurrentFileIdx`. -/
structure SinkState where
  mStfWriter : Option OpenFile
  lCurrentFileSize : Nat
  lCurrentFileStfs : Nat
  mCurrentFileIdx : Nat
  deriving DecidableEq, Repr

/-- One STF reaching the thread: the acceptance draw, whether a new writer's constructor
succeeds, and the write: `none` when it fails, otherwise the bytes it adds to the file. -/
structure StfInput where
  draw : Nat
  opens : Bool
  write : Option Nat
  deriving DecidableEq, Repr

/-- What one STF did to the files: nothing, a failed write (the file is removed), or a write
with the file's STF count and size after it and whether the file was then closed. -/
inductive SinkOutcome where
  | notWritten
  | writeFailed
  | written (fileStfs fileSize : Nat) (rotated : Bool)
  deriving DecidableEq, Repr

namespace SinkState

/-- The thread's start (lines 217–218): no writer, both counters zero. -/
def start (mCurrentFileIdx : Nat) : SinkState := ⟨none, 0, 0, mCurrentFileIdx⟩

/-- The writer for the STF (lines 243–258): the open one, or a new empty file with
`mCurrentFileIdx` incremented; `none` when the constructor throws. -/
def openWriter (s : SinkState) (opens : Bool) : Option (OpenFile × Nat) :=
  match s.mStfWriter with
  | some w => some (w, s.mCurrentFileIdx)
  | none => if opens then some (⟨0, 0⟩, s.mCurrentFileIdx + 1) else none

/-- The rotation test (line 271). -/
def rotates (c : FileSink) (lCurrentFileStfs lCurrentFileSize : Nat) : Bool :=
  (0 < c.mStfsPerFile && c.mStfsPerFile ≤ lCurrentFileStfs) || c.mFileSize ≤ lCurrentFileSize

/-- The `do { } while (0)` body for an accepted STF (lines 239–276). -/
def writeStf (c : FileSink) (s : SinkState) (i : StfInput) : SinkState × SinkOutcome :=
  match s.openWriter i.opens, i.write with
  | none, _ => (s, .notWritten)
  | some (_, idx), none => ({ s with mStfWriter := none, mCurrentFileIdx := idx }, .writeFailed)
  | some (w, idx), some bytes =>
    if rotates c (s.lCurrentFileStfs + 1) (w.size + bytes) then
      (⟨none, 0, 0, idx⟩, .written (w.stfs + 1) (w.size + bytes) true)
    else
      (⟨some ⟨w.size + bytes, w.stfs + 1⟩, w.size + bytes, s.lCurrentFileStfs + 1, idx⟩,
        .written (w.stfs + 1) (w.size + bytes) false)

/-- One STF through the loop of `DataHandlerThread` (lines 222–287). -/
def dataHandler (c : FileSink) (s : SinkState) (i : StfInput) : SinkState × SinkOutcome :=
  if c.mEnabled && c.mReady && decide (i.draw < c.mPercentage) then writeStf c s i
  else (s, .notWritten)

/-- The thread over a sequence of STFs: the state after, and what each STF did. -/
def run (c : FileSink) : SinkState → List StfInput → SinkState × List SinkOutcome
  | s, [] => (s, [])
  | s, i :: is => ((run c (dataHandler c s i).1 is).1,
      (dataHandler c s i).2 :: (run c (dataHandler c s i).1 is).2)

/-! ### What one STF does -/

variable {c : FileSink} {s : SinkState} {i : StfInput}

/-- The counters never count fewer STFs than the open file holds. -/
def CountsAtLeast (s : SinkState) : Prop :=
  (s.mStfWriter.map (·.stfs)).getD 0 ≤ s.lCurrentFileStfs

/-- The counters are the open file's STF count and size (zero with no file open). -/
def Counted (s : SinkState) : Prop :=
  s.lCurrentFileStfs = (s.mStfWriter.map (·.stfs)).getD 0 ∧
    s.lCurrentFileSize = (s.mStfWriter.map (·.size)).getD 0

/-- The thread starts with exact counters. -/
theorem counted_start (idx : Nat) : (start idx).Counted := ⟨rfl, rfl⟩

/-- Exact counters count at least the open file's STFs. -/
theorem Counted.countsAtLeast (hs : s.Counted) : s.CountsAtLeast := hs.1.ge

/-- The rotation test is the file limits of the configuration. -/
theorem rotates_eq_true {n z : Nat} :
    rotates c n z = true ↔ 0 < c.mStfsPerFile ∧ c.mStfsPerFile ≤ n ∨ c.mFileSize ≤ z := by
  simp [rotates]

/-- Every way one STF can go: nothing happens; the write fails and the file is gone with the
counters left as they were; or the write succeeds on the open file `w` (a new empty one if none
was open) and the thread rotates exactly by its test on the incremented counter and the file's
new size. -/
theorem dataHandler_cases :
    dataHandler c s i = (s, .notWritten) ∨
    (∃ idx, dataHandler c s i =
      ({ s with mStfWriter := none, mCurrentFileIdx := idx }, .writeFailed)) ∨
    ∃ w idx bytes, (s.mStfWriter = some w ∨ s.mStfWriter = none ∧ w = ⟨0, 0⟩) ∧
      (dataHandler c s i).2 = .written (w.stfs + 1) (w.size + bytes)
        (rotates c (s.lCurrentFileStfs + 1) (w.size + bytes)) ∧
      (dataHandler c s i).1 =
        if rotates c (s.lCurrentFileStfs + 1) (w.size + bytes) then ⟨none, 0, 0, idx⟩
        else ⟨some ⟨w.size + bytes, w.stfs + 1⟩, w.size + bytes, s.lCurrentFileStfs + 1, idx⟩ := by
  unfold dataHandler
  split_ifs
  · unfold writeStf
    cases hw : s.openWriter i.opens with
    | none => exact .inl rfl
    | some p =>
      obtain ⟨w, idx⟩ := p
      cases hb : i.write with
      | none => exact .inr (.inl ⟨idx, rfl⟩)
      | some bytes =>
        have hw' : s.mStfWriter = some w ∨ s.mStfWriter = none ∧ w = ⟨0, 0⟩ := by
          unfold openWriter at hw
          split at hw
          · next w' hsw => obtain ⟨rfl, -⟩ := Prod.mk.inj (Option.some.inj hw); exact .inl hsw
          · next hsw =>
            split_ifs at hw
            exact .inr ⟨hsw, (Prod.mk.inj (Option.some.inj hw)).1.symm⟩
        refine .inr (.inr ⟨w, idx, bytes, hw', ?_⟩)
        dsimp only
        split <;> next hr => simp [hr]
  · exact .inl rfl

/-- One STF keeps `CountsAtLeast`, and a write it makes is rotated whenever the file's own STF
count has reached `mStfsPerFile` (when it is positive) or its size has reached `mFileSize`. -/
theorem dataHandler_countsAtLeast (hs : s.CountsAtLeast) :
    (dataHandler c s i).1.CountsAtLeast ∧ ∀ n z r, (dataHandler c s i).2 = .written n z r →
      (0 < c.mStfsPerFile ∧ c.mStfsPerFile ≤ n ∨ c.mFileSize ≤ z) → r = true := by
  rcases dataHandler_cases (c := c) (s := s) (i := i) with h | ⟨idx, h⟩ | ⟨w, idx, bytes, hw, ho, h⟩
  · rw [h]; exact ⟨hs, by simp⟩
  · rw [h]; exact ⟨by simp [CountsAtLeast], by simp⟩
  · have hle : w.stfs ≤ s.lCurrentFileStfs := by
      rcases hw with hw | ⟨-, rfl⟩
      · simpa [CountsAtLeast, hw] using hs
      · exact Nat.zero_le _
    refine ⟨by rw [h]; split_ifs <;> simp [CountsAtLeast, hle], fun n z r hw' hlim => ?_⟩
    obtain ⟨rfl, rfl, rfl⟩ := SinkOutcome.written.inj (ho.symm.trans hw')
    rw [rotates_eq_true]
    omega

/-- From a state whose counters are its open file's, one STF whose write does not fail keeps the
counters exact, and a write it makes is rotated exactly when the file's own STF count reaches
`mStfsPerFile` (when it is positive) or its size reaches `mFileSize`. -/
theorem dataHandler_counted (hs : s.Counted) (hok : (dataHandler c s i).2 ≠ .writeFailed) :
    (dataHandler c s i).1.Counted ∧ ∀ n z r, (dataHandler c s i).2 = .written n z r →
      (r = true ↔ 0 < c.mStfsPerFile ∧ c.mStfsPerFile ≤ n ∨ c.mFileSize ≤ z) := by
  rcases dataHandler_cases (c := c) (s := s) (i := i) with h | ⟨idx, h⟩ | ⟨w, idx, bytes, hw, ho, h⟩
  · rw [h]; exact ⟨hs, by simp⟩
  · rw [h] at hok; exact absurd rfl hok
  · have heq : s.lCurrentFileStfs = w.stfs := by
      rcases hw with hw | ⟨hw, rfl⟩ <;> simpa [hw] using hs.1
    refine ⟨by rw [h]; split_ifs <;> simp [Counted, heq], fun n z r hw' => ?_⟩
    obtain ⟨rfl, rfl, rfl⟩ := SinkOutcome.written.inj (ho.symm.trans hw')
    rw [rotates_eq_true, heq]

/-! ### Runs of the thread -/

/-- Over every run, with any writer and write failures, each write is rotated whenever its
file's own STF count reaches `mStfsPerFile` (when it is positive) or its size reaches
`mFileSize`: no file is closed late. -/
theorem run_rotates_of_limit {ins : List StfInput} (hs : s.CountsAtLeast) {n z : Nat} {r : Bool}
    (hw : SinkOutcome.written n z r ∈ (run c s ins).2)
    (hlim : 0 < c.mStfsPerFile ∧ c.mStfsPerFile ≤ n ∨ c.mFileSize ≤ z) : r = true := by
  induction ins generalizing s with
  | nil => simp [run] at hw
  | cons i is ih =>
    obtain ⟨hs', hstep⟩ := dataHandler_countsAtLeast (c := c) (i := i) hs
    rcases List.mem_cons.mp hw with hw | hw
    · exact hstep n z r hw.symm hlim
    · exact ih hs' hw

/-- Over every run from a state whose counters are its open file's (the thread's start is one)
in which no write fails, each write is rotated exactly when its file's own STF count reaches
`mStfsPerFile` (when it is positive) or its size reaches `mFileSize`. -/
theorem run_rotates_iff {ins : List StfInput} (hs : s.Counted)
    (hok : SinkOutcome.writeFailed ∉ (run c s ins).2) {n z : Nat} {r : Bool}
    (hw : SinkOutcome.written n z r ∈ (run c s ins).2) :
    r = true ↔ 0 < c.mStfsPerFile ∧ c.mStfsPerFile ≤ n ∨ c.mFileSize ≤ z := by
  induction ins generalizing s with
  | nil => simp [run] at hw
  | cons i is ih =>
    simp only [run, List.mem_cons, not_or] at hok hw
    obtain ⟨hs', hstep⟩ := dataHandler_counted hs (Ne.symm hok.1)
    rcases hw with hw | hw
    · exact hstep n z r hw.symm
    · exact ih hs' hok.2 hw

end SinkState

/-- Over every run of the thread from its start, with any writer and write results, a write is
closed whenever its file's own STF count reaches `mStfsPerFile` (when it is positive) or its size
reaches `mFileSize`, so no file is closed late; and when no write fails, exactly then. -/
theorem dataHandler_closes_files_at_limits (c : FileSink) (idx : Nat) (ins : List StfInput) :
    (∀ n z r, SinkOutcome.written n z r ∈ (SinkState.run c (SinkState.start idx) ins).2 →
      (0 < c.mStfsPerFile ∧ c.mStfsPerFile ≤ n ∨ c.mFileSize ≤ z) → r = true) ∧
    (SinkOutcome.writeFailed ∉ (SinkState.run c (SinkState.start idx) ins).2 →
      ∀ n z r, SinkOutcome.written n z r ∈ (SinkState.run c (SinkState.start idx) ins).2 →
        (r = true ↔ 0 < c.mStfsPerFile ∧ c.mStfsPerFile ≤ n ∨ c.mFileSize ≤ z)) :=
  ⟨fun _ _ _ hw => SinkState.run_rotates_of_limit (SinkState.counted_start idx).countsAtLeast hw,
    fun hok _ _ _ hw => SinkState.run_rotates_iff (SinkState.counted_start idx) hok hw⟩

/-- An enabled, ready sink that accepts every STF, with `mStfsPerFile = 2` and 1 MiB files. -/
def twoPerFileSink : FileSink := (⟨true, true, 0, 0, 0⟩ : FileSink).loadVerifyConfig 2 1 100

/-- The same sink with no STF limit and a configured size of `2^44` MiB. -/
def hugeFileSink : FileSink := (⟨true, true, 0, 0, 0⟩ : FileSink).loadVerifyConfig 0 (2 ^ 44) 100

/-- Two ways a file is closed before its limits.  With `mStfsPerFile = 2`, the STF written to a
file that is removed after a failed write stays counted, so the next file is closed after its
first STF.  A configured size of `2^44` MiB shifts to `mFileSize = 0`, so a file is closed after
one STF of 10 bytes. -/
theorem dataHandler_rotates_early :
    (SinkState.run twoPerFileSink (SinkState.start 0)
        [⟨0, true, some 10⟩, ⟨0, true, none⟩, ⟨0, true, some 10⟩]).2 =
      [.written 1 10 false, .writeFailed, .written 1 10 true] ∧
    hugeFileSink.mFileSize = 0 ∧
    (SinkState.run hugeFileSink (SinkState.start 0) [⟨0, true, some 10⟩]).2 =
      [.written 1 10 true] := by
  decide

end DataDistribution.Common
