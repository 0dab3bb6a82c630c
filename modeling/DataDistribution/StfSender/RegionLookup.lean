import Mathlib.Data.List.Sort
import Mathlib.Algebra.Group.Nat.Basic

/-!
# StfSender UCX memory regions and the thread-local lookup cache

`src/src/StfSender/StfSenderOutputUCX.h:97–162`.  The state is `mRegions` and one thread's
cache; pointer sums wrap modulo `2^64`.  `std::sort` is not stable, so the results use only that
the sorted copy is a permutation.  The UCX handles and remote-key buffers are left out.
-/

namespace DataDistribution.StfSender

/-- `UCXMemoryRegionInfo`: the region's start and size. -/
structure UCXMemoryRegionInfo where
  mPtr : Nat
  mSize : Nat
  deriving DecidableEq, Repr

/-- The registered regions and the calling thread's cache. -/
structure RegionState where
  mRegions : List UCXMemoryRegionInfo
  sRegions : List UCXMemoryRegionInfo
  deriving DecidableEq, Repr

/-- No region registered and an empty cache. -/
def RegionState.init : RegionState := ⟨[], []⟩

/-- The check of `regionLookup`'s scan (`StfSenderOutputUCX.h:143–145`). -/
def regionContains (pPtr pSize : Nat) (lRegion : UCXMemoryRegionInfo) : Bool :=
  decide (lRegion.mPtr ≤ pPtr ∧ (pPtr + pSize) % 2 ^ 64 ≤ (lRegion.mPtr + lRegion.mSize) % 2 ^ 64)

/-- `std::sort` of the reloaded cache, largest region first. -/
def sortBySize (l : List UCXMemoryRegionInfo) : List UCXMemoryRegionInfo :=
  l.insertionSort fun a b => b.mSize ≤ a.mSize

namespace RegionState

/-- `registerSHMRegion` (`StfSenderOutputUCX.h:108–133`); `mRunning` and whether UCX maps the
region are inputs. -/
def registerSHMRegion (s : RegionState) (pPtr pSize : Nat) (mRunning mapped : Bool) :
    RegionState :=
  if !mRunning then s
  else if !mapped then s
  else { s with mRegions := s.mRegions ++ [⟨pPtr, pSize⟩] }

/-- `regionLookup` (`StfSenderOutputUCX.h:135–162`), its loop unrolled: the region found or the
error thrown, and the state after. -/
def regionLookup (s : RegionState) (pPtr pSize : Nat) :
    Except String UCXMemoryRegionInfo × RegionState :=
  match s.sRegions.find? (regionContains pPtr pSize) with
  | some lRegion => (.ok lRegion, s)
  | none =>
    match (sortBySize s.mRegions).find? (regionContains pPtr pSize) with
    | some lRegion => (.ok lRegion, { s with sRegions := sortBySize s.mRegions })
    | none => (.error "no region matched", { s with sRegions := sortBySize s.mRegions })

/-- A call on the StfSender: a registration (with its outcome) or a lookup on the thread. -/
inductive RegionEvent where
  | register (pPtr pSize : Nat) (mRunning mapped : Bool)
  | lookup (pPtr pSize : Nat)
  deriving DecidableEq, Repr

/-- One call. -/
def step (s : RegionState) : RegionEvent → RegionState
  | .register p n r m => s.registerSHMRegion p n r m
  | .lookup p n => (s.regionLookup p n).2

/-- A sequence of calls. -/
def run (s : RegionState) (es : List RegionEvent) : RegionState := es.foldl step s

/-! ### The cache holds registered regions -/

/-- Every cached region is registered. -/
def CacheInv (s : RegionState) : Prop := ∀ r ∈ s.sRegions, r ∈ s.mRegions

private theorem mem_sortBySize {r : UCXMemoryRegionInfo} {l : List UCXMemoryRegionInfo} :
    r ∈ sortBySize l ↔ r ∈ l :=
  (List.perm_insertionSort _ l).mem_iff

/-- At the start no region is cached. -/
theorem cacheInv_init : CacheInv init := fun _ h => absurd h (List.not_mem_nil _)

/-- A lookup caches registered regions only. -/
theorem cacheInv_regionLookup {s : RegionState} (hs : CacheInv s) (pPtr pSize : Nat) :
    CacheInv (s.regionLookup pPtr pSize).2 := by
  unfold regionLookup
  split
  · exact hs
  · split <;> exact fun _ h => mem_sortBySize.mp h

/-- Every event keeps the cache within the registered regions. -/
theorem cacheInv_step {s : RegionState} (hs : CacheInv s) (e : RegionEvent) :
    CacheInv (s.step e) := by
  cases e with
  | register p n r m =>
    simp only [step, registerSHMRegion]
    split_ifs
    · exact hs
    · exact hs
    · exact fun x hx => List.mem_append_left _ (hs x hx)
  | lookup p n => exact cacheInv_regionLookup hs p n

/-- Every run keeps the cache within the registered regions. -/
theorem cacheInv_run {s : RegionState} (hs : CacheInv s) (es : List RegionEvent) :
    CacheInv (s.run es) := by
  induction es generalizing s with
  | nil => exact hs
  | cons e es ih => exact ih (cacheInv_step hs e)

/-! ### Agreement with a direct search -/

/-- Without wrap-around, the scan's check is containment of `[ptr, ptr + size)` as integers. -/
theorem regionContains_iff {pPtr pSize : Nat} {r : UCXMemoryRegionInfo}
    (hr : r.mPtr + r.mSize < 2 ^ 64) (hp : pPtr + pSize < 2 ^ 64) :
    regionContains pPtr pSize r = true ↔ r.mPtr ≤ pPtr ∧ pPtr + pSize ≤ r.mPtr + r.mSize := by
  rw [regionContains, Nat.mod_eq_of_lt hr, Nat.mod_eq_of_lt hp]
  exact decide_eq_true_iff

/-- From a state whose cache holds registered regions, a lookup returns a registered region
that contains the range, and throws only when no registered region contains it. -/
theorem regionLookup_spec {s : RegionState} (hs : CacheInv s) {pPtr pSize : Nat}
    (hreg : ∀ r ∈ s.mRegions, r.mPtr + r.mSize < 2 ^ 64) (hp : pPtr + pSize < 2 ^ 64) :
    (∀ r, (s.regionLookup pPtr pSize).1 = .ok r →
      r ∈ s.mRegions ∧ r.mPtr ≤ pPtr ∧ pPtr + pSize ≤ r.mPtr + r.mSize) ∧
    (∀ err, (s.regionLookup pPtr pSize).1 = .error err →
      ∀ r ∈ s.mRegions, ¬(r.mPtr ≤ pPtr ∧ pPtr + pSize ≤ r.mPtr + r.mSize)) := by
  have found {l : List UCXMemoryRegionInfo} (hl : ∀ r ∈ l, r ∈ s.mRegions) {r}
      (h : l.find? (regionContains pPtr pSize) = some r) :
      r ∈ s.mRegions ∧ r.mPtr ≤ pPtr ∧ pPtr + pSize ≤ r.mPtr + r.mSize :=
    have hm := hl r (List.mem_of_find?_eq_some h)
    ⟨hm, (regionContains_iff (hreg r hm) hp).mp (List.find?_some h)⟩
  unfold regionLookup
  split
  · rename_i r hr
    exact ⟨fun r' h => Except.ok.inj h ▸ found hs hr, fun _ h => nomatch h⟩
  · split
    · rename_i r hr
      exact ⟨fun r' h => Except.ok.inj h ▸ found (fun _ => mem_sortBySize.mp) hr,
        fun _ h => nomatch h⟩
    · rename_i hr
      refine ⟨fun _ h => (nomatch h), fun _ _ r hm hc => ?_⟩
      have := List.find?_eq_none.mp hr r (mem_sortBySize.mpr hm)
      exact absurd ((regionContains_iff (hreg r hm) hp).mpr hc) (by simpa using this)

/-- Over any sequence of registrations and lookups on one thread, a lookup agrees with a direct
search of the registered regions, however stale the thread's cache: a region it returns is
registered and contains `[ptr, ptr + size)`, and it throws only when no registered region
does. -/
theorem regionLookup_agrees_with_search (es : List RegionEvent) (pPtr pSize : Nat)
    (hreg : ∀ r ∈ (init.run es).mRegions, r.mPtr + r.mSize < 2 ^ 64)
    (hp : pPtr + pSize < 2 ^ 64) :
    (∀ r, ((init.run es).regionLookup pPtr pSize).1 = .ok r →
      r ∈ (init.run es).mRegions ∧ r.mPtr ≤ pPtr ∧ pPtr + pSize ≤ r.mPtr + r.mSize) ∧
    (∀ err, ((init.run es).regionLookup pPtr pSize).1 = .error err →
      ∀ r ∈ (init.run es).mRegions, ¬(r.mPtr ≤ pPtr ∧ pPtr + pSize ≤ r.mPtr + r.mSize)) :=
  regionLookup_spec (cacheInv_run cacheInv_init es) hreg hp

/-- A region registered, the cache filled by a lookup, a second region registered after. -/
def staleCacheCalls : List RegionEvent :=
  [.register 100 50 true true, .lookup 120 10, .register 300 100 true true]

/-- A lookup in the second region, with the thread's cache stale. -/
theorem regionLookup_agrees_with_search_stale_cache :
    (∀ r ∈ (init.run staleCacheCalls).mRegions, r.mPtr + r.mSize < 2 ^ 64) ∧ 320 + 10 < 2 ^ 64 ∧
    ((∀ r, ((init.run staleCacheCalls).regionLookup 320 10).1 = .ok r →
        r ∈ (init.run staleCacheCalls).mRegions ∧ r.mPtr ≤ 320 ∧ 320 + 10 ≤ r.mPtr + r.mSize) ∧
      (∀ err, ((init.run staleCacheCalls).regionLookup 320 10).1 = .error err →
        ∀ r ∈ (init.run staleCacheCalls).mRegions, ¬(r.mPtr ≤ 320 ∧ 320 + 10 ≤ r.mPtr + r.mSize))) :=
  ⟨by decide, by decide, regionLookup_agrees_with_search _ _ _ (by decide) (by decide)⟩

/-- The stale cache misses, is reloaded, and the second region is found. -/
example : ((init.run staleCacheCalls).regionLookup 320 10).1.toOption = some ⟨300, 100⟩ := by
  decide

end RegionState

end DataDistribution.StfSender
