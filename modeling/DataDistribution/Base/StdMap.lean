import Mathlib.Order.Lattice
import Mathlib.Algebra.Group.Nat.Basic
import Mathlib.Data.List.Basic

/-!
# Ordered maps as `std::map`

A `StdMap` is a key-sorted entry list that carries its sortedness, so iteration visits keys in
ascending order, as in the C++ container; `operator[]` followed by an update is `upsert`.
-/

namespace DataDistribution.Base

variable {κ α : Type} [LinearOrder κ]

/-- Entry lists sorted strictly by key: the representation invariant of `StdMap`. -/
def Sorted (l : List (κ × α)) : Prop := l.Pairwise (fun a b => a.1 < b.1)

/-- Lookup of a key in an entry list. -/
def findEntry (k : κ) : List (κ × α) → Option α
  | [] => none
  | (k', v) :: rest => if k = k' then some v else findEntry k rest

/-- Single-pass sorted update: `f none` is stored for a fresh key, `f (some v)` replaces `v`. -/
def upsertEntry (k : κ) (f : Option α → α) : List (κ × α) → List (κ × α)
  | [] => [(k, f none)]
  | (k', v) :: rest =>
    if k < k' then (k, f none) :: (k', v) :: rest
    else if k = k' then (k, f (some v)) :: rest
    else (k', v) :: upsertEntry k f rest

/-- Removal of a key from an entry list. -/
def eraseEntry (k : κ) : List (κ × α) → List (κ × α)
  | [] => []
  | (k', v) :: rest => if k = k' then rest else (k', v) :: eraseEntry k rest

/-- In a sorted entry list every key after the first is greater than it. -/
theorem Sorted.head_lt {k : κ} {v : α} {rest : List (κ × α)} (h : Sorted ((k, v) :: rest)) :
    ∀ e ∈ rest, k < e.1 :=
  fun _ he => List.rel_of_pairwise_cons h he

/-- A key below every key of the list is not found. -/
theorem findEntry_of_lt {k : κ} : ∀ {l : List (κ × α)}, (∀ e ∈ l, k < e.1) → findEntry k l = none
  | [], _ => rfl
  | (k', v) :: rest, h => by
    have hk : k ≠ k' := ne_of_lt (h (k', v) (List.mem_cons_self _ _))
    simp only [findEntry, hk, if_false]
    exact findEntry_of_lt fun e he => h e (List.mem_cons_of_mem _ he)

private theorem mem_upsertEntry {k : κ} {f : Option α → α} {e : κ × α} :
    ∀ {l : List (κ × α)}, e ∈ upsertEntry k f l → e.1 = k ∨ e ∈ l
  | [], h => by simp_all [upsertEntry]
  | (k', v) :: rest, h => by
    simp only [upsertEntry] at h
    split_ifs at h
    · rcases List.mem_cons.mp h with rfl | h <;> simp_all
    · rcases List.mem_cons.mp h with rfl | h <;> simp_all
    · rcases List.mem_cons.mp h with rfl | h
      · simp
      · rcases mem_upsertEntry h with h | h <;> simp_all

private theorem sorted_upsertEntry (k : κ) (f : Option α → α) :
    ∀ {l : List (κ × α)}, Sorted l → Sorted (upsertEntry k f l)
  | [], _ => List.pairwise_singleton _ _
  | (k', v) :: rest, h => by
    have hr := h.head_lt
    simp only [upsertEntry]
    split_ifs with h1 h2
    · exact List.Pairwise.cons (fun e he => (List.mem_cons.mp he).elim
        (fun he => he ▸ h1) fun he => h1.trans (hr _ he)) h
    · subst h2
      exact List.Pairwise.cons (fun e he => hr _ he) h.of_cons
    · refine List.Pairwise.cons (fun e he => ?_) (sorted_upsertEntry k f h.of_cons)
      rcases mem_upsertEntry he with he | he
      · rw [he]; exact lt_of_le_of_ne (not_lt.mp h1) (Ne.symm h2)
      · exact hr _ he

private theorem eraseEntry_sublist (k : κ) : ∀ l : List (κ × α), (eraseEntry k l).Sublist l
  | [] => List.Sublist.slnil
  | (k', v) :: rest => by
    simp only [eraseEntry]
    split_ifs
    · exact List.sublist_cons_self _ _
    · exact (eraseEntry_sublist k rest).cons₂ _

private theorem findEntry_upsertEntry (k k' : κ) (f : Option α → α) :
    ∀ {l : List (κ × α)}, Sorted l → findEntry k' (upsertEntry k f l) =
      if k' = k then some (f (findEntry k l)) else findEntry k' l
  | [], _ => by by_cases h : k' = k <;> simp [upsertEntry, findEntry, h]
  | (k'', v) :: rest, h => by
    have hr := h.head_lt
    by_cases h1 : k < k''
    · have hn : findEntry k rest = none := findEntry_of_lt fun e he => h1.trans (hr _ he)
      by_cases hk : k' = k
      · subst hk; simp [upsertEntry, findEntry, h1, ne_of_lt h1, hn]
      · simp [upsertEntry, findEntry, h1, hk]
    · have ih := findEntry_upsertEntry k k' f h.of_cons
      by_cases h2 : k = k''
      · subst h2; by_cases hk : k' = k <;> simp [upsertEntry, findEntry, hk]
      · by_cases hk : k' = k
        · subst hk; simp [upsertEntry, findEntry, h1, h2, ih]
        · simp [upsertEntry, findEntry, h1, h2, hk, ih]

private theorem findEntry_eraseEntry (k k' : κ) :
    ∀ {l : List (κ × α)}, Sorted l → findEntry k' (eraseEntry k l) =
      if k' = k then none else findEntry k' l
  | [], _ => by simp [eraseEntry, findEntry]
  | (k'', v) :: rest, h => by
    have ih := findEntry_eraseEntry k k' h.of_cons
    by_cases h1 : k = k''
    · subst h1
      by_cases hk : k' = k
      · subst hk; simpa [eraseEntry] using findEntry_of_lt h.head_lt
      · simp [eraseEntry, findEntry, hk]
    · by_cases hk : k' = k
      · subst hk; simp [eraseEntry, findEntry, h1, ih]
      · simp [eraseEntry, findEntry, h1, hk, ih]

private theorem mem_iff_findEntry {k : κ} {v : α} :
    ∀ {l : List (κ × α)}, Sorted l → ((k, v) ∈ l ↔ findEntry k l = some v)
  | [], _ => by simp [findEntry]
  | (k', v') :: rest, h => by
    by_cases hk : k = k'
    · subst hk
      have hn : (k, v) ∉ rest := fun hm => lt_irrefl _ (h.head_lt _ hm)
      simp [findEntry, hn, eq_comm]
    · simp [findEntry, hk, mem_iff_findEntry h.of_cons]

private theorem eraseEntry_of_findEntry_none {k : κ} :
    ∀ {l : List (κ × α)}, findEntry k l = none → eraseEntry k l = l
  | [], _ => rfl
  | (k', v) :: rest, h => by
    by_cases hk : k = k'
    · simp [findEntry, hk] at h
    · simp only [findEntry, hk, if_false] at h
      simp [eraseEntry, hk, eraseEntry_of_findEntry_none h]

/-- An update leaves the other entries, in some order, beside the updated one. -/
theorem perm_upsertEntry (k : κ) (f : Option α → α) :
    ∀ {l : List (κ × α)}, Sorted l →
      (upsertEntry k f l).Perm ((k, f (findEntry k l)) :: eraseEntry k l)
  | [], _ => by simp [upsertEntry, findEntry, eraseEntry]
  | (k', v) :: rest, h => by
    by_cases h1 : k < k'
    · have hn : findEntry k rest = none := findEntry_of_lt fun e he => h1.trans (h.head_lt _ he)
      simp [upsertEntry, findEntry, eraseEntry, h1, ne_of_lt h1, hn,
        eraseEntry_of_findEntry_none hn]
    · by_cases h2 : k = k'
      · subst h2; simp [upsertEntry, findEntry, eraseEntry]
      · simp only [upsertEntry, findEntry, eraseEntry, h1, h2, if_false]
        exact ((perm_upsertEntry k f h.of_cons).cons _).trans (List.Perm.swap _ _ _)

/-- A present entry can be moved to the front, beside the list without it. -/
theorem perm_eraseEntry {k : κ} {v : α} :
    ∀ {l : List (κ × α)}, findEntry k l = some v → l.Perm ((k, v) :: eraseEntry k l)
  | [], h => by simp [findEntry] at h
  | (k', v') :: rest, h => by
    by_cases hk : k = k'
    · subst hk
      simp only [findEntry, if_true, Option.some.injEq] at h
      simp [eraseEntry, h]
    · simp only [findEntry, hk, if_false] at h
      simp only [eraseEntry, hk, if_false]
      exact ((perm_eraseEntry h).cons _).trans (List.Perm.swap _ _ _)

/-- A `std::map`: an entry list sorted strictly by key. -/
structure StdMap (κ α : Type) [LinearOrder κ] where
  entries : List (κ × α)
  sorted : Sorted entries

namespace StdMap

/-- The empty map. -/
def empty : StdMap κ α := ⟨[], List.Pairwise.nil⟩

instance : Inhabited (StdMap κ α) := ⟨empty⟩

/-- Lookup (`find`, `count`). -/
def find? (m : StdMap κ α) (k : κ) : Option α := findEntry k m.entries

/-- `m[k]` followed by an update of the mapped value; `f none` default-constructs. -/
def upsert (m : StdMap κ α) (k : κ) (f : Option α → α) : StdMap κ α :=
  ⟨upsertEntry k f m.entries, sorted_upsertEntry k f m.sorted⟩

/-- `m.erase(k)`. -/
def erase (m : StdMap κ α) (k : κ) : StdMap κ α :=
  ⟨eraseEntry k m.entries, m.sorted.sublist (eraseEntry_sublist k _)⟩

/-- `m.begin()`: the entry with the least key. -/
def min? (m : StdMap κ α) : Option (κ × α) := m.entries.head?

/-- `m.rbegin()`: the entry with the greatest key. -/
def max? (m : StdMap κ α) : Option (κ × α) := m.entries.getLast?

/-- Update every mapped value in place, keeping the keys. -/
def mapVal {β : Type} (f : α → β) (m : StdMap κ α) : StdMap κ β :=
  ⟨m.entries.map (fun e => (e.1, f e.2)), List.pairwise_map.2 (m.sorted.imp id)⟩

/-- `m.count(k) != 0`. -/
def contains (m : StdMap κ α) (k : κ) : Bool := (m.find? k).isSome

/-- The empty map finds no key. -/
@[simp] theorem find?_empty (k : κ) : (empty : StdMap κ α).find? k = none := rfl

/-- After `upsert` the key finds its new value and every other key what it found before. -/
theorem find?_upsert (m : StdMap κ α) (k k' : κ) (f : Option α → α) :
    (m.upsert k f).find? k' = if k' = k then some (f (m.find? k)) else m.find? k' :=
  findEntry_upsertEntry k k' f m.sorted

/-- After `erase` the key finds nothing and every other key what it found before. -/
theorem find?_erase (m : StdMap κ α) (k k' : κ) :
    (m.erase k).find? k' = if k' = k then none else m.find? k' :=
  findEntry_eraseEntry k k' m.sorted

/-- The upserted key finds its new value. -/
@[simp] theorem find?_upsert_self (m : StdMap κ α) (k : κ) (f : Option α → α) :
    (m.upsert k f).find? k = some (f (m.find? k)) := by
  simp [find?_upsert]

/-- The erased key finds nothing. -/
@[simp] theorem find?_erase_self (m : StdMap κ α) (k : κ) : (m.erase k).find? k = none := by
  simp [find?_erase]

/-- `mapVal` maps the value found at each key. -/
@[simp] theorem find?_mapVal {β : Type} (f : α → β) (m : StdMap κ α) (k : κ) :
    (m.mapVal f).find? k = (m.find? k).map f := by
  simp only [find?, mapVal]
  induction m.entries with
  | nil => rfl
  | cons e rest ih => by_cases h : k = e.1 <;> simp [findEntry, h, ih]

/-- After `m[k]` and an update, the entries are those of `m` without `k`, and the new one. -/
theorem entries_upsert_perm (m : StdMap κ α) (k : κ) (f : Option α → α) :
    (m.upsert k f).entries.Perm ((k, f (m.find? k)) :: (m.erase k).entries) :=
  perm_upsertEntry k f m.sorted

/-- A present entry followed by the entries left after erasing its key are the map's entries, up to
order. -/
theorem entries_perm_erase {m : StdMap κ α} {k : κ} {v : α} (h : m.find? k = some v) :
    m.entries.Perm ((k, v) :: (m.erase k).entries) :=
  perm_eraseEntry h

/-- Erasing an absent key leaves the entries as they were. -/
theorem erase_entries_of_find?_none {m : StdMap κ α} {k : κ} (h : m.find? k = none) :
    (m.erase k).entries = m.entries :=
  eraseEntry_of_findEntry_none h

/-- An entry is in the map exactly when its key finds its value. -/
theorem mem_entries_iff (m : StdMap κ α) {k : κ} {v : α} :
    (k, v) ∈ m.entries ↔ m.find? k = some v :=
  mem_iff_findEntry m.sorted

/-- `begin()` holds the least key present. -/
theorem min?_spec {m : StdMap κ α} {k : κ} {v : α} (h : m.min? = some (k, v)) :
    m.find? k = some v ∧ ∀ k' v', m.find? k' = some v' → k ≤ k' := by
  cases hm : m.entries with
  | nil => simp [min?, hm] at h
  | cons e rest =>
    simp only [min?, hm, List.head?_cons, Option.some.injEq] at h
    subst h
    have hs := hm ▸ m.sorted
    refine ⟨(m.mem_entries_iff).1 (by simp [hm]), fun k' v' h' => ?_⟩
    rcases List.mem_cons.mp (hm ▸ (m.mem_entries_iff).2 h') with he | he
    · simp_all
    · exact le_of_lt (hs.head_lt _ he)

end StdMap

end DataDistribution.Base
