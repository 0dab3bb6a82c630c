import Mathlib.Algebra.Group.Nat.Basic
import Mathlib.Data.List.Basic

/-!
# Tunable parameters from the discovery store

`src/src/common/discovery/ConfigConsul.h:238–410`.  Strings are character lists;
`std::to_string` is `Nat.toDigits 10` with a sign, and `boost::lexical_cast` reads an optional
sign and decimal digits.  A poll has all its Consul requests answered or none: an error part way
through a poll is left out.
-/

namespace DataDistribution.Discovery

/-! ### String maps and the store -/

/-- A map with distinct string keys: `std::map<std::string, std::string>` and the Consul
key-value store both hold one.  The order of the entries carries no meaning. -/
structure StringMap where
  entries : List (List Char × List Char)
  nodup : (entries.map Prod.fst).Nodup

/-- Looking a key up among the entries whose key passes `q`. -/
theorem lookup_filter_key (q : List Char → Bool) (k : List Char) :
    ∀ l : List (List Char × List Char),
      (l.filter fun e => q e.1).lookup k = if q k then l.lookup k else none
  | [] => by simp
  | (a, b) :: l => by
    by_cases hk : k = a
    · subst hk; by_cases hq : q k <;> simp [List.filter_cons, hq, lookup_filter_key q k l]
    · by_cases hq : q a <;>
        simp [List.filter_cons, List.lookup_cons, hq, beq_false_of_ne hk, lookup_filter_key q k l]

namespace StringMap

/-- The empty map, and a map after `clear()`. -/
def empty : StringMap := ⟨[], List.nodup_nil⟩

/-- The value stored at a key: `at(k)` where `count(k) > 0`. -/
def find? (m : StringMap) (k : List Char) : Option (List Char) := m.entries.lookup k

/-- `m[k] = v`, `insert_or_assign(k, v)` and `kv.set(k, v)`. -/
def insert (m : StringMap) (k v : List Char) : StringMap :=
  ⟨(k, v) :: m.entries.filter (·.1 != k),
    List.nodup_cons.2 ⟨by simp, m.nodup.sublist ((List.filter_sublist _).map _)⟩⟩

/-- `kv.items(p)`: the entries whose key starts with `p`. -/
def items (m : StringMap) (p : List Char) : List (List Char × List Char) :=
  m.entries.filter (p.isPrefixOf ·.1)

/-- The empty map finds no key. -/
@[simp] theorem find?_empty (k : List Char) : empty.find? k = none := rfl

/-- After `insert` the key finds the new value and every other key what it found before. -/
@[simp] theorem find?_insert (m : StringMap) (k v q : List Char) :
    (m.insert k v).find? q = if q = k then some v else m.find? q := by
  by_cases h : q = k
  · simp [find?, insert, h]
  · have hf := lookup_filter_key (· != k) q m.entries
    simp only [bne_iff_ne, ne_eq, decide_not, h, decide_False, Bool.not_false, if_true] at hf
    simp [find?, insert, List.lookup_cons, beq_false_of_ne h, hf, h]

/-- Among the items under a prefix, a key finds its value when it starts with the prefix. -/
theorem lookup_items (m : StringMap) (p k : List Char) :
    (m.items p).lookup k = if p.isPrefixOf k then m.find? k else none :=
  lookup_filter_key (p.isPrefixOf ·) k m.entries

private theorem nodup_items (m : StringMap) (p : List Char) : ((m.items p).map Prod.fst).Nodup :=
  m.nodup.sublist ((List.filter_sublist _).map _)

private theorem lookup_eq_none_of_not_mem {k : List Char} {l : List (List Char × List Char)}
    (h : k ∉ l.map Prod.fst) : l.lookup k = none :=
  List.lookup_eq_none_iff.2 fun _ he => bne_iff_ne.2 fun hk => h (hk ▸ List.mem_map_of_mem _ he)

private theorem isPrefixOf_of_mem_items {m : StringMap} {p : List Char} {e : List Char × List Char}
    (h : e ∈ m.items p) : p.isPrefixOf e.1 := (List.mem_filter.1 h).2

end StringMap

open StringMap

/-- A stored value as a poll reads it: only a non-empty one (line 296). -/
def readable (v : Option (List Char)) : Option (List Char) := v.filter (!·.isEmpty)

/-- Nothing stored reads as nothing. -/
@[simp] theorem readable_none : readable none = none := rfl

/-- A non-empty value reads as itself. -/
theorem readable_some {v : List Char} (h : v ≠ []) : readable (some v) = some v := by
  simp [readable, h]

/-! ### Prefixes and full keys -/

/-- The status type a `ConsulConfig<T>` is instantiated with; it picks the tunable prefix. -/
inductive ConfigStatus where
  | TfSchedulerConfigStatus
  | StfBuilderConfigStatus
  | StfSenderConfigStatus
  | TfBuilderConfigStatus
  deriving DecidableEq, Repr

/-- `getGlobalTunablePrefix()`. -/
def getGlobalTunablePrefix : List Char := "epn/data-dist/parameters/Global/".toList

/-- `getTunablePrefix()`. -/
def getTunablePrefix : ConfigStatus → List Char
  | .TfSchedulerConfigStatus => "epn/data-dist/parameters/TfScheduler/".toList
  | .StfBuilderConfigStatus => "epn/data-dist/parameters/StfBuilder/".toList
  | .StfSenderConfigStatus => "epn/data-dist/parameters/StfSender/".toList
  | .TfBuilderConfigStatus => "epn/data-dist/parameters/TfBuilder/".toList

/-- `keyVec`: the prefixes a poll reads, global first (line 276). -/
def keyVec (T : ConfigStatus) : List (List Char) := [getGlobalTunablePrefix, getTunablePrefix T]

/-- `lFullKey`, where a queued default is written (line 321): under the global prefix for a key
starting with `DataDist`, and under the process-type prefix otherwise. -/
def fullKey (T : ConfigStatus) (lKey : List Char) : List Char :=
  (if "DataDist".toList.isPrefixOf lKey then getGlobalTunablePrefix else getTunablePrefix T) ++ lKey

/-- The two prefixes part at their 26th character, so no key is under both. -/
theorem global_append_ne_tunable (T : ConfigStatus) (x y : List Char) :
    getGlobalTunablePrefix ++ x ≠ getTunablePrefix T ++ y := fun h => by
  have h25 := congrArg (·[25]?) h
  cases T <;> simp only [getGlobalTunablePrefix, getTunablePrefix] at h25 <;>
    rw [List.getElem?_append_left (by decide), List.getElem?_append_left (by decide)] at h25 <;>
    exact absurd h25 (by decide)

/-- A `DataDist` key is written under the global prefix. -/
theorem fullKey_of_dataDist {T : ConfigStatus} {k : List Char}
    (h : "DataDist".toList.isPrefixOf k) : fullKey T k = getGlobalTunablePrefix ++ k := by
  rw [fullKey, if_pos h]

/-- Any other key is written under the process-type prefix. -/
theorem fullKey_of_not_dataDist {T : ConfigStatus} {k : List Char}
    (h : ¬"DataDist".toList.isPrefixOf k) : fullKey T k = getTunablePrefix T ++ k := by
  rw [fullKey, if_neg h]

/-- Distinct keys are written to distinct full keys. -/
theorem fullKey_injective (T : ConfigStatus) {k k' : List Char} (h : fullKey T k = fullKey T k') :
    k = k' := by
  by_cases hk : "DataDist".toList.isPrefixOf k <;> by_cases hk' : "DataDist".toList.isPrefixOf k'
  · rw [fullKey_of_dataDist hk, fullKey_of_dataDist hk'] at h; exact List.append_cancel_left h
  · rw [fullKey_of_dataDist hk, fullKey_of_not_dataDist hk'] at h
    exact absurd h (global_append_ne_tunable T k k')
  · rw [fullKey_of_not_dataDist hk, fullKey_of_dataDist hk'] at h
    exact absurd h.symm (global_append_ne_tunable T k' k)
  · rw [fullKey_of_not_dataDist hk, fullKey_of_not_dataDist hk'] at h
    exact List.append_cancel_left h

/-! ### The polling thread -/

/-- `mTunablesLock`'s two maps: the values the last poll read, and the defaults to write back. -/
structure Tunables where
  mTunables : StringMap
  mTunablesToAdd : StringMap

/-- `mTunables[lParamName] = lKeyVal.value` for each item with a non-empty value, the parameter's
name being the key without the prefix (lines 295–311). -/
def readItems (lKey : List Char) (m : StringMap) (lReqItems : List (List Char × List Char)) :
    StringMap :=
  lReqItems.foldl (fun m e => if e.2.isEmpty then m else m.insert (e.1.drop lKey.length) e.2) m

/-- One pass of the loop over `keyVec` (lines 286–313): `kv.items(lKey)`, then `kv.set(lKey, "")`
when it is empty, or else reading its items. -/
def readPrefix (acc : StringMap × StringMap) (lKey : List Char) : StringMap × StringMap :=
  let lReqItems := acc.2.items lKey
  if lReqItems.isEmpty then (acc.1, acc.2.insert lKey [])
  else (readItems lKey acc.1 lReqItems, acc.2)

/-- The write-back loop over `mTunablesToAdd` (lines 315–327). -/
def writeBack (T : ConfigStatus) (toAdd kv : StringMap) : StringMap :=
  toAdd.entries.foldl (fun kv e => kv.insert (fullKey T e.1) e.2) kv

/-- One iteration of `ConsulPollingThread` (lines 278–335) on the store `kv`.  `mTunables` is
cleared first; when Consul answers, the prefixes are read and `mTunablesToAdd` is written back
and cleared, and when it does not, the exception leaves the rest as it was. -/
def poll (T : ConfigStatus) (t : Tunables) (kv : StringMap) (reachable : Bool) :
    Tunables × StringMap :=
  if reachable then
    let lRead := (keyVec T).foldl readPrefix (StringMap.empty, kv)
    (⟨lRead.1, StringMap.empty⟩, writeBack T t.mTunablesToAdd lRead.2)
  else ({ t with mTunables := StringMap.empty }, kv)

/-- The parameters read from items with distinct keys under `p`: the readable value at `p ++ k`,
or else what `m` had. -/
theorem find?_readItems (p k : List Char) :
    ∀ (m : StringMap) (l : List (List Char × List Char)), (l.map Prod.fst).Nodup →
      (∀ e ∈ l, p.isPrefixOf e.1) →
      (readItems p m l).find? k = (readable (l.lookup (p ++ k))).or (m.find? k)
  | m, [], _, _ => by simp [readItems]
  | m, (key, v) :: l, hnd, hp => by
    obtain ⟨name, rfl⟩ : ∃ name, p ++ name = key :=
      List.isPrefixOf_iff_prefix.1 (hp _ (List.mem_cons_self _ _))
    rw [List.map_cons, List.nodup_cons] at hnd
    have ih := find?_readItems p k (if v.isEmpty then m else m.insert name v) l hnd.2
      fun e he => hp e (List.mem_cons_of_mem _ he)
    simp only [readItems, List.foldl_cons, List.drop_left] at ih ⊢
    rw [ih]
    by_cases hk : k = name
    · subst hk
      have hl : l.lookup (p ++ k) = none := lookup_eq_none_of_not_mem hnd.1
      cases hv : v.isEmpty <;> simp [hl, readable, hv, Option.filter_some]
    · have hne : (p ++ k == p ++ name) = false := by simp [hk]
      cases v.isEmpty <;> simp [List.lookup_cons, hne, hk]

private theorem readPrefix_fst (m kv : StringMap) (p : List Char) :
    (readPrefix (m, kv) p).1 = readItems p m (kv.items p) := by
  dsimp only [readPrefix]
  split
  · next h => rw [List.isEmpty_iff.1 h]; rfl
  · rfl

/-- A prefix's pass sets each parameter to the readable value under the prefix, or leaves it. -/
theorem find?_readPrefix_fst (m kv : StringMap) (p k : List Char) :
    (readPrefix (m, kv) p).1.find? k = (readable (kv.find? (p ++ k))).or (m.find? k) := by
  rw [readPrefix_fst, find?_readItems p k m _ (kv.nodup_items p)
    fun e he => isPrefixOf_of_mem_items he, lookup_items,
    if_pos (List.isPrefixOf_iff_prefix.2 (List.prefix_append p k))]

/-- A prefix's pass changes the store only by writing an empty value at the prefix, when no key
starts with it. -/
theorem find?_readPrefix_snd (acc : StringMap × StringMap) (p q : List Char) :
    (readPrefix acc p).2.find? q = acc.2.find? q ∨
      (q = p ∧ (∀ q', p.isPrefixOf q' → acc.2.find? q' = none) ∧
        (readPrefix acc p).2.find? q = some []) := by
  dsimp only [readPrefix]
  split
  · next h =>
    by_cases hq : q = p
    · subst hq
      refine .inr ⟨rfl, fun q' hq' => ?_, by simp⟩
      have hnone := lookup_items acc.2 q q'
      rw [List.isEmpty_iff.1 h, if_pos hq'] at hnone
      exact hnone.symm
    · simp [hq]
  · exact .inl rfl

/-- A prefix's pass removes no key of the store. -/
theorem find?_readPrefix_snd_isSome (acc : StringMap × StringMap) (p q : List Char)
    (h : (acc.2.find? q).isSome) : ((readPrefix acc p).2.find? q).isSome := by
  rcases find?_readPrefix_snd acc p q with he | ⟨-, -, he⟩ <;> simp [he, h]

/-- The defaults written back land at their full keys. -/
theorem find?_writeBack_fullKey (T : ConfigStatus) (k : List Char) :
    ∀ (l : List (List Char × List Char)) (kv : StringMap), (l.map Prod.fst).Nodup →
      (l.foldl (fun kv e => kv.insert (fullKey T e.1) e.2) kv).find? (fullKey T k) =
        (l.lookup k).or (kv.find? (fullKey T k))
  | [], _, _ => by simp
  | (k', v) :: l, kv, hnd => by
    rw [List.map_cons, List.nodup_cons] at hnd
    rw [List.foldl_cons, find?_writeBack_fullKey T k l _ hnd.2]
    by_cases hk : k = k'
    · subst hk
      simp [lookup_eq_none_of_not_mem hnd.1]
    · have hfk : fullKey T k ≠ fullKey T k' := fun h => hk (fullKey_injective T h)
      simp [List.lookup_cons, beq_false_of_ne hk, hfk]

/-- The write-back leaves alone every key that no queued default is written to. -/
theorem find?_writeBack_of_ne (T : ConfigStatus) (q : List Char) :
    ∀ (l : List (List Char × List Char)) (kv : StringMap), (∀ e ∈ l, fullKey T e.1 ≠ q) →
      (l.foldl (fun kv e => kv.insert (fullKey T e.1) e.2) kv).find? q = kv.find? q
  | [], _, _ => rfl
  | e :: l, kv, h => by
    rw [List.foldl_cons, find?_writeBack_of_ne T q l _ fun e' he' => h e' (.tail _ he'),
      find?_insert, if_neg (h e (List.mem_cons_self _ _)).symm]

/-- What a poll that reaches Consul reads: for each parameter, the readable value under the
process-type prefix, else the one under the global prefix. -/
theorem find?_poll_mTunables (T : ConfigStatus) (t : Tunables) (kv : StringMap) (k : List Char) :
    (poll T t kv true).1.mTunables.find? k =
      (readable (kv.find? (getTunablePrefix T ++ k))).or
        (readable (kv.find? (getGlobalTunablePrefix ++ k))) := by
  simp only [poll, keyVec, List.foldl_cons, List.foldl_nil, if_true]
  rw [find?_readPrefix_fst, find?_readPrefix_fst, find?_empty, Option.or_none]
  congr 1
  dsimp only [readPrefix]
  split
  · rw [find?_insert, if_neg fun h => global_append_ne_tunable T [] k
      (by rw [List.append_nil]; exact h.symm)]
  · rfl

/-- A poll that reaches Consul leaves every queued default at its full key. -/
theorem find?_poll_fullKey {T : ConfigStatus} {t : Tunables} {k v : List Char}
    (h : t.mTunablesToAdd.find? k = some v) (kv : StringMap) :
    (poll T t kv true).2.find? (fullKey T k) = some v := by
  simp only [poll, if_true, writeBack]
  rw [find?_writeBack_fullKey T k _ _ t.mTunablesToAdd.nodup]
  show (t.mTunablesToAdd.find? k).or _ = _
  rw [h]; rfl

/-- Away from the full keys of the queued defaults, a poll leaves the store as it was, but for an
empty value it may write at a prefix of `keyVec` under which no key was stored. -/
theorem find?_poll_of_ne {T : ConfigStatus} {t : Tunables} {q : List Char}
    (h : ∀ e ∈ t.mTunablesToAdd.entries, fullKey T e.1 ≠ q) (kv : StringMap) (r : Bool) :
    (poll T t kv r).2.find? q = kv.find? q ∨
      (q ∈ keyVec T ∧ (∀ q', q.isPrefixOf q' → kv.find? q' = none) ∧
        (poll T t kv r).2.find? q = some []) := by
  cases r
  · exact .inl rfl
  simp only [poll, if_true, writeBack]
  rw [find?_writeBack_of_ne T q _ _ h]
  simp only [keyVec, List.foldl_cons, List.foldl_nil]
  generalize hacc : readPrefix (StringMap.empty, kv) getGlobalTunablePrefix = acc
  rcases find?_readPrefix_snd acc (getTunablePrefix T) q with he | ⟨rfl, hnone, he⟩
  · rw [he, ← hacc]
    rcases find?_readPrefix_snd (StringMap.empty, kv) getGlobalTunablePrefix q with
      he | ⟨rfl, hnone, he⟩
    · exact .inl he
    · exact .inr ⟨List.mem_cons_self _ _, hnone, he⟩
  · refine .inr ⟨List.mem_cons_of_mem _ (List.mem_singleton_self _), fun q' hq' =>
      Option.not_isSome_iff_eq_none.1 fun hk => ?_, he⟩
    have hs := find?_readPrefix_snd_isSome (StringMap.empty, kv) getGlobalTunablePrefix q' hk
    rw [hacc, hnone q' hq'] at hs
    cases hs

/-- Away from the full keys of the queued defaults, a poll changes no readable value. -/
theorem readable_poll_of_ne {T : ConfigStatus} {t : Tunables} {q : List Char}
    (h : ∀ e ∈ t.mTunablesToAdd.entries, fullKey T e.1 ≠ q) (kv : StringMap) (r : Bool) :
    readable ((poll T t kv r).2.find? q) = readable (kv.find? q) := by
  rcases find?_poll_of_ne h kv r with he | ⟨-, hnone, he⟩
  · rw [he]
  · rw [he, hnone q (List.isPrefixOf_iff_prefix.2 (List.prefix_refl q))]
    rfl

private theorem isSome_find?_foldl_insert (g : List Char × List Char → List Char) {q : List Char} :
    ∀ (l : List (List Char × List Char)) (kv : StringMap), (kv.find? q).isSome →
      ((l.foldl (fun kv e => kv.insert (g e) e.2) kv).find? q).isSome
  | [], _, h => h
  | e :: l, kv, h =>
    isSome_find?_foldl_insert g l _ (by rw [find?_insert]; split <;> simp [h])

/-- A poll removes no key of the store. -/
theorem find?_poll_isSome {T : ConfigStatus} {t : Tunables} {kv : StringMap} {q : List Char}
    (h : (kv.find? q).isSome) (r : Bool) : ((poll T t kv r).2.find? q).isSome := by
  cases r
  · exact h
  · exact isSome_find?_foldl_insert _ _ _
      (find?_readPrefix_snd_isSome _ _ _ (find?_readPrefix_snd_isSome _ _ _ h))

/-- What a poll leaves in the tunables.  When it reaches Consul: for each parameter the non-empty
value under the process-type prefix, else the non-empty value under the global prefix, else none,
and no queued default.  When it does not: no parameter, and the queue as it was. -/
theorem poll_tunables (T : ConfigStatus) (t : Tunables) (kv : StringMap) :
    (∀ k, (poll T t kv true).1.mTunables.find? k =
      (readable (kv.find? (getTunablePrefix T ++ k))).or
        (readable (kv.find? (getGlobalTunablePrefix ++ k)))) ∧
    (poll T t kv true).1.mTunablesToAdd.entries = [] ∧
    (∀ k, (poll T t kv false).1.mTunables.find? k = none) ∧
    (poll T t kv false).1.mTunablesToAdd = t.mTunablesToAdd :=
  ⟨find?_poll_mTunables T t kv, rfl, fun _ => rfl, rfl⟩

/-- What a poll does to the store.  It removes no key.  Away from the full keys of the queued
defaults it leaves every value as it was, but for an empty value it may write at a prefix of
`keyVec` with no key under it.  When it reaches Consul, each queued default's text is stored at
its full key, and distinct keys have distinct full keys. -/
theorem poll_store (T : ConfigStatus) (t : Tunables) (kv : StringMap) (r : Bool) :
    (∀ q, (kv.find? q).isSome → ((poll T t kv r).2.find? q).isSome) ∧
    (∀ q, (∀ e ∈ t.mTunablesToAdd.entries, fullKey T e.1 ≠ q) →
      (poll T t kv r).2.find? q = kv.find? q ∨
        (q ∈ keyVec T ∧ (∀ q', q.isPrefixOf q' → kv.find? q' = none) ∧
          (poll T t kv r).2.find? q = some [])) ∧
    (r = true → ∀ k v, t.mTunablesToAdd.find? k = some v →
      (poll T t kv r).2.find? (fullKey T k) = some v) ∧
    (∀ k k', fullKey T k = fullKey T k' → k = k') :=
  ⟨fun _ h => find?_poll_isSome h r, fun _ h => find?_poll_of_ne h kv r,
    fun hr _ _ h => hr ▸ find?_poll_fullKey h kv, fun _ _ => fullKey_injective T⟩

/-! ### Decimal text -/

/-- `std::to_string` of a `std::uint64_t`. -/
def toStringUInt64 (n : Nat) : List Char := Nat.toDigits 10 n

/-- `std::to_string` of a `std::int64_t`: a minus sign before the digits of a negative value's
magnitude. -/
def toStringInt64 (d : Int) : List Char :=
  if d < 0 then '-' :: Nat.toDigits 10 d.natAbs else Nat.toDigits 10 d.natAbs

/-- The sign `boost::lexical_cast` takes before an integer's digits: whether it is a minus, and
the text after it. -/
def splitSign : List Char → Bool × List Char
  | [] => (false, [])
  | c :: s => if c = '-' then (true, s) else if c = '+' then (false, s) else (false, c :: s)

/-- One more decimal digit read after the value `acc`. -/
def digitStep (acc : Nat) (c : Char) : Nat := 10 * acc + (c.toNat - 48)

/-- `lcast_ret_unsigned::convert`: a non-empty run of decimal digits whose value fits in 64 bits. -/
def lcastRetUnsigned (s : List Char) : Option Nat :=
  if !s.isEmpty && s.all Char.isDigit && s.foldl digitStep 0 < 2 ^ 64 then
    some (s.foldl digitStep 0)
  else none

/-- `boost::lexical_cast<std::int64_t>`: after a minus sign the magnitude may reach 2^63, and
without one it stays below. -/
def lexicalCastInt64 (s : List Char) : Option Int :=
  (lcastRetUnsigned (splitSign s).2).bind fun v =>
    if (splitSign s).1 then (if v ≤ 2 ^ 63 then some (-(v : Int)) else none)
    else if v < 2 ^ 63 then some (v : Int) else none

/-- `boost::lexical_cast<std::uint64_t>`: a minus sign negates the value modulo 2^64. -/
def lexicalCastUInt64 (s : List Char) : Option Nat :=
  (lcastRetUnsigned (splitSign s).2).map fun v =>
    if (splitSign s).1 then (2 ^ 64 - v) % 2 ^ 64 else v

private theorem digitChar_ten : ∀ d, d < 10 → (Nat.digitChar d).isDigit ∧ (Nat.digitChar d).toNat - 48 = d := by
  decide

/-- `Nat.toDigitsCore` puts before `ds` a non-empty run of decimal digits worth `n`, given fuel
beyond `n`. -/
theorem toDigitsCore_ten : ∀ (f n : Nat) (ds : List Char), n < f →
    ∃ cs, Nat.toDigitsCore 10 f n ds = cs ++ ds ∧ cs ≠ [] ∧ cs.all Char.isDigit ∧
      cs.foldl digitStep 0 = n
  | 0, _, _, h => absurd h (Nat.not_lt_zero _)
  | f + 1, n, ds, h => by
    obtain ⟨hd, hv⟩ := digitChar_ten (n % 10) (Nat.mod_lt _ (by decide))
    have hcore : Nat.toDigitsCore 10 (f + 1) n ds = if n / 10 = 0 then Nat.digitChar (n % 10) :: ds
        else Nat.toDigitsCore 10 f (n / 10) (Nat.digitChar (n % 10) :: ds) := rfl
    rw [hcore]
    split
    · exact ⟨[Nat.digitChar (n % 10)], rfl, by simp, by simp [hd], by simp [digitStep, hv]; omega⟩
    · obtain ⟨cs, hcs, hne, hdig, hval⟩ := toDigitsCore_ten f (n / 10) (Nat.digitChar (n % 10) :: ds) (by omega)
      refine ⟨cs ++ [Nat.digitChar (n % 10)], by simp [hcs], by simp, by simp [hdig, hd], ?_⟩
      rw [List.foldl_append, hval]; simp [digitStep, hv]; omega

/-- `Nat.toDigits 10` gives a non-empty run of decimal digits whose value is the number. -/
theorem toDigits_ten (n : Nat) :
    Nat.toDigits 10 n ≠ [] ∧ (Nat.toDigits 10 n).all Char.isDigit ∧
      (Nat.toDigits 10 n).foldl digitStep 0 = n := by
  obtain ⟨cs, h, hne, hd, hv⟩ := toDigitsCore_ten (n + 1) n [] (Nat.lt_succ_self n)
  rw [show Nat.toDigits 10 n = Nat.toDigitsCore 10 (n + 1) n [] from rfl, h, List.append_nil]
  exact ⟨hne, hd, hv⟩

private theorem splitSign_of_all_isDigit : ∀ {s : List Char}, s.all Char.isDigit → splitSign s = (false, s)
  | [], _ => rfl
  | c :: s, h => by
    simp only [List.all_cons, Bool.and_eq_true] at h
    have h₁ : c ≠ '-' := by rintro rfl; exact absurd h.1 (by decide)
    have h₂ : c ≠ '+' := by rintro rfl; exact absurd h.1 (by decide)
    simp [splitSign, h₁, h₂]

private theorem lcastRetUnsigned_toDigits {n : Nat} (h : n < 2 ^ 64) :
    lcastRetUnsigned (Nat.toDigits 10 n) = some n := by
  obtain ⟨hne, hd, hv⟩ := toDigits_ten n
  unfold lcastRetUnsigned
  rw [hv, if_pos]
  simp only [hd, Bool.and_true, Bool.and_eq_true, decide_eq_true_eq]
  exact ⟨by simpa using hne, h⟩

/-- `lexical_cast` reads back the `std::to_string` of any `std::uint64_t`. -/
theorem lexicalCastUInt64_toStringUInt64 {n : Nat} (h : n < 2 ^ 64) :
    lexicalCastUInt64 (toStringUInt64 n) = some n := by
  rw [lexicalCastUInt64, toStringUInt64, splitSign_of_all_isDigit (toDigits_ten n).2.1]
  simp [lcastRetUnsigned_toDigits h]

/-- `lexical_cast` reads back the `std::to_string` of any `std::int64_t`. -/
theorem lexicalCastInt64_toStringInt64 {d : Int} (h₁ : -((2 ^ 63 : Nat) : Int) ≤ d)
    (h₂ : d < ((2 ^ 63 : Nat) : Int)) : lexicalCastInt64 (toStringInt64 d) = some d := by
  have hlt : d.natAbs < 2 ^ 64 := by omega
  unfold toStringInt64
  split
  · simp only [lexicalCastInt64, splitSign, if_true, lcastRetUnsigned_toDigits hlt, Option.some_bind]
    rw [if_pos (by omega)]; congr 1; omega
  · simp only [lexicalCastInt64, splitSign_of_all_isDigit (toDigits_ten _).2.1,
      lcastRetUnsigned_toDigits hlt, Option.some_bind]
    rw [if_neg Bool.false_ne_true, if_pos (by omega)]; congr 1; omega

/-- `boost::lexical_cast` reads back what `std::to_string` writes, for every `int64_t` and every
`uint64_t`: the text of a default the getters queue. -/
theorem lexicalCast_reads_toString :
    (∀ d : Int, -((2 ^ 63 : Nat) : Int) ≤ d → d < ((2 ^ 63 : Nat) : Int) →
      lexicalCastInt64 (toStringInt64 d) = some d) ∧
    (∀ n : Nat, n < 2 ^ 64 → lexicalCastUInt64 (toStringUInt64 n) = some n) :=
  ⟨fun _ => lexicalCastInt64_toStringInt64, fun _ => lexicalCastUInt64_toStringUInt64⟩

/-! ### The getters -/

/-- `mTunablesToAdd[lKey] = text`: a default queued for the next poll to write back. -/
def Tunables.queueDefault (t : Tunables) (lKey text : List Char) : Tunables :=
  { t with mTunablesToAdd := t.mTunablesToAdd.insert lKey text }

/-- The shape of the four getters (lines 341–410): a key `mTunables` lacks, or whose value `parse`
rejects, answers `pDefault` and queues its text `render pDefault`; otherwise the parsed value is
answered and nothing changes. -/
def getParam {α : Type} (parse : List Char → Option α) (render : α → List Char) (t : Tunables)
    (lKey : List Char) (pDefault : α) : α × Tunables :=
  match t.mTunables.find? lKey with
  | none => (pDefault, t.queueDefault lKey (render pDefault))
  | some lVal =>
    match parse lVal with
    | some v => (v, t)
    | none => (pDefault, t.queueDefault lKey (render pDefault))

/-- The values `getBoolParam` reads as true (line 351). -/
def isTrueParam (lVal : List Char) : Bool :=
  lVal == "true".toList || lVal == "TRUE".toList || lVal == "True".toList || lVal == "1".toList

/-- `getBoolParam` (lines 341–353): every value parses, as true or as false. -/
def getBoolParam (t : Tunables) (lKey : List Char) (pDefault : Bool) : Bool × Tunables :=
  getParam (fun lVal => some (isTrueParam lVal))
    (fun b => if b then "true".toList else "false".toList) t lKey pDefault

/-- `getStringParam` (lines 355–366). -/
def getStringParam (t : Tunables) (lKey pDefault : List Char) : List Char × Tunables :=
  getParam some id t lKey pDefault

/-- `getInt64Param` (lines 368–386). -/
def getInt64Param (t : Tunables) (lKey : List Char) (pDefault : Int) : Int × Tunables :=
  getParam lexicalCastInt64 toStringInt64 t lKey pDefault

/-- `getUInt64Param` (lines 388–410): a value starting with a minus sign is rejected before
`boost::lexical_cast`, which would take it modulo 2^64. -/
def getUInt64Param (t : Tunables) (lKey : List Char) (pDefault : Nat) : Nat × Tunables :=
  getParam (fun lVal => if lVal.head? = some '-' then none else lexicalCastUInt64 lVal)
    toStringUInt64 t lKey pDefault

section getParam

variable {α : Type} {parse : List Char → Option α} {render : α → List Char} {t : Tunables}
  {k : List Char} {d : α}

/-- A get of a key `mTunables` lacks answers the default and queues its text. -/
theorem getParam_of_find?_none (h : t.mTunables.find? k = none) :
    getParam parse render t k d = (d, t.queueDefault k (render d)) := by
  simp [getParam, h]

/-- A get of a key whose value parses answers it and changes nothing. -/
theorem getParam_of_parse {v : List Char} {x : α} (h : t.mTunables.find? k = some v)
    (hp : parse v = some x) : getParam parse render t k d = (x, t) := by
  simp [getParam, h, hp]

/-- A get of a key `mTunables` lacks makes the next poll that reaches Consul write the default's
text at the key's full key, whatever the store held there. -/
theorem find?_poll_getParam (T : ConfigStatus) (h : t.mTunables.find? k = none) (kv : StringMap) :
    (poll T (getParam parse render t k d).2 kv true).2.find? (fullKey T k) = some (render d) := by
  rw [getParam_of_find?_none h]
  exact find?_poll_fullKey (by simp [Tunables.queueDefault]) kv

/-- No key is written under the process-type prefix in the place of a `DataDist` key. -/
theorem fullKey_ne_tunable_of_dataDist (T : ConfigStatus) {k : List Char}
    (hk : "DataDist".toList.isPrefixOf k) (k' : List Char) :
    fullKey T k' ≠ getTunablePrefix T ++ k := by
  by_cases hk' : "DataDist".toList.isPrefixOf k'
  · rw [fullKey_of_dataDist hk']; exact global_append_ne_tunable T k' k
  · rw [fullKey_of_not_dataDist hk']
    exact fun h => hk' (List.append_cancel_left h ▸ hk)

/-- A default queued for a missing key, with a non-empty text the getter parses back, is what
the getter answers once two polls have reached Consul, unless a `DataDist` key has a value under
the process-type prefix, which is read first. -/
theorem getParam_reads_back (T : ConfigStatus) (kv : StringMap) (hrt : parse (render d) = some d)
    (hne : render d ≠ []) (hmiss : t.mTunables.find? k = none)
    (hov : "DataDist".toList.isPrefixOf k → readable (kv.find? (getTunablePrefix T ++ k)) = none)
    (d' : α) :
    let r := poll T (getParam parse render t k d).2 kv true
    (getParam parse render (poll T r.1 r.2 true).1 k d').1 = d := by
  intro r
  have hstore : r.2.find? (fullKey T k) = some (render d) := find?_poll_getParam T hmiss kv
  have hread : (poll T r.1 r.2 true).1.mTunables.find? k = some (render d) := by
    rw [find?_poll_mTunables]
    by_cases hdd : "DataDist".toList.isPrefixOf k
    · have hproc : readable (r.2.find? (getTunablePrefix T ++ k)) = none := by
        rw [readable_poll_of_ne (fun e _ => fullKey_ne_tunable_of_dataDist T hdd e.1)]
        exact hov hdd
      rw [hproc, ← fullKey_of_dataDist hdd, hstore, readable_some hne]; rfl
    · rw [← fullKey_of_not_dataDist hdd, hstore, readable_some hne]; rfl
  exact congrArg Prod.fst (getParam_of_parse hread hrt)

end getParam

private theorem toStringInt64_ne_nil (d : Int) : toStringInt64 d ≠ [] := by
  unfold toStringInt64; split
  · exact List.cons_ne_nil _ _
  · exact (toDigits_ten _).1

private theorem head?_toStringUInt64 (n : Nat) : (toStringUInt64 n).head? ≠ some '-' := by
  have hd := (toDigits_ten n).2.1
  unfold toStringUInt64
  cases h : Nat.toDigits 10 n with
  | nil => simp
  | cons c cs =>
    rw [h, List.all_cons, Bool.and_eq_true] at hd
    rintro ⟨⟩; exact absurd hd.1 (by decide)

/-- Every getter reads back the default it queued: once a get of a key `mTunables` lacks is
followed by two polls that reach Consul, a get of the key with any default answers the first
default, for every `bool`, every non-empty string, every `int64_t` and every `uint64_t` (a
`DataDist` key is read first under the process-type prefix, which must hold no value for it). -/
theorem tunable_defaults_read_back (T : ConfigStatus) (t : Tunables) (kv : StringMap)
    (k : List Char) (hmiss : t.mTunables.find? k = none)
    (hov : "DataDist".toList.isPrefixOf k → readable (kv.find? (getTunablePrefix T ++ k)) = none) :
    (∀ d d' : Bool, let r := poll T (getBoolParam t k d).2 kv true
      (getBoolParam (poll T r.1 r.2 true).1 k d').1 = d) ∧
    (∀ d d' : List Char, d ≠ [] → let r := poll T (getStringParam t k d).2 kv true
      (getStringParam (poll T r.1 r.2 true).1 k d').1 = d) ∧
    (∀ d d' : Int, -((2 ^ 63 : Nat) : Int) ≤ d → d < ((2 ^ 63 : Nat) : Int) →
      let r := poll T (getInt64Param t k d).2 kv true
      (getInt64Param (poll T r.1 r.2 true).1 k d').1 = d) ∧
    (∀ d d' : Nat, d < 2 ^ 64 → let r := poll T (getUInt64Param t k d).2 kv true
      (getUInt64Param (poll T r.1 r.2 true).1 k d').1 = d) :=
  ⟨fun d d' => getParam_reads_back T kv (by cases d <;> rfl) (by cases d <;> decide) hmiss hov d',
    fun d d' hd => getParam_reads_back T kv rfl hd hmiss hov d',
    fun d d' h₁ h₂ => getParam_reads_back T kv (lexicalCastInt64_toStringInt64 h₁ h₂)
      (toStringInt64_ne_nil d) hmiss hov d',
    fun d d' h => getParam_reads_back T kv
      ((if_neg (head?_toStringUInt64 d)).trans (lexicalCastUInt64_toStringUInt64 h))
      (toDigits_ten d).1 hmiss hov d'⟩

/-- After a poll that cannot reach Consul, every getter answers its default for every key; and
the next poll that reaches Consul writes that default's text at the key's full key, over
whatever value the store held there. -/
theorem outage_defaults_overwrite_store {α : Type} (parse : List Char → Option α)
    (render : α → List Char) (T : ConfigStatus) (t : Tunables) (kv kv' : StringMap) (k : List Char)
    (d : α) :
    (getParam parse render (poll T t kv false).1 k d).1 = d ∧
    (poll T (getParam parse render (poll T t kv false).1 k d).2 kv' true).2.find? (fullKey T k) =
      some (render d) :=
  ⟨congrArg Prod.fst (getParam_of_find?_none (t := (poll T t kv false).1) rfl),
    find?_poll_getParam (t := (poll T t kv false).1) T rfl kv'⟩

/-- Defaults for a global key, read back from a store that starts empty. -/
theorem tunable_defaults_read_back_empty_store :
    (⟨StringMap.empty, StringMap.empty⟩ : Tunables).mTunables.find? "DataDistX".toList = none ∧
    ("DataDist".toList.isPrefixOf "DataDistX".toList →
      readable (StringMap.empty.find? (getTunablePrefix .TfBuilderConfigStatus ++ "DataDistX".toList))
        = none) ∧
    ((∀ d d' : Bool,
      let r := poll .TfBuilderConfigStatus (getBoolParam ⟨.empty, .empty⟩ "DataDistX".toList d).2
        .empty true
      (getBoolParam (poll .TfBuilderConfigStatus r.1 r.2 true).1 "DataDistX".toList d').1 = d) ∧
    (∀ d d' : List Char, d ≠ [] →
      let r := poll .TfBuilderConfigStatus (getStringParam ⟨.empty, .empty⟩ "DataDistX".toList d).2
        .empty true
      (getStringParam (poll .TfBuilderConfigStatus r.1 r.2 true).1 "DataDistX".toList d').1 = d) ∧
    (∀ d d' : Int, -((2 ^ 63 : Nat) : Int) ≤ d → d < ((2 ^ 63 : Nat) : Int) →
      let r := poll .TfBuilderConfigStatus (getInt64Param ⟨.empty, .empty⟩ "DataDistX".toList d).2
        .empty true
      (getInt64Param (poll .TfBuilderConfigStatus r.1 r.2 true).1 "DataDistX".toList d').1 = d) ∧
    (∀ d d' : Nat, d < 2 ^ 64 →
      let r := poll .TfBuilderConfigStatus (getUInt64Param ⟨.empty, .empty⟩ "DataDistX".toList d).2
        .empty true
      (getUInt64Param (poll .TfBuilderConfigStatus r.1 r.2 true).1 "DataDistX".toList d').1 = d)) :=
  ⟨rfl, fun _ => rfl, tunable_defaults_read_back .TfBuilderConfigStatus ⟨.empty, .empty⟩ .empty
    "DataDistX".toList rfl fun _ => rfl⟩

end DataDistribution.Discovery
