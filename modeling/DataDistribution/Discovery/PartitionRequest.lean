import Mathlib.Data.List.Lex
import Mathlib.Data.Char
import Mathlib.Data.List.Destutter
import Mathlib.Data.List.Sort
import Mathlib.Data.List.Chain

/-!
# New partition requests from the discovery store

`src/src/common/discovery/ConfigConsul.h:412–532`.  Strings are character lists.  Moving the
request's items in the store and the time keys are left out; the outcome says whether the items
stay, are moved as invalid, or are accepted.
-/

namespace DataDistribution.Discovery

/-- A Consul key-value item. -/
structure KeyValue where
  key : List Char
  value : List Char
  deriving DecidableEq, Repr

/-- `PartitionRequest`. -/
structure PartitionRequest where
  mPartitionId : List Char
  mStfSenderIdList : List (List Char)
  deriving DecidableEq, Repr

/-- `sReqKeyPrefix`. -/
def sReqKeyPrefix : List Char := "epn/data-dist/request".toList

/-- `sReqPartitionIdKey`. -/
def sReqPartitionIdKey : List Char := sReqKeyPrefix ++ "/partition-id".toList

/-- `sReqStfSenderListKey`. -/
def sReqStfSenderListKey : List Char := sReqKeyPrefix ++ "/stf-sender-id-list".toList

/-- `std::isspace` in the classic locale, which `boost::trim_copy` uses. -/
def isSpace (c : Char) : Bool := c ∈ [' ', '\t', '\n', '\x0b', '\x0c', '\r']

/-- `boost::trim_copy`. -/
def trimCopy (s : List Char) : List Char :=
  ((s.dropWhile isSpace).reverse.dropWhile isSpace).reverse

/-- `boost::is_any_of(";,\n\t\r ")`. -/
def isStfSenderIdSeparator (c : Char) : Bool := c ∈ [';', ',', '\n', '\t', '\r', ' ']

/-- `boost::split` with `token_compress_on`, reading `s` with the segment read so far (`cur`,
reversed) and whether the last character was a separator (`sep`): a run of separators ends the
segment once, and a separator at either end leaves an empty segment there. -/
def splitAux (isSep : Char → Bool) : List Char → List Char → Bool → List (List Char)
  | [], cur, _ => [cur.reverse]
  | c :: cs, cur, sep =>
    if isSep c then
      if sep then splitAux isSep cs cur true else cur.reverse :: splitAux isSep cs [] true
    else splitAux isSep cs (c :: cur) false

/-- `boost::split(result, s, isSep, boost::token_compress_on)`. -/
def boostSplit (isSep : Char → Bool) (s : List Char) : List (List Char) := splitAux isSep s [] false

/-- `std::sort` then `erase(std::unique(...))` of the StfSender ids. -/
def sortUnique (l : List (List Char)) : List (List Char) :=
  (l.insertionSort (· ≤ ·)).destutter (· ≠ ·)

/-- What `getNewPartitionRequest` makes of the items under the request prefix. -/
inductive RequestOutcome where
  /-- No request, or one not written in full: `false`, and the items stay. -/
  | pending
  /-- Rejected, with the reason logged (none for more than two items): `false`, and the items
  are moved under `epn/data-dist/invalid_requests/`. -/
  | invalid (reason : Option String)
  /-- Accepted: `true`, with the request filled in. -/
  | valid (req : PartitionRequest)
  deriving DecidableEq, Repr

/-- `getNewPartitionRequest` (`ConfigConsul.h:412–532`) on the items `kv.items` returned. -/
def getNewPartitionRequest (lReqItems : List KeyValue) : RequestOutcome :=
  if lReqItems.length = 0 then .pending
  else if lReqItems.length < 2 then .pending
  else if lReqItems.length ≠ 2 then .invalid none
  else match lReqItems.find? (·.key == sReqPartitionIdKey) with
    | none => .invalid ("Invalid new partition request. Missing key: " ++ String.mk sReqPartitionIdKey)
    | some lPartitionIdIt =>
      match lReqItems.find? (·.key == sReqStfSenderListKey) with
      | none =>
        .invalid ("Invalid new partition request. Missing key: " ++ String.mk sReqStfSenderListKey)
      | some lFlpIdList =>
        let lPartitionId := trimCopy lPartitionIdIt.value
        if lPartitionId = [] then
          .invalid "Invalid new partition request. Partition (ID) cannot be empty."
        else
          let lStfSenderIds := boostSplit isStfSenderIdSeparator lFlpIdList.value
          let lNumStfSendersReq := lStfSenderIds.length
          let lStfSenderIds := sortUnique lStfSenderIds
          if lStfSenderIds = [] then
            .invalid "Invalid new partition request. List of StfSender IDs is empty."
          else if lNumStfSendersReq ≠ lStfSenderIds.length then
            .invalid ("Invalid new partition request. Requested FLP IDs are not unique. " ++
              "provided_num=" ++ toString lNumStfSendersReq ++
              " unique_num=" ++ toString lStfSenderIds.length)
          else .valid ⟨lPartitionId, lStfSenderIds⟩

/-! ### `boost::split` against the tokens of the list -/

/-- The list read as tokens: the maximal non-empty runs of characters that are not
separators. -/
def stfSenderTokens (s : List Char) : List (List Char) :=
  (s.splitOnP isStfSenderIdSeparator).filter (!·.isEmpty)

/-- The split gives at least one segment. -/
theorem splitAux_ne_nil (isSep : Char → Bool) (s cur : List Char) (sep : Bool) :
    splitAux isSep s cur sep ≠ [] := by
  induction s generalizing cur sep with
  | nil => simp [splitAux]
  | cons c cs ih => unfold splitAux; split_ifs <;> simp [ih]

private theorem filter_splitAux (isSep : Char → Bool) (s cur : List Char) (sep : Bool)
    (hsep : sep = true → cur = []) :
    (splitAux isSep s cur sep).filter (!·.isEmpty) =
      (List.splitOnP.go isSep s cur).filter (!·.isEmpty) := by
  induction s generalizing cur sep with
  | nil => rfl
  | cons c cs ih =>
    simp only [splitAux, List.splitOnP.go]
    by_cases hc : isSep c = true
    · simp only [hc, if_true]
      cases sep
      · simp only [Bool.false_eq_true, if_false, List.filter_cons, ih [] true (fun _ => rfl)]
      · obtain rfl := hsep rfl
        simp [List.filter_cons, ih [] true (fun _ => rfl)]
    · simp only [hc, if_false, Bool.false_eq_true]
      exact ih _ false (fun h => nomatch h)

/-- Dropping its empty segments, `boost::split` with `token_compress_on` gives the tokens. -/
theorem filter_boostSplit (s : List Char) :
    (boostSplit isStfSenderIdSeparator s).filter (!·.isEmpty) = stfSenderTokens s :=
  filter_splitAux _ s [] false (fun h => nomatch h)

private theorem nil_not_mem_splitAux (isSep : Char → Bool) (s cur : List Char) (sep : Bool)
    (hcur : sep = false → cur ≠ []) (hend : s = [] → cur ≠ [])
    (hlast : ∀ c ∈ s.getLast?, isSep c = false) : [] ∉ splitAux isSep s cur sep := by
  induction s generalizing cur sep with
  | nil => simpa [splitAux] using (hend rfl).symm
  | cons c cs ih =>
    have hcs : isSep c = true → cs ≠ [] := by
      rintro hc rfl; simp [hlast c (by simp)] at hc
    have hlast' : ∀ c ∈ cs.getLast?, isSep c = false := by
      cases cs with
      | nil => simp
      | cons d ds => simpa [List.getLast?_cons_cons] using hlast
    unfold splitAux
    split_ifs with hc hs
    · exact ih cur true (nomatch ·) (fun h => absurd h (hcs hc)) hlast'
    · simp only [List.mem_cons, not_or]
      refine ⟨fun h => hcur (by simpa using hs) ?_, ?_⟩
      · simpa using h.symm
      · exact ih [] true (nomatch ·) (fun h => absurd h (hcs hc)) hlast'
    · exact ih (c :: cur) false (fun _ => List.cons_ne_nil _ _) (fun _ => List.cons_ne_nil _ _)
        hlast'

/-- A list that starts and ends with an id splits into its tokens exactly. -/
theorem boostSplit_eq_tokens {c : Char} {cs : List Char} (hhead : isStfSenderIdSeparator c = false)
    (hlast : ∀ d ∈ (c :: cs).getLast?, isStfSenderIdSeparator d = false) :
    boostSplit isStfSenderIdSeparator (c :: cs) = stfSenderTokens (c :: cs) := by
  rw [← filter_boostSplit, eq_comm, List.filter_eq_self]
  intro seg hseg
  have hnil : [] ∉ boostSplit isStfSenderIdSeparator (c :: cs) := by
    simp only [boostSplit, splitAux, hhead, Bool.false_eq_true, if_false]
    exact nil_not_mem_splitAux _ cs [c] false (fun _ => List.cons_ne_nil _ _)
      (fun _ => List.cons_ne_nil _ _) fun d hd => hlast d (by
        cases cs with
        | nil => simp at hd
        | cons e es => simpa [List.getLast?_cons_cons] using hd)
  cases seg with
  | nil => exact absurd hseg hnil
  | cons _ _ => rfl

/-! ### Sorting and uniqueness -/

private theorem nodup_of_sorted_of_chain {l : List (List Char)} (hs : l.Sorted (· ≤ ·))
    (hc : l.Chain' (· ≠ ·)) : l.Nodup := by
  induction l with
  | nil => exact List.nodup_nil
  | cons a t ih =>
    have hst := hs.of_cons
    refine List.nodup_cons.2 ⟨fun ha => ?_, ih hst hc.tail⟩
    cases t with
    | nil => simp at ha
    | cons b u =>
      have hab : a < b := lt_of_le_of_ne (List.rel_of_sorted_cons hs b (List.mem_cons_self _ _))
        (List.chain'_cons.1 hc).1
      rcases List.mem_cons.1 ha with rfl | hu
      · exact lt_irrefl _ hab
      · exact lt_irrefl _ (lt_of_lt_of_le hab (List.rel_of_sorted_cons hst a hu))

/-- Sorting and removing adjacent duplicates keeps the length exactly when there is no
duplicate. -/
theorem length_sortUnique_eq_iff (l : List (List Char)) :
    (sortUnique l).length = l.length ↔ l.Nodup := by
  have hp := List.perm_insertionSort (· ≤ ·) l
  have hs := List.sorted_insertionSort (· ≤ ·) l
  constructor
  · intro h
    have he := (List.destutter_sublist _ _).eq_of_length (h.trans hp.length_eq.symm)
    exact hp.nodup_iff.1 (nodup_of_sorted_of_chain hs ((List.destutter_eq_self_iff _ _).1 he))
  · intro h
    rw [sortUnique, List.destutter_of_chain' _ _ (hp.nodup_iff.2 h).chain', hp.length_eq]

private theorem sortUnique_of_nodup {l : List (List Char)} (h : l.Nodup) :
    sortUnique l = l.insertionSort (· ≤ ·) :=
  List.destutter_of_chain' _ _ ((List.perm_insertionSort _ l).nodup_iff.2 h).chain'

/-! ### The request -/

/-- A request with exactly its two keys and a partition id that is not blank is accepted
exactly when the segments of `boost::split` are distinct, and then lists them sorted. -/
theorem getNewPartitionRequest_two_keys (pid s : List Char) (hpid : trimCopy pid ≠ []) :
    getNewPartitionRequest [⟨sReqPartitionIdKey, pid⟩, ⟨sReqStfSenderListKey, s⟩] =
      if (boostSplit isStfSenderIdSeparator s).Nodup then
        .valid ⟨trimCopy pid, (boostSplit isStfSenderIdSeparator s).insertionSort (· ≤ ·)⟩
      else .invalid ("Invalid new partition request. Requested FLP IDs are not unique. " ++
        "provided_num=" ++ toString (boostSplit isStfSenderIdSeparator s).length ++
        " unique_num=" ++ toString (sortUnique (boostSplit isStfSenderIdSeparator s)).length) := by
  have hkeys : (sReqPartitionIdKey == sReqStfSenderListKey) = false := by decide
  have hne : sortUnique (boostSplit isStfSenderIdSeparator s) ≠ [] := fun h => by
    have hl := (List.perm_insertionSort (· ≤ ·) (boostSplit isStfSenderIdSeparator s)).length_eq
    rw [sortUnique, List.destutter_eq_nil] at h
    rw [h, List.length_nil] at hl
    exact splitAux_ne_nil _ s [] false (List.eq_nil_of_length_eq_zero hl.symm)
  have hlen := length_sortUnique_eq_iff (boostSplit isStfSenderIdSeparator s)
  rw [getNewPartitionRequest, if_neg (by simp), if_neg (by simp), if_neg (by simp)]
  simp only [List.find?_cons, beq_self_eq_true, hkeys, hpid, hne, if_false]
  split_ifs with h₁ h₂ h₂
  · exact absurd (hlen.2 h₂).symm h₁
  · rfl
  · simp [sortUnique_of_nodup h₂]
  · exact absurd (hlen.1 (not_not.1 h₁).symm) h₂

/-- No token is empty. -/
theorem nil_not_mem_stfSenderTokens (s : List Char) : [] ∉ stfSenderTokens s := by
  simp [stfSenderTokens, List.mem_filter]

/-- For an id list that starts and ends with an id, the request reads the list as tokens: it is
accepted exactly when the tokens are distinct, and then lists them sorted, none of them empty. -/
theorem getNewPartitionRequest_of_tokens (pid : List Char) {c : Char} {cs : List Char}
    (hpid : trimCopy pid ≠ []) (hhead : isStfSenderIdSeparator c = false)
    (hlast : ∀ d ∈ (c :: cs).getLast?, isStfSenderIdSeparator d = false) (req : PartitionRequest) :
    (getNewPartitionRequest [⟨sReqPartitionIdKey, pid⟩, ⟨sReqStfSenderListKey, c :: cs⟩] =
        .valid req ↔
      (stfSenderTokens (c :: cs)).Nodup ∧
        req = ⟨trimCopy pid, (stfSenderTokens (c :: cs)).insertionSort (· ≤ ·)⟩) ∧
    (getNewPartitionRequest [⟨sReqPartitionIdKey, pid⟩, ⟨sReqStfSenderListKey, c :: cs⟩] =
        .valid req → [] ∉ req.mStfSenderIdList) := by
  have hiff : getNewPartitionRequest [⟨sReqPartitionIdKey, pid⟩, ⟨sReqStfSenderListKey, c :: cs⟩] =
        .valid req ↔ (stfSenderTokens (c :: cs)).Nodup ∧
          req = ⟨trimCopy pid, (stfSenderTokens (c :: cs)).insertionSort (· ≤ ·)⟩ := by
    rw [getNewPartitionRequest_two_keys _ _ hpid, boostSplit_eq_tokens hhead hlast]
    split_ifs with h
    · simp [h, eq_comm]
    · simp [h]
  refine ⟨hiff, fun h hnil => ?_⟩
  obtain ⟨-, rfl⟩ := hiff.1 h
  exact nil_not_mem_stfSenderTokens _ ((List.perm_insertionSort _ _).subset hnil)

/-- The partition `p` with the StfSenders `"b;a"`: accepted, with the ids sorted. -/
theorem getNewPartitionRequest_of_tokens_two_ids :
    trimCopy "p".toList ≠ [] ∧ isStfSenderIdSeparator 'b' = false ∧
    (∀ d ∈ ('b' :: ";a".toList).getLast?, isStfSenderIdSeparator d = false) ∧
    ((getNewPartitionRequest [⟨sReqPartitionIdKey, "p".toList⟩,
        ⟨sReqStfSenderListKey, 'b' :: ";a".toList⟩] = .valid ⟨"p".toList, ["a".toList, "b".toList]⟩ ↔
      (stfSenderTokens ('b' :: ";a".toList)).Nodup ∧
        (⟨"p".toList, ["a".toList, "b".toList]⟩ : PartitionRequest) =
          ⟨trimCopy "p".toList, (stfSenderTokens ('b' :: ";a".toList)).insertionSort (· ≤ ·)⟩) ∧
    (getNewPartitionRequest [⟨sReqPartitionIdKey, "p".toList⟩,
        ⟨sReqStfSenderListKey, 'b' :: ";a".toList⟩] = .valid ⟨"p".toList, ["a".toList, "b".toList]⟩ →
      [] ∉ ["a".toList, "b".toList])) :=
  have hlast : ∀ d ∈ ('b' :: ";a".toList).getLast?, isStfSenderIdSeparator d = false :=
    fun d hd => by cases hd; decide
  ⟨by decide, by decide, hlast,
    getNewPartitionRequest_of_tokens "p".toList (by decide) (by decide) hlast _⟩

/-- The id list `",a"` is accepted, with the empty string as a StfSender id. -/
theorem getNewPartitionRequest_keeps_empty_id :
    getNewPartitionRequest [⟨sReqPartitionIdKey, "p".toList⟩, ⟨sReqStfSenderListKey, ",a".toList⟩] =
      .valid ⟨"p".toList, [[], "a".toList]⟩ := by
  decide

end DataDistribution.Discovery
