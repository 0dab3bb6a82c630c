import Mathlib.Logic.Function.Basic
import Mathlib.Data.List.Infix
import DataDistribution.Discovery.Tunables

/-!
# SubTimeFrame file sink: the name of a new file

`src/src/common/SubTimeFrameFileSink.cxx:173–210`.  `newStfFileName` runs six
`boost::replace_all` passes over `mFileNamePattern`, for `%n`, `%r`, `%i`, `%D`, `%T` and `%h`.
The clock is an input: the two `strftime` texts are fields of `FileNameInputs`.  With texts of
`strftime`'s shape the passes read the pattern once, so `%i` names two STF ids apart.
-/

namespace DataDistribution.Common

open Function
open DataDistribution.Discovery (digitStep toDigits_ten)

/-! ## The code -/

/-- `boost::replace_all(lFileName, "%x", t)`: every `%x`, found from the left without overlap,
becomes `t`. -/
def replaceAll (x : Char) (t : List Char) : List Char → List Char
  | [] => []
  | '%' :: c :: rest =>
    if c = x then t ++ replaceAll x t rest else '%' :: replaceAll x t (c :: rest)
  | c :: rest => c :: replaceAll x t rest
termination_by structural l => l

/-- What `std::dec << std::setw(w) << std::setfill('0') << n` writes: the decimal digits of `n`,
with '0' in front up to `w` characters. -/
def padDec (w n : Nat) : List Char :=
  List.replicate (w - (Nat.toDigits 10 n).length) '0' ++ Nat.toDigits 10 n

/-- What `newStfFileName` reads besides the STF id: the sink's pattern, file index and host
name, `DataDistLogger::sRunNumber` and `sRunNumberStr`, and what `strftime` writes for `%F`
(`lDate`) and for `%H_%M_%S` (`lTime`) at the call. -/
structure FileNameInputs where
  mFileNamePattern : List Char
  mCurrentFileIdx : Nat
  sRunNumber : Nat
  sRunNumberStr : List Char
  lDate : List Char
  lTime : List Char
  mHostname : List Char
  deriving DecidableEq, Repr

/-- `SubTimeFrameFileSink::newStfFileName` (lines 173–210). -/
def newStfFileName (c : FileNameInputs) (pStfId : Nat) : List Char :=
  let lFileName := replaceAll 'n' (padDec 8 c.mCurrentFileIdx) c.mFileNamePattern
  let lFileName :=
    replaceAll 'r' (padDec (max 8 c.sRunNumberStr.length) c.sRunNumber) lFileName
  let lFileName := replaceAll 'i' (padDec 8 pStfId) lFileName
  let lFileName := replaceAll 'D' c.lDate lFileName
  let lFileName := replaceAll 'T' c.lTime lFileName
  replaceAll 'h' c.mHostname lFileName

/-! ## One reading of the pattern -/

/-- The pattern read once from the left: each `%x` whose `x` has a text in `f` becomes that
text. -/
def expand (f : Char → Option (List Char)) : List Char → List Char
  | [] => []
  | '%' :: c :: rest =>
    match f c with
    | some t => t ++ expand f rest
    | none => '%' :: expand f (c :: rest)
  | c :: rest => c :: expand f rest
termination_by structural l => l

/-- The directives of the pattern and the texts `newStfFileName` puts in their place. -/
def fileNameDirectives (c : FileNameInputs) (pStfId : Nat) : Char → Option (List Char)
  | 'n' => some (padDec 8 c.mCurrentFileIdx)
  | 'r' => some (padDec (max 8 c.sRunNumberStr.length) c.sRunNumber)
  | 'i' => some (padDec 8 pStfId)
  | 'D' => some c.lDate
  | 'T' => some c.lTime
  | 'h' => some c.mHostname
  | _ => none

/-- A text that a later `%x` pass leaves as it is wherever it stands: it is not empty, holds no
'%' and does not start with `x`. -/
def Inert (x : Char) (u : List Char) : Prop := '%' ∉ u ∧ u ≠ [] ∧ u.head? ≠ some x

/-- The shape of what `strftime` writes for `%F` and `%H_%M_%S`: a text that starts with a digit
and holds no '%'. -/
def IsStamp (u : List Char) : Prop := '%' ∉ u ∧ u.head?.any Char.isDigit = true

instance : DecidablePred IsStamp := fun _ => inferInstanceAs (Decidable (_ ∧ _))

section Equations

variable {x c : Char} {t u : List Char} {f : Char → Option (List Char)}

private theorem replaceAll_percent_self (rest : List Char) :
    replaceAll x t ('%' :: x :: rest) = t ++ replaceAll x t rest := by
  rw [replaceAll.eq_2, if_pos rfl]

private theorem replaceAll_percent {v : List Char} (hv : v.head? ≠ some x) :
    replaceAll x t ('%' :: v) = '%' :: replaceAll x t v := by
  cases v with
  | nil => rfl
  | cons d rest => rw [replaceAll.eq_2, if_neg fun h => hv (by rw [h]; rfl)]

private theorem replaceAll_cons (hc : c ≠ '%') (rest : List Char) :
    replaceAll x t (c :: rest) = c :: replaceAll x t rest :=
  replaceAll.eq_3 x t c rest fun _ _ h _ => hc h

private theorem replaceAll_append (hu : '%' ∉ u) (w : List Char) :
    replaceAll x t (u ++ w) = u ++ replaceAll x t w := by
  induction u with
  | nil => rfl
  | cons d u ih =>
    rw [List.mem_cons, not_or] at hu
    rw [List.cons_append, replaceAll_cons (Ne.symm hu.1), ih hu.2, List.cons_append]

private theorem expand_percent_of_some (h : f c = some u) (rest : List Char) :
    expand f ('%' :: c :: rest) = u ++ expand f rest := by
  rw [expand.eq_2, h]

private theorem expand_percent_of_none (h : f c = none) (rest : List Char) :
    expand f ('%' :: c :: rest) = '%' :: expand f (c :: rest) := by
  rw [expand.eq_2, h]

private theorem expand_cons (hc : c ≠ '%') (rest : List Char) :
    expand f (c :: rest) = c :: expand f rest :=
  expand.eq_3 f c rest fun _ _ h _ => hc h

private theorem expand_none (s : List Char) : expand (fun _ => none) s = s := by
  induction s using expand.induct (fun _ => none) with
  | case1 => rfl
  | case2 c rest t h => cases h
  | case3 c rest h ih => rw [expand_percent_of_none h, ih]
  | case4 c rest h ih => rw [expand.eq_3 _ c rest h, ih]

end Equations

/-! ## The decimal fields -/

section Decimal

private theorem foldl_replicate_zero (k : Nat) : (List.replicate k '0').foldl digitStep 0 = 0 := by
  induction k with
  | zero => rfl
  | succ k ih => rw [List.replicate_succ, List.foldl_cons]; exact ih

/-- A padded decimal has the shape of a `strftime` text: no '%', a digit first. -/
theorem isStamp_padDec (w n : Nat) : IsStamp (padDec w n) := by
  obtain ⟨hne, hdig, -⟩ := toDigits_ten n
  have hall : ∀ d ∈ padDec w n, d.isDigit = true := by
    intro d h
    rcases List.mem_append.1 h with h | h
    · rw [List.eq_of_mem_replicate h]; rfl
    · exact List.all_eq_true.1 hdig d h
  obtain ⟨y, r, hyr⟩ := List.exists_cons_of_ne_nil (List.append_ne_nil_of_right_ne_nil _ hne)
  refine ⟨fun h => absurd (hall '%' h) (by decide), ?_⟩
  rw [padDec, hyr] at hall ⊢
  exact hall y (List.mem_cons_self y r)

/-- The padded field reads back as its number, whatever the width. -/
theorem foldl_digitStep_padDec (w n : Nat) : (padDec w n).foldl digitStep 0 = n := by
  rw [padDec, List.foldl_append, foldl_replicate_zero, (toDigits_ten n).2.2]

/-- Padding to any width keeps distinct numbers distinct. -/
theorem padDec_injective (w : Nat) : Injective (padDec w) := fun a b h => by
  rw [← foldl_digitStep_padDec w a, h, foldl_digitStep_padDec]

end Decimal

/-! ## The passes read the pattern once -/

section Passes

variable {x : Char} {t : List Char} {f : Char → Option (List Char)}

/-- A text of that shape is left alone by the pass for a directive that is not a digit. -/
theorem IsStamp.inert {u : List Char} (h : IsStamp u) (hx : x.isDigit = false) : Inert x u := by
  obtain ⟨hp, hd⟩ := h
  cases u with
  | nil => cases hd
  | cons y w =>
    refine ⟨hp, List.cons_ne_nil y w, fun hy => ?_⟩
    obtain rfl : y = x := Option.some_inj.1 hy
    simp [hx] at hd

/-- The first character of a reading that starts anywhere but at `%x` is not `x`. -/
theorem expand_head (hf : ∀ ch u, f ch = some u → Inert x u) (hx : x ≠ '%') {c : Char}
    (hc : c ≠ x) (rest : List Char) : (expand f (c :: rest)).head? ≠ some x := by
  by_cases hp : c = '%'
  · subst hp
    cases rest with
    | nil => exact fun h => hx (Option.some_inj.1 h).symm
    | cons d r =>
      cases hd : f d with
      | none =>
        rw [expand_percent_of_none hd]
        exact fun h => hx (Option.some_inj.1 h).symm
      | some u =>
        obtain ⟨-, hne, hhead⟩ := hf d u hd
        rwa [expand_percent_of_some hd, List.head?_append_of_ne_nil _ hne]
  · rw [expand_cons hp]
    exact fun h => hc (Option.some_inj.1 h)

/-- One `replace_all` pass over a reading of the pattern is the reading with one more
directive, when the texts already in place cannot be taken for `%x`. -/
theorem replaceAll_expand (hf : ∀ ch u, f ch = some u → Inert x u) (hx : x ≠ '%')
    (hfx : f x = none) (s : List Char) :
    replaceAll x t (expand f s) = expand (update f x (some t)) s := by
  induction s using expand.induct f with
  | case1 => rfl
  | case2 c rest u hc ih =>
    have hcx : c ≠ x := by rintro rfl; rw [hfx] at hc; cases hc
    rw [expand_percent_of_some hc, replaceAll_append (hf c u hc).1, ih,
      expand_percent_of_some (by rwa [update_noteq hcx])]
  | case3 c rest hc ih =>
    by_cases hcx : c = x
    · subst hcx
      rw [expand_cons hx, replaceAll_cons hx, expand_cons hx] at ih
      rw [expand_percent_of_none hc, expand_cons hx, replaceAll_percent_self,
        List.cons.inj ih |>.2, expand_percent_of_some (update_same _ _ _)]
    · rw [expand_percent_of_none hc, replaceAll_percent (expand_head hf hx hcx rest), ih,
        expand_percent_of_none (by rwa [update_noteq hcx])]
  | case4 c rest hc ih =>
    rw [expand.eq_3 _ c rest hc, expand.eq_3 _ c rest hc]
    by_cases hcp : c = '%'
    · cases rest with
      | nil => subst hcp; rfl
      | cons d r => exact (hc d r hcp rfl).elim
    · rw [replaceAll_cons hcp, ih]

/-- Every text of the table has the shape of a `strftime` text. -/
def StampTable (f : Char → Option (List Char)) : Prop := ∀ ch u, f ch = some u → IsStamp u

/-- The empty table holds no text. -/
theorem stampTable_none : StampTable fun _ => none := fun _ _ h => by cases h

/-- Adding a text of that shape keeps every text of the table of that shape. -/
theorem StampTable.update (hf : StampTable f) (y : Char) (ht : IsStamp t) :
    StampTable (update f y (some t)) := by
  intro ch u h
  by_cases hy : ch = y
  · subst hy
    rw [update_same, Option.some_inj] at h
    exact h ▸ ht
  · rw [update_noteq hy] at h
    exact hf ch u h

/-- A table of such texts is left alone by the pass for a directive that is not a digit. -/
theorem StampTable.inert (hf : StampTable f) (hx : x.isDigit = false) :
    ∀ ch u, f ch = some u → Inert x u :=
  fun ch u h => (hf ch u h).inert hx

/-- The directive table, built up in the order of the passes. -/
theorem fileNameDirectives_eq_update (c : FileNameInputs) (pStfId : Nat) :
    fileNameDirectives c pStfId =
      update (update (update (update (update (update (fun _ => none)
        'n' (some (padDec 8 c.mCurrentFileIdx)))
        'r' (some (padDec (max 8 c.sRunNumberStr.length) c.sRunNumber)))
        'i' (some (padDec 8 pStfId))) 'D' (some c.lDate)) 'T' (some c.lTime))
        'h' (some c.mHostname) := by
  funext ch
  simp only [fileNameDirectives, update_apply]
  split <;> simp_all

/-- Each pass reads one more directive, so the six read the pattern once with the table built in
their order. -/
theorem newStfFileName_eq_expand_update (c : FileNameInputs) (pStfId : Nat) (hD : IsStamp c.lDate)
    (hT : IsStamp c.lTime) :
    newStfFileName c pStfId =
      expand (update (update (update (update (update (update (fun _ => none)
        'n' (some (padDec 8 c.mCurrentFileIdx)))
        'r' (some (padDec (max 8 c.sRunNumberStr.length) c.sRunNumber)))
        'i' (some (padDec 8 pStfId))) 'D' (some c.lDate)) 'T' (some c.lTime))
        'h' (some c.mHostname)) c.mFileNamePattern := by
  have s1 := stampTable_none.update 'n' (isStamp_padDec 8 c.mCurrentFileIdx)
  have s2 := s1.update 'r' (isStamp_padDec (max 8 c.sRunNumberStr.length) c.sRunNumber)
  have s3 := s2.update 'i' (isStamp_padDec 8 pStfId)
  have s4 := s3.update 'D' hD
  have s5 := s4.update 'T' hT
  simp only [newStfFileName]
  conv_lhs => rw [← expand_none c.mFileNamePattern]
  rw [replaceAll_expand (stampTable_none.inert (x := 'n') rfl) (by decide) rfl,
    replaceAll_expand (s1.inert (x := 'r') rfl) (by decide) rfl,
    replaceAll_expand (s2.inert (x := 'i') rfl) (by decide) rfl,
    replaceAll_expand (s3.inert (x := 'D') rfl) (by decide) rfl,
    replaceAll_expand (s4.inert (x := 'T') rfl) (by decide) rfl,
    replaceAll_expand (s5.inert (x := 'h') rfl) (by decide) rfl]

example : newStfFileName ⟨"o2_%r_%n_%%i_%D.tf".toList, 3, 42, "42".toList, "2026-11-09".toList,
    "12_00_00".toList, []⟩ 7 = "o2_00000042_00000003_%00000007_2026-11-09.tf".toList := by
  decide

/-- The six passes of `newStfFileName` give the pattern read once from the left, when the date
and the time have the shape `strftime` gives them. -/
theorem newStfFileName_eq_expand (c : FileNameInputs) (pStfId : Nat) (hD : IsStamp c.lDate)
    (hT : IsStamp c.lTime) :
    newStfFileName c pStfId = expand (fileNameDirectives c pStfId) c.mFileNamePattern := by
  rw [newStfFileName_eq_expand_update c pStfId hD hT, fileNameDirectives_eq_update]

end Passes

/-! ## Names apart -/

private theorem percent_infix_cons {x c : Char} {rest : List Char} (h : ['%', x] <:+: c :: rest) :
    (c = '%' ∧ rest.head? = some x) ∨ ['%', x] <:+: rest := by
  rw [List.infix_cons_iff] at h
  refine h.imp (fun h => ?_) id
  cases rest with
  | nil => exact absurd h.length_le (by simp)
  | cons d r =>
    simp only [List.cons_prefix_cons, List.nil_prefix, and_true] at h
    exact ⟨h.1.symm, by rw [h.2]; rfl⟩

section Agree

variable {f g : Char → Option (List Char)} {x c : Char} {u v w rest : List Char}

private theorem infix_of_percent_none (hcx : c ≠ x) (h : ['%', x] <:+: '%' :: c :: rest) :
    ['%', x] <:+: c :: rest :=
  (percent_infix_cons h).resolve_left fun h' => hcx (Option.some_inj.1 h'.2)

private theorem infix_of_percent_some (hp : f '%' = none) (hc : f c = some w) (hcx : c ≠ x)
    (h : ['%', x] <:+: '%' :: c :: rest) : ['%', x] <:+: rest :=
  (percent_infix_cons (infix_of_percent_none hcx h)).resolve_left fun h' => by
    rw [h'.1, hp] at hc; cases hc

private theorem infix_of_plain (hc : ∀ d r, c = '%' → rest = d :: r → False)
    (h : ['%', x] <:+: c :: rest) : ['%', x] <:+: rest := by
  refine (percent_infix_cons h).resolve_left fun ⟨h1, h2⟩ => ?_
  cases rest with
  | nil => cases h2
  | cons d r => exact hc d r h1 rfl

variable (hfg : ∀ ch, ch ≠ x → f ch = g ch) (hu : f x = some u) (hv : g x = some v)
  (hp : f '%' = none)
include hfg hu hv hp

/-- Two tables that differ only in the text of `x` give readings whose lengths differ by a
multiple of the difference of the texts' lengths, a positive one when the pattern holds
`%x`. -/
theorem expand_length_agree (s : List Char) :
    ∃ k, (expand f s).length + k * v.length = (expand g s).length + k * u.length ∧
      (['%', x] <:+: s → 0 < k) := by
  induction s using expand.induct f with
  | case1 =>
    refine ⟨0, by rw [Nat.zero_mul, Nat.zero_mul]; rfl, fun h => ?_⟩
    exact absurd (List.eq_nil_of_infix_nil h) (List.cons_ne_nil _ _)
  | case2 c rest w hc ih =>
    obtain ⟨k, hk, hpos⟩ := ih
    by_cases hcx : c = x
    · subst hcx
      refine ⟨k + 1, ?_, fun _ => k.succ_pos⟩
      rw [expand_percent_of_some hu, expand_percent_of_some hv, List.length_append,
        List.length_append, Nat.succ_mul, Nat.succ_mul]
      omega
    · refine ⟨k, ?_, fun h => hpos (infix_of_percent_some hp hc hcx h)⟩
      rw [expand_percent_of_some hc, expand_percent_of_some (by rwa [← hfg c hcx]),
        List.length_append, List.length_append]
      omega
  | case3 c rest hc ih =>
    have hcx : c ≠ x := by rintro rfl; rw [hu] at hc; cases hc
    obtain ⟨k, hk, hpos⟩ := ih
    refine ⟨k, ?_, fun h => hpos (infix_of_percent_none hcx h)⟩
    rw [expand_percent_of_none hc, expand_percent_of_none (by rwa [← hfg c hcx]),
      List.length_cons, List.length_cons]
    omega
  | case4 c rest hc ih =>
    obtain ⟨k, hk, hpos⟩ := ih
    refine ⟨k, ?_, fun h => hpos (infix_of_plain hc h)⟩
    rw [expand.eq_3 _ c rest hc, expand.eq_3 _ c rest hc, List.length_cons, List.length_cons]
    omega

/-- Two tables that differ only in the text of `x` give the same reading of a pattern that
holds `%x` only when the two texts are the same. -/
theorem eq_of_expand_agree (s : List Char) (hs : ['%', x] <:+: s)
    (h : expand f s = expand g s) : u = v := by
  induction s using expand.induct f with
  | case1 => exact absurd (List.eq_nil_of_infix_nil hs) (List.cons_ne_nil _ _)
  | case2 c rest w hc ih =>
    by_cases hcx : c = x
    · subst hcx
      rw [expand_percent_of_some hu, expand_percent_of_some hv] at h
      obtain ⟨k, hk, -⟩ := expand_length_agree hfg hu hv hp rest
      have hl := congrArg List.length h
      rw [List.length_append, List.length_append] at hl
      rcases Nat.lt_trichotomy u.length v.length with hlt | heq | hgt
      · have := Nat.mul_le_mul_left k hlt.le; omega
      · exact (List.append_inj h heq).1
      · have := Nat.mul_le_mul_left k hgt.le; omega
    · rw [expand_percent_of_some hc, expand_percent_of_some (by rwa [← hfg c hcx])] at h
      exact ih (infix_of_percent_some hp hc hcx hs) (List.append_cancel_left h)
  | case3 c rest hc ih =>
    have hcx : c ≠ x := by rintro rfl; rw [hu] at hc; cases hc
    rw [expand_percent_of_none hc, expand_percent_of_none (by rwa [← hfg c hcx])] at h
    exact ih (infix_of_percent_none hcx hs) (List.cons.inj h).2
  | case4 c rest hc ih =>
    rw [expand.eq_3 _ c rest hc, expand.eq_3 _ c rest hc] at h
    exact ih (infix_of_plain hc hs) (List.cons.inj h).2

end Agree

/-- The tables for two STF ids agree off `%i`. -/
theorem fileNameDirectives_agree (c : FileNameInputs) (a b : Nat) :
    ∀ ch, ch ≠ 'i' → fileNameDirectives c a ch = fileNameDirectives c b ch := by
  intro ch h
  simp only [fileNameDirectives]
  split <;> simp_all

/-- A pattern that holds `%i` gives two STF ids two names, when the date and the time have the
shape `strftime` gives them. -/
theorem newStfFileName_injective (c : FileNameInputs) (hD : IsStamp c.lDate)
    (hT : IsStamp c.lTime) (hi : ['%', 'i'] <:+: c.mFileNamePattern) :
    Injective (newStfFileName c) := by
  intro a b h
  rw [newStfFileName_eq_expand_update c a hD hT, newStfFileName_eq_expand_update c b hD hT,
    ← fileNameDirectives_eq_update, ← fileNameDirectives_eq_update] at h
  exact padDec_injective 8 (eq_of_expand_agree (fileNameDirectives_agree c a b) rfl rfl rfl _ hi h)

/-- A sink pattern with every directive, at a date and a time as `strftime` writes them. -/
def sampleFileNameInputs : FileNameInputs :=
  ⟨"run%r_%n_%i_%D_%T_%h.tf".toList, 3, 42, "42".toList, "2026-11-09".toList,
    "12_00_00".toList, "flp".toList⟩

/-- A pattern with every directive, at a `strftime` date and time. -/
theorem newStfFileName_eq_expand_sample :
    IsStamp sampleFileNameInputs.lDate ∧ IsStamp sampleFileNameInputs.lTime ∧
      newStfFileName sampleFileNameInputs 7 =
        expand (fileNameDirectives sampleFileNameInputs 7) sampleFileNameInputs.mFileNamePattern :=
  ⟨by decide, by decide, newStfFileName_eq_expand _ 7 (by decide) (by decide)⟩

/-- The same pattern, which holds `%i`. -/
theorem newStfFileName_injective_sample :
    IsStamp sampleFileNameInputs.lDate ∧ IsStamp sampleFileNameInputs.lTime ∧
      ['%', 'i'] <:+: sampleFileNameInputs.mFileNamePattern ∧
      Injective (newStfFileName sampleFileNameInputs) :=
  ⟨by decide, by decide, by decide,
    newStfFileName_injective _ (by decide) (by decide) (by decide)⟩

end DataDistribution.Common
