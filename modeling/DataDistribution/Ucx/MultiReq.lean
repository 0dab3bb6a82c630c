import Mathlib.Data.List.Perm.Basic
import Mathlib.Data.List.Nodup

/-!
# UCX multi-request completion tracking

`src/src/common/ucxtools/UCXSendRecv.h:48–176`.  A run interleaves `add_request` and
`mark_finished` with the callbacks the worker delivers; `Tracked` records the callbacks still
owed and those that failed, to state UCX's contract.  The counters are naturals: `mSlotsUsed` is
decremented only when positive (`callback_slot_pos`), the wrap the assertions guard against.
-/

namespace DataDistribution.Ucx

/-- What a `ucp_*_nbx` call returned: completed in place (`NULL`), an error, or a request. -/
inductive UcsPtr where
  | null
  | error
  | ptr (p : Nat)
  deriving DecidableEq, Repr

/-- `ucs_status_t` passed to a completion callback. -/
inductive UcsStatus where
  | UCS_OK
  | UCS_ERR (code : Nat)
  deriving DecidableEq, Repr

/-- `dd_ucp_multi_req`. -/
structure DdUcpMultiReq where
  mSlotsCount : Nat
  mSlotsUsed : Nat
  mTotalDone : Nat
  mRequests : List Nat
  mFinished : Bool
  deriving DecidableEq, Repr

namespace DdUcpMultiReq

/-- `dd_ucp_multi_req(pSlotsCount)`. -/
def mk' (pSlotsCount : Nat) : DdUcpMultiReq := ⟨pSlotsCount, 0, 0, [], false⟩

/-- `done()` (`UCXSendRecv.h:74–83`). -/
def done (r : DdUcpMultiReq) : Bool :=
  if !r.mFinished then decide (r.mSlotsUsed < r.mSlotsCount) else r.mSlotsUsed == 0

/-- `done()` holds when, after `mark_finished`, no slot is used, and before it, a slot is free. -/
theorem done_eq_true {r : DdUcpMultiReq} :
    r.done = true ↔ if r.mFinished then r.mSlotsUsed = 0 else r.mSlotsUsed < r.mSlotsCount := by
  unfold done; cases r.mFinished <;> simp

/-- `add_request` (`UCXSendRecv.h:88–101`): its result and the updated request. -/
def addRequest (r : DdUcpMultiReq) : UcsPtr → Bool × DdUcpMultiReq
  | .error => (false, r)
  | .null => (true, r)
  | .ptr p => (true, { r with mRequests := r.mRequests.insert p, mSlotsUsed := r.mSlotsUsed + 1 })

/-- `remove_request` (`UCXSendRecv.h:103–115`). -/
def removeRequest (r : DdUcpMultiReq) : UcsPtr → DdUcpMultiReq
  | .ptr p => { r with mRequests := r.mRequests.erase p, mTotalDone := r.mTotalDone + 1,
                       mSlotsUsed := r.mSlotsUsed - 1 }
  | _ => r

/-- `mark_finished`. -/
def markFinished (r : DdUcpMultiReq) : DdUcpMultiReq := { r with mFinished := true }

/-- The body shared by the two completion callbacks: release the slot on `UCS_OK` only. -/
def multiCb (r : DdUcpMultiReq) (req : UcsPtr) (status : UcsStatus) : DdUcpMultiReq :=
  if status = .UCS_OK then r.removeRequest req else r

/-- `send_multi_cb` (`UCXSendRecv.h:154–164`). -/
def sendMultiCb (r : DdUcpMultiReq) (req : UcsPtr) (status : UcsStatus) : DdUcpMultiReq :=
  r.multiCb req status

/-- `recv_multi_cb` (`UCXSendRecv.h:166–176`). -/
def recvMultiCb (r : DdUcpMultiReq) (req : UcsPtr) (status : UcsStatus) : DdUcpMultiReq :=
  r.multiCb req status

end DdUcpMultiReq

/-- A caller call or a callback delivered by the worker. -/
inductive ReqEvent where
  | add (req : UcsPtr)
  | complete (p : Nat) (status : UcsStatus)
  | markFinished
  deriving DecidableEq, Repr

/-- A multi-request with the completions UCX still owes and those that failed. -/
structure Tracked where
  req : DdUcpMultiReq
  pending : List Nat
  failed : List Nat
  deriving DecidableEq, Repr

namespace Tracked

/-- A fresh request of `n` slots. -/
def init (n : Nat) : Tracked := ⟨DdUcpMultiReq.mk' n, [], []⟩

/-- One event; `none` when UCX would break its contract (a live pointer handed out again, a
callback for a request that owes none). -/
def step (t : Tracked) : ReqEvent → Option Tracked
  | .add .error => some { t with req := (t.req.addRequest .error).2 }
  | .add .null => some { t with req := (t.req.addRequest .null).2 }
  | .add (.ptr p) =>
    if p ∈ t.req.mRequests then none
    else some { t with req := (t.req.addRequest (.ptr p)).2, pending := p :: t.pending }
  | .complete p status =>
    if p ∈ t.pending then
      some { req := t.req.sendMultiCb (.ptr p) status, pending := t.pending.erase p,
             failed := if status = .UCS_OK then t.failed else p :: t.failed }
    else none
  | .markFinished => some { t with req := t.req.markFinished }

/-- A run of events. -/
def run (t : Tracked) : List ReqEvent → Option Tracked
  | [] => some t
  | e :: es => (t.step e).bind (run · es)

/-- Requests added as pointers: the ones that take a slot. -/
def ptrAdds : List ReqEvent → Nat
  | [] => 0
  | .add (.ptr _) :: es => ptrAdds es + 1
  | _ :: es => ptrAdds es

/-- Every `add_request` of the run happens while `done()` holds, as after `ucp_wait`, and before
`mark_finished`, as in `send_tag_blocking` and `receive_tag_blocking`. -/
def addsOnlyWhenDone (t : Tracked) : List ReqEvent → Bool
  | [] => true
  | e :: es =>
    (match e with
      | .add _ => t.req.done && !t.req.mFinished
      | _ => true) &&
    match t.step e with
    | some t' => addsOnlyWhenDone t' es
    | none => true

/-- The representation invariant: every live request is owed a callback or failed, once, and
`mSlotsUsed` counts them. -/
structure Inv (t : Tracked) : Prop where
  nodup : t.req.mRequests.Nodup
  perm : (t.pending ++ t.failed).Perm t.req.mRequests
  slots : t.req.mSlotsUsed = t.req.mRequests.length

/-- A new request is in the invariant. -/
theorem inv_init (n : Nat) : Inv (init n) :=
  ⟨List.nodup_nil, List.Perm.refl _, rfl⟩

/-- A callback that UCX still owes finds a used slot: the assertion of `send_multi_cb` and
`recv_multi_cb` holds, and `mSlotsUsed - 1` does not wrap. -/
theorem callback_slot_pos {t : Tracked} (hi : Inv t) {p : Nat} (hp : p ∈ t.pending) :
    0 < t.req.mSlotsUsed := by
  rw [hi.slots]
  exact List.length_pos_of_mem (hi.perm.subset (List.mem_append_left _ hp))

/-- What one event does, guards included. -/
theorem step_cases {t t' : Tracked} {e : ReqEvent} (h : t.step e = some t') :
    ((e = .add .error ∨ e = .add .null) ∧ t' = t) ∨
    (∃ p, e = .add (.ptr p) ∧ p ∉ t.req.mRequests ∧
      t' = ⟨{ t.req with mRequests := p :: t.req.mRequests, mSlotsUsed := t.req.mSlotsUsed + 1 },
        p :: t.pending, t.failed⟩) ∨
    (∃ p, e = .complete p .UCS_OK ∧ p ∈ t.pending ∧
      t' = ⟨{ t.req with mRequests := t.req.mRequests.erase p,
                         mTotalDone := t.req.mTotalDone + 1,
                         mSlotsUsed := t.req.mSlotsUsed - 1 },
        t.pending.erase p, t.failed⟩) ∨
    (∃ p code, e = .complete p (.UCS_ERR code) ∧ p ∈ t.pending ∧
      t' = ⟨t.req, t.pending.erase p, p :: t.failed⟩) ∨
    (e = .markFinished ∧ t' = { t with req := t.req.markFinished }) := by
  cases e with
  | add r =>
    cases r with
    | error => exact .inl ⟨.inl rfl, (Option.some.inj h).symm⟩
    | null => exact .inl ⟨.inr rfl, (Option.some.inj h).symm⟩
    | ptr p =>
      simp only [step] at h
      split at h
      · simp at h
      · rename_i hp
        refine .inr (.inl ⟨p, rfl, hp, ?_⟩)
        rw [← Option.some.inj h, DdUcpMultiReq.addRequest, List.insert_of_not_mem hp]
  | complete p status =>
    simp only [step] at h
    split at h
    · rename_i hp
      obtain rfl := Option.some.inj h
      cases status with
      | UCS_OK => exact .inr (.inr (.inl ⟨p, rfl, hp, rfl⟩))
      | UCS_ERR code => exact .inr (.inr (.inr (.inl ⟨p, code, rfl, hp, rfl⟩)))
    · simp at h
  | markFinished => exact .inr (.inr (.inr (.inr ⟨rfl, (Option.some.inj h).symm⟩)))

/-- Every step keeps the invariant. -/
theorem inv_step {t t' : Tracked} {e : ReqEvent} (hi : Inv t) (h : t.step e = some t') :
    Inv t' := by
  rcases step_cases h with ⟨-, rfl⟩ | ⟨p, -, hp, rfl⟩ | ⟨p, -, hp, rfl⟩ | ⟨p, -, -, hp, rfl⟩ |
    ⟨-, rfl⟩
  · exact hi
  · exact ⟨List.nodup_cons.2 ⟨hp, hi.nodup⟩, hi.perm.cons p, by simp [hi.slots]⟩
  · have hm : p ∈ t.req.mRequests := hi.perm.subset (List.mem_append_left _ hp)
    have he : (t.pending ++ t.failed).erase p = t.pending.erase p ++ t.failed :=
      List.erase_append_left _ hp
    exact ⟨hi.nodup.erase p, he ▸ hi.perm.erase p, by simp [List.length_erase_of_mem hm, hi.slots]⟩
  · exact ⟨hi.nodup, (List.perm_middle.trans
      ((List.perm_cons_erase hp).symm.append_right _)).trans hi.perm, hi.slots⟩
  · exact ⟨hi.nodup, hi.perm, hi.slots⟩

/-- Each event moves `mTotalDone + mSlotsUsed` by the pointer requests it adds. -/
theorem counters_step {t t' : Tracked} {e : ReqEvent} (hi : Inv t) (h : t.step e = some t') :
    t'.req.mTotalDone + t'.req.mSlotsUsed = t.req.mTotalDone + t.req.mSlotsUsed + ptrAdds [e] := by
  rcases step_cases h with ⟨rfl | rfl, rfl⟩ | ⟨p, rfl, -, rfl⟩ | ⟨p, rfl, hp, rfl⟩ |
    ⟨p, c, rfl, -, rfl⟩ | ⟨rfl, rfl⟩
  · rfl
  · rfl
  · simp only [ptrAdds]; omega
  · have := callback_slot_pos hi hp
    simp only [ptrAdds]; omega
  · rfl
  · rfl

/-- An `add_request` made while `done()` holds and before `mark_finished` keeps
`mSlotsUsed ≤ mSlotsCount`; no other event raises `mSlotsUsed` or changes `mSlotsCount`. -/
theorem bound_step {t t' : Tracked} {e : ReqEvent} (hb : t.req.mSlotsUsed ≤ t.req.mSlotsCount)
    (hd : (match e with | .add _ => t.req.done && !t.req.mFinished | _ => true) = true)
    (h : t.step e = some t') : t'.req.mSlotsUsed ≤ t'.req.mSlotsCount := by
  rcases step_cases h with ⟨-, rfl⟩ | ⟨p, rfl, -, rfl⟩ | ⟨p, -, -, rfl⟩ | ⟨p, c, -, -, rfl⟩ |
    ⟨-, rfl⟩
  · exact hb
  · simp only [Bool.and_eq_true, Bool.not_eq_true'] at hd
    have hlt := DdUcpMultiReq.done_eq_true.1 hd.1
    rw [hd.2, if_neg Bool.false_ne_true] at hlt
    exact hlt
  · exact (Nat.sub_le _ _).trans hb
  · exact hb
  · exact hb

private theorem ptrAdds_cons (e : ReqEvent) (es : List ReqEvent) :
    ptrAdds (e :: es) = ptrAdds [e] + ptrAdds es := by
  rcases e with (_ | _ | p) | ⟨p, st⟩ | _ <;> simp only [ptrAdds] <;> omega

/-- Along a run the invariant holds and `mTotalDone + mSlotsUsed` grows by the pointer requests
added. -/
theorem run_inv {t t' : Tracked} (hi : Inv t) {es : List ReqEvent} (h : t.run es = some t') :
    Inv t' ∧ t'.req.mTotalDone + t'.req.mSlotsUsed =
      t.req.mTotalDone + t.req.mSlotsUsed + ptrAdds es := by
  induction es generalizing t with
  | nil => simp only [run, Option.some.injEq] at h; subst h; exact ⟨hi, rfl⟩
  | cons e es ih =>
    obtain ⟨t₁, h₁, h⟩ := Option.bind_eq_some.mp h
    obtain ⟨hi', hc⟩ := ih (inv_step hi h₁) h
    have := counters_step hi h₁
    have := ptrAdds_cons e es
    exact ⟨hi', by omega⟩

/-- Along a run whose `add_request` calls all happen while `done()` holds and before
`mark_finished`, `mSlotsUsed ≤ mSlotsCount`. -/
theorem run_bound {t t' : Tracked} {es : List ReqEvent}
    (hb : t.req.mSlotsUsed ≤ t.req.mSlotsCount) (hd : addsOnlyWhenDone t es = true)
    (h : t.run es = some t') : t'.req.mSlotsUsed ≤ t'.req.mSlotsCount := by
  induction es generalizing t with
  | nil => simp only [run, Option.some.injEq] at h; exact h ▸ hb
  | cons e es ih =>
    obtain ⟨t₁, h₁, h⟩ := Option.bind_eq_some.mp h
    simp only [addsOnlyWhenDone, h₁, Bool.and_eq_true] at hd
    exact ih (bound_step hb hd.1 h₁) hd.2 h

/-- Any run of `add_request` calls and completion callbacks on a fresh request keeps
`mSlotsUsed = |mRequests|` and `mTotalDone + mSlotsUsed` equal to the pointer requests added;
every callback still owed finds `mSlotsUsed > 0`; with adds only while `done()` holds and
before `mark_finished`, `mSlotsUsed ≤ mSlotsCount`; and once `done()` holds after `mark_finished`, `mRequests` is
empty, so the destructor's assertion holds. -/
theorem multiReq_counters (n : Nat) (es : List ReqEvent) (t : Tracked)
    (h : (init n).run es = some t) :
    t.req.mSlotsUsed = t.req.mRequests.length ∧
    t.req.mTotalDone + t.req.mSlotsUsed = ptrAdds es ∧
    (∀ p ∈ t.pending, 0 < t.req.mSlotsUsed) ∧
    (addsOnlyWhenDone (init n) es = true → t.req.mSlotsUsed ≤ t.req.mSlotsCount) ∧
    (t.req.mFinished = true → t.req.done = true →
      t.req.mRequests = [] ∧ t.req.mRequests.length ≤ t.req.mTotalDone) := by
  obtain ⟨hi, hc⟩ := run_inv (inv_init n) h
  refine ⟨hi.slots, by simpa [init, DdUcpMultiReq.mk'] using hc,
    fun p hp => callback_slot_pos hi hp, fun hd => run_bound (by simp [init, DdUcpMultiReq.mk'])
      hd h, fun hf hd => ?_⟩
  have hu : t.req.mSlotsUsed = 0 := by simpa [DdUcpMultiReq.done, hf] using hd
  have hl : t.req.mRequests.length = 0 := hi.slots ▸ hu
  exact ⟨List.eq_nil_of_length_eq_zero hl, by omega⟩

/-- One pointer request on a one-slot request, completed, then `mark_finished`. -/
theorem multiReq_counters_one_request :
    (init 1).run [.add (.ptr 7), .complete 7 .UCS_OK, .markFinished] =
      some ⟨⟨1, 0, 1, [], true⟩, [], []⟩ ∧
    (0 = ([] : List Nat).length ∧ 1 + 0 = ptrAdds [.add (.ptr 7), .complete 7 .UCS_OK, .markFinished] ∧
      (∀ p ∈ ([] : List Nat), 0 < 0) ∧
      (addsOnlyWhenDone (init 1) [.add (.ptr 7), .complete 7 .UCS_OK, .markFinished] = true →
        0 ≤ 1) ∧
      (true = true → (⟨1, 0, 1, [], true⟩ : DdUcpMultiReq).done = true →
        ([] : List Nat) = [] ∧ ([] : List Nat).length ≤ 1)) :=
  ⟨by decide, multiReq_counters 1 _ ⟨⟨1, 0, 1, [], true⟩, [], []⟩ (by decide)⟩

/-! ### Failed completions and `ucp_wait` -/

/-- With no callback owed, `mSlotsUsed` counts the requests that completed with an error. -/
theorem slotsUsed_of_settled {t : Tracked} (hi : Inv t) (hp : t.pending = []) :
    t.req.mSlotsUsed = t.failed.length := by
  rw [hi.slots, ← hi.perm.length_eq, hp, List.nil_append]

/-- After `mark_finished` and every callback, `done()` holds exactly when no request failed. -/
theorem done_iff_no_failure {t : Tracked} (hi : Inv t) (hp : t.pending = [])
    (hf : t.req.mFinished = true) : t.req.done = true ↔ t.failed = [] := by
  simp [DdUcpMultiReq.done, hf, slotsUsed_of_settled hi hp]

/-- What one pass of `ucp_wait`'s loop meets after a failed `done()` check: worker progress that
delivers these callbacks, or a failed `epoll_wait`. -/
inductive WaitIter where
  | progress (callbacks : List (Nat × UcsStatus))
  | epollError
  deriving DecidableEq, Repr

/-- `ucp_wait` (`UCXSendRecv.h:121–151`) over the passes it makes: `some` once it has returned,
with its result; `none` while it is still waiting. -/
def ucpWait (t : Tracked) : List WaitIter → Option Bool
  | [] => none
  | it :: its =>
    if t.req.done then some true
    else match it with
      | .epollError => some t.req.done
      | .progress cbs =>
        match t.run (cbs.map fun c => .complete c.1 c.2) with
        | some t' => ucpWait t' its
        | none => none

/-- Once every callback has run after `mark_finished` and one of them failed, `ucp_wait` never
returns, whatever passes the worker makes, unless `epoll_wait` fails. -/
theorem ucpWait_stuck {t : Tracked} (hi : Inv t) (hp : t.pending = [])
    (hf : t.req.mFinished = true) (hfail : t.failed ≠ []) (its : List WaitIter)
    (hits : .epollError ∉ its) : ucpWait t its = none := by
  have hd : t.req.done = false :=
    Bool.eq_false_iff.2 fun h => hfail ((done_iff_no_failure hi hp hf).1 h)
  induction its with
  | nil => rfl
  | cons it its ih =>
    cases it with
    | epollError => simp at hits
    | progress cbs =>
      cases cbs with
      | nil =>
        simp only [ucpWait, hd, Bool.false_eq_true, if_false, List.map_nil, run]
        exact ih fun h => hits (List.mem_cons_of_mem _ h)
      | cons c cbs => simp [ucpWait, hd, run, step, hp]

/-- `dd_ucp_multi_req(1)`, `add_request`, `mark_finished`, then the request's callback with an
error: no callback is owed any more (UCX delivers none), `done()` is false, and `ucp_wait` on that
request never returns, whatever passes the worker makes, unless `epoll_wait` fails. -/
theorem ucpWait_never_returns_after_failure :
    ∃ t, (init 1).run [.add (.ptr 1), .markFinished, .complete 1 (.UCS_ERR 1)] = some t ∧
      t.req.mFinished = true ∧ (∀ p st, t.step (.complete p st) = none) ∧
      t.req.done = false ∧ ∀ its, .epollError ∉ its → ucpWait t its = none := by
  have hrun : (init 1).run [.add (.ptr 1), .markFinished, .complete 1 (.UCS_ERR 1)] =
      some ⟨⟨1, 1, 0, [1], true⟩, [], [1]⟩ := by decide
  exact ⟨_, hrun, rfl, fun _ _ => rfl, rfl,
    ucpWait_stuck (run_inv (inv_init 1) hrun).1 rfl rfl (List.cons_ne_nil _ _)⟩

end Tracked

end DataDistribution.Ucx
