import Mathlib.Data.List.Basic
import Mathlib.Algebra.Group.Nat.Basic

/-!
# UCX tagged control messages and the string channel

`src/src/common/ucxtools/UCXSendRecv.h:30–34, 179–289`.  A worker's incoming messages are a list
in arrival order, and a blocking receive takes the oldest that matches.  A message longer than
the buffer, or no match, is `none`: `ucp_wait` then does not return (`Ucx.MultiReq`).
-/

namespace DataDistribution.Ucx

/-- `ucp_tag_t`. -/
abbrev UcpTag := UInt64

/-- `STF_IOV_SIZE_TAG`. -/
def STF_IOV_SIZE_TAG : UcpTag := 1
/-- `STF_IOV_DATA_TAG`. -/
def STF_IOV_DATA_TAG : UcpTag := 2
/-- `STRING_TAG`. -/
def STRING_TAG : UcpTag := 3
/-- `STRING_SIZE_TAG`. -/
def STRING_SIZE_TAG : UcpTag := 4
/-- `STF_DONE_TAG`. -/
def STF_DONE_TAG : UcpTag := 1000000000

/-- A tagged message as it reaches the worker. -/
structure TagMsg where
  tag : UcpTag
  payload : List UInt8
  deriving DecidableEq, Repr

/-! ### UCX tag matching -/

/-- UCX tag matching: the message's tag agrees with `tag` on the bits of `tagMask`. -/
def tagMatches (tag tagMask : UcpTag) (m : TagMsg) : Bool :=
  (m.tag &&& tagMask) == (tag &&& tagMask)

/-- The oldest message that matches, and the other messages in order. -/
def takeMatching (tag tagMask : UcpTag) : List TagMsg → Option (TagMsg × List TagMsg)
  | [] => none
  | m :: q =>
    if tagMatches tag tagMask m then some (m, q)
    else (takeMatching tag tagMask q).map fun r => (r.1, m :: r.2)

/-- The received bytes land at the start of the buffer and the rest of it is left as it was; a
longer message is truncated, an error. -/
def recvInto (buf payload : List UInt8) : Option (List UInt8) :=
  if payload.length ≤ buf.length then some (payload ++ buf.drop payload.length) else none

/-- `ucp_tag_recv_nbx` into `buf`, run to completion: the buffer and the messages left. -/
def ucpTagRecvNbx (q : List TagMsg) (buf : List UInt8) (tag tagMask : UcpTag) :
    Option (List UInt8 × List TagMsg) :=
  (takeMatching tag tagMask q).bind fun r => (recvInto buf r.1.payload).map (·, r.2)

/-- With tag mask `0` every message matches. -/
theorem tagMatches_zero (tag : UcpTag) (m : TagMsg) : tagMatches tag 0 m = true := by
  have h (x : UcpTag) : x &&& 0 = 0 := UInt64.eq_of_toBitVec_eq BitVec.and_zero
  simp [tagMatches, h]

/-- A buffer of the message's size receives exactly the message. -/
theorem recvInto_of_length_eq {buf payload : List UInt8} (h : payload.length = buf.length) :
    recvInto buf payload = some payload := by
  simp [recvInto, h]

/-! ### `receive_tag_blocking` and the string channel -/

/-- `send_tag_blocking` (`UCXSendRecv.h:179–212`): the message it puts on the endpoint. -/
def sendTagBlocking (data : List UInt8) (tag : UcpTag) : TagMsg := ⟨tag, data⟩

/-- `receive_tag_blocking` (`UCXSendRecv.h:214–241`), which posts its receive with tag mask
`0`. -/
def receiveTagBlocking (q : List TagMsg) (data : List UInt8) (tag : UcpTag) :
    Option (List UInt8 × List TagMsg) :=
  ucpTagRecvNbx q data tag 0

/-- With mask `0`, `receive_tag_blocking` takes the oldest message, whatever its tag. -/
theorem receiveTagBlocking_cons (m : TagMsg) (q : List TagMsg) (data : List UInt8)
    (tag : UcpTag) :
    receiveTagBlocking (m :: q) data tag = (recvInto data m.payload).map (·, q) := by
  simp [receiveTagBlocking, ucpTagRecvNbx, takeMatching, tagMatches_zero]

/-- `w` little-endian bytes of `n`: how a `uint64_t` is laid out for `w = 8`. -/
def encodeLe : Nat → Nat → List UInt8
  | 0, _ => []
  | w + 1, n => (n % 256).toUInt8 :: encodeLe w (n / 256)

/-- The value of little-endian bytes. -/
def decodeLe : List UInt8 → Nat
  | [] => 0
  | b :: bs => b.toNat + 256 * decodeLe bs

/-- `w` little-endian bytes are `w` bytes long. -/
@[simp] theorem length_encodeLe (w n : Nat) : (encodeLe w n).length = w := by
  induction w generalizing n <;> simp [encodeLe, *]

/-- Below `256^w` the little-endian bytes decode to the number. -/
theorem decodeLe_encodeLe (w n : Nat) (h : n < 256 ^ w) : decodeLe (encodeLe w n) = n := by
  induction w generalizing n with
  | zero => simp_all [encodeLe, decodeLe]
  | succ w ih =>
    have hb : (n % 256).toUInt8.toNat = n % 256 := by
      simp [Nat.toUInt8, UInt8.ofNat, UInt8.toNat]
    have hq : n / 256 < 256 ^ w := (Nat.div_lt_iff_lt_mul (by omega)).2 (by rwa [Nat.pow_succ] at h)
    simp only [encodeLe, decodeLe, hb, ih _ hq]
    omega

/-- A string's bytes, as `std::string` holds them. -/
abbrev StdString := List UInt8

/-- The body of `ucx_receive_string` over a receive primitive: the size, then a buffer of that
many zero bytes for the string. -/
def receiveStringVia (recv : List TagMsg → List UInt8 → UcpTag → Option (List UInt8 × List TagMsg))
    (q : List TagMsg) : Option (StdString × List TagMsg) :=
  (recv q (encodeLe 8 0) STRING_SIZE_TAG).bind fun (sizeRcv, q) =>
    recv q (List.replicate (decodeLe sizeRcv) 0) STRING_TAG

/-- `ucx_receive_string` (`UCXSendRecv.h:273–289`): the string and the messages left. -/
def ucxReceiveString (q : List TagMsg) : Option (StdString × List TagMsg) :=
  receiveStringVia receiveTagBlocking q

/-- `ucx_send_string` (`UCXSendRecv.h:260–271`): the two messages it sends. -/
def ucxSendString (lString : StdString) : List TagMsg :=
  [sendTagBlocking (encodeLe 8 lString.length) STRING_SIZE_TAG,
   sendTagBlocking lString STRING_TAG]

/-- With nothing queued before it, a sent string comes back unchanged. -/
theorem ucxReceiveString_ucxSendString (s : StdString) (hs : s.length < 2 ^ 64)
    (rest : List TagMsg) :
    ucxReceiveString (ucxSendString s ++ rest) = some (s, rest) := by
  have hd : decodeLe (encodeLe 8 s.length) = s.length := decodeLe_encodeLe 8 _ (by simpa using hs)
  simp [ucxReceiveString, receiveStringVia, ucxSendString, sendTagBlocking,
    receiveTagBlocking_cons, recvInto_of_length_eq, hd]

/-- The string `"ab"` and nothing after it. -/
theorem ucxReceiveString_ucxSendString_ab :
    [97, 98].length < 2 ^ 64 ∧ ucxReceiveString (ucxSendString [97, 98] ++ []) = some ([97, 98], []) :=
  ⟨by decide, ucxReceiveString_ucxSendString [97, 98] (by decide) []⟩

/-- A message under `STF_IOV_DATA_TAG` queued before `ucx_send_string "ab"`: the size receive
takes it, the string receive then takes the size message, and `ucx_receive_string` returns the
eight bytes of the size `2` instead of `"ab"`. -/
theorem ucxReceiveString_takes_other_tag :
    ucxReceiveString (⟨STF_IOV_DATA_TAG, encodeLe 8 8⟩ :: ucxSendString [97, 98]) =
      some (encodeLe 8 2, [⟨STRING_TAG, [97, 98]⟩]) := by
  decide

end DataDistribution.Ucx
