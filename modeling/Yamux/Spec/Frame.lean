import Mathlib.Algebra.Order.Ring.Nat
import Mathlib.Logic.Function.Basic

/-!
# Frames, stream ids and errors

The engine does not encode or decode frames itself: `frame::Io` does, and the
engine only reads headers and builds frames through a few constructors
(`Frame::window_update`, `Frame::close_stream`, `Frame::term`, `Header::data`, ...).
That part of the crate is not in the sources we model, so its constructors are
modelled from the wire format of the specification (§6.1).

Machine integers keep their Rust widths: ids, lengths, credits and windows are
`UInt32`, and an addition that Rust writes as `+` wraps as a release build does.
`saturating_sub` and `checked_add` are the two `u32` operations the engine calls.
-/

/-- `u32::saturating_sub`. -/
def UInt32.saturatingSub (a b : UInt32) : UInt32 := if b ≤ a then a - b else 0

/-- `u32::checked_add`. -/
def UInt32.checkedAdd (a b : UInt32) : Option UInt32 :=
  if a.toNat + b.toNat < UInt32.size then some (a + b) else none

theorem UInt32.le_iff_toNat_le {a b : UInt32} : a ≤ b ↔ a.toNat ≤ b.toNat := Iff.rfl

theorem UInt32.lt_iff_toNat_lt {a b : UInt32} : a < b ↔ a.toNat < b.toNat := Iff.rfl

theorem UInt32.toNat_saturatingSub (a b : UInt32) :
    (a.saturatingSub b).toNat = a.toNat - b.toNat := by
  unfold UInt32.saturatingSub
  split
  · exact UInt32.toNat_sub_of_le a b ‹_›
  · rw [UInt32.le_iff_toNat_le] at *; simp only [UInt32.toNat_zero]; omega

theorem UInt32.toNat_add_mod (a b : UInt32) : (a + b).toNat = (a.toNat + b.toNat) % UInt32.size :=
  rfl

theorem UInt32.toNat_injective : Function.Injective UInt32.toNat := fun _ _ => UInt32.toNat.inj

theorem UInt32.toNat_add_of_lt {a b : UInt32} (h : a.toNat + b.toNat < UInt32.size) :
    (a + b).toNat = a.toNat + b.toNat := by
  rw [UInt32.toNat_add_mod, Nat.mod_eq_of_lt h]

theorem UInt32.checkedAdd_eq_some {a b c : UInt32} :
    a.checkedAdd b = some c ↔ a.toNat + b.toNat < UInt32.size ∧ c.toNat = a.toNat + b.toNat := by
  unfold UInt32.checkedAdd
  split
  · rename_i h
    simp only [Option.some.injEq, h, true_and]
    exact ⟨fun e => e ▸ UInt32.toNat_add_of_lt h,
      fun e => (UInt32.toNat.inj (e.trans (UInt32.toNat_add_of_lt h).symm)).symm⟩
  · simp only [reduceCtorEq, false_iff, not_and]
    intro h'; omega

namespace Yamux

/-- Results of the engine's calls are compared in tests and by `decide`. -/
instance instDecidableEqExcept {ε α : Type _} [DecidableEq ε] [DecidableEq α] : DecidableEq (Except ε α)
  | .error a, .error b => decidable_of_iff (a = b) (by simp)
  | .ok a, .ok b => decidable_of_iff (a = b) (by simp)
  | .error _, .ok _ => isFalse (by simp)
  | .ok _, .error _ => isFalse (by simp)

/-- How a call aborts instead of returning: a failed `assert!`, or `unreachable!()`. -/
inductive Panic where
  | assertion
  | unreachable
  deriving DecidableEq, Repr

/-- `std::task::Poll`. -/
inductive Poll (α : Type) where
  | ready (a : α)
  | pending
  deriving DecidableEq, Repr

/-- `ConnectionError`. The payloads of `Io` and `Decode` are never inspected. -/
inductive ConnectionError where
  | io
  | decode
  | noMoreStreamIds
  | closed
  | tooManyStreams
  deriving DecidableEq, Repr

/-- `StreamId`, a `u32`. -/
structure StreamId where
  val : UInt32
  deriving DecidableEq, Repr

namespace StreamId

/-- Modelled from the spec: odd ids are opened by the client. -/
def isClient (id : StreamId) : Bool := id.val % 2 == 1

/-- Modelled from the spec: even ids are opened by the server. -/
def isServer (id : StreamId) : Bool := id.val % 2 == 0

/-- Modelled from the spec: `0` is the session id. -/
def isSession (id : StreamId) : Bool := id.val == 0

end StreamId

/-- `CONNECTION_ID`, the session id. -/
def connectionId : StreamId := ⟨0⟩

/-- The frame type, the second byte of a header. -/
inductive Tag where
  | data
  | windowUpdate
  | ping
  | goAway
  deriving DecidableEq, Repr

/-- The flag bits of a header; the engine tests only these four. -/
structure Flags where
  syn : Bool := false
  ack : Bool := false
  fin : Bool := false
  rst : Bool := false
  deriving DecidableEq, Repr

/-- A frame header. `length` is the body length of a data frame, the credit of a
window update, the nonce of a ping and the error code of a go-away. -/
structure Header where
  tag : Tag
  flags : Flags
  streamId : StreamId
  length : UInt32
  deriving DecidableEq, Repr

namespace Header

def syn (h : Header) : Header := { h with flags := { h.flags with syn := true } }
def ack (h : Header) : Header := { h with flags := { h.flags with ack := true } }
def fin (h : Header) : Header := { h with flags := { h.flags with fin := true } }
def rst (h : Header) : Header := { h with flags := { h.flags with rst := true } }

/-- `Header::credit` of a window update. -/
def credit (h : Header) : UInt32 := h.length

/-- `Header::nonce` of a ping. -/
def nonce (h : Header) : UInt32 := h.length

/-- Modelled from the spec: `Header::data(id, len)`. -/
def data (id : StreamId) (len : UInt32) : Header := ⟨.data, {}, id, len⟩

/-- Modelled from the spec: `Header::window_update(id, credit)`. -/
def windowUpdate (id : StreamId) (credit : UInt32) : Header := ⟨.windowUpdate, {}, id, credit⟩

/-- Modelled from the spec: `Header::ping(nonce)`, on the session id. -/
def ping (nonce : UInt32) : Header := ⟨.ping, {}, connectionId, nonce⟩

/-- Modelled from the spec: a go-away on the session id with its error code
(0 normal, 1 protocol error, 2 internal error). -/
def goAway (code : UInt32) : Header := ⟨.goAway, {}, connectionId, code⟩

end Header

/-- A frame: a header and its body. -/
structure Frame where
  header : Header
  body : List UInt8 := []
  deriving DecidableEq, Repr

namespace Frame

/-- `Frame::new`: a frame without body. -/
def new (h : Header) : Frame := ⟨h, []⟩

/-- `Frame::body_len`, the body length as a `u32`. -/
def bodyLen (f : Frame) : UInt32 := f.body.length.toUInt32

/-- Modelled from the spec: `Frame::window_update(id, credit)`. -/
def windowUpdate (id : StreamId) (credit : UInt32) : Frame := new (Header.windowUpdate id credit)

/-- Modelled from the spec: `Frame::close_stream(id, ack)`, an empty data frame
with `FIN`, and `ACK` when asked. -/
def closeStream (id : StreamId) (ack : Bool) : Frame :=
  let h := (Header.data id 0).fin
  new (if ack then h.ack else h)

/-- Modelled from the spec: `Frame::term`, the go-away of a normal shutdown. -/
def term : Frame := new (Header.goAway 0)

/-- Modelled from the spec: `Frame::protocol_error`. -/
def protocolError : Frame := new (Header.goAway 1)

/-- Modelled from the spec: `Frame::internal_error`. -/
def internalError : Frame := new (Header.goAway 2)

end Frame

/-- The framed socket `Fuse<frame::Io<T>>`, given by the answers it will give. Each
list holds the answers to one kind of call, in the order the calls get them; a poll
past the end of its list is `Pending` and a send past the end succeeds. `sent` logs
the frames handed to `start_send`, oldest first. Every behaviour of a socket over a
finite run is one such script. -/
structure Socket where
  ready : List (Poll (Except ConnectionError Unit))
  send : List (Except ConnectionError Unit)
  flush : List (Poll (Except ConnectionError Unit))
  close : List (Poll (Except ConnectionError Unit))
  inbound : List (Poll (Option (Except ConnectionError Frame)))
  sent : List Frame
  deriving DecidableEq

namespace Socket

/-- A socket that has nothing to say yet: every poll is `Pending`. -/
def idle : Socket := ⟨[], [], [], [], [], []⟩

/-- `poll_ready`. -/
def pollReady (s : Socket) : Poll (Except ConnectionError Unit) × Socket :=
  match s.ready with
  | r :: rs => (r, { s with ready := rs })
  | [] => (.pending, s)

/-- `start_send(frame)`. -/
def startSend (s : Socket) (f : Frame) : Except ConnectionError Unit × Socket :=
  match s.send with
  | r :: rs => (r, { s with send := rs, sent := s.sent ++ [f] })
  | [] => (.ok (), { s with sent := s.sent ++ [f] })

/-- `poll_flush`. -/
def pollFlush (s : Socket) : Poll (Except ConnectionError Unit) × Socket :=
  match s.flush with
  | r :: rs => (r, { s with flush := rs })
  | [] => (.pending, s)

/-- `poll_close`. -/
def pollClose (s : Socket) : Poll (Except ConnectionError Unit) × Socket :=
  match s.close with
  | r :: rs => (r, { s with close := rs })
  | [] => (.pending, s)

/-- `poll_next`: a decoded frame, a decoding or I/O error, or the end of the stream. -/
def pollNext (s : Socket) : Poll (Option (Except ConnectionError Frame)) × Socket :=
  match s.inbound with
  | r :: rs => (r, { s with inbound := rs })
  | [] => (.pending, s)

end Socket

end Yamux
