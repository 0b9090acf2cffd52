import Yamux.Spec.Connection

/-!
# Stream handles

What a user does through a `Stream` handle while the engine is alive: read, write,
close and drop. `stream.rs` is not in the sources we model, so these operations are
modelled from the specification (§4.6, §5): a handle acts on the shared record that
the engine's table holds, and reaches the engine only by the command channel.

A handle puts its pending `SYN` or `ACK` on the first frame it sends and clears it.
Under `OnRead` a read that frees enough of the window grants it back with a window
update sent through the channel.
-/

namespace Yamux

/-- Put a stream's pending flag on a header. -/
def Flag.apply : Flag → Header → Header
  | .none, h => h
  | .syn, h => h.syn
  | .ack, h => h.ack

namespace Active

/-- A handle sends a command; refused once the receiver is closed. -/
def sendCommand (a : Active) (c : StreamCommand) : Option Active :=
  (a.streamReceiver.push c).map fun rx => { a with streamReceiver := rx }

/-- Modelled from the spec: the handle of `id` reads, as task `w`. It takes the oldest
buffered body; with nothing buffered it sees the end of the stream once the remote has
closed its half, and otherwise parks `w` as the reader. Under `OnRead` a read that
reaches the update threshold grants the window back through the channel. -/
def read (a : Active) (id : StreamId) (w : Waker) : Option (Poll (Option (List UInt8)) × Active) :=
  match a.streams.lookup id with
  | none => none
  | some s =>
    match s.shared.buffer with
    | chunk :: rest =>
      let sh := { s.shared with buffer := rest }
      match a.config.windowUpdateMode, sh.nextWindowUpdate a.config with
      | .onRead, some credit =>
        let frame := Frame.new (s.flag.apply (Header.windowUpdate id credit))
        let a' := a.setShared id { s with flag := .none } { sh with window := sh.window + credit } []
        (a'.sendCommand (.sendFrame frame)).map fun a' => (.ready (some chunk), a')
      | _, _ => some (.ready (some chunk), a.setShared id s sh [])
    | [] =>
      if s.shared.state = .recvClosed ∨ s.shared.state = .closed then some (.ready none, a)
      else some (.pending, a.setShared id s { s.shared with reader := some w } [])

/-- Modelled from the spec: the handle of `id` writes `data`, as task `w`. Refused once
its half is closed; parks `w` as the writer without credit; otherwise sends one data
frame of at most `min(credit, split_send_size)` bytes and spends the credit. Returns the
number of bytes sent. -/
def write (a : Active) (id : StreamId) (w : Waker) (data : List UInt8) :
    Option (Poll (Except ConnectionError Nat) × Active) :=
  match a.streams.lookup id with
  | none => none
  | some s =>
    if s.shared.state = .sendClosed ∨ s.shared.state = .closed then some (.ready (.error .closed), a)
    else if s.shared.credit = 0 then
      some (.pending, a.setShared id s { s.shared with writer := some w } [])
    else
      let n := min s.shared.credit.toNat (min a.config.splitSendSize data.length)
      let frame : Frame := ⟨s.flag.apply (Header.data id n.toUInt32), data.take n⟩
      let sh := { s.shared with credit := s.shared.credit - n.toUInt32 }
      ((a.setShared id { s with flag := .none } sh []).sendCommand (.sendFrame frame)).map
        fun a' => (.ready (.ok n), a')

/-- Modelled from the spec: the handle of `id` closes its half: a `CloseStream` carrying
whether its pending flag is `ACK`, and its state moves to `SendClosed`. -/
def closeStream (a : Active) (id : StreamId) : Option Active :=
  match a.streams.lookup id with
  | none => none
  | some s =>
    if s.shared.state = .closed then some a
    else
      let ack := s.flag = .ack
      let s' := if ack then { s with flag := .none } else s
      (a.setShared id s' (s.shared.updateState .sendClosed).2 []).sendCommand (.closeStream id ack)

/-- The user drops the handle of `id`. -/
def dropHandle (a : Active) (id : StreamId) : Option Active :=
  match a.streams.lookup id with
  | some s => if 0 < s.handles then some (a.setShared id { s with handles := s.handles - 1 } s.shared [])
    else none
  | none => none

end Active

end Yamux
