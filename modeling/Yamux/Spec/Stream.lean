import Yamux.Spec.Frame

/-!
# Streams, their shared state and the command queue

A `Stream` is the handle a user holds and the entry the engine keeps in its table;
both point at one `Shared` record behind a mutex. In the model the table entry
carries the record, and `handles` counts the user's clones of the `Arc`
(`strong_count - 1`), which is all `garbage_collect` reads of them.

`stream.rs`, the configuration and the crate constants are not in the sources we
model; what the engine calls of them is modelled from the specification (§3,
§4.6, §6.2). The command queue is a `futures::channel::mpsc` channel, modelled as a
FIFO that can be closed.
-/

namespace Yamux

/-- Modelled from the spec: `DEFAULT_CREDIT`, 256 KiB. -/
def defaultCredit : UInt32 := 256 * 1024

/-- `WindowUpdateMode`: credit the remote on receipt or on read. -/
inductive WindowUpdateMode where
  | onReceive
  | onRead
  deriving DecidableEq, Repr

/-- Modelled from the spec: the options of `Config` the engine reads. The receive
window is never below `DEFAULT_CREDIT` (§6.2), so the initial extra credit of
`new_outbound` never underflows. -/
structure Config where
  receiveWindow : UInt32
  maxBufferSize : Nat
  maxNumStreams : Nat
  windowUpdateMode : WindowUpdateMode
  splitSendSize : Nat
  defaultCredit_le : defaultCredit ≤ receiveWindow
  deriving DecidableEq, Repr

/-- Modelled from the spec: the default configuration (§6.2). The spec names no default
buffer limit; it is taken as 1 MiB. -/
def Config.default : Config where
  receiveWindow := defaultCredit
  maxBufferSize := 1024 * 1024
  maxNumStreams := 8192
  windowUpdateMode := .onReceive
  splitSendSize := defaultCredit.toNat
  defaultCredit_le := UInt32.le_refl _

/-- The state of a stream. -/
inductive State where
  | «open»
  | sendClosed
  | recvClosed
  | closed
  deriving DecidableEq, Repr

/-- The flag a stream puts on its next outbound frame. -/
inductive Flag where
  | none
  | syn
  | ack
  deriving DecidableEq, Repr

/-- A task waiting on a stream. -/
structure Waker where
  task : Nat
  deriving DecidableEq, Repr

/-- `Shared`, the state behind a stream's mutex. `buffer` is the list of received
bodies not yet read (`Chunks`). -/
structure Shared where
  state : State
  window : UInt32
  credit : UInt32
  buffer : List (List UInt8)
  reader : Option Waker
  writer : Option Waker
  deriving DecidableEq, Repr

namespace Shared

/-- Modelled from the spec: a fresh record, `Open` with an empty buffer. -/
def new (window credit : UInt32) : Shared := ⟨.«open», window, credit, [], none, none⟩

/-- `Chunks::len`, the number of unread bytes. -/
def bufferLen (s : Shared) : Nat := (s.buffer.map List.length).sum

/-- Modelled from the spec: `Shared::update_state(next)`. States only move toward
`Closed`: closing the second half closes the stream, and nothing leaves `Closed`.
Returns the state before the update. -/
def updateState (s : Shared) (next : State) : State × Shared :=
  let st := match s.state, next with
    | .closed, _ => .closed
    | .«open», n => n
    | .recvClosed, .closed | .recvClosed, .sendClosed => .closed
    | .recvClosed, _ => .recvClosed
    | .sendClosed, .closed | .sendClosed, .recvClosed => .closed
    | .sendClosed, _ => .sendClosed
  (s.state, { s with state := st })

/-- Modelled from the spec: `Shared::next_window_update`, the credit that restores
the receive window, granted once it reaches the threshold, which the spec leaves
open and which is taken here as half the receive window. -/
def nextWindowUpdate (cfg : Config) (s : Shared) : Option UInt32 :=
  let credit := cfg.receiveWindow - s.window
  if cfg.receiveWindow / 2 ≤ credit then some credit else none

/-- Take both parked wakers, as the engine does before waking them. -/
def takeWakers (s : Shared) : Shared := { s with reader := none, writer := none }

/-- The parked wakers of a record. -/
def wakers (s : Shared) : List Waker := s.reader.toList ++ s.writer.toList

end Shared

/-- A stream: its id, the flag for its next frame, its shared record and the number
of user handles that still point at the record. -/
structure Stream where
  id : StreamId
  flag : Flag
  shared : Shared
  handles : Nat
  deriving DecidableEq, Repr

namespace Stream

/-- `Stream::new(id, .., window, credit, ..)`, with the one handle the caller gets. -/
def new (id : StreamId) (window credit : UInt32) : Stream := ⟨id, .none, Shared.new window credit, 1⟩

/-- `Stream::set_flag`. -/
def setFlag (s : Stream) (f : Flag) : Stream := { s with flag := f }

/-- `Stream::strong_count`: the table's reference and the user's. -/
def strongCount (s : Stream) : Nat := s.handles + 1

end Stream

/-- `StreamCommand`, what a handle asks of the engine. -/
inductive StreamCommand where
  | sendFrame (f : Frame)
  | closeStream (id : StreamId) (ack : Bool)
  deriving DecidableEq, Repr

/-- The receiving end of the command channel: the queued commands, oldest first,
and whether it has been closed. -/
structure Receiver where
  queue : List StreamCommand
  closed : Bool
  deriving DecidableEq, Repr

namespace Receiver

/-- `Receiver::close`: no further command is accepted; queued ones stay. -/
def close (r : Receiver) : Receiver := { r with closed := true }

/-- `Receiver::poll_next`: the oldest command, or end of stream once closed and empty. -/
def pollNext (r : Receiver) : Poll (Option StreamCommand) × Receiver :=
  match r.queue with
  | c :: q => (.ready (some c), { r with queue := q })
  | [] => (if r.closed then .ready none else .pending, r)

/-- `Sender::send` from a handle: refused once the receiver is closed. -/
def push (r : Receiver) (c : StreamCommand) : Option Receiver :=
  if r.closed then none else some { r with queue := r.queue ++ [c] }

end Receiver

end Yamux
