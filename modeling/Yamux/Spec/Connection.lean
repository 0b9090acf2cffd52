import Yamux.Spec.Active

/-!
# Polling, shutdown and the connection facade

* `Active.poll`: the engine's loop (`Active::poll`): collect dropped streams, write one
  pending frame, flush, take one command, read one frame, and go round again until
  a stream is opened, an error is met or every source is pending. Each stage is a
  function of its own, ending in `Next`.
* `Closing.poll`: the graceful close (`closing.rs`), a loop over five states.
* `Cleanup.poll`: the error path. `cleanup.rs` is not in the sources we model; it is
  modelled from the specification (§4.8).
* `ConnectionState` and the three operations of `Connection` on it. Each takes
  `self.inner`, leaves `Poisoned` in its place while it works (`std::mem::replace`)
  and returns the state it stores back, or panics in the `Poisoned` arm.

Each loop runs on explicit fuel. Every pass that goes round again consumes an answer
of the socket or a queued command, so the fuel each `poll` is given is enough.
-/

namespace Yamux

namespace Active

/-- How a stage of the loop of `Active::poll` ends: going round the loop again
(`continue`), returning, or handing on to the next stage. -/
inductive Next where
  | again (a : Active)
  | ret (r : Poll (Except ConnectionError Stream)) (a : Active)
  | next (a : Active)

/-- Run the next stage if this one handed on. -/
def Next.andThen : Next → (Active → Next) → Next
  | .next a, k => k a
  | n, _ => n

/-- Write the oldest pending frame if the socket is ready for one. -/
def sendStage (a : Active) : Next :=
  let (ready, socket) := a.socket.pollReady
  let a := { a with socket := socket }
  match ready, a.pendingFrames with
  | .ready _, f :: fs =>
    let (r, socket) := a.socket.startSend f
    let a := { a with socket := socket, pendingFrames := fs }
    match r with
    | .error e => .ret (.ready (.error e)) a
    | .ok () => .again a
  | _, _ => .next a

/-- Flush the socket; only an error matters. -/
def flushStage (a : Active) : Next :=
  let (flushed, socket) := a.socket.pollFlush
  let a := { a with socket := socket }
  match flushed with
  | .ready (.error e) => .ret (.ready (.error e)) a
  | _ => .next a

/-- Take one command from the channel. An ended channel cannot happen while the engine
holds a sender; its `debug_assert!` is off in a release build. -/
def commandStage (a : Active) : Next :=
  let (cmd, rx) := a.streamReceiver.pollNext
  let a := { a with streamReceiver := rx }
  match cmd with
  | .ready (some c) => .again (a.onCommand c)
  | _ => .next a

/-- Read one frame from the socket and handle it. -/
def frameStage (a : Active) : Next :=
  let (next, socket) := a.socket.pollNext
  let a := { a with socket := socket }
  match next with
  | .ready (some (.ok f)) =>
    match a.onFrame f with
    | (.ok (some s), a) => .ret (.ready (.ok s)) a
    | (.ok none, a) => .again a
    | (.error e, a) => .ret (.ready (.error e)) a
  | .ready (some (.error e)) => .ret (.ready (.error e)) a
  | .ready none => .ret (.ready (.error .closed)) a
  | .pending => .next a

/-- One pass of the loop: collect, then the four stages in the source's order. -/
def pollPass (a : Active) : Next :=
  (((sendStage a.garbageCollect).andThen flushStage).andThen commandStage).andThen frameStage

/-- The loop of `Active::poll`, for at most `fuel` passes. A pass that hands on past
the last stage found every source pending. -/
def pollLoop : Nat → Active → Poll (Except ConnectionError Stream) × Active
  | 0, a => (.pending, a)
  | fuel + 1, a =>
    match a.pollPass with
    | .again a => pollLoop fuel a
    | .ret r a => (r, a)
    | .next a => (.pending, a)

/-- `Active::poll`. -/
def poll (a : Active) : Poll (Except ConnectionError Stream) × Active :=
  pollLoop (a.socket.ready.length + a.streamReceiver.queue.length + a.socket.inbound.length + 1) a

end Active

/-- The states of `Closing`. -/
inductive ClosingState where
  | closingStreamReceiver
  | drainingStreamReceiver
  | sendingTermFrame
  | flushingPendingFrames
  | closingSocket
  deriving DecidableEq, Repr

/-- `Closing`, the future of a graceful close. -/
structure Closing where
  state : ClosingState
  streamReceiver : Receiver
  pendingFrames : List Frame
  socket : Socket

namespace Closing

/-- `Closing::new`. -/
def new (rx : Receiver) (pending : List Frame) (socket : Socket) : Closing :=
  ⟨.closingStreamReceiver, rx, pending, socket⟩

/-- How a pass of the loop of `Closing::poll` ends: going round again, or returning. -/
inductive Pass where
  | again (c : Closing)
  | ret (r : Poll (Except ConnectionError Unit)) (c : Closing)

/-- One pass of the loop of `Closing::poll`: the arm of the current state. -/
def pass (c : Closing) : Pass :=
  match c.state with
  | .closingStreamReceiver =>
    .again { c with streamReceiver := c.streamReceiver.close, state := .drainingStreamReceiver }
  | .drainingStreamReceiver =>
    let (cmd, rx) := c.streamReceiver.close.pollNext
    let c := { c with streamReceiver := rx }
    match cmd with
    | .pending => .ret .pending c
    | .ready (some (.sendFrame f)) => .again { c with pendingFrames := c.pendingFrames ++ [f] }
    | .ready (some (.closeStream id ack)) =>
      .again { c with pendingFrames := c.pendingFrames ++ [Frame.closeStream id ack] }
    | .ready none => .again { c with state := .sendingTermFrame }
  | .sendingTermFrame =>
    .again { c with pendingFrames := c.pendingFrames ++ [Frame.term], state := .flushingPendingFrames }
  | .flushingPendingFrames =>
    let (r, socket) := c.socket.pollReady
    let c := { c with socket := socket }
    match r with
    | .pending => .ret .pending c
    | .ready (.error e) => .ret (.ready (.error e)) c
    | .ready (.ok ()) =>
      match c.pendingFrames with
      | f :: fs =>
        let (r, socket) := c.socket.startSend f
        let c := { c with socket := socket, pendingFrames := fs }
        match r with
        | .error e => .ret (.ready (.error e)) c
        | .ok () => .again c
      | [] => .again { c with state := .closingSocket }
  | .closingSocket =>
    let (r, socket) := c.socket.pollClose
    let c := { c with socket := socket }
    match r with
    | .pending => .ret .pending c
    | .ready r => .ret (.ready r) c

/-- The loop of `Closing::poll`, for at most `fuel` passes. -/
def pollLoop : Nat → Closing → Poll (Except ConnectionError Unit) × Closing
  | 0, c => (.pending, c)
  | fuel + 1, c =>
    match c.pass with
    | .again c => pollLoop fuel c
    | .ret r c => (r, c)

/-- `Closing::poll`. -/
def poll (c : Closing) : Poll (Except ConnectionError Unit) × Closing :=
  pollLoop (c.streamReceiver.queue.length + c.socket.ready.length + 5) c

end Closing

/-- The states of `Cleanup`. -/
inductive CleanupState where
  | closingStreamReceiver
  | drainingStreamReceiver
  deriving DecidableEq, Repr

/-- Modelled from the spec: `Cleanup`, the future of the error path (§4.8). -/
structure Cleanup where
  state : CleanupState
  streamReceiver : Receiver
  error : ConnectionError

namespace Cleanup

/-- Modelled from the spec: `Cleanup::new`. -/
def new (rx : Receiver) (e : ConnectionError) : Cleanup := ⟨.closingStreamReceiver, rx, e⟩

/-- Modelled from the spec: the loop of `Cleanup::poll`. The receiver is closed, its
commands are drained and discarded, so that their senders see a closed channel, and
then the originating error is yielded. -/
def pollLoop : Nat → Cleanup → Poll ConnectionError × Cleanup
  | 0, c => (.pending, c)
  | fuel + 1, c =>
    match c.state with
    | .closingStreamReceiver =>
      pollLoop fuel { c with streamReceiver := c.streamReceiver.close, state := .drainingStreamReceiver }
    | .drainingStreamReceiver =>
      let (cmd, rx) := c.streamReceiver.pollNext
      let c := { c with streamReceiver := rx }
      match cmd with
      | .ready (some _) => pollLoop fuel c
      | .ready none => (.ready c.error, c)
      | .pending => (.pending, c)

/-- Modelled from the spec: `Cleanup::poll`. -/
def poll (c : Cleanup) : Poll ConnectionError × Cleanup :=
  pollLoop (c.streamReceiver.queue.length + 2) c

end Cleanup

namespace Active

/-- `Active::close`: the receiver, the pending frames and the socket go to `Closing`;
the rest, the table included, is dropped. -/
def close (a : Active) : Closing := Closing.new a.streamReceiver a.pendingFrames a.socket

/-- `Active::cleanup`. -/
def cleanup (a : Active) (e : ConnectionError) : Cleanup :=
  Cleanup.new a.dropAllStreams.1.streamReceiver e

end Active

/-- The ways a connection leaves `Active`: `poll_close` turns the engine into `Closing`
(`Active::close`), an error turns it into `Cleanup` (`Active::cleanup`), and dropping
the facade runs `Drop for Connection`. -/
inductive Exit where
  | close
  | cleanup (e : ConnectionError)
  | drop

/-- The stream records as their handles see them once the engine has left `Active` by
`x`, and the log of woken wakers then. `Active::close` moves the table out with the
engine and touches no record; `Active::cleanup` and `Drop for Connection` call
`drop_all_streams`. -/
def Active.exit (a : Active) : Exit → List (StreamId × Stream) × List Waker
  | .close => (a.streams.entries.map fun e => (e.1, e.2), a.woken)
  | .cleanup _ | .drop => (a.dropAllStreams.2, a.dropAllStreams.1.woken)

/-- `ConnectionState`. -/
inductive ConnectionState where
  | active (a : Active)
  | closing (c : Closing)
  | cleanup (c : Cleanup)
  | closed
  | poisoned

namespace ConnectionState

/-- `Connection::new`. -/
def new (socket : Socket) (cfg : Config) (mode : Mode) : ConnectionState :=
  .active (Active.new socket cfg mode)

/-- The `Closing` arm of `poll_new_outbound`. -/
def newOutboundClosing (c : Closing) : Poll (Except ConnectionError Stream) × ConnectionState :=
  match c.poll with
  | (.ready (.ok ()), _) => (.ready (.error .closed), .closed)
  | (.ready (.error e), _) => (.ready (.error e), .closed)
  | (.pending, c) => (.pending, .closing c)

/-- The `Cleanup` arm of `poll_new_outbound`. -/
def newOutboundCleanup (c : Cleanup) : Poll (Except ConnectionError Stream) × ConnectionState :=
  match c.poll with
  | (.ready e, _) => (.ready (.error e), .closed)
  | (.pending, c) => (.pending, .cleanup c)

/-- `Connection::poll_new_outbound` on `self.inner`. -/
def pollNewOutbound : ConnectionState →
    Except Panic (Poll (Except ConnectionError Stream) × ConnectionState)
  | .active a => do
    match ← a.newOutbound with
    | (.ok s, a) => pure (.ready (.ok s), .active a)
    | (.error e, a) => pure (newOutboundCleanup (a.cleanup e))
  | .closing c => pure (newOutboundClosing c)
  | .cleanup c => pure (newOutboundCleanup c)
  | .closed => pure (.ready (.error .closed), .closed)
  | .poisoned => throw .unreachable

/-- The `Cleanup` arm of `poll_next_inbound`. -/
def nextInboundCleanup (c : Cleanup) :
    Poll (Option (Except ConnectionError Stream)) × ConnectionState :=
  match c.poll with
  | (.ready .closed, _) => (.ready none, .closed)
  | (.ready e, _) => (.ready (some (.error e)), .closed)
  | (.pending, c) => (.pending, .cleanup c)

/-- `Connection::poll_next_inbound` on `self.inner`. -/
def pollNextInbound : ConnectionState →
    Except Panic (Poll (Option (Except ConnectionError Stream)) × ConnectionState)
  | .active a =>
    match a.poll with
    | (.ready (.ok s), a) => pure (.ready (some (.ok s)), .active a)
    | (.ready (.error e), a) => pure (nextInboundCleanup (a.cleanup e))
    | (.pending, a) => pure (.pending, .active a)
  | .closing c =>
    match c.poll with
    | (.ready (.ok ()), _) => pure (.ready none, .closed)
    | (.ready (.error e), _) => pure (.ready (some (.error e)), .closed)
    | (.pending, c) => pure (.pending, .closing c)
  | .cleanup c => pure (nextInboundCleanup c)
  | .closed => pure (.ready none, .closed)
  | .poisoned => throw .unreachable

/-- The `Closing` arm of `poll_close`. Its `?` returns an error with `Poisoned` still
in `self.inner`. -/
def closeClosing (c : Closing) : Poll (Except ConnectionError Unit) × ConnectionState :=
  match c.poll with
  | (.ready (.ok ()), _) => (.ready (.ok ()), .closed)
  | (.ready (.error e), _) => (.ready (.error e), .poisoned)
  | (.pending, c) => (.pending, .closing c)

/-- `Connection::poll_close` on `self.inner`. -/
def pollClose : ConnectionState →
    Except Panic (Poll (Except ConnectionError Unit) × ConnectionState)
  | .active a => pure (closeClosing a.close)
  | .closing c => pure (closeClosing c)
  | .cleanup c =>
    match c.poll with
    | (.ready _, _) => pure (.ready (.ok ()), .closed)
    | (.pending, c) => pure (.pending, .cleanup c)
  | .closed => pure (.ready (.ok ()), .closed)
  | .poisoned => throw .unreachable

end ConnectionState

end Yamux
