import Mathlib.Logic.Function.Basic
import Mathlib.Logic.Relation
import Yamux.Spec.Handle

/-!
# Two connections joined by a socket

The setting of the test harness (`concurrent.rs`): a client and a server, each running
the engine, with a reliable in-order channel of frames each way. `wire i` holds the
frames side `i` has written and the other side has not read yet, oldest first.

A `Link.Step` is one thing happening at one end: an action of the engine or of a
handle that does not touch the wire (`Active.Local`), a read or a write by a handle,
the engine writing its oldest pending frame, or the engine reading the oldest frame
the other side wrote. The steps of the two ends interleave in any order. `Link.act` is
the same step as a function of the choices that make it (`Act`), and `Link.run` replays
a list of them, so that a given run is checked by evaluation (`run_steps`).

Ghost records follow a run and change nothing in it: the bytes the handles of each
side have written and read on each stream, whether a side has answered a data frame
of a stream with the reset of its buffer limit, and the credit it has received on
each stream. They are counted with what a frame carries on one stream (`dataFor`,
`creditFor`, `synFor`, `payloadFor`).
-/

namespace Yamux

/-- The two ends of a connection. -/
inductive Side where
  | left
  | right
  deriving DecidableEq, Repr

/-- The end at the other side of the socket. -/
def Side.other : Side → Side
  | .left => .right
  | .right => .left

/-- What happens at one end without the wire or the handles' data: an open, a
command, a collection, a close or a dropped handle. -/
inductive Active.Local : Active → Active → Prop
  | newOutbound {a a' : Active} {r : Except ConnectionError Stream} :
      a.newOutbound = .ok (r, a') → Local a a'
  | command {a : Active} {c : StreamCommand} {rx : Receiver} :
      a.streamReceiver.pollNext = (.ready (some c), rx) → Local a (onCommand { a with streamReceiver := rx } c)
  | collect (a : Active) : Local a a.garbageCollect
  | handleClose {a a' : Active} {id : StreamId} : a.closeStream id = some a' → Local a a'
  | handleDrop {a a' : Active} {id : StreamId} : a.dropHandle id = some a' → Local a a'

/-- The bytes a write reports sent: the first `n` of its data when it returns `n`. -/
def Poll.sent : Poll (Except ConnectionError Nat) → List UInt8 → List UInt8
  | .ready (.ok n), data => data.take n
  | _, _ => []

/-- The bytes a read returns. -/
def Poll.chunk : Poll (Option (List UInt8)) → List UInt8
  | .ready (some c) => c
  | _ => []

/-- Whether a received frame was a data frame dropped at the buffer limit. -/
def Action.isReset : Action → Bool
  | .reset _ => true
  | _ => false

namespace Frame

variable (s : StreamId) (f : Frame)

/-- The number of data bytes a frame carries on stream `s`. -/
def dataFor : Nat := if f.header.tag = .data ∧ f.header.streamId = s then f.body.length else 0

/-- The credit a frame grants on stream `s`. -/
def creditFor : Nat := if f.header.tag = .windowUpdate ∧ f.header.streamId = s then f.header.credit.toNat else 0

/-- Whether a frame opens stream `s`: a data or window-update frame of `s` with `SYN`. -/
def synFor : Nat :=
  if (f.header.tag = .data ∨ f.header.tag = .windowUpdate) ∧ f.header.streamId = s ∧ f.header.flags.syn
  then 1 else 0

/-- The data bytes a frame carries on stream `s`. -/
def payloadFor : List UInt8 := if f.header.tag = .data ∧ f.header.streamId = s then f.body else []

end Frame

/-- A step of a link named by the choices that make it: the side that acts and what it
does. -/
inductive Act where
  | newOutbound (i : Side)
  | command (i : Side)
  | collect (i : Side)
  | close (i : Side) (id : StreamId)
  | drop (i : Side) (id : StreamId)
  | read (i : Side) (id : StreamId) (w : Waker)
  | write (i : Side) (id : StreamId) (w : Waker) (data : List UInt8)
  | send (i : Side)
  | recv (i : Side)
  deriving DecidableEq, Repr

/-- Two engines and the frames on their way between them, with the ghost records of a
run. -/
structure Link where
  engine : Side → Active
  wire : Side → List Frame
  written : Side → StreamId → List UInt8
  consumed : Side → StreamId → List UInt8
  overflowed : Side → StreamId → Bool
  granted : Side → StreamId → Nat

namespace Link

/-- A fresh client and server over an empty socket. -/
def new (cl cr : Config) : Link where
  engine
    | .left => Active.new Socket.idle cl .client
    | .right => Active.new Socket.idle cr .server
  wire _ := []
  written _ _ := []
  consumed _ _ := []
  overflowed _ _ := false
  granted _ _ := 0

/-- Replace the engine of side `i`. -/
def setEngine (L : Link) (i : Side) (a : Active) : Link :=
  { L with engine := Function.update L.engine i a }

/-- Side `i` writes its oldest pending frame to the wire. -/
def send (L : Link) (i : Side) (f : Frame) (fs : List Frame) : Link :=
  { L with engine := Function.update L.engine i { L.engine i with pendingFrames := fs },
           wire := Function.update L.wire i (L.wire i ++ [f]) }

/-- Side `i` reads the oldest frame of the other side, `f`, leaving `fs` on the wire.
A data frame dropped at the buffer limit is noted, and the credit the frame grants is
counted. -/
def recv (L : Link) (i : Side) (f : Frame) (fs : List Frame) : Link :=
  let id := f.header.streamId
  { L with engine := Function.update L.engine i ((L.engine i).onFrame f).2,
           wire := Function.update L.wire i.other fs,
           overflowed := Function.update L.overflowed i
             (Function.update (L.overflowed i) id (L.overflowed i id ||
               (f.header.tag = .data && ((L.engine i).onData f).1.isReset))),
           granted := Function.update L.granted i (fun t => L.granted i t + f.creditFor t) }

/-- One step at one end. -/
inductive Step : Link → Link → Prop
  | local {L : Link} {i : Side} {a : Active} : Active.Local (L.engine i) a → Step L (L.setEngine i a)
  | read {L : Link} {i : Side} {a : Active} {id : StreamId} {w : Waker} {r : Poll (Option (List UInt8))} :
      (L.engine i).read id w = some (r, a) →
      Step L { L.setEngine i a with
        consumed := Function.update L.consumed i
          (Function.update (L.consumed i) id (L.consumed i id ++ r.chunk)) }
  | write {L : Link} {i : Side} {a : Active} {id : StreamId} {w : Waker} {data : List UInt8}
      {r : Poll (Except ConnectionError Nat)} :
      (L.engine i).write id w data = some (r, a) →
      Step L { L.setEngine i a with
        written := Function.update L.written i
          (Function.update (L.written i) id (L.written i id ++ r.sent data)) }
  | send {L : Link} {i : Side} {f : Frame} {fs : List Frame} :
      (L.engine i).pendingFrames = f :: fs → Step L (L.send i f fs)
  | recv {L : Link} {i : Side} {f : Frame} {fs : List Frame} :
      L.wire i.other = f :: fs → Step L (L.recv i f fs)

/-- The links a run reaches from two fresh connections. -/
def Reachable (L : Link) : Prop :=
  ∃ cl cr, Relation.ReflTransGen Step (Link.new cl cr) L


/-- The link after `x`, when `x` can happen: `Step` as a function of its choices. -/
def act (L : Link) : Act → Option Link
  | .newOutbound i =>
    match (L.engine i).newOutbound with
    | .ok (_, a) => some (L.setEngine i a)
    | .error _ => none
  | .command i =>
    match (L.engine i).streamReceiver.pollNext with
    | (.ready (some c), rx) => some (L.setEngine i (Active.onCommand { L.engine i with streamReceiver := rx } c))
    | _ => none
  | .collect i => some (L.setEngine i (L.engine i).garbageCollect)
  | .close i id => ((L.engine i).closeStream id).map (L.setEngine i)
  | .drop i id => ((L.engine i).dropHandle id).map (L.setEngine i)
  | .read i id w =>
    ((L.engine i).read id w).map fun (r, a) =>
      { L.setEngine i a with
        consumed := Function.update L.consumed i (Function.update (L.consumed i) id (L.consumed i id ++ r.chunk)) }
  | .write i id w data =>
    ((L.engine i).write id w data).map fun (r, a) =>
      { L.setEngine i a with
        written := Function.update L.written i (Function.update (L.written i) id (L.written i id ++ r.sent data)) }
  | .send i =>
    match (L.engine i).pendingFrames with
    | f :: fs => some (L.send i f fs)
    | [] => none
  | .recv i =>
    match L.wire i.other with
    | f :: fs => some (L.recv i f fs)
    | [] => none

theorem act_step {L L' : Link} {x : Act} (h : L.act x = some L') : Step L L' := by
  cases x with
  | newOutbound i =>
    simp only [act] at h
    split at h <;> cases h
    exact .local (.newOutbound ‹_›)
  | command i =>
    simp only [act] at h
    split at h <;> cases h
    exact .local (.command ‹_›)
  | collect i => cases h; exact .local (.collect _)
  | close i id =>
    obtain ⟨a, ha, rfl⟩ := Option.map_eq_some'.1 h
    exact .local (.handleClose ha)
  | drop i id =>
    obtain ⟨a, ha, rfl⟩ := Option.map_eq_some'.1 h
    exact .local (.handleDrop ha)
  | read i id w =>
    obtain ⟨⟨r, a⟩, ha, rfl⟩ := Option.map_eq_some'.1 h
    exact .read ha
  | write i id w data =>
    obtain ⟨⟨r, a⟩, ha, rfl⟩ := Option.map_eq_some'.1 h
    exact .write ha
  | send i =>
    simp only [act] at h
    split at h <;> cases h
    exact .send ‹_›
  | recv i =>
    simp only [act] at h
    split at h <;> cases h
    exact .recv ‹_›

/-- The link after the steps `xs` in order, when each can happen. -/
def run (L : Link) : List Act → Option Link
  | [] => some L
  | x :: xs => (L.act x).bind (run · xs)

theorem run_steps {L L' : Link} {xs : List Act} (h : L.run xs = some L') :
    Relation.ReflTransGen Step L L' := by
  induction xs generalizing L with
  | nil => cases h; exact .refl
  | cons x xs ih =>
    obtain ⟨L₁, h₁, h₂⟩ := Option.bind_eq_some.1 h
    exact .head (act_step h₁) (ih h₂)

theorem reachable_of_run {cl cr : Config} {xs : List Act} {L : Link} (h : (Link.new cl cr).run xs = some L) :
    L.Reachable :=
  ⟨cl, cr, run_steps h⟩

end Link

end Yamux
