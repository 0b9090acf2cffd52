import Mathlib.Data.List.AList
import Yamux.Spec.Stream

/-!
# The engine of a live connection

`Active` is the connection while it is alive (`connection.rs`): its table of streams,
the frames it has still to write, the command channel from the stream handles and
the socket. Each method of `Active` is a function here, `&mut self` becoming an
`Active` returned beside the result, and each `w.wake()` an entry of the log
`woken`.

The table is an `IntMap<StreamId, Stream>`: here an association list with distinct
keys (`AList`), whose `insert` replaces an entry with the same key as the map's does.
`garbage_collect` walks the entries in the list's order, where the map walks them in
its own; nothing below depends on that order but the order of the frames it queues.
-/

namespace Yamux

/-- How the connection is used. -/
inductive Mode where
  | client
  | server
  deriving DecidableEq, Repr

/-- `Action`, what a received frame asks of the engine. -/
inductive Action where
  | none
  | new (s : Stream) (update : Option Frame)
  | update (f : Frame)
  | ping (f : Frame)
  | reset (f : Frame)
  | terminate (f : Frame)
  deriving DecidableEq, Repr

/-- The stream table. -/
abbrev Table := AList (fun _ : StreamId => Stream)

/-- `Active`. The connection id, the engine's own command sender and the scratch
list of `garbage_collect` are left out: nothing the engine decides reads them. -/
structure Active where
  mode : Mode
  config : Config
  socket : Socket
  nextId : UInt32
  streams : Table
  streamReceiver : Receiver
  pendingFrames : List Frame
  woken : List Waker

namespace Active

/-- `Active::new`. -/
def new (socket : Socket) (cfg : Config) (mode : Mode) : Active where
  mode := mode
  config := cfg
  socket := socket
  nextId := match mode with
    | .client => 1
    | .server => 2
  streams := ∅
  streamReceiver := ⟨[], false⟩
  pendingFrames := []
  woken := []

/-- Queue a frame for the socket. -/
def push (a : Active) (f : Frame) : Active := { a with pendingFrames := a.pendingFrames ++ [f] }

/-- Write back the record of the stream `s` found under `id`, and log the wakers
taken from it. -/
def setShared (a : Active) (id : StreamId) (s : Stream) (sh : Shared) (woken : List Waker) :
    Active :=
  { a with streams := a.streams.replace id { s with shared := sh }, woken := a.woken ++ woken }

/-- `Active::next_stream_id`. -/
def nextStreamId (a : Active) : Except Panic (Except ConnectionError StreamId × Active) :=
  let proposed : StreamId := ⟨a.nextId⟩
  match a.nextId.checkedAdd 2 with
  | none => pure (.error .noMoreStreamIds, a)
  | some n =>
    let ok := match a.mode with
      | .client => proposed.isClient
      | .server => proposed.isServer
    if ok then pure (.ok proposed, { a with nextId := n }) else throw .assertion

/-- The rest of `new_outbound` once `next_stream_id` has given `id`: queue the
initial window update, or leave the `SYN` for the first data frame, and insert the
stream. -/
def openOutbound (a : Active) (id : StreamId) : Stream × Active :=
  let extraCredit := a.config.receiveWindow - defaultCredit
  let a := if extraCredit > 0 then a.push (Frame.new (Header.windowUpdate id extraCredit).syn) else a
  let stream := Stream.new id a.config.receiveWindow defaultCredit
  let stream := if extraCredit = 0 then stream.setFlag .syn else stream
  (stream, { a with streams := a.streams.insert id stream })

/-- `Active::new_outbound`. -/
def newOutbound (a : Active) : Except Panic (Except ConnectionError Stream × Active) :=
  if a.config.maxNumStreams ≤ a.streams.entries.length then pure (.error .tooManyStreams, a)
  else do
    match ← a.nextStreamId with
    | (.error e, a) => pure (.error e, a)
    | (.ok id, a) =>
      let (s, a) := a.openOutbound id
      pure (.ok s, a)

/-- `Active::on_send_frame`. -/
def onSendFrame (a : Active) (f : Frame) : Active := a.push f

/-- `Active::on_close_stream`. -/
def onCloseStream (a : Active) (id : StreamId) (ack : Bool) : Active := a.push (Frame.closeStream id ack)

/-- What the engine does with a command from the channel, the two command arms of
`Active::poll`. -/
def onCommand (a : Active) : StreamCommand → Active
  | .sendFrame f => a.onSendFrame f
  | .closeStream id ack => a.onCloseStream id ack

/-- `Active::is_valid_remote_id`. -/
def isValidRemoteId (a : Active) (id : StreamId) (tag : Tag) : Bool :=
  if tag = .ping ∨ tag = .goAway then id.isSession
  else match a.mode with
    | .client => id.isServer
    | .server => id.isClient

/-- The `RST` arm of `on_data` and `on_window_update`: a known stream is closed and
both its wakers are woken. -/
def resetStream (a : Active) (id : StreamId) : Active :=
  match a.streams.lookup id with
  | some s =>
    let sh := (s.shared.updateState .closed).2
    a.setShared id s sh.takeWakers sh.wakers
  | none => a

/-- The `SYN` arm of `on_data`, once the checks have passed. -/
def onDataSyn (a : Active) (f : Frame) : Action × Active :=
  let id := f.header.streamId
  let stream := Stream.new id defaultCredit defaultCredit
  let sh := stream.shared
  let sh := if f.header.flags.fin then (sh.updateState .recvClosed).2 else sh
  let sh := { sh with window := sh.window.saturatingSub f.bodyLen, buffer := sh.buffer ++ [f.body] }
  let (sh, windowUpdate) := match a.config.windowUpdateMode, sh.nextWindowUpdate a.config with
    | .onReceive, some credit =>
      ({ sh with window := sh.window + credit }, some (Frame.new (Header.windowUpdate id credit).ack))
    | _, _ => (sh, none)
  let stream := { stream with shared := sh }
  let stream := if windowUpdate.isNone then stream.setFlag .ack else stream
  (.new stream windowUpdate, { a with streams := a.streams.insert id stream })

/-- A data frame on a stream of the table. The `FIN` is recorded before the buffer
check, through the same lock, so it stays when the frame is answered with a reset. -/
def onDataKnown (a : Active) (f : Frame) (s : Stream) : Action × Active :=
  let id := f.header.streamId
  let sh := s.shared
  if f.body.length > sh.window.toNat then (.terminate Frame.protocolError, a) else
  let sh := if f.header.flags.fin then (sh.updateState .recvClosed).2 else sh
  if sh.bufferLen ≥ a.config.maxBufferSize then
    (.reset (Frame.new (Header.data id 0).rst), a.setShared id s sh [])
  else
  let sh := { sh with window := sh.window.saturatingSub f.bodyLen, buffer := sh.buffer ++ [f.body] }
  let woken := sh.reader.toList
  let sh := { sh with reader := none }
  match a.config.windowUpdateMode, sh.nextWindowUpdate a.config with
  | .onReceive, some credit =>
    (.update (Frame.windowUpdate id credit), a.setShared id s { sh with window := sh.window + credit } woken)
  | _, _ => (.none, a.setShared id s sh woken)

/-- `Active::on_data`. -/
def onData (a : Active) (f : Frame) : Action × Active :=
  let id := f.header.streamId
  if f.header.flags.rst then (.none, a.resetStream id)
  else if f.header.flags.syn then
    if !a.isValidRemoteId id .data then (.terminate Frame.protocolError, a)
    else if f.body.length > defaultCredit.toNat then (.terminate Frame.protocolError, a)
    else if id ∈ a.streams then (.terminate Frame.protocolError, a)
    else if a.streams.entries.length = a.config.maxNumStreams then (.terminate Frame.internalError, a)
    else a.onDataSyn f
  else match a.streams.lookup id with
    | some s => a.onDataKnown f s
    | none => (.none, a)

/-- The `SYN` arm of `on_window_update`, once the checks have passed. -/
def onWindowUpdateSyn (a : Active) (f : Frame) : Action × Active :=
  let id := f.header.streamId
  let stream := (Stream.new id defaultCredit (f.header.credit + defaultCredit)).setFlag .ack
  let stream := if f.header.flags.fin
    then { stream with shared := (stream.shared.updateState .recvClosed).2 } else stream
  (.new stream none, { a with streams := a.streams.insert id stream })

/-- A window update on a stream of the table: the credit grows and the writer wakes. -/
def onWindowUpdateKnown (a : Active) (f : Frame) (s : Stream) : Action × Active :=
  let sh := { s.shared with credit := s.shared.credit + f.header.credit }
  let sh := if f.header.flags.fin then (sh.updateState .recvClosed).2 else sh
  (.none, a.setShared f.header.streamId s { sh with writer := none } sh.writer.toList)

/-- `Active::on_window_update`. -/
def onWindowUpdate (a : Active) (f : Frame) : Action × Active :=
  let id := f.header.streamId
  if f.header.flags.rst then (.none, a.resetStream id)
  else if f.header.flags.syn then
    if !a.isValidRemoteId id .windowUpdate then (.terminate Frame.protocolError, a)
    else if id ∈ a.streams then (.terminate Frame.protocolError, a)
    else if a.streams.entries.length = a.config.maxNumStreams then (.terminate Frame.protocolError, a)
    else a.onWindowUpdateSyn f
  else match a.streams.lookup id with
    | some s => a.onWindowUpdateKnown f s
    | none => (.none, a)

/-- `Active::on_ping`. -/
def onPing (a : Active) (f : Frame) : Action :=
  let id := f.header.streamId
  if f.header.flags.ack then .none
  else if id = connectionId ∨ id ∈ a.streams then .ping (Frame.new (Header.ping f.header.nonce).ack)
  else .none

/-- The second half of `Active::on_frame`: carry out the action of a received frame. -/
def perform (a : Active) : Action → Option Stream × Active
  | .none => (none, a)
  | .new s update => (some s, { a with pendingFrames := a.pendingFrames ++ update.toList })
  | .update f | .ping f | .reset f | .terminate f => (none, a.push f)

/-- `Active::on_frame`: dispatch a received frame and carry out its action. -/
def onFrame (a : Active) (f : Frame) : Except ConnectionError (Option Stream) × Active :=
  let handled : Option (Action × Active) := match f.header.tag with
    | .data => some (a.onData f)
    | .windowUpdate => some (a.onWindowUpdate f)
    | .ping => some (a.onPing f, a)
    | .goAway => none
  match handled with
  | none => (.error .closed, a)
  | some (act, a) => let (s, a) := a.perform act; (.ok s, a)

/-- The frame `garbage_collect` queues for a dropped stream, by the stream's state
before the sweep closed it. -/
def gcFrame (mode : WindowUpdateMode) (id : StreamId) (sh : Shared) : Option Frame :=
  match sh.state with
  | .«open» => some (Frame.new (Header.data id 0).rst)
  | .recvClosed => some (Frame.new (Header.data id 0).fin)
  | .sendClosed =>
    if mode = .onRead ∧ sh.window = 0 then some (Frame.new (Header.data id 0).rst) else none
  | .closed => none

/-- A stream no handle points at any more. -/
def Dropped (s : Stream) : Prop := s.strongCount ≤ 1

instance (s : Stream) : Decidable (Dropped s) := inferInstanceAs (Decidable (_ ≤ _))

/-- What the sweep leaves of a dropped stream's record: `Closed`, both wakers taken. -/
def sweepRecord (s : Stream) : Stream :=
  if Dropped s then { s with shared := ((s.shared.updateState .closed).2).takeWakers } else s

/-- The loop of `garbage_collect` over `values_mut`: every dropped record is closed and
its wakers woken, its frame queued and its id noted, in the table's order. The four
effects of one stream do not interact, so each is a pass over the entries. -/
def sweep (a : Active) : Active × List StreamId :=
  let dropped := a.streams.entries.filter (fun e => Dropped e.2)
  ({ a with
      streams := ⟨a.streams.entries.map (fun e => ⟨e.1, sweepRecord e.2⟩), by
        have h := a.streams.nodupKeys
        unfold List.NodupKeys List.keys at *
        simpa [Function.comp_def] using h⟩
      pendingFrames := a.pendingFrames ++
        dropped.filterMap (fun e => gcFrame a.config.windowUpdateMode e.1 e.2.shared)
      woken := a.woken ++ dropped.flatMap (fun e => e.2.shared.wakers) },
    dropped.map (·.1))

/-- `Active::garbage_collect`: the sweep, then the removal of the dropped ids. -/
def garbageCollect (a : Active) : Active :=
  let (a, dropped) := a.sweep
  { a with streams := dropped.foldl (fun t id => t.erase id) a.streams }

/-- `Active::drop_all_streams`: drain the table, closing every record and waking its
wakers. Returns the drained records as their handles now see them. -/
def dropAllStreams (a : Active) : Active × List (StreamId × Stream) :=
  ({ a with streams := ∅, woken := a.woken ++ a.streams.entries.flatMap (fun e => e.2.shared.wakers) },
    a.streams.entries.map (fun e =>
      (e.1, { e.2 with shared := ((e.2.shared.updateState .closed).2).takeWakers })))

end Active

end Yamux
