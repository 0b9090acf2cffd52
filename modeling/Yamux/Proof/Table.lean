import Yamux.Spec.Handle

/-!
# What each operation does to the table's keys

The id and size invariants of the engine read only the mode, the configuration,
`next_id` and the keys of the table. Every operation but three leaves those alone
(`Keeps`); the three are `new_outbound`, which inserts `next_id` and moves it on by
two, the `SYN` arms of `on_data` and `on_window_update`, which insert a checked remote
id (`onFrame_cases`), and `garbage_collect`, which only removes keys
(`garbageCollect_keys`).

Each handler gets one lemma here that says all it does, and later modules cite that
lemma instead of unfolding the handler: `onDataKnown_cases`, `onDataSyn_eq`,
`onWindowUpdateSyn_eq`, `onWindowUpdateKnown_eq`, `onData_arms`, `onWindowUpdate_arms`,
`openOutbound_arms`, `write_cases`, `read_cases`, `closeStream_cases` and
`dropHandle_cases`.
-/

namespace Yamux

theorem StreamId.isClient_iff (id : StreamId) : id.isClient = true ↔ id.val.toNat % 2 = 1 := by
  simp [StreamId.isClient, ← UInt32.toNat_injective.eq_iff, UInt32.size]

theorem StreamId.isServer_iff (id : StreamId) : id.isServer = true ↔ id.val.toNat % 2 = 0 := by
  simp [StreamId.isServer, ← UInt32.toNat_injective.eq_iff, UInt32.size]

/-- The ids a side allocates itself: odd ones for a client, even ones for a server. -/
def Mode.isLocal : Mode → StreamId → Bool
  | .client, id => id.isClient
  | .server, id => id.isServer

theorem Mode.isLocal_iff (m : Mode) (id : StreamId) :
    m.isLocal id = true ↔ id.val.toNat % 2 = match m with | .client => 1 | .server => 0 := by
  cases m <;> simp [Mode.isLocal, StreamId.isClient_iff, StreamId.isServer_iff]

/-- A remote id accepted for a data or window-update frame is not of the local parity. -/
theorem Active.not_isLocal_of_isValidRemoteId {a : Active} {id : StreamId} {tag : Tag}
    (ht : tag = .data ∨ tag = .windowUpdate) (h : a.isValidRemoteId id tag = true) :
    a.mode.isLocal id = false := by
  have ht' : ¬(tag = .ping ∨ tag = .goAway) := by rcases ht with rfl | rfl <;> decide
  simp only [Active.isValidRemoteId, ht', if_false] at h
  cases hm : a.mode <;> simp only [hm] at h <;>
    simp only [Mode.isLocal, Bool.eq_false_iff, ne_eq, StreamId.isClient_iff,
      StreamId.isServer_iff] at h ⊢ <;> omega

/-- The record of a known stream once the `FIN` of a received frame, if it has one, is
applied: what `on_data` works on after its window check. -/
def Shared.finish (sh : Shared) (fin : Bool) : Shared :=
  if fin then (sh.updateState .recvClosed).2 else sh

namespace Shared

variable (sh : Shared) (b : Bool)

@[simp] theorem finish_buffer : (sh.finish b).buffer = sh.buffer := by unfold finish; split <;> rfl
@[simp] theorem finish_window : (sh.finish b).window = sh.window := by unfold finish; split <;> rfl
@[simp] theorem finish_reader : (sh.finish b).reader = sh.reader := by unfold finish; split <;> rfl
@[simp] theorem finish_credit : (sh.finish b).credit = sh.credit := by unfold finish; split <;> rfl
@[simp] theorem finish_writer : (sh.finish b).writer = sh.writer := by unfold finish; split <;> rfl

theorem bufferLen_finish : (sh.finish b).bufferLen = sh.bufferLen := by
  simp only [bufferLen, finish_buffer]

/-- A new record is `Open`, or `RecvClosed` once a `FIN` is applied. -/
theorem new_finish_state (w c : UInt32) : ((Shared.new w c).finish b).state = if b then .recvClosed else .open := by
  unfold finish; split <;> rfl

/-- A `FIN` changes nothing of a record whose remote half is closed already. -/
theorem finish_state {sh : Shared} (h : sh.state = .recvClosed ∨ sh.state = .closed) :
    (sh.finish b).state = sh.state := by
  unfold finish updateState
  rcases h with h | h <;> split <;> simp [h]

end Shared

theorem AList.length_keys {β : StreamId → Type} (s : AList β) : s.keys.length = s.entries.length :=
  List.length_map _ _

namespace Active

variable {a a' a'' : Active}

/-- `a'` has the mode, configuration, next id and table keys of `a`. -/
structure Keeps (a a' : Active) : Prop where
  mode : a'.mode = a.mode
  config : a'.config = a.config
  nextId : a'.nextId = a.nextId
  keys : a'.streams.keys = a.streams.keys

theorem Keeps.refl (a : Active) : Keeps a a := ⟨rfl, rfl, rfl, rfl⟩

theorem Keeps.trans (h : Keeps a a') (h' : Keeps a' a'') : Keeps a a'' :=
  ⟨h'.mode.trans h.mode, h'.config.trans h.config, h'.nextId.trans h.nextId, h'.keys.trans h.keys⟩

theorem Keeps.length (h : Keeps a a') : a'.streams.entries.length = a.streams.entries.length := by
  rw [← AList.length_keys, h.keys, AList.length_keys]

theorem Keeps.mem (h : Keeps a a') {id : StreamId} : id ∈ a'.streams ↔ id ∈ a.streams := by
  rw [AList.mem_keys, h.keys, ← AList.mem_keys]

theorem keeps_setShared (id : StreamId) (s : Stream) (sh : Shared) (w : List Waker) :
    Keeps a (a.setShared id s sh w) :=
  ⟨rfl, rfl, rfl, AList.keys_replace _ _ _⟩

theorem keeps_push (f : Frame) : Keeps a (a.push f) := ⟨rfl, rfl, rfl, rfl⟩

theorem keeps_onCommand (c : StreamCommand) : Keeps a (a.onCommand c) := by
  cases c <;> exact ⟨rfl, rfl, rfl, rfl⟩

theorem keeps_resetStream (id : StreamId) : Keeps a (a.resetStream id) := by
  unfold resetStream; split
  · exact keeps_setShared ..
  · exact Keeps.refl a

/-- **The existing-stream arm of `on_data`**, by its three outcomes: a body beyond the
window terminates the connection; a buffer at its limit is answered with a reset, the
record keeping the `FIN`; otherwise the body is buffered, whatever the record's state,
the parked reader is woken, and a window update may go out. -/
theorem onDataKnown_cases (f : Frame) (r : Stream) :
    r.shared.window.toNat < f.body.length ∧ a.onDataKnown f r = (.terminate Frame.protocolError, a) ∨
    f.body.length ≤ r.shared.window.toNat ∧ a.config.maxBufferSize ≤ r.shared.bufferLen ∧
      a.onDataKnown f r = (.reset (Frame.new (Header.data f.header.streamId 0).rst),
        a.setShared f.header.streamId r (r.shared.finish f.header.flags.fin) []) ∨
    f.body.length ≤ r.shared.window.toNat ∧ r.shared.bufferLen < a.config.maxBufferSize ∧
      ∃ act sh, a.onDataKnown f r = (act, a.setShared f.header.streamId r sh r.shared.reader.toList) ∧
        sh.state = (r.shared.finish f.header.flags.fin).state ∧ sh.buffer = r.shared.buffer ++ [f.body] ∧
        sh.credit = r.shared.credit ∧
        (act = .none ∧ sh.window = r.shared.window.saturatingSub f.bodyLen ∨
          ∃ c, act = .update (Frame.windowUpdate f.header.streamId c) ∧
            Shared.nextWindowUpdate a.config { r.shared with window := r.shared.window.saturatingSub f.bodyLen } =
              some c ∧ sh.window = r.shared.window.saturatingSub f.bodyLen + c) := by
  have hb := Shared.finish_buffer r.shared f.header.flags.fin
  have hr := Shared.finish_reader r.shared f.header.flags.fin
  have hw := Shared.finish_window r.shared f.header.flags.fin
  have hc := Shared.finish_credit r.shared f.header.flags.fin
  unfold onDataKnown
  simp only [Shared.finish] at hb hr hw hc ⊢
  generalize (if f.header.flags.fin = true then (r.shared.updateState .recvClosed).2 else r.shared) = sh
    at hb hr hw hc ⊢
  have hl : sh.bufferLen = r.shared.bufferLen := by rw [Shared.bufferLen, hb]; rfl
  split_ifs with h1 h2
  · exact .inl ⟨h1, rfl⟩
  · exact .inr (.inl ⟨Nat.le_of_not_lt h1, hl ▸ h2, rfl⟩)
  · refine .inr (.inr ⟨Nat.le_of_not_lt h1, hl ▸ Nat.lt_of_not_le h2, ?_⟩)
    rw [← hr, ← hb, ← hw]
    split
    · exact ⟨_, _, rfl, rfl, rfl, hc, .inr ⟨_, rfl, ‹_›, rfl⟩⟩
    · exact ⟨_, _, rfl, rfl, rfl, hc, .inl ⟨rfl, rfl⟩⟩

theorem keeps_onDataKnown (f : Frame) (s : Stream) : Keeps a (a.onDataKnown f s).2 := by
  rcases onDataKnown_cases (a := a) f s with ⟨-, e⟩ | ⟨-, -, e⟩ | ⟨-, -, _, _, e, -⟩ <;> rw [e]
  · exact Keeps.refl a
  · exact keeps_setShared ..
  · exact keeps_setShared ..

end Active

end Yamux

namespace Yamux

namespace Active

variable {a a' a'' : Active}

theorem keys_insert_of_not_mem {t : Table} {id : StreamId} (s : Stream) (h : id ∉ t) :
    (t.insert id s).keys = id :: t.keys := by
  rw [AList.keys_insert, List.erase_of_not_mem (fun h' => h (AList.mem_keys.2 h'))]

/-- `a'` is `a` with one more stream, under a remote id that passed the checks of a
`SYN` arm: of the remote parity, not yet in the table, the table not full. -/
structure Opens (a a' : Active) (id : StreamId) : Prop where
  mode : a'.mode = a.mode
  config : a'.config = a.config
  nextId : a'.nextId = a.nextId
  keys : a'.streams.keys = id :: a.streams.keys
  fresh : id ∉ a.streams
  remote : a.mode.isLocal id = false
  room : a.streams.entries.length ≠ a.config.maxNumStreams

theorem Opens.push {id : StreamId} (h : Opens a a' id) (fs : List Frame) :
    Opens a { a' with pendingFrames := a'.pendingFrames ++ fs } id :=
  ⟨h.mode, h.config, h.nextId, h.keys, h.fresh, h.remote, h.room⟩

/-- A data frame with `SYN` once its checks passed: a record of its id enters the table
with one handle, `DEFAULT_CREDIT` of credit, the body buffered, no parked waker and the
`FIN` applied. Either the window, `DEFAULT_CREDIT` less the body, is granted back at once
by a window update that acknowledges the stream, or it stays so and the record owes the
`ACK` on its next frame. -/
theorem onDataSyn_eq (f : Frame) :
    ∃ s u, s.id = f.header.streamId ∧
      a.onDataSyn f = (.new s u, { a with streams := a.streams.insert f.header.streamId s }) ∧
      s.handles = 1 ∧ s.shared.buffer = [f.body] ∧ s.shared.credit = defaultCredit ∧
      s.shared.state = ((Shared.new defaultCredit defaultCredit).finish f.header.flags.fin).state ∧
      s.shared.reader = none ∧ s.shared.writer = none ∧
      (u = none ∧ s.flag = .ack ∧ s.shared.window = defaultCredit.saturatingSub f.bodyLen ∨
        ∃ c, u = some (Frame.new (Header.windowUpdate f.header.streamId c).ack) ∧ s.flag = .none ∧
          a.config.windowUpdateMode = .onReceive ∧
          Shared.nextWindowUpdate a.config
            { Shared.new defaultCredit defaultCredit with window := defaultCredit.saturatingSub f.bodyLen } =
              some c ∧
          s.shared.window = defaultCredit.saturatingSub f.bodyLen + c) := by
  dsimp only [onDataSyn]
  generalize hsh : (if f.header.flags.fin = true then _ else _) = sh
  have hst : sh.state = ((Shared.new defaultCredit defaultCredit).finish f.header.flags.fin).state := by
    rw [← hsh]; rfl
  obtain ⟨hb, hw, hc, hr, hwr⟩ : sh.buffer = [] ∧ sh.window = defaultCredit ∧ sh.credit = defaultCredit ∧
      sh.reader = none ∧ sh.writer = none := by
    rw [← hsh]; split <;> exact ⟨rfl, rfl, rfl, rfl, rfl⟩
  cases hmode : a.config.windowUpdateMode <;> cases hn : Shared.nextWindowUpdate a.config
      { sh with window := sh.window.saturatingSub f.bodyLen, buffer := sh.buffer ++ [f.body] } <;>
    simp only [Option.isNone_none, Option.isNone_some, if_true, if_false, Bool.false_eq_true]
  case onReceive.some c =>
    refine ⟨_, _, rfl, rfl, rfl, by simp [hb], hc, hst, hr, hwr, .inr ⟨c, rfl, rfl, trivial, ?_, by simp only [hw]⟩⟩
    rw [← hn, hw]; rfl
  all_goals exact ⟨_, _, rfl, rfl, rfl, by simp [Stream.setFlag, hb], hc, hst, hr, hwr,
    .inl ⟨rfl, rfl, by simp only [Stream.setFlag, hw]⟩⟩

/-- A window update with `SYN` once its checks passed: a record of its id enters the table
with one handle, owing the `ACK`, with a window of `DEFAULT_CREDIT`, the advertised credit
plus `DEFAULT_CREDIT` to send, and the `FIN` applied. -/
theorem onWindowUpdateSyn_eq (f : Frame) :
    ∃ s, s.id = f.header.streamId ∧
      a.onWindowUpdateSyn f = (.new s none, { a with streams := a.streams.insert f.header.streamId s }) ∧
      s.flag = .ack ∧ s.handles = 1 ∧
      s.shared = (Shared.new defaultCredit (f.header.credit + defaultCredit)).finish f.header.flags.fin := by
  dsimp only [onWindowUpdateSyn, Shared.finish]
  exact ⟨_, by split <;> rfl, rfl, by split <;> rfl, by split <;> rfl, by split <;> rfl⟩

/-- A window update on a stream of the table: the credit grows by the advertised credit,
the `FIN` applies, and the parked writer is woken. -/
theorem onWindowUpdateKnown_eq (f : Frame) (r : Stream) :
    a.onWindowUpdateKnown f r = (.none, a.setShared f.header.streamId r
      { ({ r.shared with credit := r.shared.credit + f.header.credit } : Shared).finish f.header.flags.fin with
        writer := none } r.shared.writer.toList) := by
  unfold onWindowUpdateKnown Shared.finish
  split <;> rfl

theorem onDataKnown_not_new (f : Frame) (s : Stream) : ∀ s' u, (a.onDataKnown f s).1 ≠ .new s' u := by
  intro s' u
  rcases onDataKnown_cases (a := a) f s with ⟨-, e⟩ | ⟨-, -, e⟩ | ⟨-, -, _, _, e, -, -, -, ⟨rfl, -⟩ | ⟨_, rfl, -⟩⟩ <;>
    rw [e] <;> (intro h; cases h)

/-- **`on_data` by its arms**: a reset; a `SYN` refused with a protocol error (an id of the
wrong parity, a first body beyond `DEFAULT_CREDIT`, an id in the table); a `SYN` for an
admissible id, refused with an internal error when the table is full and handed to
`onDataSyn` otherwise; a frame on a stream of the table; a frame for any other id. -/
theorem onData_arms (f : Frame) :
    f.header.flags.rst = true ∧ a.onData f = (.none, a.resetStream f.header.streamId) ∨
    f.header.flags.rst = false ∧ f.header.flags.syn = true ∧
      (a.isValidRemoteId f.header.streamId .data = false ∨ defaultCredit.toNat < f.body.length ∨
        f.header.streamId ∈ a.streams) ∧ a.onData f = (.terminate Frame.protocolError, a) ∨
    f.header.flags.rst = false ∧ f.header.flags.syn = true ∧ a.isValidRemoteId f.header.streamId .data = true ∧
      f.body.length ≤ defaultCredit.toNat ∧ f.header.streamId ∉ a.streams ∧
      (a.streams.entries.length = a.config.maxNumStreams ∧ a.onData f = (.terminate Frame.internalError, a) ∨
        a.streams.entries.length ≠ a.config.maxNumStreams ∧ a.onData f = a.onDataSyn f) ∨
    f.header.flags.rst = false ∧ f.header.flags.syn = false ∧
      (∃ r, a.streams.lookup f.header.streamId = some r ∧ a.onData f = a.onDataKnown f r) ∨
    f.header.flags.rst = false ∧ f.header.flags.syn = false ∧ a.streams.lookup f.header.streamId = none ∧
      a.onData f = (.none, a) := by
  cases hr : f.header.flags.rst
  · cases hs : f.header.flags.syn
    · cases hl : a.streams.lookup f.header.streamId with
      | none => exact .inr (.inr (.inr (.inr ⟨rfl, rfl, rfl, by simp [onData, hr, hs, hl]⟩)))
      | some r => exact .inr (.inr (.inr (.inl ⟨rfl, rfl, r, rfl, by simp [onData, hr, hs, hl]⟩)))
    · by_cases hbad : a.isValidRemoteId f.header.streamId .data = false ∨ defaultCredit.toNat < f.body.length ∨
          f.header.streamId ∈ a.streams
      · refine .inr (.inl ⟨rfl, rfl, hbad, ?_⟩)
        simp only [onData, hr, hs]
        rcases hbad with h | h | h <;> simp [h]
      · simp only [not_or, Bool.not_eq_false, Nat.not_lt] at hbad
        obtain ⟨hv, hb, hm⟩ := hbad
        refine .inr (.inr (.inl ⟨rfl, rfl, hv, hb, hm, ?_⟩))
        by_cases hmax : a.streams.entries.length = a.config.maxNumStreams
        · exact .inl ⟨hmax, by simp [onData, hr, hs, hv, Nat.not_lt.2 hb, hm, hmax]⟩
        · exact .inr ⟨hmax, by simp [onData, hr, hs, hv, Nat.not_lt.2 hb, hm, hmax]⟩
  · exact .inl ⟨rfl, by simp [onData, hr]⟩

/-- **`on_window_update` by its arms**: a reset; a `SYN` refused with a protocol error (an
id of the wrong parity, an id in the table, a full table); a `SYN` handed to
`onWindowUpdateSyn`; a frame on a stream of the table; a frame for any other id. -/
theorem onWindowUpdate_arms (f : Frame) :
    f.header.flags.rst = true ∧ a.onWindowUpdate f = (.none, a.resetStream f.header.streamId) ∨
    f.header.flags.rst = false ∧ f.header.flags.syn = true ∧
      (a.isValidRemoteId f.header.streamId .windowUpdate = false ∨ f.header.streamId ∈ a.streams ∨
        a.streams.entries.length = a.config.maxNumStreams) ∧
      a.onWindowUpdate f = (.terminate Frame.protocolError, a) ∨
    f.header.flags.rst = false ∧ f.header.flags.syn = true ∧
      a.isValidRemoteId f.header.streamId .windowUpdate = true ∧ f.header.streamId ∉ a.streams ∧
      a.streams.entries.length ≠ a.config.maxNumStreams ∧ a.onWindowUpdate f = a.onWindowUpdateSyn f ∨
    f.header.flags.rst = false ∧ f.header.flags.syn = false ∧
      (∃ r, a.streams.lookup f.header.streamId = some r ∧ a.onWindowUpdate f = a.onWindowUpdateKnown f r) ∨
    f.header.flags.rst = false ∧ f.header.flags.syn = false ∧ a.streams.lookup f.header.streamId = none ∧
      a.onWindowUpdate f = (.none, a) := by
  cases hr : f.header.flags.rst
  · cases hs : f.header.flags.syn
    · cases hl : a.streams.lookup f.header.streamId with
      | none => exact .inr (.inr (.inr (.inr ⟨rfl, rfl, rfl, by simp [onWindowUpdate, hr, hs, hl]⟩)))
      | some r => exact .inr (.inr (.inr (.inl ⟨rfl, rfl, r, rfl, by simp [onWindowUpdate, hr, hs, hl]⟩)))
    · by_cases hbad : a.isValidRemoteId f.header.streamId .windowUpdate = false ∨ f.header.streamId ∈ a.streams ∨
          a.streams.entries.length = a.config.maxNumStreams
      · refine .inr (.inl ⟨rfl, rfl, hbad, ?_⟩)
        simp only [onWindowUpdate, hr, hs]
        rcases hbad with h | h | h <;> simp [h]
      · simp only [not_or, Bool.not_eq_false] at hbad
        obtain ⟨hv, hm, hmax⟩ := hbad
        exact .inr (.inr (.inl ⟨rfl, rfl, hv, hm, hmax, by simp [onWindowUpdate, hr, hs, hv, hm, hmax]⟩))
  · exact .inl ⟨rfl, by simp [onWindowUpdate, hr]⟩

theorem onData_new {f : Frame} {s : Stream} {u : Option Frame} (h : (a.onData f).1 = .new s u) :
    f.header.streamId ∉ a.streams ∧ a.streams.entries.length ≠ a.config.maxNumStreams ∧
      s.id = f.header.streamId ∧ (a.onData f).2.streams = a.streams.insert f.header.streamId s := by
  rcases onData_arms (a := a) f with ⟨-, e⟩ | ⟨-, -, -, e⟩ | ⟨-, -, -, -, hm, ⟨-, e⟩ | ⟨hmax, e⟩⟩ |
    ⟨-, -, r, -, e⟩ | ⟨-, -, -, e⟩ <;> rw [e] at h ⊢
  · cases h
  · cases h
  · cases h
  · obtain ⟨s', u', hid, he, -⟩ := onDataSyn_eq (a := a) f
    rw [he] at h ⊢
    cases h
    exact ⟨hm, hmax, hid, rfl⟩
  · exact absurd h (onDataKnown_not_new _ _ _ _)
  · cases h

theorem onWindowUpdate_new {f : Frame} {s : Stream} {u : Option Frame}
    (h : (a.onWindowUpdate f).1 = .new s u) :
    f.header.streamId ∉ a.streams ∧ a.streams.entries.length ≠ a.config.maxNumStreams ∧
      s.id = f.header.streamId ∧ (a.onWindowUpdate f).2.streams = a.streams.insert f.header.streamId s := by
  rcases onWindowUpdate_arms (a := a) f with ⟨-, e⟩ | ⟨-, -, -, e⟩ | ⟨-, -, -, hm, hmax, e⟩ |
    ⟨-, -, r, -, e⟩ | ⟨-, -, -, e⟩ <;> rw [e] at h ⊢
  · cases h
  · cases h
  · obtain ⟨s', hid, he, -⟩ := onWindowUpdateSyn_eq (a := a) f
    rw [he] at h ⊢
    cases h
    exact ⟨hm, hmax, hid, rfl⟩
  · cases h
  · cases h

theorem perform_some {act : Action} {s : Stream} (h : (a.perform act).1 = some s) :
    ∃ u, act = .new s u := by
  cases act <;> simp_all [perform]

theorem perform_streams (act : Action) : (a.perform act).2.streams = a.streams := by
  cases act <;> rfl

/-- A stream that a received frame opens goes in under its own id, absent before. -/
theorem onFrame_inserts {f : Frame} {s : Stream} (h : a.onFrame f = (.ok (some s), a')) :
    s.id ∉ a.streams ∧ a.streams.entries.length ≠ a.config.maxNumStreams ∧
      a'.streams = a.streams.insert s.id s := by
  have key : ∀ p : Action × Active, (∀ s u, p.1 = .new s u →
      f.header.streamId ∉ a.streams ∧ a.streams.entries.length ≠ a.config.maxNumStreams ∧
        s.id = f.header.streamId ∧ p.2.streams = a.streams.insert f.header.streamId s) →
      (p.2.perform p.1).1 = some s → (p.2.perform p.1).2 = a' →
      s.id ∉ a.streams ∧ a.streams.entries.length ≠ a.config.maxNumStreams ∧
        a'.streams = a.streams.insert s.id s := by
    rintro ⟨act, a2⟩ hp h1 rfl
    obtain ⟨u, rfl⟩ := perform_some h1
    obtain ⟨hm, hmax, hid, hs⟩ := hp s u rfl
    rw [perform_streams, hid]
    exact ⟨hm, hmax, hs⟩
  unfold onFrame at h
  cases htag : f.header.tag <;> simp only [htag, Prod.mk.injEq, Except.ok.injEq] at h
  · exact key _ (fun s u h => onData_new h) h.1 h.2
  · exact key _ (fun s u h => onWindowUpdate_new h) h.1 h.2
  · exact key (a.onPing f, a) (fun s u h => by simp [onPing] at h; split_ifs at h) h.1 h.2
  · cases h.1

theorem onData_cases (f : Frame) :
    Keeps a (a.onData f).2 ∨ Opens a (a.onData f).2 f.header.streamId := by
  rcases onData_arms (a := a) f with ⟨-, e⟩ | ⟨-, -, -, e⟩ | ⟨-, -, hv, -, hm, ⟨-, e⟩ | ⟨hmax, e⟩⟩ |
    ⟨-, -, r, -, e⟩ | ⟨-, -, -, e⟩ <;> rw [e]
  · exact .inl (keeps_resetStream _)
  · exact .inl (Keeps.refl a)
  · exact .inl (Keeps.refl a)
  · obtain ⟨s, u, -, he, -⟩ := onDataSyn_eq (a := a) f
    rw [he]
    exact .inr ⟨rfl, rfl, rfl, keys_insert_of_not_mem s hm, hm, not_isLocal_of_isValidRemoteId (.inl rfl) hv, hmax⟩
  · exact .inl (keeps_onDataKnown ..)
  · exact .inl (Keeps.refl a)

theorem onWindowUpdate_cases (f : Frame) :
    Keeps a (a.onWindowUpdate f).2 ∨ Opens a (a.onWindowUpdate f).2 f.header.streamId := by
  rcases onWindowUpdate_arms (a := a) f with ⟨-, e⟩ | ⟨-, -, -, e⟩ | ⟨-, -, hv, hm, hmax, e⟩ |
    ⟨-, -, r, -, e⟩ | ⟨-, -, -, e⟩ <;> rw [e]
  · exact .inl (keeps_resetStream _)
  · exact .inl (Keeps.refl a)
  · exact .inr ⟨rfl, rfl, rfl, keys_insert_of_not_mem _ hm, hm,
      not_isLocal_of_isValidRemoteId (.inr rfl) hv, hmax⟩
  · exact .inl (keeps_setShared ..)
  · exact .inl (Keeps.refl a)

theorem perform_cases {id : StreamId} {p : Action × Active}
    (h : Keeps a p.2 ∨ Opens a p.2 id) :
    Keeps a (p.2.perform p.1).2 ∨ Opens a (p.2.perform p.1).2 id := by
  obtain ⟨act, a'⟩ := p
  cases act <;> rcases h with h | h
  all_goals first
    | exact .inl h
    | exact .inr h
    | exact .inl (h.trans (keeps_push _))
    | exact .inl ⟨h.mode, h.config, h.nextId, h.keys⟩
    | exact .inr (h.push _)

/-- **What a received frame can do to the table**: keep its keys, or add one checked
remote id. -/
theorem onFrame_cases (f : Frame) :
    Keeps a (a.onFrame f).2 ∨ Opens a (a.onFrame f).2 f.header.streamId := by
  unfold onFrame
  cases f.header.tag
  · exact perform_cases (onData_cases f)
  · exact perform_cases (onWindowUpdate_cases f)
  · exact perform_cases (p := (a.onPing f, a)) (.inl (Keeps.refl a))
  · exact .inl (Keeps.refl a)

theorem nextStreamId_eq : a.nextStreamId =
    if a.nextId.toNat + 2 < UInt32.size then
      (if a.mode.isLocal ⟨a.nextId⟩ then .ok (.ok ⟨a.nextId⟩, { a with nextId := a.nextId + 2 })
        else .error .assertion)
    else .ok (.error .noMoreStreamIds, a) := by
  unfold nextStreamId UInt32.checkedAdd
  have h2 : (2 : UInt32).toNat = 2 := rfl
  rw [h2]
  cases a.mode <;> simp only [Mode.isLocal] <;> split_ifs <;> rfl

/-- **`new_outbound` in closed form**: refused when the table is full, out of ids
when `next_id + 2` overflows, a failed assertion when `next_id` is not of the local
parity, and otherwise `openOutbound` on `next_id`, with `next_id` moved on by two. -/
theorem newOutbound_eq : a.newOutbound =
    if a.config.maxNumStreams ≤ a.streams.entries.length then .ok (.error .tooManyStreams, a)
    else if a.nextId.toNat + 2 < UInt32.size then
      (if a.mode.isLocal ⟨a.nextId⟩ then
        .ok (.ok (openOutbound { a with nextId := a.nextId + 2 } ⟨a.nextId⟩).1,
          (openOutbound { a with nextId := a.nextId + 2 } ⟨a.nextId⟩).2)
      else .error .assertion)
    else .ok (.error .noMoreStreamIds, a) := by
  unfold newOutbound
  rw [nextStreamId_eq]
  split_ifs <;> rfl

theorem openOutbound_snd (id : StreamId) :
    (a.openOutbound id).2.mode = a.mode ∧ (a.openOutbound id).2.config = a.config ∧
      (a.openOutbound id).2.nextId = a.nextId ∧
      (a.openOutbound id).2.streams = a.streams.insert id (a.openOutbound id).1 := by
  dsimp only [openOutbound]
  split_ifs <;> exact ⟨rfl, rfl, rfl, rfl⟩

theorem openOutbound_id (id : StreamId) : (a.openOutbound id).1.id = id := by
  dsimp only [openOutbound]
  split_ifs <;> rfl

/-- **`openOutbound` by its two arms**: a receive window above `DEFAULT_CREDIT` sends
the extra credit in a `SYN` window update and leaves the record unflagged; otherwise
nothing is queued and the record owes its `SYN` to its first frame. -/
theorem openOutbound_arms (id : StreamId) :
    a.config.receiveWindow - defaultCredit ≠ 0 ∧
      a.openOutbound id = (Stream.new id a.config.receiveWindow defaultCredit,
        { a.push (Frame.new (Header.windowUpdate id (a.config.receiveWindow - defaultCredit)).syn) with
          streams := a.streams.insert id (Stream.new id a.config.receiveWindow defaultCredit) }) ∨
    a.config.receiveWindow - defaultCredit = 0 ∧
      a.openOutbound id = ((Stream.new id a.config.receiveWindow defaultCredit).setFlag .syn,
        { a with streams := a.streams.insert id ((Stream.new id a.config.receiveWindow defaultCredit).setFlag .syn) }) := by
  dsimp only [openOutbound]
  by_cases h : a.config.receiveWindow - defaultCredit = 0
  · have hn : ¬a.config.receiveWindow - defaultCredit > 0 := by rw [h]; decide
    exact .inr ⟨h, by rw [if_neg hn, if_pos h]⟩
  · have hp : a.config.receiveWindow - defaultCredit > 0 :=
      Nat.pos_of_ne_zero fun h0 => h (UInt32.toNat_injective h0)
    exact .inl ⟨h, by rw [if_pos hp, if_neg h]; rfl⟩

theorem foldl_erase_keys (ids : List StreamId) (t : Table) :
    List.Sublist (ids.foldl (fun t id => t.erase id) t).keys t.keys := by
  induction ids generalizing t with
  | nil => exact List.Sublist.refl _
  | cons id ids ih =>
    exact (ih _).trans (by rw [AList.keys_erase]; exact List.erase_sublist _ _)

/-- **`garbage_collect` only removes keys.** -/
theorem garbageCollect_keys :
    a.garbageCollect.mode = a.mode ∧ a.garbageCollect.config = a.config ∧
      a.garbageCollect.nextId = a.nextId ∧ List.Sublist a.garbageCollect.streams.keys a.streams.keys := by
  refine ⟨rfl, rfl, rfl, ?_⟩
  have hk : (a.sweep.1).streams.keys = a.streams.keys := by
    simp [sweep, AList.keys, List.keys, Function.comp_def]
  exact hk ▸ foldl_erase_keys _ _

theorem keeps_sendCommand {c : StreamCommand} (h : a.sendCommand c = some a') : Keeps a a' := by
  unfold sendCommand Receiver.push at h
  split_ifs at h
  · cases h
  · cases h; exact ⟨rfl, rfl, rfl, rfl⟩

/-- **`write` by its arms**: refused once the local half is closed, the writer parked
without credit, or one data frame of `n` bytes, at most the credit and the split size,
sent through the channel with the flag the record owes, the credit spent and the flag
cleared. -/
theorem write_cases {id : StreamId} {w : Waker} {data : List UInt8} {r : Poll (Except ConnectionError Nat)}
    (h : a.write id w data = some (r, a')) : ∃ rec, a.streams.lookup id = some rec ∧
      ((rec.shared.state = .sendClosed ∨ rec.shared.state = .closed) ∧ r = .ready (.error .closed) ∧ a' = a ∨
       ¬(rec.shared.state = .sendClosed ∨ rec.shared.state = .closed) ∧ rec.shared.credit = 0 ∧ r = .pending ∧
         a' = a.setShared id rec { rec.shared with writer := some w } [] ∨
       ¬(rec.shared.state = .sendClosed ∨ rec.shared.state = .closed) ∧ rec.shared.credit ≠ 0 ∧
         ∃ n, n = min rec.shared.credit.toNat (min a.config.splitSendSize data.length) ∧ r = .ready (.ok n) ∧
           (a.setShared id { rec with flag := .none } { rec.shared with credit := rec.shared.credit - n.toUInt32 } []).sendCommand
             (.sendFrame ⟨rec.flag.apply (Header.data id n.toUInt32), data.take n⟩) = some a') := by
  unfold write at h
  split at h
  · cases h
  · rename_i rec hr
    refine ⟨rec, hr, ?_⟩
    split_ifs at h with h1 h2
    · cases h; exact .inl ⟨h1, rfl, rfl⟩
    · cases h; exact .inr (.inl ⟨h1, h2, rfl, rfl⟩)
    · obtain ⟨a'', h3, h4⟩ := Option.map_eq_some'.1 h
      cases h4
      exact .inr (.inr ⟨h1, h2, _, rfl, rfl, h3⟩)

/-- **`read` by its arms**: the oldest buffered body handed over, with the window granted
back through the channel when an `OnRead` read reaches the threshold; the end of the
stream once the remote has closed its half; or the reader parked. -/
theorem read_cases {id : StreamId} {w : Waker} {r : Poll (Option (List UInt8))} (h : a.read id w = some (r, a')) :
    ∃ rec, a.streams.lookup id = some rec ∧
      ((∃ chunk rest, rec.shared.buffer = chunk :: rest ∧ r = .ready (some chunk) ∧
        ((∃ c, a.config.windowUpdateMode = .onRead ∧
            { rec.shared with buffer := rest }.nextWindowUpdate a.config = some c ∧
            (a.setShared id { rec with flag := .none }
              { rec.shared with buffer := rest, window := rec.shared.window + c } []).sendCommand
              (.sendFrame (Frame.new (rec.flag.apply (Header.windowUpdate id c)))) = some a') ∨
          a' = a.setShared id rec { rec.shared with buffer := rest } [])) ∨
       rec.shared.buffer = [] ∧ (rec.shared.state = .recvClosed ∨ rec.shared.state = .closed) ∧
         r = .ready none ∧ a' = a ∨
       rec.shared.buffer = [] ∧ ¬(rec.shared.state = .recvClosed ∨ rec.shared.state = .closed) ∧
         r = .pending ∧ a' = a.setShared id rec { rec.shared with reader := some w } []) := by
  unfold read at h
  split at h
  · cases h
  · rename_i rec hr
    refine ⟨rec, hr, ?_⟩
    split at h
    · rename_i chunk rest hb
      dsimp only at h
      split at h
      · rename_i c hm hc
        obtain ⟨a'', h3, h4⟩ := Option.map_eq_some'.1 h
        cases h4
        exact .inl ⟨chunk, rest, hb, rfl, .inl ⟨c, hm, hc, h3⟩⟩
      · cases h; exact .inl ⟨chunk, rest, hb, rfl, .inr rfl⟩
    · rename_i hb
      split_ifs at h with h1
      · cases h; exact .inr (.inl ⟨hb, h1, rfl, rfl⟩)
      · cases h; exact .inr (.inr ⟨hb, h1, rfl, rfl⟩)

/-- A handle changes no key of the table. -/
theorem keeps_read {id : StreamId} {w : Waker} {r} (h : a.read id w = some (r, a')) : Keeps a a' := by
  obtain ⟨rec, -, ⟨chunk, rest, -, -, ⟨c, -, -, h3⟩ | rfl⟩ | ⟨-, -, -, rfl⟩ | ⟨-, -, -, rfl⟩⟩ := read_cases h
  · exact (keeps_setShared ..).trans (keeps_sendCommand h3)
  · exact keeps_setShared ..
  · exact Keeps.refl _
  · exact keeps_setShared ..

theorem keeps_write {id : StreamId} {w : Waker} {data : List UInt8} {r}
    (h : a.write id w data = some (r, a')) : Keeps a a' := by
  obtain ⟨rec, -, ⟨-, -, rfl⟩ | ⟨-, -, -, rfl⟩ | ⟨-, -, n, -, -, h3⟩⟩ := write_cases h
  · exact Keeps.refl _
  · exact keeps_setShared ..
  · exact (keeps_setShared ..).trans (keeps_sendCommand h3)

/-- **`close` by its arms**: nothing on a closed record; otherwise the local half
closed, an `ACK` the record owes taken off, and `CloseStream` sent through the channel
with it. -/
theorem closeStream_cases {id : StreamId} (h : a.closeStream id = some a') :
    ∃ rec, a.streams.lookup id = some rec ∧
      (rec.shared.state = .closed ∧ a' = a ∨
       rec.shared.state ≠ .closed ∧
         (a.setShared id (if rec.flag = .ack then { rec with flag := .none } else rec)
           (rec.shared.updateState .sendClosed).2 []).sendCommand (.closeStream id (rec.flag = .ack)) = some a') := by
  unfold closeStream at h
  split at h
  · cases h
  · rename_i rec hr
    refine ⟨rec, hr, ?_⟩
    split_ifs at h with hc
    · cases h; exact .inl ⟨hc, rfl⟩
    · exact .inr ⟨hc, h⟩

/-- **Dropping a handle** takes one handle off the record. -/
theorem dropHandle_cases {id : StreamId} (h : a.dropHandle id = some a') :
    ∃ rec, a.streams.lookup id = some rec ∧ 0 < rec.handles ∧
      a' = a.setShared id { rec with handles := rec.handles - 1 } rec.shared [] := by
  unfold dropHandle at h
  split at h
  · rename_i rec hr
    split_ifs at h with hc
    cases h
    exact ⟨rec, hr, hc, rfl⟩
  · cases h

theorem keeps_closeStream {id : StreamId} (h : a.closeStream id = some a') : Keeps a a' := by
  obtain ⟨rec, -, ⟨-, rfl⟩ | ⟨-, h⟩⟩ := closeStream_cases h
  · exact Keeps.refl _
  · exact (keeps_setShared ..).trans (keeps_sendCommand h)

theorem keeps_dropHandle {id : StreamId} (h : a.dropHandle id = some a') : Keeps a a' := by
  obtain ⟨rec, -, -, rfl⟩ := dropHandle_cases h
  exact keeps_setShared ..

end Active

end Yamux
