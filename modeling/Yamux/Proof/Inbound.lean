import Yamux.Proof.Account
import Yamux.Proof.Step

/-!
# Received frames

Two facts about what `Active` does with the frames the remote sends.

* `onFrame_windowUpdate_credit`: the send credit of a stream that a `SYN` window
  update opens is the advertised credit plus `DEFAULT_CREDIT`, wrapped to 32 bits;
  `windowUpdate_syn_credit_wraps` runs a credit of `u32::MAX`, which a debug build
  rejects with a panic and a release build turns into 262143.
* `poll_after_terminate`: a frame answered by a terminating `GoAway` does not end
  `Active::poll`: the `GoAway` is queued like any frame, and the loop reads on, answers
  a ping after it and returns a stream a later frame opens.
-/

namespace Yamux

namespace Active

variable {a a' : Active} {f : Frame} {s : Stream}

theorem onWindowUpdate_new_credit {u : Option Frame} (h : (a.onWindowUpdate f).1 = .new s u) :
    s.shared.credit = f.header.credit + defaultCredit := by
  rcases onWindowUpdate_arms (a := a) f with ⟨-, e⟩ | ⟨-, -, -, e⟩ | ⟨-, -, -, -, -, e⟩ | ⟨-, -, r, -, e⟩ |
    ⟨-, -, -, e⟩ <;> rw [e] at h
  · cases h
  · cases h
  · obtain ⟨s', -, e, -, -, hsh⟩ := onWindowUpdateSyn_eq (a := a) f
    rw [e] at h
    cases h
    rw [hsh, Shared.finish_credit]
    rfl
  · cases h
  · cases h

/-- **A `SYN` window update's credit wraps.** The stream it opens gets the advertised
credit plus `DEFAULT_CREDIT`, modulo `2^32`. -/
theorem onFrame_windowUpdate_credit (ht : f.header.tag = .windowUpdate)
    (h : a.onFrame f = (.ok (some s), a')) :
    s.shared.credit.toNat = (f.header.credit.toNat + defaultCredit.toNat) % UInt32.size := by
  simp only [onFrame, ht, Except.ok.injEq] at h
  obtain ⟨u, hu⟩ := perform_some (Except.ok.inj (Prod.mk.inj h).1)
  rw [onWindowUpdate_new_credit hu, UInt32.toNat_add_mod]

/-- **Failing input**: a fresh client sent a `SYN` window update for stream 2 with a
credit of `u32::MAX` opens the stream with a send credit of 262143. -/
theorem windowUpdate_syn_credit_wraps :
    ∃ s a, (Active.new Socket.idle Config.default .client).onFrame
        (Frame.new (Header.windowUpdate ⟨2⟩ 0xFFFFFFFF).syn) = (.ok (some s), a) ∧
      s.shared.credit = 262143 ∧ UInt32.size ≤ (0xFFFFFFFF : UInt32).toNat + defaultCredit.toNat :=
  ⟨_, _, rfl, rfl, by decide⟩

/-- **The engine reads on after a terminating frame.** A client is sent a `SYN` with a
stream id of its own parity, then a ping, then a valid `SYN`. `Active::poll` queues the
protocol-error `GoAway`, queues the pong after it, and returns the stream the third
frame opens. -/
theorem poll_after_terminate :
    ∃ s a, (Active.new { Socket.idle with inbound := [
        .ready (some (.ok (Frame.new (Header.data ⟨1⟩ 0).syn))),
        .ready (some (.ok (Frame.new (Header.ping 7)))),
        .ready (some (.ok (Frame.new (Header.data ⟨2⟩ 0).syn)))] } Config.default .client).poll =
        (.ready (.ok s), a) ∧
      s.id = ⟨2⟩ ∧ s.id ∈ a.streams ∧ a.pendingFrames = [Frame.protocolError, Frame.new (Header.ping 7).ack] :=
  ⟨_, _, rfl, rfl, by decide, rfl⟩

end Active

namespace Active

variable {a a' : Active} {f : Frame} {r : Stream}

theorem onFrame_data (htag : f.header.tag = .data) :
    a.onFrame f = (.ok ((a.onData f).2.perform (a.onData f).1).1, ((a.onData f).2.perform (a.onData f).1).2) := by
  simp only [onFrame, htag]

theorem onFrame_windowUpdate (htag : f.header.tag = .windowUpdate) :
    a.onFrame f = (.ok ((a.onWindowUpdate f).2.perform (a.onWindowUpdate f).1).1,
      ((a.onWindowUpdate f).2.perform (a.onWindowUpdate f).1).2) := by
  simp only [onFrame, htag]

theorem onData_known (hrst : f.header.flags.rst = false) (hsyn : f.header.flags.syn = false)
    (hr : a.streams.lookup f.header.streamId = some r) : a.onData f = a.onDataKnown f r := by
  simp only [onData, hrst, hsyn, hr, Bool.false_eq_true, if_false]

/-- **A reset at the buffer limit does not close the record.** A data frame on a stream
whose buffer holds `max_buffer_size` bytes or more is answered with an `RST`, but the
record stays in the table in the state the frame found it, its `FIN` applied: an `Open`
record stays `Open`, and its handle reads and writes on. -/
theorem onFrame_reset_keeps_state (htag : f.header.tag = .data) (hrst : f.header.flags.rst = false)
    (hsyn : f.header.flags.syn = false) (hr : a.streams.lookup f.header.streamId = some r)
    (hw : f.body.length ≤ r.shared.window.toNat) (hfull : a.config.maxBufferSize ≤ r.shared.bufferLen) :
    (a.onFrame f).2.pendingFrames = a.pendingFrames ++ [Frame.new (Header.data f.header.streamId 0).rst] ∧
      ∃ r', (a.onFrame f).2.streams.lookup f.header.streamId = some r' ∧
        r'.shared.state = (r.shared.finish f.header.flags.fin).state := by
  rcases onDataKnown_cases (a := a) f r with ⟨h1, -⟩ | ⟨-, -, h⟩ | ⟨-, h2, -⟩
  · omega
  · rw [onFrame_data htag, onData_known hrst hsyn hr, h]
    exact ⟨rfl, _, setShared_lookup_self hr r _ [], rfl⟩
  · omega

/-- **Failing input**: a server whose buffer limit is one byte accepts stream 1 with a
body of one byte; the next data frame on stream 1 is answered with an `RST`, and the
record stays `Open`. -/
theorem reset_keeps_open :
    Reachable ((Active.new Socket.idle { Config.default with maxBufferSize := 1 } .server).onFrame
        ⟨(Header.data ⟨1⟩ 1).syn, [1]⟩).2 ∧
      (((Active.new Socket.idle { Config.default with maxBufferSize := 1 } .server).onFrame
        ⟨(Header.data ⟨1⟩ 1).syn, [1]⟩).2.onFrame ⟨Header.data ⟨1⟩ 1, [2]⟩).2.pendingFrames =
          [Frame.new (Header.data ⟨1⟩ 0).rst] ∧
      ∃ r', (((Active.new Socket.idle { Config.default with maxBufferSize := 1 } .server).onFrame
        ⟨(Header.data ⟨1⟩ 1).syn, [1]⟩).2.onFrame ⟨Header.data ⟨1⟩ 1, [2]⟩).2.streams.lookup ⟨1⟩ = some r' ∧
        r'.shared.state = .open :=
  ⟨(reachable_new _ _ _).step (.frame _ _),
    onFrame_reset_keeps_state (r := ⟨⟨1⟩, .ack, ⟨.open, 262143, 262144, [[1]], none, none⟩, 1⟩)
      rfl rfl rfl (by rfl) (by decide) (by decide)⟩

/-- **A closed remote half still takes data in.** The existing-stream arm of `on_data`
never reads the record's state: a record in `RecvClosed` or `Closed` whose buffer is below
the limit has the body of a data frame within its window appended, its parked reader is
woken, and its state stays. -/
theorem onFrame_after_remote_close (htag : f.header.tag = .data) (hrst : f.header.flags.rst = false)
    (hsyn : f.header.flags.syn = false) (hr : a.streams.lookup f.header.streamId = some r)
    (hst : r.shared.state = .recvClosed ∨ r.shared.state = .closed)
    (hw : f.body.length ≤ r.shared.window.toNat) (hb : r.shared.bufferLen < a.config.maxBufferSize) :
    ∃ r', (a.onFrame f).2.streams.lookup f.header.streamId = some r' ∧
      r'.shared.state = r.shared.state ∧ r'.shared.buffer = r.shared.buffer ++ [f.body] ∧
      (a.onFrame f).2.woken = a.woken ++ r.shared.reader.toList := by
  rcases onDataKnown_cases (a := a) f r with ⟨h1, -⟩ | ⟨-, h2, -⟩ | ⟨-, -, act, sh, h, hst', hbuf, -⟩
  · omega
  · omega
  · rw [onFrame_data htag, onData_known hrst hsyn hr, h, perform_eq]
    exact ⟨_, setShared_lookup_self hr r sh r.shared.reader.toList, hst'.trans (Shared.finish_state _ hst), hbuf, rfl⟩

/-- **Failing input**: a server accepts stream 1 with `SYN` and `FIN` and no body, so the
record is `RecvClosed`; a data frame of one byte on stream 1 is then buffered. -/
theorem data_after_fin_buffered :
    Reachable ((Active.new Socket.idle Config.default .server).onFrame (Frame.new (Header.data ⟨1⟩ 0).syn.fin)).2 ∧
      ∃ r', (((Active.new Socket.idle Config.default .server).onFrame
        (Frame.new (Header.data ⟨1⟩ 0).syn.fin)).2.onFrame ⟨Header.data ⟨1⟩ 1, [7]⟩).2.streams.lookup ⟨1⟩ = some r' ∧
        r'.shared.state = .recvClosed ∧ r'.shared.buffer = [[], [7]] ∧
        (((Active.new Socket.idle Config.default .server).onFrame
          (Frame.new (Header.data ⟨1⟩ 0).syn.fin)).2.onFrame ⟨Header.data ⟨1⟩ 1, [7]⟩).2.woken = [] :=
  ⟨(reachable_new _ _ _).step (.frame _ _),
    onFrame_after_remote_close (f := ⟨Header.data ⟨1⟩ 1, [7]⟩)
      (r := ⟨⟨1⟩, .ack, ⟨.recvClosed, 262144, 262144, [[]], none, none⟩, 1⟩)
      rfl rfl rfl (by rfl) (.inl rfl) (by decide) (by decide)⟩

/-! ## The `SYN` arms -/

theorem onData_syn (hrst : f.header.flags.rst = false) (hsyn : f.header.flags.syn = true)
    (hv : a.isValidRemoteId f.header.streamId .data = true) (hb : f.body.length ≤ defaultCredit.toNat)
    (hm : f.header.streamId ∉ a.streams) (hroom : a.streams.entries.length ≠ a.config.maxNumStreams) :
    a.onData f = a.onDataSyn f := by
  simp [onData, hrst, hsyn, hv, hm, hroom, Nat.not_lt.2 hb]

theorem onWindowUpdate_syn (hrst : f.header.flags.rst = false) (hsyn : f.header.flags.syn = true)
    (hv : a.isValidRemoteId f.header.streamId .windowUpdate = true)
    (hm : f.header.streamId ∉ a.streams) (hroom : a.streams.entries.length ≠ a.config.maxNumStreams) :
    a.onWindowUpdate f = a.onWindowUpdateSyn f := by
  simp [onWindowUpdate, hrst, hsyn, hv, hm, hroom]

/-- The unread bytes of the record of `id`; none without a record. -/
def unread (a : Active) (id : StreamId) : Nat :=
  ((a.streams.lookup id).map fun r => r.shared.bufferLen).getD 0

/-- **`on_data` buffers a body whole, past the limit.** A data frame that opens a stream,
or that finds its stream's buffer below `max_buffer_size`, has its whole body appended,
however far beyond the limit that takes the buffer: the `SYN` arm makes no check, and the
other arm checks the buffer before the push, not after. -/
theorem onFrame_buffers_whole (htag : f.header.tag = .data) (hrst : f.header.flags.rst = false)
    (harm : f.header.flags.syn = true ∧ a.isValidRemoteId f.header.streamId .data = true ∧
        f.body.length ≤ defaultCredit.toNat ∧ f.header.streamId ∉ a.streams ∧
        a.streams.entries.length ≠ a.config.maxNumStreams ∨
      f.header.flags.syn = false ∧ ∃ r, a.streams.lookup f.header.streamId = some r ∧
        f.body.length ≤ r.shared.window.toNat ∧ r.shared.bufferLen < a.config.maxBufferSize) :
    (a.onFrame f).2.unread f.header.streamId = a.unread f.header.streamId + f.body.length := by
  rcases harm with ⟨hsyn, hv, hb, hm, hroom⟩ | ⟨hsyn, r, hr, hw, hb⟩
  · obtain ⟨s, u, -, he, -, hbuf, -⟩ := onDataSyn_eq (a := a) f
    rw [onFrame_data htag, onData_syn hrst hsyn hv hb hm hroom, he, perform_eq]
    simp [unread, AList.lookup_eq_none.2 hm, Shared.bufferLen, hbuf]
  · rcases onDataKnown_cases (a := a) f r with ⟨h1, -⟩ | ⟨-, h2, -⟩ | ⟨-, -, act, sh, h, -, hbuf, -⟩
    · omega
    · omega
    · rw [onFrame_data htag, onData_known hrst hsyn hr, h, perform_eq]
      simp [unread, setShared_lookup_self hr, hr, Shared.bufferLen, hbuf]

/-- **Failing input**: a server whose buffer limit is two bytes accepts stream 1 with a
body of one byte, then takes a second data frame of two bytes on stream 1 whole, to three
unread bytes. -/
theorem body_past_limit :
    (((Active.new Socket.idle { Config.default with maxBufferSize := 2 } .server).onFrame
        ⟨(Header.data ⟨1⟩ 1).syn, [1]⟩).2.onFrame ⟨Header.data ⟨1⟩ 2, [2, 3]⟩).2.unread ⟨1⟩ =
      ((Active.new Socket.idle { Config.default with maxBufferSize := 2 } .server).onFrame
        ⟨(Header.data ⟨1⟩ 1).syn, [1]⟩).2.unread ⟨1⟩ + 2 ∧
    ((Active.new Socket.idle { Config.default with maxBufferSize := 2 } .server).onFrame
        ⟨(Header.data ⟨1⟩ 1).syn, [1]⟩).2.config.maxBufferSize <
      ((Active.new Socket.idle { Config.default with maxBufferSize := 2 } .server).onFrame
        ⟨(Header.data ⟨1⟩ 1).syn, [1]⟩).2.unread ⟨1⟩ + 2 :=
  ⟨onFrame_buffers_whole rfl rfl (.inr ⟨rfl, _, rfl, by decide, by decide⟩), by decide⟩

/-- **A client opens stream 0.** `is_valid_remote_id` checks only the parity of the id of
a `SYN`, and the session id 0 is even, so a client with room in its table accepts a data
frame or a window update with `SYN` on stream 0 and inserts a stream under the session
id. -/
theorem onFrame_syn_session (hm : a.mode = .client) (h0 : connectionId ∉ a.streams)
    (hroom : a.streams.entries.length ≠ a.config.maxNumStreams)
    (htag : f.header.tag = .data ∧ f.body.length ≤ defaultCredit.toNat ∨ f.header.tag = .windowUpdate)
    (hrst : f.header.flags.rst = false) (hsyn : f.header.flags.syn = true)
    (hid : f.header.streamId = connectionId) :
    ∃ s a', a.onFrame f = (.ok (some s), a') ∧ s.id = connectionId ∧ connectionId ∈ a'.streams := by
  have hv : ∀ t, t = .data ∨ t = .windowUpdate → a.isValidRemoteId f.header.streamId t = true := by
    rintro t (rfl | rfl) <;> simp [isValidRemoteId, hm, hid] <;> decide
  rw [← hid] at h0 ⊢
  rcases htag with ⟨htag, hb⟩ | htag
  · obtain ⟨s, u, hs, he, -⟩ := onDataSyn_eq (a := a) f
    rw [onFrame_data htag, onData_syn hrst hsyn (hv _ (.inl rfl)) hb h0 hroom, he]
    exact ⟨s, _, rfl, hs, (AList.mem_insert _).2 (.inl rfl)⟩
  · obtain ⟨s, hs, he, -⟩ := onWindowUpdateSyn_eq (a := a) f
    rw [onFrame_windowUpdate htag, onWindowUpdate_syn hrst hsyn (hv _ (.inr rfl)) h0 hroom, he]
    exact ⟨s, _, rfl, hs, (AList.mem_insert _).2 (.inl rfl)⟩

/-- **Failing input**: a fresh client sent a data frame with `SYN` on stream 0 opens a
stream with the session id. -/
theorem client_opens_session_stream :
    ∃ s a', (Active.new Socket.idle Config.default .client).onFrame (Frame.new (Header.data connectionId 0).syn) =
      (.ok (some s), a') ∧ s.id = connectionId ∧ connectionId ∈ a'.streams :=
  onFrame_syn_session rfl (by decide) (by decide) (.inl ⟨rfl, by decide⟩) rfl rfl rfl

/-! ## Frames for streams the table does not hold -/

theorem resetStream_unknown {id : StreamId} (h : id ∉ a.streams) : a.resetStream id = a := by
  simp [resetStream, AList.lookup_eq_none.2 h]

theorem onData_unknown (hsyn : f.header.flags.syn = false) (h : f.header.streamId ∉ a.streams) :
    a.onData f = (.none, a) := by
  simp only [onData, hsyn, resetStream_unknown h, AList.lookup_eq_none.2 h]
  split <;> rfl

theorem onWindowUpdate_unknown (hsyn : f.header.flags.syn = false) (h : f.header.streamId ∉ a.streams) :
    a.onWindowUpdate f = (.none, a) := by
  simp only [onWindowUpdate, hsyn, resetStream_unknown h, AList.lookup_eq_none.2 h]
  split <;> rfl

theorem onPing_unknown (h0 : f.header.streamId ≠ connectionId) (h : f.header.streamId ∉ a.streams) :
    a.onPing f = .none := by
  simp [onPing, h0, h]

/-- **A frame for a stream the table does not hold changes nothing.** A data frame or a
window update without `SYN`, whatever its other flags, body or credit, and a ping on a
stream id other than the session's, with or without `ACK`, is taken without an error,
opens nothing, and leaves the engine as it was: table, records and pending frames. -/
theorem onFrame_unknown (hid : f.header.streamId ∉ a.streams)
    (hf : (f.header.tag = .data ∨ f.header.tag = .windowUpdate) ∧ f.header.flags.syn = false ∨
      f.header.tag = .ping ∧ f.header.streamId ≠ connectionId) :
    a.onFrame f = (.ok none, a) := by
  rcases hf with ⟨htag | htag, hsyn⟩ | ⟨htag, h0⟩
  · rw [onFrame_data htag, onData_unknown hsyn hid]; rfl
  · rw [onFrame_windowUpdate htag, onWindowUpdate_unknown hsyn hid]; rfl
  · simp only [onFrame, htag, onPing_unknown h0 hid]; rfl

/-- A fresh client ignores a reset carrying a body on stream 2. -/
theorem onFrame_unknown_reset :
    (Active.new Socket.idle Config.default .client).onFrame ⟨(Header.data ⟨2⟩ 3).rst, [1, 2, 3]⟩ =
      (.ok none, Active.new Socket.idle Config.default .client) :=
  onFrame_unknown (by decide) (.inl ⟨.inl rfl, rfl⟩)

/-! ## The two `SYN` arms side by side -/

/-- The checks both `SYN` arms make of the id of a frame, the data frame's body apart:
the remote parity, absent from the table, and room in the table. -/
def Admits (a : Active) (id : StreamId) : Prop :=
  a.isValidRemoteId id .data = true ∧ id ∉ a.streams ∧ a.streams.entries.length ≠ a.config.maxNumStreams

instance (a : Active) (id : StreamId) : Decidable (a.Admits id) := inferInstanceAs (Decidable (_ ∧ _))

theorem isValidRemoteId_windowUpdate (id : StreamId) :
    a.isValidRemoteId id .windowUpdate = a.isValidRemoteId id .data := by
  simp [isValidRemoteId]

theorem onData_syn_refused (hrst : f.header.flags.rst = false) (hsyn : f.header.flags.syn = true)
    (hb : f.body.length ≤ defaultCredit.toNat) (h : ¬a.Admits f.header.streamId) :
    a.onData f = (.terminate (if a.isValidRemoteId f.header.streamId .data = true ∧
      f.header.streamId ∉ a.streams then Frame.internalError else Frame.protocolError), a) := by
  unfold Admits at h
  simp only [onData, hrst, hsyn, Nat.not_lt.2 hb, Bool.false_eq_true, if_false, if_true, gt_iff_lt]
  split_ifs <;> simp_all

theorem onWindowUpdate_syn_refused (hrst : f.header.flags.rst = false) (hsyn : f.header.flags.syn = true)
    (h : ¬a.Admits f.header.streamId) : a.onWindowUpdate f = (.terminate Frame.protocolError, a) := by
  unfold Admits at h
  rw [← isValidRemoteId_windowUpdate] at h
  simp only [onWindowUpdate, hrst, hsyn, Bool.false_eq_true, if_false, if_true]
  split_ifs <;> simp_all

/-- **The two `SYN` arms agree but for the error of a full table.** Take a data frame and a
window update, both with `SYN` and without `RST`, naming the same id, with the same `FIN`
flag, the data frame's body within `DEFAULT_CREDIT`. Both open a stream exactly when the
id is admitted, under that id and in the same state; the window update's record has a
window of `DEFAULT_CREDIT`, the data frame's that window less the body when `on_data` sends
no window update with it, and the whole receive window when it sends the `ACK` window update
of the id. Refusing, both answer a protocol error, but for an id of the remote parity absent
from a full table, which `on_data` answers with an internal error and `on_window_update`,
whose check copies `on_data`'s, with a protocol error. -/
theorem syn_arms_agree (g : Frame) (hf : f.header.flags.syn = true ∧ f.header.flags.rst = false)
    (hb : f.body.length ≤ defaultCredit.toNat) (hg : g.header.flags.syn = true ∧ g.header.flags.rst = false)
    (hid : g.header.streamId = f.header.streamId) (hfin : g.header.flags.fin = f.header.flags.fin) :
    (a.Admits f.header.streamId →
      ∃ s u s', a.onData f = (.new s u, { a with streams := a.streams.insert f.header.streamId s }) ∧
        a.onWindowUpdate g = (.new s' none, { a with streams := a.streams.insert f.header.streamId s' }) ∧
        s.id = s'.id ∧ s.shared.state = s'.shared.state ∧ s'.shared.window = defaultCredit ∧
        (u = none ∧ s.shared.window.toNat = defaultCredit.toNat - f.body.length ∨
          ∃ c, u = some (Frame.new (Header.windowUpdate f.header.streamId c).ack) ∧
            s.shared.window.toNat = a.config.receiveWindow.toNat)) ∧
    (¬a.Admits f.header.streamId →
      a.onWindowUpdate g = (.terminate Frame.protocolError, a) ∧
      a.onData f = (.terminate (if a.isValidRemoteId f.header.streamId .data = true ∧
        f.header.streamId ∉ a.streams then Frame.internalError else Frame.protocolError), a)) := by
  refine ⟨fun ⟨hv, hm, hroom⟩ => ?_, fun h => ⟨onWindowUpdate_syn_refused hg.2 hg.1 (hid ▸ h),
    onData_syn_refused hf.2 hf.1 hb h⟩⟩
  obtain ⟨s, u, hs, he, -, -, -, hst, -, -, hu⟩ := onDataSyn_eq (a := a) f
  obtain ⟨s', hs', he', -, -, hsh'⟩ := onWindowUpdateSyn_eq (a := a) g
  rw [onData_syn hf.2 hf.1 hv hb hm hroom, he, onWindowUpdate_syn hg.2 hg.1
    (by rw [hid, isValidRemoteId_windowUpdate, hv]) (by rwa [hid]) hroom, he', hid]
  refine ⟨s, u, s', rfl, rfl, hs.trans (hid.symm.trans hs'.symm), ?_, by rw [hsh', Shared.finish_window]; rfl, ?_⟩
  · rw [hst, hsh', hfin, Shared.new_finish_state, Shared.new_finish_state]
  have hsat := Frame.toNat_saturatingSub_bodyLen hb
  rcases hu with ⟨hu, -, hw⟩ | ⟨c, hu, -, -, hn, hw⟩
  · exact .inl ⟨hu, by rw [hw, hsat]⟩
  · refine .inr ⟨c, hu, hw ▸ (Shared.nextWindowUpdate_eq ?_ hn).2⟩
    dsimp only [Shared.new]
    rw [hsat]
    exact (Nat.sub_le _ _).trans a.config.defaultCredit_le

/-- **Failing input**: a server allowed one stream, which holds stream 1, refuses a `SYN`
for stream 3 with an internal error on a data frame and a protocol error on a window
update, changing nothing. -/
theorem syn_arms_full_table :
    ((Active.new Socket.idle { Config.default with maxNumStreams := 1 } .server).onFrame
        (Frame.new (Header.data ⟨1⟩ 0).syn)).2.onWindowUpdate (Frame.new (Header.windowUpdate ⟨3⟩ 0).syn) =
      (.terminate Frame.protocolError,
        ((Active.new Socket.idle { Config.default with maxNumStreams := 1 } .server).onFrame
          (Frame.new (Header.data ⟨1⟩ 0).syn)).2) ∧
    ((Active.new Socket.idle { Config.default with maxNumStreams := 1 } .server).onFrame
        (Frame.new (Header.data ⟨1⟩ 0).syn)).2.onData (Frame.new (Header.data ⟨3⟩ 0).syn) =
      (.terminate Frame.internalError,
        ((Active.new Socket.idle { Config.default with maxNumStreams := 1 } .server).onFrame
          (Frame.new (Header.data ⟨1⟩ 0).syn)).2) := by
  obtain ⟨hw, hd⟩ := (syn_arms_agree
    (a := ((Active.new Socket.idle { Config.default with maxNumStreams := 1 } .server).onFrame
      (Frame.new (Header.data ⟨1⟩ 0).syn)).2) (f := Frame.new (Header.data ⟨3⟩ 0).syn)
    (Frame.new (Header.windowUpdate ⟨3⟩ 0).syn) ⟨rfl, rfl⟩ (by decide) ⟨rfl, rfl⟩ rfl rfl).2 (by decide)
  exact ⟨hw, by rw [hd, if_pos (by decide)]⟩

end Active

end Yamux
