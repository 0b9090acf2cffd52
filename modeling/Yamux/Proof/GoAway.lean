import Yamux.Proof.Flow
import Yamux.Proof.Inbound

/-!
# When a frame from the other end draws a `GoAway`

`on_data` and `on_window_update` answer a frame with `Action::Terminate`, a `GoAway` that
`on_frame` queues, in two kinds of case: the frame breaks the protocol (a `SYN` the
receiver cannot accept, a body larger than the window), or it opens a stream while the
receiver's table holds `max_num_streams` streams. Between two engines joined by a socket
the first kind never happens:

* `terminate_iff_full`: in every reachable link, the receiver of the frame at the head of
  a wire answers it with `Terminate` exactly when the frame opens a stream (`SYN` without
  `RST`) while the receiver's table is full. The `GoAway` is the internal error for a data
  frame and the protocol error for a window update, whose `SYN` arm reports a full table as
  a protocol error.
-/

namespace Yamux

namespace Active

variable {a : Active} {f F : Frame}

/-- `on_data` terminates with a protocol error, or with an internal error on a `SYN` that
finds the table full. -/
theorem onData_terminate (h : (a.onData f).1 = .terminate F) :
    F = Frame.protocolError ∨ f.header.flags.rst = false ∧ f.header.flags.syn = true ∧
      a.streams.entries.length = a.config.maxNumStreams ∧ F = Frame.internalError := by
  rcases onData_arms (a := a) f with ⟨-, e⟩ | ⟨-, -, -, e⟩ | ⟨hr, hs, -, -, -, ⟨hf, e⟩ | ⟨-, e⟩⟩ |
    ⟨-, -, r, -, e⟩ | ⟨-, -, -, e⟩ <;> rw [e] at h
  · cases h
  · cases h; exact .inl rfl
  · cases h; exact .inr ⟨hr, hs, hf, rfl⟩
  · obtain ⟨_, _, -, he, -⟩ := onDataSyn_eq (a := a) f
    rw [he] at h; cases h
  · rcases onDataKnown_cases (a := a) f r with ⟨-, e'⟩ | ⟨-, -, e'⟩ | ⟨-, -, _, _, e', -, -, -, ⟨rfl, -⟩ | ⟨_, rfl, -⟩⟩ <;>
      rw [e'] at h <;> cases h
    exact .inl rfl
  · cases h

/-- A `SYN` without `RST` that finds the table full is refused with a `GoAway`: a protocol
error when the id or body is bad, an internal error otherwise. -/
theorem onData_full (hr : f.header.flags.rst = false) (hs : f.header.flags.syn = true)
    (hf : a.streams.entries.length = a.config.maxNumStreams) :
    (a.onData f).1 = .terminate Frame.protocolError ∨ (a.onData f).1 = .terminate Frame.internalError := by
  rcases onData_arms (a := a) f with ⟨hr', -⟩ | ⟨-, -, -, e⟩ | ⟨-, -, -, -, -, ⟨-, e⟩ | ⟨hf', -⟩⟩ |
    ⟨-, hs', -⟩ | ⟨-, hs', -⟩
  · rw [hr] at hr'; cases hr'
  · exact .inl (by rw [e])
  · exact .inr (by rw [e])
  · exact absurd hf hf'
  · rw [hs] at hs'; cases hs'
  · rw [hs] at hs'; cases hs'

/-- `on_window_update` terminates only on a `SYN` without `RST`, with a protocol error, for
a bad id, an id in the table or a full table. -/
theorem onWindowUpdate_terminate (h : (a.onWindowUpdate f).1 = .terminate F) :
    F = Frame.protocolError ∧ f.header.flags.rst = false ∧ f.header.flags.syn = true ∧
      (a.isValidRemoteId f.header.streamId .windowUpdate = false ∨ f.header.streamId ∈ a.streams ∨
        a.streams.entries.length = a.config.maxNumStreams) := by
  rcases onWindowUpdate_arms (a := a) f with ⟨-, e⟩ | ⟨hr, hs, hbad, e⟩ | ⟨-, -, -, -, -, e⟩ |
    ⟨-, -, r, -, e⟩ | ⟨-, -, -, e⟩ <;> rw [e] at h
  · cases h
  · cases h; exact ⟨rfl, hr, hs, hbad⟩
  · obtain ⟨_, -, he, -⟩ := onWindowUpdateSyn_eq (a := a) f
    rw [he] at h; cases h
  · rw [onWindowUpdateKnown_eq] at h; cases h
  · cases h

theorem onWindowUpdate_full (hr : f.header.flags.rst = false) (hs : f.header.flags.syn = true)
    (hf : a.streams.entries.length = a.config.maxNumStreams) :
    (a.onWindowUpdate f).1 = .terminate Frame.protocolError := by
  rcases onWindowUpdate_arms (a := a) f with ⟨hr', -⟩ | ⟨-, -, -, e⟩ | ⟨-, -, -, -, hf', -⟩ |
    ⟨-, hs', -⟩ | ⟨-, hs', -⟩
  · rw [hr] at hr'; cases hr'
  · rw [e]
  · exact absurd hf hf'
  · rw [hs] at hs'; cases hs'
  · rw [hs] at hs'; cases hs'

end Active

namespace Link

variable {L : Link} {i : Side} {f F : Frame} {fs : List Frame}

/-- A `SYN` at the head of a wire is one the receiver accepts: it comes from the owner of
the id, whose `SYN` is the one still owed, so the receiver holds no record of the id. -/
theorem Inv.syn_head (hI : L.Inv) (hw : L.wire i = f :: fs)
    (ht : f.header.tag = .data ∨ f.header.tag = .windowUpdate) (hs : f.header.flags.syn = true) :
    (L.engine i.other).isValidRemoteId f.header.streamId .data = true ∧
      f.header.streamId ∉ (L.engine i.other).streams := by
  have hy := total_head hw (Frame.synFor f.header.streamId)
  have h1 : f.synFor f.header.streamId = 1 := by simp [Frame.synFor, ht, hs]
  have hi : i = Side.owner f.header.streamId := by
    rcases Side.eq_or_eq_other i (Side.owner f.header.streamId) with h | h
    · exact h
    · have := hI.acceptor f.header.streamId; rw [← h] at this; omega
  have hahead : L.synAhead f.header.streamId = 1 :=
    le_antisymm (hI.synOne _) (by unfold synAhead; rw [← hi]; omega)
  have hnone : L.record i.other f.header.streamId = none := by rw [hi]; exact hI.ahead _ hahead
  have hloc : (L.engine i.other).mode.isLocal f.header.streamId = false := by
    rw [hI.mode, Bool.eq_false_iff, ne_eq, Side.isLocal_iff, hi]; exact Side.other_ne _
  exact ⟨Active.isValidRemoteId_data hloc, AList.lookup_eq_none.1 hnone⟩

/-- **A `GoAway` only for a full table.** In every reachable link, the receiver of the
frame at the head of a wire answers a data frame or a window update with `Terminate`
exactly when the frame opens a stream (`SYN` without `RST`) while the receiver's table
holds `max_num_streams` streams: with the internal-error `GoAway` for a data frame and
the protocol-error one for a window update. Frames from a peer running the engine never
break the protocol. -/
theorem terminate_iff_full (hL : L.Reachable) (hw : L.wire i = f :: fs) (F : Frame) :
    (f.header.tag = .data → (((L.engine i.other).onData f).1 = .terminate F ↔
      f.header.flags.rst = false ∧ f.header.flags.syn = true ∧
        (L.engine i.other).streams.entries.length = (L.engine i.other).config.maxNumStreams ∧
        F = Frame.internalError)) ∧
    (f.header.tag = .windowUpdate → (((L.engine i.other).onWindowUpdate f).1 = .terminate F ↔
      f.header.flags.rst = false ∧ f.header.flags.syn = true ∧
        (L.engine i.other).streams.entries.length = (L.engine i.other).config.maxNumStreams ∧
        F = Frame.protocolError)) := by
  have hI := hL.inv
  refine ⟨fun ht => ⟨fun h => ?_, ?_⟩, fun ht => ⟨fun h => ?_, ?_⟩⟩
  · rcases Active.onData_terminate h with rfl | h'
    · exact absurd h (hI.onData_ne_protocolError hw ht)
    · exact h'
  · rintro ⟨hr, hs, hf, rfl⟩
    exact (Active.onData_full hr hs hf).resolve_left (hI.onData_ne_protocolError hw ht)
  · obtain ⟨rfl, hr, hs, hbad⟩ := Active.onWindowUpdate_terminate h
    obtain ⟨hv, hm⟩ := hI.syn_head hw (.inr ht) hs
    rw [Active.isValidRemoteId_windowUpdate, hv] at hbad
    exact ⟨hr, hs, (hbad.resolve_left Bool.noConfusion).resolve_left hm, rfl⟩
  · rintro ⟨hr, hs, hf, rfl⟩
    exact Active.onWindowUpdate_full hr hs hf

/-- A client whose receive window is one above `DEFAULT_CREDIT` opens stream 1, which
sends a `SYN` window update, to a server whose table holds no stream: the server answers
it with the protocol-error `GoAway`. -/
theorem terminate_full_server :
    ∃ (L : Link) (f : Frame) (fs : List Frame), L.Reachable ∧ L.wire .left = f :: fs ∧
      f.header.flags.syn = true ∧ ((L.engine Side.left.other).onWindowUpdate f).1 = .terminate Frame.protocolError := by
  obtain ⟨r, a, h1, hp⟩ : ∃ r a,
      ((Link.new { Config.default with receiveWindow := defaultCredit + 1, defaultCredit_le := by decide }
        { Config.default with maxNumStreams := 0 }).engine .left).newOutbound = .ok (r, a) ∧
      a.pendingFrames = [Frame.new (Header.windowUpdate ⟨1⟩ 1).syn] := by
    refine ⟨_, _, rfl, ?_⟩; rfl
  obtain ⟨L, hL, hw, hfull⟩ : ∃ L : Link, L.Reachable ∧ L.wire .left = [Frame.new (Header.windowUpdate ⟨1⟩ 1).syn] ∧
      (L.engine Side.left.other).streams.entries.length = (L.engine Side.left.other).config.maxNumStreams :=
    ⟨_, ⟨_, _, .tail (.single (Step.local (i := .left) (.newOutbound h1)))
      (Step.send (i := .left) (by rw [setEngine_self]; exact hp : _ = [_]))⟩, rfl, rfl⟩
  exact ⟨_, _, _, hL, hw, rfl, ((terminate_iff_full hL hw Frame.protocolError).2 rfl).2 ⟨rfl, rfl, hfull, rfl⟩⟩

end Link

end Yamux
