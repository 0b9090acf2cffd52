import Yamux.Proof.Account
import Yamux.Proof.Invariant

/-!
# The receive window of one engine

Whatever the remote sends, every record of a reachable engine keeps its window within the
receive window (`Reachable.windowOk`): the accounts of each step (`Law`) keep the record
they leave within it. With that bound, the two arms of `on_data` that buffer a body, the
`SYN` arm and the arm of a stream of the table, take the body off the window exactly,
their `saturating_sub` never clamping, and the credit of the window update they may send
brings the window up to the receive window at most, so the addition never wraps
(`onData_window_exact`).
-/

namespace Yamux

namespace Active

variable {a a' : Active} {f : Frame} {r r' : Stream}

theorem windowOk_new (sock : Socket) (cfg : Config) (mode : Mode) (s : StreamId) :
    WindowOk s (Active.new sock cfg mode) :=
  fun _ h => by cases h

/-- A step keeps every record within the receive window. -/
theorem windowOk_step (hi : IdsOk a) (hw : ∀ s, WindowOk s a) (hs : Step a a') (s : StreamId) :
    WindowOk s a' := by
  have hc := hs.config
  cases hs with
  | newOutbound h =>
    obtain ⟨E, hl, -⟩ := law_newOutbound (hw s) (nextId_not_mem hi) h
    exact hl.trans.windowOk hc
  | frame f =>
    obtain ⟨E, hl, -⟩ := law_onFrame (hw s) f
    exact hl.trans.windowOk hc
  | command h => exact (law_command (hw s) h).trans.windowOk hc
  | collect =>
    obtain ⟨E, hl, -⟩ := law_collect (hw s)
    exact hl.trans.windowOk hc
  | write => exact hw s
  | socket => exact hw s
  | handleRead h =>
    obtain ⟨E, hl, -⟩ := law_read (hw s) h
    exact hl.trans.windowOk hc
  | handleWrite h =>
    obtain ⟨E, hl, -⟩ := law_write (hw s) h
    exact hl.trans.windowOk hc
  | handleClose h =>
    obtain ⟨E, hl, -⟩ := law_closeStream (hw s) h
    exact hl.trans.windowOk hc
  | handleDrop h => exact (law_dropHandle (hw s) h).trans.windowOk hc

/-- **Every record of a reachable engine keeps its window within the receive window.** -/
theorem Reachable.windowOk (h : Reachable a) (s : StreamId) : WindowOk s a :=
  (h.induction (P := fun a => IdsOk a ∧ ∀ s, WindowOk s a)
    (fun sock cfg mode => ⟨idsOk_new sock cfg mode, windowOk_new sock cfg mode⟩)
    (fun ⟨hi, hw⟩ hs => ⟨hi.step hs, windowOk_step hi hw hs⟩)).2 s

/-- The arm of `on_data` for a stream of the table, when it buffers the body: the body fits
the window, comes off it exactly, and the window update's credit, if any, brings the
window back to the receive window. -/
theorem onDataKnown_window (hw : WindowOk f.header.streamId a) (hr : a.streams.lookup f.header.streamId = some r)
    (hr' : (a.onDataKnown f r).2.streams.lookup f.header.streamId = some r')
    (hb : r'.shared.buffer = r.shared.buffer ++ [f.body]) :
    f.body.length ≤ r.window ∧
      r'.window = r.window - f.body.length + total (Frame.creditFor f.header.streamId) (a.onDataKnown f r).1.frames ∧
      r'.window ≤ a.config.receiveWindow.toNat := by
  have hrw : r.window ≤ a.config.receiveWindow.toNat := hw r hr
  rcases onDataKnown_cases (a := a) f r with ⟨-, e⟩ | ⟨-, -, e⟩ | ⟨hle, -, act, sh, e, -, -, -, hact⟩ <;>
    rw [e] at hr' ⊢
  · rw [hr] at hr'; cases hr'; exact absurd (congrArg List.length hb) (by simp)
  · rw [setShared_lookup_self hr] at hr'; cases hr'; exact absurd (congrArg List.length hb) (by simp)
  · rw [setShared_lookup_self hr] at hr'
    cases hr'
    have hsat := Frame.toNat_saturatingSub_bodyLen hle
    unfold Stream.window at hrw ⊢
    rcases hact with ⟨rfl, hwin⟩ | ⟨c, rfl, hu, hwin⟩
    · simp only [hwin, hsat, Action.frames, total_nil]; omega
    · obtain ⟨hc1, hc2⟩ := Shared.nextWindowUpdate_eq (by dsimp only; omega) hu
      dsimp only at hc1 hc2
      simp only [hwin, hc2, Action.frames, total_cons, total_nil, Frame.creditFor, Frame.windowUpdate,
        Frame.new, Header.windowUpdate, Header.credit, and_self, if_true]
      omega

/-- The `SYN` arm of `on_data` once its checks passed: the record it opens has the window
`DEFAULT_CREDIT` less the body, plus the credit of the window update, if any, which
brings it to the receive window. -/
theorem onDataSyn_window (hb : f.body.length ≤ defaultCredit.toNat)
    (hr' : (a.onDataSyn f).2.streams.lookup f.header.streamId = some r') :
    r'.window = defaultCredit.toNat - f.body.length + total (Frame.creditFor f.header.streamId) (a.onDataSyn f).1.frames ∧
      r'.window ≤ a.config.receiveWindow.toNat := by
  obtain ⟨s, u, -, e, -, -, -, -, -, -, hu⟩ := onDataSyn_eq (a := a) f
  rw [e] at hr' ⊢
  rw [AList.lookup_insert] at hr'
  cases hr'
  have hsat := Frame.toNat_saturatingSub_bodyLen hb
  have hrw := UInt32.le_iff_toNat_le.1 a.config.defaultCredit_le
  unfold Stream.window
  rcases hu with ⟨rfl, -, hwin⟩ | ⟨c, rfl, -, -, hn, hwin⟩
  · simp only [hwin, hsat, Action.frames, Option.toList, total_nil]; omega
  · obtain ⟨hc1, hc2⟩ := Shared.nextWindowUpdate_eq (by dsimp only [Shared.new]; omega) hn
    dsimp only [Shared.new] at hc1 hc2
    simp only [hwin, hc2, Action.frames, Option.toList, total_cons, total_nil, Frame.creditFor, Frame.new,
      Header.ack_tag, Header.ack_streamId, Header.ack_length, Header.windowUpdate, Header.credit, and_self,
      if_true]
    omega

/-- **The window of a reachable engine, across `on_data`.** Every record keeps its window
within the receive window. When `on_data` buffers the body of a frame on a record of the
table, the body fits the window the record had, comes off it exactly, and the window
ends that much lower plus the credit of the window update sent with it, if any, still
within the receive window, so the addition does not wrap. A record that the frame opens
gets `DEFAULT_CREDIT` less the body in the same way. -/
theorem onData_window_exact (h : a.Reachable) (f : Frame) :
    (∀ s, WindowOk s a) ∧
    (∀ r r', a.streams.lookup f.header.streamId = some r →
      (a.onData f).2.streams.lookup f.header.streamId = some r' →
      r'.shared.buffer = r.shared.buffer ++ [f.body] →
      f.body.length ≤ r.window ∧
        r'.window = r.window - f.body.length + total (Frame.creditFor f.header.streamId) (a.onData f).1.frames ∧
        r'.window ≤ a.config.receiveWindow.toNat) ∧
    (∀ r', a.streams.lookup f.header.streamId = none →
      (a.onData f).2.streams.lookup f.header.streamId = some r' →
      f.body.length ≤ defaultCredit.toNat ∧
        r'.window = defaultCredit.toNat - f.body.length + total (Frame.creditFor f.header.streamId) (a.onData f).1.frames ∧
        r'.window ≤ a.config.receiveWindow.toNat) := by
  refine ⟨h.windowOk, fun r r' hr hr' hb => ?_, fun r' hn hr' => ?_⟩
  · rcases onData_arms (a := a) f with ⟨-, e⟩ | ⟨-, -, -, e⟩ | ⟨-, -, -, -, hm, -⟩ | ⟨-, -, r₀, hr₀, e⟩ |
      ⟨-, -, hn, -⟩
    · rw [e] at hr'
      simp only [resetStream, hr, setShared_lookup_self hr, Option.some.injEq] at hr'
      subst hr'
      exact absurd (congrArg List.length hb) (by simp [Shared.takeWakers])
    · rw [e, hr] at hr'; cases hr'; exact absurd (congrArg List.length hb) (by simp)
    · exact absurd (AList.lookup_isSome.1 (by rw [hr]; rfl)) hm
    · rw [hr] at hr₀; cases hr₀
      rw [e] at hr' ⊢
      exact onDataKnown_window (h.windowOk _) hr hr' hb
    · rw [hr] at hn; cases hn
  · rcases onData_arms (a := a) f with ⟨-, e⟩ | ⟨-, -, -, e⟩ | ⟨-, -, -, hb, -, ⟨-, e⟩ | ⟨-, e⟩⟩ |
      ⟨-, -, r₀, hr₀, -⟩ | ⟨-, -, -, e⟩
    · rw [e] at hr'; simp only [resetStream, hn] at hr'; cases hr'
    · rw [e, hn] at hr'; cases hr'
    · rw [e, hn] at hr'; cases hr'
    · rw [e] at hr' ⊢; exact ⟨hb, onDataSyn_window hb hr'⟩
    · rw [hn] at hr₀; cases hr₀
    · rw [e, hn] at hr'; cases hr'

/-- A fresh server takes stream 1 with three bytes, then two more: the record's window
goes from 262141 to 262139, no window update being due. -/
theorem window_two_frames :
    (((Active.new Socket.idle Config.default .server).onFrame
        ⟨(Header.data ⟨1⟩ 3).syn, [1, 2, 3]⟩).2.onData ⟨Header.data ⟨1⟩ 2, [4, 5]⟩).2.streams.lookup ⟨1⟩ =
      some ⟨⟨1⟩, .ack, ⟨.open, 262139, 262144, [[1, 2, 3], [4, 5]], none, none⟩, 1⟩ ∧
    2 ≤ 262141 ∧ 262139 = 262141 - 2 + total (Frame.creditFor ⟨1⟩)
      (((Active.new Socket.idle Config.default .server).onFrame
        ⟨(Header.data ⟨1⟩ 3).syn, [1, 2, 3]⟩).2.onData ⟨Header.data ⟨1⟩ 2, [4, 5]⟩).1.frames ∧
    262139 ≤ 262144 :=
  ⟨by rfl, (onData_window_exact ((reachable_new Socket.idle Config.default .server).step
    (.frame _ ⟨(Header.data ⟨1⟩ 3).syn, [1, 2, 3]⟩)) ⟨Header.data ⟨1⟩ 2, [4, 5]⟩).2.1
    ⟨⟨1⟩, .ack, ⟨.open, 262141, 262144, [[1, 2, 3]], none, none⟩, 1⟩
    ⟨⟨1⟩, .ack, ⟨.open, 262139, 262144, [[1, 2, 3], [4, 5]], none, none⟩, 1⟩ (by rfl) (by rfl) (by rfl)⟩

end Active

end Yamux
