import Yamux.Proof.Closing
import Yamux.Proof.Invariant

/-!
# The loops of `poll` end

`Active::poll` and `Closing::poll` are `loop`s that go round until a pass returns; the
model runs each on fuel (`pollLoop`). The fuel each `poll` passes is enough, so the model
answers as the code does.

* `poll_ends`: every pass of `Active::poll` that goes round again uses up an answer of the
  socket or a queued command (`pollPass_lowers`), so within the fuel `poll` passes the loop
  ends as the unbounded loop does (`Ends`), and more fuel changes nothing.
* `poll_pending_idle`: `Active::poll` answers `Pending` only from a pass in which the
  socket's `poll_next` answered `Pending`, the channel held no command, and the socket was
  not ready for a frame or none was left to write. The comment at the end of the loop,
  that one of the sources has registered a waker, holds: the socket's read side always has.
* `poll_opened`: a stream `Active::poll` returns was opened by a frame of the remote: the
  table `poll` leaves files it under its id, which has the remote's parity.
* `poll_fifo`: `Active::poll` hands frames to `start_send` in the order they were queued,
  none lost or written twice.
* `poll_error`: `Active::poll` fails only with `Closed` or an error the socket answered to
  a write, a flush or a read.
* `Closing.poll_finishes`: the same for the graceful close, whose passes use up queued
  commands, answers of `poll_ready` and its five states in order.
-/

namespace Yamux

/-- Each call on the socket uses up answers of its own kind only. -/
@[simp] theorem Socket.startSend_ready (s : Socket) (f : Frame) : (s.startSend f).2.ready = s.ready := by
  unfold Socket.startSend; split <;> rfl

@[simp] theorem Socket.startSend_inbound (s : Socket) (f : Frame) : (s.startSend f).2.inbound = s.inbound := by
  unfold Socket.startSend; split <;> rfl

@[simp] theorem Socket.pollFlush_ready (s : Socket) : s.pollFlush.2.ready = s.ready := by
  unfold Socket.pollFlush; split <;> rfl

@[simp] theorem Socket.pollFlush_inbound (s : Socket) : s.pollFlush.2.inbound = s.inbound := by
  unfold Socket.pollFlush; split <;> rfl

@[simp] theorem Socket.pollFlush_sent (s : Socket) : s.pollFlush.2.sent = s.sent := by
  unfold Socket.pollFlush; split <;> rfl

@[simp] theorem Socket.pollNext_sent (s : Socket) : s.pollNext.2.sent = s.sent := by
  unfold Socket.pollNext; split <;> rfl

/-- The socket still has the I/O error `e` to report: on a write, a flush or a read. -/
def Socket.Reports (s : Socket) (e : ConnectionError) : Prop :=
  .error e ∈ s.send ∨ .ready (.error e) ∈ s.flush ∨ .ready (some (.error e)) ∈ s.inbound

/-- The errors `s'` still has to report are among those of `s`. -/
def Socket.Within (s' s : Socket) : Prop := ∀ e, s'.Reports e → s.Reports e

theorem Socket.Within.trans {s s' s'' : Socket} (h : s''.Within s') (h' : s'.Within s) : s''.Within s :=
  fun e he => h' e (h e he)

theorem Socket.within_refl (s : Socket) : s.Within s := fun _ => id

/-- Each call on the socket uses up the answer it gives, and an error it gives is one the
socket had to report. -/
theorem Socket.pollReady_within (s : Socket) : s.pollReady.2.Within s := by
  unfold Socket.pollReady; split <;> exact fun _ => id

theorem Socket.startSend_within (s : Socket) (f : Frame) :
    (s.startSend f).2.Within s ∧ ∀ e, (s.startSend f).1 = .error e → s.Reports e := by
  unfold Socket.startSend Socket.Reports
  split <;> rename_i h
  · refine ⟨fun e => ?_, fun e he => .inl (by rw [h, ← he]; exact List.mem_cons_self _ _)⟩
    simp only [Socket.Reports, h]; exact Or.imp_left (List.mem_cons_of_mem _)
  · exact ⟨fun _ => id, fun _ he => nomatch he⟩

theorem Socket.pollFlush_within (s : Socket) :
    s.pollFlush.2.Within s ∧ ∀ e, s.pollFlush.1 = .ready (.error e) → s.Reports e := by
  unfold Socket.pollFlush Socket.Reports
  split <;> rename_i h
  · refine ⟨fun e => ?_, fun e he => .inr (.inl (by rw [h, ← he]; exact List.mem_cons_self _ _))⟩
    simp only [Socket.Reports, h]; exact Or.imp_right (Or.imp_left (List.mem_cons_of_mem _))
  · exact ⟨fun _ => id, fun _ he => nomatch he⟩

theorem Socket.pollNext_within (s : Socket) :
    s.pollNext.2.Within s ∧ ∀ e, s.pollNext.1 = .ready (some (.error e)) → s.Reports e := by
  unfold Socket.pollNext Socket.Reports
  split <;> rename_i h
  · refine ⟨fun e => ?_, fun e he => .inr (.inr (by rw [h, ← he]; exact List.mem_cons_self _ _))⟩
    simp only [Socket.Reports, h]; exact Or.imp_right (Or.imp_right (List.mem_cons_of_mem _))
  · exact ⟨fun _ => id, fun _ he => nomatch he⟩

namespace Active

variable {a a' b : Active}

/-! ## What a pass uses up -/

/-- What the loop of `Active::poll` can still use up: the answers the socket has yet to
give to `poll_ready` and `poll_next`, and the commands in the channel. -/
def budget (a : Active) : Nat :=
  a.socket.ready.length + a.streamReceiver.queue.length + a.socket.inbound.length

/-- A stage's result against a budget `n`: going round again leaves less than `n`,
handing on leaves at most `n`, and a return is a ready answer. -/
def Next.Lowers (n : Nat) : Next → Prop
  | .again a => a.budget < n
  | .next a => a.budget ≤ n
  | .ret r _ => r ≠ .pending

theorem Next.Lowers.mono {x : Next} {n m : Nat} (h : x.Lowers n) (hm : n ≤ m) : x.Lowers m := by
  cases x with
  | again a => exact Nat.lt_of_lt_of_le h hm
  | next a => exact Nat.le_trans h hm
  | ret => exact h

theorem Next.Lowers.andThen {x : Next} {n : Nat} {k : Active → Next} (h : x.Lowers n)
    (hk : ∀ a, (k a).Lowers a.budget) : (x.andThen k).Lowers n := by
  cases x with
  | next a => exact (hk a).mono h
  | _ => exact h

/-- The handlers of received frames touch neither the socket, the command channel nor the
pending frames; the action they return carries their frames. -/
theorem resetStream_io (id : StreamId) :
    (a.resetStream id).socket = a.socket ∧ (a.resetStream id).streamReceiver = a.streamReceiver ∧
      (a.resetStream id).pendingFrames = a.pendingFrames := by
  unfold resetStream; split <;> exact ⟨rfl, rfl, rfl⟩

theorem onData_io (f : Frame) :
    (a.onData f).2.socket = a.socket ∧ (a.onData f).2.streamReceiver = a.streamReceiver ∧
      (a.onData f).2.pendingFrames = a.pendingFrames := by
  rcases onData_arms (a := a) f with ⟨-, e⟩ | ⟨-, -, -, e⟩ | ⟨-, -, -, -, -, ⟨-, e⟩ | ⟨-, e⟩⟩ |
    ⟨-, -, r, -, e⟩ | ⟨-, -, -, e⟩ <;> rw [e]
  · exact resetStream_io _
  · exact ⟨rfl, rfl, rfl⟩
  · exact ⟨rfl, rfl, rfl⟩
  · obtain ⟨_, _, -, e', -⟩ := onDataSyn_eq (a := a) f
    rw [e']; exact ⟨rfl, rfl, rfl⟩
  · rcases onDataKnown_cases (a := a) f r with ⟨-, e'⟩ | ⟨-, -, e'⟩ | ⟨-, -, _, _, e', -⟩ <;>
      rw [e'] <;> exact ⟨rfl, rfl, rfl⟩
  · exact ⟨rfl, rfl, rfl⟩

theorem onWindowUpdate_io (f : Frame) :
    (a.onWindowUpdate f).2.socket = a.socket ∧
      (a.onWindowUpdate f).2.streamReceiver = a.streamReceiver ∧
      (a.onWindowUpdate f).2.pendingFrames = a.pendingFrames := by
  rcases onWindowUpdate_arms (a := a) f with ⟨-, e⟩ | ⟨-, -, -, e⟩ | ⟨-, -, -, -, -, e⟩ |
    ⟨-, -, r, -, e⟩ | ⟨-, -, -, e⟩ <;> rw [e]
  · exact resetStream_io _
  · exact ⟨rfl, rfl, rfl⟩
  · obtain ⟨_, -, e', -⟩ := onWindowUpdateSyn_eq (a := a) f
    rw [e']; exact ⟨rfl, rfl, rfl⟩
  · rw [onWindowUpdateKnown_eq]; exact ⟨rfl, rfl, rfl⟩
  · exact ⟨rfl, rfl, rfl⟩

/-- `on_frame` touches neither the socket nor the command channel, and queues the frames
of its action after those already pending. -/
theorem onFrame_io (f : Frame) :
    (a.onFrame f).2.socket = a.socket ∧ (a.onFrame f).2.streamReceiver = a.streamReceiver ∧
      a.pendingFrames <+: (a.onFrame f).2.pendingFrames := by
  have hk : ∀ p : Action × Active, p.2.socket = a.socket ∧ p.2.streamReceiver = a.streamReceiver ∧
      p.2.pendingFrames = a.pendingFrames → (p.2.perform p.1).2.socket = a.socket ∧
        (p.2.perform p.1).2.streamReceiver = a.streamReceiver ∧
        a.pendingFrames <+: (p.2.perform p.1).2.pendingFrames := fun ⟨act, _⟩ ⟨h1, h2, h3⟩ => by
    rw [perform_eq]; exact ⟨h1, h2, h3 ▸ List.prefix_append _ _⟩
  unfold onFrame
  cases f.header.tag
  · exact hk _ (onData_io f)
  · exact hk _ (onWindowUpdate_io f)
  · exact hk (a.onPing f, a) ⟨rfl, rfl, rfl⟩
  · exact ⟨rfl, rfl, List.prefix_refl _⟩

theorem budget_garbageCollect (a : Active) : a.garbageCollect.budget = a.budget := rfl

theorem sendStage_lowers (a : Active) : (sendStage a).Lowers a.budget := by
  unfold sendStage Socket.pollReady
  cases h : a.socket.ready with
  | nil => exact Nat.le_refl _
  | cons r rs =>
    dsimp only
    split
    · split <;> simp [Next.Lowers, budget, h]
    · simp [Next.Lowers, budget, h]

theorem flushStage_lowers (a : Active) : (flushStage a).Lowers a.budget := by
  unfold flushStage
  dsimp only
  split <;> simp [Next.Lowers, budget]

@[simp] theorem onCommand_socket (a : Active) (c : StreamCommand) : (a.onCommand c).socket = a.socket := by
  cases c <;> rfl

theorem commandStage_lowers (a : Active) : (commandStage a).Lowers a.budget := by
  unfold commandStage Receiver.pollNext
  cases h : a.streamReceiver.queue with
  | nil =>
    dsimp only
    split
    · split at * <;> simp_all
    · simp [Next.Lowers, budget, h]
  | cons c q =>
    dsimp only
    simp [Next.Lowers, budget, h]

theorem frameStage_lowers (a : Active) : (frameStage a).Lowers a.budget := by
  unfold frameStage Socket.pollNext
  cases h : a.socket.inbound with
  | nil => exact Nat.le_refl _
  | cons r rs =>
    dsimp only
    split
    · rename_i f
      have hio := onFrame_io (a := { a with socket := { a.socket with inbound := rs } }) f
      revert hio
      generalize onFrame _ f = p
      obtain ⟨x, a2⟩ := p
      rintro ⟨h1, h2, -⟩
      dsimp only at h1 h2
      rcases x with e | (_ | s) <;> simp [Next.Lowers, budget, h, h1, h2]
    all_goals simp [Next.Lowers, budget, h]

/-- **Every pass that goes round again uses up an answer of the socket or a command.** -/
theorem pollPass_lowers (a : Active) : a.pollPass.Lowers a.budget :=
  (((sendStage_lowers a.garbageCollect).andThen flushStage_lowers).andThen commandStage_lowers).andThen
    frameStage_lowers

/-! ## The loop of `Active::poll` -/

/-- The loop of `Active::poll` with no bound on its passes: it goes round while a pass goes
round again, and ends at the first pass that returns or finds every source pending. -/
inductive Ends : Active → Poll (Except ConnectionError Stream) → Active → Prop
  | ret {a a' : Active} {r : Poll (Except ConnectionError Stream)} : a.pollPass = .ret r a' → Ends a r a'
  | idle {a a' : Active} : a.pollPass = .next a' → Ends a .pending a'
  | again {a b a' : Active} {r : Poll (Except ConnectionError Stream)} :
      a.pollPass = .again b → Ends b r a' → Ends a r a'

/-- The unbounded loop has one outcome. -/
theorem Ends.unique {r r' : Poll (Except ConnectionError Stream)} {a'' : Active} (h : Ends a r a')
    (h' : Ends a r' a'') : r = r' ∧ a' = a'' := by
  induction h with
  | ret hp | idle hp =>
    rcases h' with ⟨hp'⟩ | ⟨hp'⟩ | ⟨hp', -⟩ <;> rw [hp] at hp' <;> cases hp'
    exact ⟨rfl, rfl⟩
  | again hp _ ih =>
    rcases h' with ⟨hp'⟩ | ⟨hp'⟩ | ⟨hp', h'⟩ <;> rw [hp] at hp' <;> cases hp'
    exact ih h'

theorem pollLoop_ends {n : Nat} (h : a.budget < n) : Ends a (a.pollLoop n).1 (a.pollLoop n).2 := by
  induction n generalizing a with
  | zero => omega
  | succ n ih =>
    have hl := pollPass_lowers a
    unfold pollLoop
    split <;> rename_i heq <;> rw [heq] at hl
    · exact .again heq (ih (by unfold Next.Lowers at hl; omega))
    · exact .ret heq
    · exact .idle heq

/-- **The fuel of `Active::poll` is enough.** `poll` answers as the loop of the code does,
with no bound on its passes, and so does `pollLoop` with any fuel beyond what the socket
and the channel still hold. -/
theorem poll_ends (a : Active) :
    Ends a a.poll.1 a.poll.2 ∧ ∀ n, a.budget < n → a.pollLoop n = a.poll := by
  have hp : Ends a a.poll.1 a.poll.2 := pollLoop_ends (Nat.lt_succ_self _)
  refine ⟨hp, fun n hn => ?_⟩
  obtain ⟨h1, h2⟩ := (pollLoop_ends hn).unique hp
  exact Prod.ext h1 h2

/-! ## When `Active::poll` answers `Pending` -/

theorem Next.andThen_next {x : Next} {k : Active → Next} (h : x.andThen k = .next a') :
    ∃ b, x = .next b ∧ k b = .next a' := by
  cases x with
  | next b => exact ⟨b, rfl, h⟩
  | _ => cases h

/-- The write stage hands on when the socket is not ready or nothing is pending, and leaves
the read side of the socket and the channel alone. -/
theorem sendStage_next (h : sendStage a = .next b) :
    (a.socket.pollReady.1 = .pending ∨ a.pendingFrames = []) ∧ b.socket.inbound = a.socket.inbound ∧
      b.streamReceiver = a.streamReceiver := by
  unfold sendStage at h
  revert h
  generalize hp : a.socket.pollReady = p
  obtain ⟨r, s1⟩ := p
  have hin : s1.inbound = a.socket.inbound := by
    unfold Socket.pollReady at hp; split at hp <;> cases hp <;> rfl
  cases r with
  | pending => intro h; cases h; exact ⟨.inl rfl, hin, rfl⟩
  | ready x =>
    cases hf : a.pendingFrames with
    | nil => intro h; cases h; exact ⟨.inr rfl, hin, rfl⟩
    | cons f fs => dsimp only; split <;> intro h <;> cases h

theorem flushStage_next (h : flushStage a = .next b) :
    b.socket.inbound = a.socket.inbound ∧ b.streamReceiver = a.streamReceiver := by
  unfold flushStage at h
  dsimp only at h
  split at h <;> cases h
  exact ⟨Socket.pollFlush_inbound _, rfl⟩

theorem commandStage_next (h : commandStage a = .next b) :
    (a.streamReceiver.pollNext.1 = .pending ∨ a.streamReceiver.pollNext.1 = .ready none) ∧
      b.socket = a.socket := by
  unfold commandStage at h
  dsimp only at h
  split at h
  · cases h
  · rename_i hne
    cases h
    refine ⟨?_, rfl⟩
    cases hq : a.streamReceiver.queue with
    | nil => simp only [Receiver.pollNext, hq]; split <;> simp
    | cons c q => simp [Receiver.pollNext, hq] at hne

theorem frameStage_next (h : frameStage a = .next b) : a.socket.pollNext.1 = .pending := by
  unfold frameStage at h
  dsimp only at h
  split at h
  · split at h <;> cases h
  · cases h
  · cases h
  · assumption

theorem Socket.pollNext_fst_congr {s s' : Socket} (h : s.inbound = s'.inbound) : s.pollNext.1 = s'.pollNext.1 := by
  unfold Socket.pollNext; rw [h]; split <;> rfl

/-- A pass that hands on past its last stage found every source pending: the socket's
`poll_next` answered `Pending`, the channel held no command, and the socket was not ready
for a frame or, once the table was collected, none was left to write. -/
theorem pollPass_idle (h : a.pollPass = .next a') :
    a.socket.pollNext.1 = .pending ∧
      (a.streamReceiver.pollNext.1 = .pending ∨ a.streamReceiver.pollNext.1 = .ready none) ∧
      (a.socket.pollReady.1 = .pending ∨ a.garbageCollect.pendingFrames = []) := by
  obtain ⟨b3, h3, h4⟩ := Next.andThen_next h
  obtain ⟨b2, h2, h3⟩ := Next.andThen_next h3
  obtain ⟨b1, h1, h2⟩ := Next.andThen_next h2
  obtain ⟨hw, hi1, hr1⟩ := sendStage_next h1
  obtain ⟨hi2, hr2⟩ := flushStage_next h2
  obtain ⟨hc, hs3⟩ := commandStage_next h3
  refine ⟨?_, by rwa [hr2, hr1] at hc, hw⟩
  rw [← frameStage_next h4, hs3]
  exact Socket.pollNext_fst_congr (hi1.symm.trans hi2.symm)

/-- `b` is where the loop of `Active::poll` stands after passes that all went round again. -/
def Rounds (a b : Active) : Prop := Relation.ReflTransGen (fun x y : Active => x.pollPass = .again y) a b

theorem Ends.pending (h : Ends a .pending a') : ∃ b, Rounds a b ∧ b.pollPass = .next a' := by
  generalize hr : (Poll.pending : Poll (Except ConnectionError Stream)) = r at h
  induction h with
  | @ret b _ _ hp =>
    have hl := pollPass_lowers b
    rw [hp] at hl
    exact absurd hr.symm hl
  | idle hp => exact ⟨_, .refl, hp⟩
  | again hp _ ih =>
    obtain ⟨b, hb, hb'⟩ := ih hr
    exact ⟨b, .head hp hb, hb'⟩

/-- **`Active::poll` answers `Pending` only when every source is pending.** The loop went
round to a pass in which the socket's `poll_next` answered `Pending`, the channel held no
command (or had ended, which a release build lets pass), and the socket was not ready for
a frame or no frame was left to write. So the comment at the end of the loop holds, and
more: the read side of the socket has always registered a waker. -/
theorem poll_pending_idle (a : Active) (h : a.poll.1 = .pending) :
    ∃ b, Rounds a b ∧ b.pollPass = .next a.poll.2 ∧ b.socket.pollNext.1 = .pending ∧
      (b.streamReceiver.pollNext.1 = .pending ∨ b.streamReceiver.pollNext.1 = .ready none) ∧
      (b.socket.pollReady.1 = .pending ∨ b.garbageCollect.pendingFrames = []) := by
  have he : Ends a .pending a.poll.2 := h ▸ pollLoop_ends (Nat.lt_succ_self _)
  obtain ⟨b, hb, hp⟩ := he.pending
  exact ⟨b, hb, hp, pollPass_idle hp⟩

/-- A fresh client over a silent socket answers `Pending` from its first pass. -/
theorem poll_new_pending :
    (Active.new Socket.idle Config.default .client).poll.1 = .pending ∧
    ∃ b, Rounds (Active.new Socket.idle Config.default .client) b ∧
      b.pollPass = .next (Active.new Socket.idle Config.default .client).poll.2 ∧ b.socket.pollNext.1 = .pending ∧
      (b.streamReceiver.pollNext.1 = .pending ∨ b.streamReceiver.pollNext.1 = .ready none) ∧
      (b.socket.pollReady.1 = .pending ∨ b.garbageCollect.pendingFrames = []) :=
  ⟨rfl, poll_pending_idle _ rfl⟩

/-! ## What `Active::poll` hands out -/

/-- A stream `on_frame` hands out was opened by the remote: it is filed in the table under
its id, which has the remote's parity. -/
theorem onFrame_opened {f : Frame} {s : Stream} (h : a.onFrame f = (.ok (some s), a')) :
    a'.streams.lookup s.id = some s ∧ a'.mode = a.mode ∧ a.mode.isLocal s.id = false := by
  obtain ⟨hm, -, hst⟩ := onFrame_inserts h
  have hk : a'.streams.keys = s.id :: a.streams.keys := by rw [hst]; exact keys_insert_of_not_mem s hm
  have hl : a'.streams.lookup s.id = some s := by rw [hst]; exact AList.lookup_insert _
  rcases onFrame_cases (a := a) f with hc | hc <;> rw [h] at hc
  · exact absurd (hc.mem.1 (AList.mem_keys.2 (hk ▸ List.mem_cons_self _ _))) hm
  · have hid : s.id = f.header.streamId := (List.cons.inj (hk.symm.trans hc.keys)).1
    exact ⟨hl, hc.mode, hid ▸ hc.remote⟩

/-- A stage's result, if it returns a stream, returns one the remote opened. -/
def Next.Hands : Next → Prop
  | .ret (.ready (.ok s)) a => a.streams.lookup s.id = some s ∧ a.mode.isLocal s.id = false
  | _ => True

theorem Next.Hands.andThen {x : Next} {k : Active → Next} (h : x.Hands) (hk : ∀ a, (k a).Hands) :
    (x.andThen k).Hands := by
  cases x with
  | next a => exact hk a
  | _ => exact h

theorem sendStage_hands (a : Active) : (sendStage a).Hands := by
  unfold sendStage; dsimp only
  split
  · split <;> trivial
  · trivial

theorem flushStage_hands (a : Active) : (flushStage a).Hands := by
  unfold flushStage; dsimp only
  split <;> trivial

theorem commandStage_hands (a : Active) : (commandStage a).Hands := by
  unfold commandStage; dsimp only
  split <;> trivial

theorem frameStage_hands (a : Active) : (frameStage a).Hands := by
  unfold frameStage; dsimp only
  split
  · split
    · rename_i heq
      obtain ⟨hl, hm, hr⟩ := onFrame_opened heq
      exact ⟨hl, hm ▸ hr⟩
    all_goals trivial
  all_goals trivial

theorem pollPass_hands (a : Active) : a.pollPass.Hands :=
  (((sendStage_hands a.garbageCollect).andThen flushStage_hands).andThen commandStage_hands).andThen
    frameStage_hands

theorem pollPass_mode (a : Active) : a.pollPass.state.mode = a.mode := by
  have h := pollPass_steps a
  generalize a.pollPass.state = b at h
  induction h with
  | refl => rfl
  | tail _ hs ih => exact hs.mode.trans ih

theorem Ends.opened {s : Stream} (h : Ends a (.ready (.ok s)) a') :
    a'.streams.lookup s.id = some s ∧ a.mode.isLocal s.id = false := by
  generalize hr : (Poll.ready (.ok s) : Poll (Except ConnectionError Stream)) = r at h
  induction h with
  | @ret b _ _ hp =>
    subst hr
    have hh := pollPass_hands b
    have hm := pollPass_mode b
    rw [hp] at hh hm
    exact ⟨hh.1, hm ▸ hh.2⟩
  | idle => cases hr
  | @again b c _ _ hp _ ih =>
    have hm := pollPass_mode b
    rw [hp] at hm
    exact ⟨(ih hr).1, hm ▸ (ih hr).2⟩

/-- **`Active::poll` hands out only streams the remote opened.** A stream `poll` returns
is filed in the table `poll` leaves under the stream's id, and that id has the remote's
parity: `poll` never returns a stream of the engine's own numbering. -/
theorem poll_opened {s : Stream} (h : a.poll.1 = .ready (.ok s)) :
    a.poll.2.streams.lookup s.id = some s ∧ a.mode.isLocal s.id = false :=
  Ends.opened (h ▸ pollLoop_ends (Nat.lt_succ_self _))

/-- A server whose socket delivers a `SYN` data frame of stream 1 hands out stream 1. -/
theorem poll_opened_server :
    ∃ s : Stream, (Active.new { Socket.idle with inbound := [.ready (some (.ok ⟨(Header.data ⟨1⟩ 1).syn, [7]⟩))] }
        Config.default .server).poll.1 = .ready (.ok s) ∧
      (Active.new { Socket.idle with inbound := [.ready (some (.ok ⟨(Header.data ⟨1⟩ 1).syn, [7]⟩))] }
        Config.default .server).poll.2.streams.lookup s.id = some s ∧
      (Active.new { Socket.idle with inbound := [.ready (some (.ok ⟨(Header.data ⟨1⟩ 1).syn, [7]⟩))] }
        Config.default .server).mode.isLocal s.id = false := by
  obtain ⟨s, h⟩ : ∃ s : Stream, (Active.new { Socket.idle with inbound := [.ready (some (.ok ⟨(Header.data ⟨1⟩ 1).syn, [7]⟩))] }
      Config.default .server).poll.1 = .ready (.ok s) := ⟨_, rfl⟩
  exact ⟨s, h, poll_opened h⟩

/-! ## What `Active::poll` writes -/

/-- The frames an engine has handed to `start_send`, oldest first, then those it still
holds in `pending_frames`. -/
def outbox (a : Active) : List Frame := a.socket.sent ++ a.pendingFrames

/-- `b` carries on from `a`'s writing: the frames handed to the socket, and those followed
by the frames still held, only grow at the end. -/
def Continues (a b : Active) : Prop := a.socket.sent <+: b.socket.sent ∧ a.outbox <+: b.outbox

theorem Continues.trans (h : Continues a b) (h' : Continues b a') : Continues a a' :=
  ⟨h.1.trans h'.1, h.2.trans h'.2⟩

/-- A move that hands nothing to the socket and appends to the pending frames. -/
theorem continues_of_queue (hs : b.socket.sent = a.socket.sent) (hp : a.pendingFrames <+: b.pendingFrames) :
    Continues a b := by
  refine ⟨hs ▸ List.prefix_refl _, ?_⟩
  unfold outbox
  rw [hs]
  exact (List.prefix_append_right_inj _).2 hp

theorem Continues.andThen {x : Next} {k : Active → Next} (h : Continues a x.state)
    (hk : ∀ b, Continues b (k b).state) : Continues a (x.andThen k).state := by
  cases x with
  | next b => exact h.trans (hk b)
  | _ => exact h

theorem sendStage_continues (a : Active) : Continues a (sendStage a).state := by
  unfold sendStage
  have hs := Socket.pollReady_sent a.socket
  generalize a.socket.pollReady = p at hs
  obtain ⟨r, s1⟩ := p
  dsimp only at hs ⊢
  split
  · rename_i f fs hf
    have hc : Continues a { a with socket := (s1.startSend f).2, pendingFrames := fs } := by
      refine ⟨?_, ?_⟩ <;> simp only [outbox, Socket.startSend_sent, hs, hf, List.append_assoc]
      · exact List.prefix_append _ _
      · exact List.prefix_refl _
    split <;> exact hc
  · exact continues_of_queue hs (List.prefix_refl _)

theorem flushStage_continues (a : Active) : Continues a (flushStage a).state := by
  unfold flushStage; dsimp only
  split <;> exact continues_of_queue (Socket.pollFlush_sent _) (List.prefix_refl _)

theorem commandStage_continues (a : Active) : Continues a (commandStage a).state := by
  unfold commandStage; dsimp only
  split
  · exact continues_of_queue (congrArg Socket.sent (onCommand_socket _ _))
      (by rw [Next.state, onCommand_pendingFrames]; exact List.prefix_append _ _)
  · exact continues_of_queue rfl (List.prefix_refl _)

theorem frameStage_continues (a : Active) : Continues a (frameStage a).state := by
  unfold frameStage
  have hs := Socket.pollNext_sent a.socket
  generalize a.socket.pollNext = p at hs
  obtain ⟨x, s1⟩ := p
  dsimp only at hs ⊢
  split
  · rename_i f
    obtain ⟨h1, -, h3⟩ := onFrame_io (a := { a with socket := s1 }) f
    have hc : Continues a (onFrame { a with socket := s1 } f).2 := continues_of_queue (by rw [h1]; exact hs) h3
    revert hc
    generalize onFrame _ f = q
    obtain ⟨y, a2⟩ := q
    rcases y with _ | (_ | _) <;> exact id
  all_goals exact continues_of_queue hs (List.prefix_refl _)

theorem pollPass_continues (a : Active) : Continues a a.pollPass.state :=
  (continues_of_queue rfl ⟨_, rfl⟩ : Continues a a.garbageCollect).trans
    ((((sendStage_continues _).andThen flushStage_continues).andThen commandStage_continues).andThen
      frameStage_continues)

theorem pollLoop_continues (n : Nat) (a : Active) : Continues a (a.pollLoop n).2 := by
  induction n generalizing a with
  | zero => exact continues_of_queue rfl (List.prefix_refl _)
  | succ n ih =>
    have hc := pollPass_continues a
    unfold pollLoop
    split <;> rename_i heq <;> rw [heq] at hc
    · exact hc.trans (ih _)
    · exact hc
    · exact hc

/-- **`Active::poll` writes frames in the order it queued them.** What a call hands to
`start_send` extends what the socket had been handed, and those frames followed by the
frames still pending extend the frames handed and pending before the call. So the frames
`poll` writes are the oldest pending ones, in order, none lost or written twice, and the
frames it queues while it runs go after all of them. -/
theorem poll_fifo (a : Active) :
    a.socket.sent <+: a.poll.2.socket.sent ∧
      a.socket.sent ++ a.pendingFrames <+: a.poll.2.socket.sent ++ a.poll.2.pendingFrames :=
  pollLoop_continues _ a

/-! ## Where the errors of `Active::poll` come from -/

/-- A stage's result against the socket `s` it started from: an error it returns is
`Closed` or one `s` had to report, and a stage that carries on leaves a socket with no
error to report that `s` did not have. -/
def Next.Blames (s : Socket) : Next → Prop
  | .ret (.ready (.error e)) _ => e = .closed ∨ s.Reports e
  | .ret _ _ => True
  | .again b | .next b => b.socket.Within s

theorem Next.Blames.mono {x : Next} {s s' : Socket} (h : x.Blames s') (hs : s'.Within s) : x.Blames s := by
  cases x with
  | again b | next b => exact Socket.Within.trans h hs
  | ret r b =>
    rcases r with (e | _) | _
    · exact h.imp_right (hs _)
    · trivial
    · trivial

theorem Next.Blames.andThen {x : Next} {s : Socket} {k : Active → Next} (h : x.Blames s)
    (hk : ∀ b, (k b).Blames b.socket) : (x.andThen k).Blames s := by
  cases x with
  | next b => exact (hk b).mono h
  | _ => exact h

/-- `on_frame` fails only on a `GoAway`, with `Closed`. -/
theorem onFrame_error {f : Frame} {e : ConnectionError} (h : (a.onFrame f).1 = .error e) : e = .closed := by
  cases hf : f.header.tag <;> simp only [onFrame, hf, reduceCtorEq, Except.error.injEq] at h
  exact h.symm

theorem sendStage_blames (a : Active) : (sendStage a).Blames a.socket := by
  unfold sendStage
  have h1 := Socket.pollReady_within a.socket
  generalize a.socket.pollReady = p at h1
  obtain ⟨r, s1⟩ := p
  dsimp only at h1 ⊢
  split
  · rename_i f fs _
    obtain ⟨h2, he⟩ := s1.startSend_within f
    generalize s1.startSend f = q at h2 he
    obtain ⟨x, s2⟩ := q
    cases x
    · exact .inr (h1 _ (he _ rfl))
    · exact Socket.Within.trans h2 h1
  · exact h1

theorem flushStage_blames (a : Active) : (flushStage a).Blames a.socket := by
  unfold flushStage
  obtain ⟨h1, he⟩ := a.socket.pollFlush_within
  generalize a.socket.pollFlush = p at h1 he
  obtain ⟨r, s1⟩ := p
  dsimp only at h1 he ⊢
  split
  · exact .inr (he _ rfl)
  · exact h1

theorem commandStage_blames (a : Active) : (commandStage a).Blames a.socket := by
  unfold commandStage; dsimp only
  split
  · exact fun e he => by rwa [onCommand_socket] at he
  · exact Socket.within_refl _

theorem frameStage_blames (a : Active) : (frameStage a).Blames a.socket := by
  unfold frameStage
  obtain ⟨h1, he⟩ := a.socket.pollNext_within
  generalize a.socket.pollNext = p at h1 he
  obtain ⟨x, s1⟩ := p
  dsimp only at h1 he ⊢
  split
  · rename_i f
    have hs := (onFrame_io (a := { a with socket := s1 }) f).1
    have herr : ∀ e, (onFrame { a with socket := s1 } f).1 = .error e → e = .closed := fun _ h => onFrame_error h
    revert hs herr
    generalize onFrame _ f = q
    obtain ⟨y, a2⟩ := q
    rintro hs herr
    dsimp only at hs herr
    rcases y with e | (_ | _)
    · exact .inl (herr _ rfl)
    · show a2.socket.Within a.socket
      rw [hs]; exact h1
    · trivial
  · exact .inr (he _ rfl)
  · exact .inl rfl
  · exact h1

theorem pollPass_blames (a : Active) : a.pollPass.Blames a.socket :=
  (((sendStage_blames a.garbageCollect).andThen flushStage_blames).andThen commandStage_blames).andThen
    frameStage_blames

theorem pollLoop_error {n : Nat} {e : ConnectionError} (h : (a.pollLoop n).1 = .ready (.error e)) :
    e = .closed ∨ a.socket.Reports e := by
  induction n generalizing a with
  | zero => cases h
  | succ n ih =>
    have hb := pollPass_blames a
    unfold pollLoop at h
    split at h <;> rename_i heq <;> rw [heq] at hb
    · exact (ih h).imp_right (hb e)
    · cases h; exact hb
    · cases h

/-- **`Active::poll` fails only with `Closed` or an error of the socket.** An error `poll`
returns is `Closed` (the end of the socket's stream or a `GoAway` received) or an I/O or
decoding error the socket answered to a write, a flush or a read. The engine adds no error
of its own; an error answered to `poll_ready` is not returned, the loop asking only
whether the socket is ready. -/
theorem poll_error {e : ConnectionError} (h : a.poll.1 = .ready (.error e)) :
    e = .closed ∨ .error e ∈ a.socket.send ∨ .ready (.error e) ∈ a.socket.flush ∨
      .ready (some (.error e)) ∈ a.socket.inbound :=
  pollLoop_error h

/-- A server whose socket answers its first read with a decoding error fails with it. -/
theorem poll_error_decode :
    (Active.new { Socket.idle with inbound := [.ready (some (.error .decode))] } Config.default .server).poll.1 =
      .ready (.error .decode) ∧
    (ConnectionError.decode = .closed ∨
      .error .decode ∈ ({ Socket.idle with inbound := [.ready (some (.error .decode))] } : Socket).send ∨
      .ready (.error .decode) ∈ ({ Socket.idle with inbound := [.ready (some (.error .decode))] } : Socket).flush ∨
      .ready (some (.error .decode)) ∈ ({ Socket.idle with inbound := [.ready (some (.error .decode))] } : Socket).inbound) :=
  ⟨rfl, poll_error (a := Active.new { Socket.idle with inbound := [.ready (some (.error .decode))] }
    Config.default .server) rfl⟩

end Active

/-! ## The loop of `Closing::poll` -/

/-- How many states of `Closing` are still ahead. -/
def ClosingState.rank : ClosingState → Nat
  | .closingStreamReceiver => 4
  | .drainingStreamReceiver => 3
  | .sendingTermFrame => 2
  | .flushingPendingFrames => 1
  | .closingSocket => 0

theorem ClosingState.rank_le (s : ClosingState) : s.rank ≤ 4 := by
  cases s <;> decide

namespace Closing

variable {c c' d : Closing}

/-- What the loop of `Closing::poll` can still use up: the queued commands, the answers the
socket has yet to give to `poll_ready`, and the states still ahead. -/
def budget (c : Closing) : Nat := c.streamReceiver.queue.length + c.socket.ready.length + c.state.rank

/-- **Every pass of `Closing::poll` that goes round again uses up a command, an answer of
`poll_ready` or a state.** -/
theorem pass_budget (h : c.pass = .again d) : d.budget < c.budget := by
  unfold pass at h
  cases hs : c.state <;> simp only [hs] at h
  · cases h; simp [budget, hs, ClosingState.rank, Receiver.close]
  · unfold Receiver.pollNext at h
    cases hq : c.streamReceiver.queue with
    | nil => simp [Receiver.close, hq] at h; cases h; simp [budget, hs, hq, ClosingState.rank]
    | cons x q =>
      simp only [Receiver.close, hq] at h
      cases x <;> cases h <;> simp [budget, hs, hq, ClosingState.rank]
  · cases h; simp [budget, hs, ClosingState.rank]
  · unfold Socket.pollReady at h
    cases hr : c.socket.ready with
    | nil => simp [hr] at h
    | cons r rs =>
      simp only [hr] at h
      split at h
      · cases h
      · cases h
      · split at h
        · split at h <;> cases h
          simp [budget, hs, hr]
        · cases h; simp only [budget, hs, hr, ClosingState.rank, List.length_cons]; omega
  · split at h <;> cases h

/-- The loop of `Closing::poll` with no bound on its passes. -/
inductive Ends : Closing → Poll (Except ConnectionError Unit) → Closing → Prop
  | ret {c c' : Closing} {r : Poll (Except ConnectionError Unit)} : c.pass = .ret r c' → Ends c r c'
  | again {c d c' : Closing} {r : Poll (Except ConnectionError Unit)} :
      c.pass = .again d → Ends d r c' → Ends c r c'

theorem Ends.unique {r r' : Poll (Except ConnectionError Unit)} {c'' : Closing} (h : Ends c r c')
    (h' : Ends c r' c'') : r = r' ∧ c' = c'' := by
  induction h with
  | ret hp =>
    rcases h' with ⟨hp'⟩ | ⟨hp', -⟩ <;> rw [hp] at hp' <;> cases hp'
    exact ⟨rfl, rfl⟩
  | again hp _ ih =>
    rcases h' with ⟨hp'⟩ | ⟨hp', h'⟩ <;> rw [hp] at hp' <;> cases hp'
    exact ih h'

theorem pollLoop_ends {n : Nat} (h : c.budget < n) : Ends c (c.pollLoop n).1 (c.pollLoop n).2 := by
  induction n generalizing c with
  | zero => omega
  | succ n ih =>
    unfold pollLoop
    split <;> rename_i heq
    · exact .again heq (ih (Nat.lt_of_lt_of_le (pass_budget heq) (Nat.le_of_lt_succ h)))
    · exact .ret heq

/-- **The fuel of `Closing::poll` is enough.** `poll` answers as the loop of `closing.rs`
does with no bound on its passes, and so does `pollLoop` with any fuel beyond what the
channel, the socket and the states ahead still hold. -/
theorem poll_finishes (c : Closing) :
    Ends c c.poll.1 c.poll.2 ∧ ∀ n, c.budget < n → c.pollLoop n = c.poll := by
  have hp : Ends c c.poll.1 c.poll.2 := pollLoop_ends (by
    unfold budget; have := c.state.rank_le; omega)
  refine ⟨hp, fun n hn => ?_⟩
  obtain ⟨h1, h2⟩ := (pollLoop_ends hn).unique hp
  exact Prod.ext h1 h2

end Closing

end Yamux
