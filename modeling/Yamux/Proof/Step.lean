import Mathlib.Logic.Relation
import Yamux.Proof.Table

/-!
# Runs of a live engine

`Step a a'` is one thing that can happen to a live engine between two looks at it:
one of the moves `Active::poll` makes (collect, write a pending frame, take a command,
take a frame), an outbound open, the socket changing its mind about its next answers,
or an action of a stream handle. A state is `Reachable` when a run of steps leads to
it from `Active::new`.

Steps may interleave in any order, more orders than one task running `poll` produces;
`pollLoop_steps` shows that each call of `Active::poll` is such a run, so what holds
of every reachable state holds of every state the code reaches.
-/

namespace Yamux

namespace Active

/-- One step of a live engine. -/
inductive Step : Active → Active → Prop
  | newOutbound {a a' : Active} {r : Except ConnectionError Stream} :
      a.newOutbound = .ok (r, a') → Step a a'
  | frame (a : Active) (f : Frame) : Step a (a.onFrame f).2
  | command {a : Active} {c : StreamCommand} {rx : Receiver} :
      a.streamReceiver.pollNext = (.ready (some c), rx) → Step a (onCommand { a with streamReceiver := rx } c)
  | collect (a : Active) : Step a a.garbageCollect
  | write {a : Active} {f : Frame} {fs : List Frame} :
      a.pendingFrames = f :: fs → Step a { a with pendingFrames := fs }
  | socket (a : Active) (s : Socket) : Step a { a with socket := s }
  | handleRead {a a' : Active} {id : StreamId} {w : Waker} {r : Poll (Option (List UInt8))} :
      a.read id w = some (r, a') → Step a a'
  | handleWrite {a a' : Active} {id : StreamId} {w : Waker} {data : List UInt8}
      {r : Poll (Except ConnectionError Nat)} : a.write id w data = some (r, a') → Step a a'
  | handleClose {a a' : Active} {id : StreamId} : a.closeStream id = some a' → Step a a'
  | handleDrop {a a' : Active} {id : StreamId} : a.dropHandle id = some a' → Step a a'

/-- The states a live engine reaches from `Active::new`. -/
def Reachable (a : Active) : Prop :=
  ∃ (socket : Socket) (cfg : Config) (mode : Mode),
    Relation.ReflTransGen Step (Active.new socket cfg mode) a

theorem Reachable.step {a a' : Active} (h : Reachable a) (hs : Step a a') : Reachable a' :=
  let ⟨s, c, m, hr⟩ := h
  ⟨s, c, m, hr.tail hs⟩

theorem Reachable.run {a a' : Active} (h : Reachable a) (hs : Relation.ReflTransGen Step a a') :
    Reachable a' :=
  let ⟨s, c, m, hr⟩ := h
  ⟨s, c, m, hr.trans hs⟩

theorem reachable_new (s : Socket) (cfg : Config) (mode : Mode) : Reachable (Active.new s cfg mode) :=
  ⟨s, cfg, mode, .refl⟩

/-- A property that every step keeps holds of every reachable state. -/
theorem Reachable.induction {P : Active → Prop} (hnew : ∀ s cfg mode, P (Active.new s cfg mode))
    (hstep : ∀ {a a'}, P a → Step a a' → P a') {a : Active} (h : Reachable a) : P a := by
  obtain ⟨s, c, m, hr⟩ := h
  induction hr with
  | refl => exact hnew s c m
  | tail _ hs ih => exact hstep ih hs

open Relation

variable {a : Active}

/-- The state a stage ends in. -/
def Next.state : Next → Active
  | .again a | .ret _ a | .next a => a

theorem steps_socket (a : Active) (s : Socket) : ReflTransGen Step a { a with socket := s } :=
  .single (.socket a s)

theorem sendStage_steps (a : Active) : ReflTransGen Step a (sendStage a).state := by
  unfold sendStage
  generalize a.socket.pollReady = p
  obtain ⟨ready, s1⟩ := p
  dsimp only
  split
  · rename_i hp
    generalize (Socket.startSend _ _) = q
    obtain ⟨r, s2⟩ := q
    have h : ReflTransGen Step a { a with socket := s2, pendingFrames := _ } :=
      ((steps_socket a s1).tail (.write hp)).tail (.socket _ s2)
    cases r <;> exact h
  · exact steps_socket a s1

theorem flushStage_steps (a : Active) : ReflTransGen Step a (flushStage a).state := by
  unfold flushStage
  generalize a.socket.pollFlush = p
  obtain ⟨r, s1⟩ := p
  dsimp only
  split <;> exact steps_socket a s1

theorem commandStage_steps (a : Active) : ReflTransGen Step a (commandStage a).state := by
  unfold commandStage
  generalize hp : a.streamReceiver.pollNext = p
  obtain ⟨cmd, rx⟩ := p
  dsimp only
  split
  · exact .single (.command hp)
  · rename_i hc
    unfold Receiver.pollNext at hp
    split at hp
    · cases hp; exact absurd rfl (hc _)
    · cases hp; exact .refl

theorem frameStage_steps (a : Active) : ReflTransGen Step a (frameStage a).state := by
  unfold frameStage
  generalize a.socket.pollNext = p
  obtain ⟨nx, s1⟩ := p
  dsimp only
  split
  · rename_i f
    have h := (steps_socket a s1).tail (.frame _ f)
    revert h
    generalize (onFrame _ f) = q
    obtain ⟨r, a2⟩ := q
    intro h
    split <;> simp_all [Next.state]
  all_goals exact steps_socket a s1

theorem andThen_steps {n : Next} {k : Active → Next} (h : ReflTransGen Step a n.state)
    (hk : ∀ a', ReflTransGen Step a' (k a').state) : ReflTransGen Step a (n.andThen k).state := by
  cases n with
  | next a' => exact h.trans (hk a')
  | _ => exact h

theorem pollPass_steps (a : Active) : ReflTransGen Step a a.pollPass.state :=
  andThen_steps (andThen_steps (andThen_steps
    ((ReflTransGen.single (.collect a)).trans (sendStage_steps _)) flushStage_steps)
    commandStage_steps) frameStage_steps

/-- **A call of `Active::poll` is a run of steps.** -/
theorem pollLoop_steps (n : Nat) (a : Active) : ReflTransGen Step a (a.pollLoop n).2 := by
  induction n generalizing a with
  | zero => exact .refl
  | succ n ih =>
    have h := pollPass_steps a
    unfold pollLoop
    split <;> rename_i heq <;> rw [heq] at h
    · exact h.trans (ih _)
    · exact h
    · exact h

theorem Reachable.poll (h : Reachable a) : Reachable a.poll.2 := h.run (pollLoop_steps _ a)

end Active

end Yamux
