import Yamux.Proof.Facade
import Yamux.Proof.Closing

/-!
# The facade drives the engine

A `Connection` is used by calls on its facade, and between the calls the stream handles
act on the live engine and the socket changes what it will answer (`Drive`). The facade
moves the engine it holds only by `new_outbound` and `Active::poll`, and the `Closing`
future it holds only by polls that leave it pending, so:

* `drive_reaches`: along any such run from `Connection::new`, the engine the facade holds
  is a reachable engine (`Active.Reachable`), and the `Closing` it holds is a graceful
  close run from `Active::close` of a reachable engine (`Closing.Step`). What is proved of
  every reachable engine and of every graceful close holds of what a `Connection` holds.
-/

namespace Yamux

namespace ConnectionState

open Relation

variable {c c' : ConnectionState} {x : Answer}

/-- What can happen to a connection: a call on the facade; between calls, while the engine
is live, a step of it (a handle acting on a stream, the socket changing what it will
answer, or any other); while it closes, a step of the close. -/
inductive Drive : ConnectionState → ConnectionState → Prop
  | call {c c' : ConnectionState} {x : Answer} : Call c x c' → Drive c c'
  | engine {a a' : Active} : Active.Step a a' → Drive (.active a) (.active a')
  | closing {cl cl' : Closing} : Closing.Step cl cl' → Drive (.closing cl) (.closing cl')

theorem closing_step_of_poll {cl cl' : Closing} (h : cl.poll = (.pending, cl')) : Closing.Step cl cl' := by
  have hs := Closing.Step.poll (c := cl) (by rw [h])
  rwa [h] at hs

/-- The `Cleanup` arms store `Cleanup` or `Closed`. -/
theorem newOutboundCleanup_state {cl : Cleanup} (h : (newOutboundCleanup cl).2 = c) :
    c = .closed ∨ ∃ cl', c = .cleanup cl' := by
  subst h; unfold newOutboundCleanup; split
  · exact .inl rfl
  · exact .inr ⟨_, rfl⟩

theorem nextInboundCleanup_state {cl : Cleanup} (h : (nextInboundCleanup cl).2 = c) :
    c = .closed ∨ ∃ cl', c = .cleanup cl' := by
  subst h; unfold nextInboundCleanup; split
  · exact .inl rfl
  · exact .inl rfl
  · exact .inr ⟨_, rfl⟩

/-- The three arms that poll a `Closing` store it back only when it answered `Pending`. -/
theorem newOutboundClosing_closing {cl cl' : Closing} (h : (newOutboundClosing cl).2 = .closing cl') :
    Closing.Step cl cl' := by
  unfold newOutboundClosing at h
  split at h <;> cases h
  exact closing_step_of_poll ‹_›

theorem closeClosing_closing {cl cl' : Closing} (h : (closeClosing cl).2 = .closing cl') :
    Closing.Step cl cl' := by
  unfold closeClosing at h
  split at h <;> cases h
  exact closing_step_of_poll ‹_›

/-- A call that stores a live engine found one, and moved it by steps. -/
theorem Call.to_active {a' : Active} (h : Call c x (.active a')) :
    ∃ a, c = .active a ∧ ReflTransGen Active.Step a a' := by
  cases c with
  | active a =>
    refine ⟨a, rfl, ?_⟩
    cases h with
    | newOutbound h =>
      rcases hn : a.newOutbound with _ | ⟨_ | _, a''⟩ <;>
        simp only [pollNewOutbound, hn, bind, Except.bind, pure, Except.pure, reduceCtorEq,
          Except.ok.injEq] at h
      · rcases newOutboundCleanup_state (congrArg Prod.snd h) with he | ⟨_, he⟩ <;> cases he
      · cases (Prod.mk.inj h).2; exact .single (.newOutbound hn)
    | nextInbound h =>
      have hs : ReflTransGen Active.Step a a.poll.2 := Active.pollLoop_steps _ a
      simp only [pollNextInbound] at h
      split at h <;> rename_i heq <;> rw [heq] at hs <;> simp only [pure, Except.pure, Except.ok.injEq] at h
      · cases (Prod.mk.inj h).2; exact hs
      · rcases nextInboundCleanup_state (congrArg Prod.snd h) with he | ⟨_, he⟩ <;> cases he
      · cases (Prod.mk.inj h).2; exact hs
    | close h =>
      have he := closeClosing_inactive a.close
      rw [show (closeClosing a.close).2 = .active a' from congrArg Prod.snd (Except.ok.inj h)] at he
      cases he
  | _ => exact absurd (h.inactive rfl).2 (by simp [isActive])

/-- A call that stores a `Closing` polled it, or the engine's close, to `Pending`. -/
theorem Call.to_closing {cl' : Closing} (h : Call c x (.closing cl')) :
    (∃ a, c = .active a ∧ Closing.Step a.close cl') ∨ ∃ cl, c = .closing cl ∧ Closing.Step cl cl' := by
  cases c with
  | active a =>
    refine .inl ⟨a, rfl, ?_⟩
    cases h with
    | newOutbound h =>
      rcases hn : a.newOutbound with _ | ⟨_ | _, a''⟩ <;>
        simp only [pollNewOutbound, hn, bind, Except.bind, pure, Except.pure, reduceCtorEq,
          Except.ok.injEq] at h
      · rcases newOutboundCleanup_state (congrArg Prod.snd h) with he | ⟨_, he⟩ <;> cases he
      · cases (Prod.mk.inj h).2
    | nextInbound h =>
      simp only [pollNextInbound] at h
      split at h <;> simp only [pure, Except.pure, Except.ok.injEq] at h
      · cases (Prod.mk.inj h).2
      · rcases nextInboundCleanup_state (congrArg Prod.snd h) with he | ⟨_, he⟩ <;> cases he
      · cases (Prod.mk.inj h).2
    | close h => exact closeClosing_closing (Prod.mk.inj (Except.ok.inj h)).2
  | closing cl =>
    refine .inr ⟨cl, rfl, ?_⟩
    cases h with
    | newOutbound h => exact newOutboundClosing_closing (Prod.mk.inj (Except.ok.inj h)).2
    | nextInbound h =>
      simp only [pollNextInbound] at h
      split at h <;> rename_i heq <;> simp only [pure, Except.pure, Except.ok.injEq] at h <;>
        cases (Prod.mk.inj h).2
      exact closing_step_of_poll heq
    | close h => exact closeClosing_closing (Prod.mk.inj (Except.ok.inj h)).2
  | cleanup cl =>
    cases h with
    | newOutbound h =>
      rcases newOutboundCleanup_state (congrArg Prod.snd (Except.ok.inj h)) with he | ⟨_, he⟩ <;> cases he
    | nextInbound h =>
      rcases nextInboundCleanup_state (congrArg Prod.snd (Except.ok.inj h)) with he | ⟨_, he⟩ <;> cases he
    | close h =>
      simp only [pollClose] at h
      split at h <;> simp only [pure, Except.pure, Except.ok.injEq] at h <;> cases (Prod.mk.inj h).2
  | closed => cases h <;> rename_i h <;> cases h
  | poisoned => cases h <;> rename_i h <;> cases h

/-- **What a connection holds is what the engine and the close reach.** Along any run of
calls on the facade from `Connection::new`, interleaved with steps of the live engine and
of the close, the engine the facade holds is a reachable engine, and a `Closing` it holds
is a graceful close run from `Active::close` of a reachable engine. -/
theorem drive_reaches {sock : Socket} {cfg : Config} {mode : Mode}
    (h : ReflTransGen Drive (ConnectionState.new sock cfg mode) c) :
    (∀ a : Active, c = .active a → a.Reachable) ∧
      ∀ cl, c = .closing cl → ∃ a : Active, a.Reachable ∧ ReflTransGen Closing.Step a.close cl := by
  induction h with
  | refl => exact ⟨fun a ha => by cases ha; exact Active.reachable_new sock cfg mode, fun _ h => nomatch h⟩
  | tail _ hd ih =>
    obtain ⟨hA, hC⟩ := ih
    cases hd with
    | call hc =>
      refine ⟨fun a ha => ?_, fun cl hcl => ?_⟩
      · subst ha
        obtain ⟨a₀, rfl, hr⟩ := hc.to_active
        exact (hA a₀ rfl).run hr
      · subst hcl
        rcases hc.to_closing with ⟨a₀, rfl, hs⟩ | ⟨cl₀, rfl, hs⟩
        · exact ⟨a₀, hA a₀ rfl, .single hs⟩
        · obtain ⟨a₀, ha₀, hr⟩ := hC cl₀ rfl
          exact ⟨a₀, ha₀, hr.tail hs⟩
    | engine hs =>
      exact ⟨fun a ha => by cases ha; exact (hA _ rfl).step hs, fun _ h => nomatch h⟩
    | closing hs =>
      refine ⟨fun _ h => (nomatch h), fun cl hcl => ?_⟩
      cases hcl
      obtain ⟨a₀, ha₀, hr⟩ := hC _ rfl
      exact ⟨a₀, ha₀, hr.tail hs⟩

/-- A client opens a stream, polls for an inbound one over a silent socket, and starts a
graceful close that waits for the socket: the `Closing` it holds is a close run from a
reachable engine. -/
theorem drive_open_poll_close :
    ∃ c, ReflTransGen Drive (ConnectionState.new Socket.idle Config.default .client) c ∧ (∃ cl, c = .closing cl) ∧
      (∀ a : Active, c = .active a → a.Reachable) ∧
      ∀ cl, c = .closing cl → ∃ a : Active, a.Reachable ∧ ReflTransGen Closing.Step a.close cl :=
  have h := ((ReflTransGen.single (Drive.call (c := .new Socket.idle Config.default .client)
    (Call.newOutbound rfl))).tail (Drive.call (Call.nextInbound rfl))).tail (Drive.call (Call.close rfl))
  ⟨_, h, ⟨_, rfl⟩, drive_reaches h⟩

end ConnectionState

end Yamux
