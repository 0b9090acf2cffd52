import Yamux.Proof.Invariant

/-!
# The connection facade

`Connection` keeps its state machine in `self.inner`. Each of its three operations
takes the state out, leaving `Poisoned` in its place (`std::mem::replace`), and stores
the next state back before it returns.

* `pollNewOutbound_ne_poisoned`, `pollNextInbound_ne_poisoned`: these two store back a
  state other than `Poisoned` whatever the engine and the futures answer.
* `pollClose_poisoned`: `poll_close` leaves `Poisoned` exactly when its `Closing`
  future fails, since the `?` of that arm returns before anything is stored back;
  `pollClose_io_error_poisons` runs that case from `Connection::new`, after which every
  operation reaches `unreachable!()`.
* `pollNewOutbound_refused`: a refused `new_outbound` leaves the engine as it was, but
  `poll_new_outbound` hands it to `Cleanup`, which closes every record and wakes every
  parked waker (`exit_closes`, as a drop does), and stores `Closed`.
* `close_leaves_reader_parked`: a graceful close neither closes the records nor wakes the
  wakers parked on them.
-/

namespace Yamux

namespace Cleanup

/-- Draining a closed receiver yields the error once the queued commands are taken. -/
theorem pollLoop_draining (e : ConnectionError) (q : List StreamCommand) (k : Nat) :
    (pollLoop (q.length + 1 + k) ⟨.drainingStreamReceiver, ⟨q, true⟩, e⟩).1 = .ready e := by
  induction q with
  | nil => rw [List.length_nil, Nat.zero_add, Nat.add_comm]; rfl
  | cons c q ih =>
    rw [List.length_cons, Nat.add_right_comm _ 1 1, Nat.add_right_comm _ 1 k]
    exact ih

/-- `Cleanup` always yields its error at the first poll. -/
theorem poll_new (rx : Receiver) (e : ConnectionError) : (Cleanup.new rx e).poll.1 = .ready e :=
  pollLoop_draining e rx.queue 0

end Cleanup

theorem Shared.updateState_closed (s : Shared) : (s.updateState .closed).2.state = .closed := by
  unfold Shared.updateState; cases s.state <;> rfl

namespace Active

/-- **`cleanup` and a drop close every stream.** They hand back a record for every key
of the table, each `Closed` with no parked waker, and every waker that was parked on
a record is in the log of woken wakers. -/
theorem exit_closes (a : Active) {x : Exit} (hx : x ≠ .close) :
    (a.exit x).1.map Prod.fst = a.streams.keys ∧
    (∀ r ∈ (a.exit x).1, r.2.shared.state = .closed ∧ r.2.shared.wakers = []) ∧
    ∀ e ∈ a.streams.entries, ∀ w ∈ e.2.shared.wakers, w ∈ (a.exit x).2 := by
  have hx' : a.exit x = (a.dropAllStreams.2, a.dropAllStreams.1.woken) := by
    cases x <;> simp_all [Active.exit]
  rw [hx']
  refine ⟨by simp [dropAllStreams, AList.keys, List.keys, Function.comp_def], ?_, fun e he w hw => ?_⟩
  · simp only [dropAllStreams, List.mem_map]
    rintro _ ⟨e, -, rfl⟩
    exact ⟨Shared.updateState_closed _, rfl⟩
  · simp only [dropAllStreams, List.mem_append, List.mem_flatMap]
    exact .inr ⟨e, he, hw⟩

end Active

namespace ConnectionState

theorem newOutboundCleanup_new (rx : Receiver) (e : ConnectionError) :
    newOutboundCleanup (Cleanup.new rx e) = (.ready (.error e), .closed) := by
  unfold newOutboundCleanup
  rw [← Prod.mk.eta (p := (Cleanup.new rx e).poll), Cleanup.poll_new]

theorem newOutboundCleanup_ne_poisoned (c : Cleanup) : (newOutboundCleanup c).2 ≠ .poisoned := by
  unfold newOutboundCleanup; split <;> simp

theorem newOutboundClosing_ne_poisoned (c : Closing) : (newOutboundClosing c).2 ≠ .poisoned := by
  unfold newOutboundClosing; split <;> simp

theorem nextInboundCleanup_ne_poisoned (c : Cleanup) : (nextInboundCleanup c).2 ≠ .poisoned := by
  unfold nextInboundCleanup; split <;> simp

variable {c c' : ConnectionState}

theorem ne_poisoned_of_eq {α : Type} {x : α × ConnectionState} {p : α} (hx : x.2 ≠ .poisoned)
    (h : x = (p, c')) : c' ≠ .poisoned := by
  subst h; exact hx

/-- `poll_new_outbound` never leaves `Poisoned` behind. -/
theorem pollNewOutbound_ne_poisoned {p : Poll (Except ConnectionError Stream)}
    (h : c.pollNewOutbound = .ok (p, c')) : c' ≠ .poisoned := by
  cases c with
  | active a =>
    rcases hn : a.newOutbound with _ | ⟨_ | _, a'⟩ <;>
      simp only [pollNewOutbound, hn, bind, Except.bind, pure, Except.pure, reduceCtorEq,
        Except.ok.injEq] at h
    · exact ne_poisoned_of_eq (newOutboundCleanup_ne_poisoned _) h
    · rw [← (Prod.mk.inj h).2]; simp
  | closing cl => exact ne_poisoned_of_eq (newOutboundClosing_ne_poisoned cl) (Except.ok.inj h)
  | cleanup cl => exact ne_poisoned_of_eq (newOutboundCleanup_ne_poisoned cl) (Except.ok.inj h)
  | closed => cases h; simp
  | poisoned => cases h

/-- `poll_next_inbound` never leaves `Poisoned` behind. -/
theorem pollNextInbound_ne_poisoned {p : Poll (Option (Except ConnectionError Stream))}
    (h : c.pollNextInbound = .ok (p, c')) : c' ≠ .poisoned := by
  cases c with
  | active a =>
    simp only [pollNextInbound] at h
    split at h <;> simp only [pure, Except.pure, Except.ok.injEq] at h
    · rw [← (Prod.mk.inj h).2]; simp
    · exact ne_poisoned_of_eq (nextInboundCleanup_ne_poisoned _) h
    · rw [← (Prod.mk.inj h).2]; simp
  | closing cl =>
    simp only [pollNextInbound] at h
    split at h <;> simp only [pure, Except.pure, Except.ok.injEq] at h <;>
      (rw [← (Prod.mk.inj h).2]; simp)
  | cleanup cl => exact ne_poisoned_of_eq (nextInboundCleanup_ne_poisoned cl) (Except.ok.inj h)
  | closed => cases h; simp
  | poisoned => cases h

theorem closeClosing_poisoned {cl : Closing} {p : Poll (Except ConnectionError Unit)}
    (h : closeClosing cl = (p, .poisoned)) : ∃ e, cl.poll.1 = .ready (.error e) ∧ p = .ready (.error e) := by
  unfold closeClosing at h
  split at h <;> simp only [Prod.mk.injEq, reduceCtorEq, and_false] at h
  rename_i e _ heq
  exact ⟨e, by rw [heq], h.1.symm⟩

/-- **Only a failed `Closing` leaves `Poisoned`.** `poll_close` stores `Poisoned` back
only when the `Closing` future it polls, its own or the one `Active::close` has just
made, fails. -/
theorem pollClose_poisoned {p : Poll (Except ConnectionError Unit)}
    (h : c.pollClose = .ok (p, .poisoned)) :
    ∃ cl e, cl.poll.1 = .ready (.error e) ∧ p = .ready (.error e) ∧
      (c = .closing cl ∨ ∃ a, c = .active a ∧ cl = a.close) := by
  cases c with
  | active a =>
    obtain ⟨e, h₁, h₂⟩ := closeClosing_poisoned (Except.ok.inj h)
    exact ⟨_, e, h₁, h₂, .inr ⟨a, rfl, rfl⟩⟩
  | closing cl =>
    obtain ⟨e, h₁, h₂⟩ := closeClosing_poisoned (Except.ok.inj h)
    exact ⟨cl, e, h₁, h₂, .inl rfl⟩
  | cleanup cl =>
    simp only [pollClose] at h
    split at h <;> simp [pure, Except.pure] at h
  | closed => cases h
  | poisoned => cases h

/-- **A failed close poisons the connection.** From `Connection::new`, a socket whose
first `poll_ready` fails makes `poll_close` return the error with `Poisoned` stored,
and every operation on `Poisoned` panics. -/
theorem pollClose_io_error_poisons :
    (ConnectionState.new { Socket.idle with ready := [.ready (.error .io)] } Config.default
      .client).pollClose = .ok (.ready (.error .io), .poisoned) ∧
    ConnectionState.poisoned.pollNewOutbound = .error .unreachable ∧
    ConnectionState.poisoned.pollNextInbound = .error .unreachable ∧
    ConnectionState.poisoned.pollClose = .error .unreachable :=
  ⟨rfl, rfl, rfl, rfl⟩

/-- **A refused open closes the connection.** `new_outbound` refuses when the table is
full or `next_id + 2` overflows, and then changes nothing; `poll_new_outbound` returns
the error all the same after handing the engine to `Cleanup`, whose `drop_all_streams`
closes every record of the table and wakes every waker parked on one, and stores
`Closed`. -/
theorem pollNewOutbound_refused {a a' : Active} {e : ConnectionError}
    (h : a.newOutbound = .ok (.error e, a')) :
    a' = a ∧
    (e = .tooManyStreams ∧ a.config.maxNumStreams ≤ a.streams.entries.length ∨
      e = .noMoreStreamIds ∧ UInt32.size ≤ a.nextId.toNat + 2) ∧
    (ConnectionState.active a).pollNewOutbound = .ok (.ready (.error e), .closed) ∧
    (a.exit (.cleanup e)).1.map Prod.fst = a.streams.keys ∧
    (∀ r ∈ (a.exit (.cleanup e)).1, r.2.shared.state = .closed ∧ r.2.shared.wakers = []) ∧
    ∀ e' ∈ a.streams.entries, ∀ w ∈ e'.2.shared.wakers, w ∈ (a.exit (.cleanup e)).2 := by
  have hr : a' = a ∧ (e = .tooManyStreams ∧ a.config.maxNumStreams ≤ a.streams.entries.length ∨
      e = .noMoreStreamIds ∧ UInt32.size ≤ a.nextId.toNat + 2) := by
    rw [Active.newOutbound_eq] at h
    split_ifs at h with h₁ h₂ <;> cases h
    · exact ⟨rfl, .inl ⟨rfl, h₁⟩⟩
    · exact ⟨rfl, .inr ⟨rfl, Nat.le_of_not_lt h₂⟩⟩
  refine ⟨hr.1, hr.2, ?_, Active.exit_closes a Exit.noConfusion⟩
  simp only [pollNewOutbound, h, bind, Except.bind]
  exact congrArg Except.ok (newOutboundCleanup_new _ e)

/-- An engine allowed no stream closes at its first open. -/
theorem pollNewOutbound_refused_empty :
    let a := Active.new Socket.idle { Config.default with maxNumStreams := 0 } .client
    a.newOutbound = .ok (.error .tooManyStreams, a) ∧
      (ConnectionState.active a).pollNewOutbound = .ok (.ready (.error .tooManyStreams), .closed) := by
  intro a
  exact ⟨rfl, (@pollNewOutbound_refused a a _ rfl).2.2.1⟩

/-- **Counterexample**: with room for one stream, the second open is refused and the
connection is left `Closed`, not `Active`. -/
theorem pollNewOutbound_full_closes :
    ∃ s c, (ConnectionState.new Socket.idle { Config.default with maxNumStreams := 1 }
      .client).pollNewOutbound = .ok (.ready (.ok s), c) ∧
      c.pollNewOutbound = .ok (.ready (.error .tooManyStreams), .closed) :=
  ⟨_, _, rfl, rfl⟩

/-! ## Sequences of calls -/

/-- What a call on the facade returns: the answer of `poll_new_outbound`,
`poll_next_inbound` or `poll_close`. -/
inductive Answer where
  | newOutbound (r : Poll (Except ConnectionError Stream))
  | nextInbound (r : Poll (Option (Except ConnectionError Stream)))
  | close (r : Poll (Except ConnectionError Unit))

/-- The stream an answer hands out. -/
def Answer.stream : Answer → Option Stream
  | .newOutbound (.ready (.ok s)) => some s
  | .nextInbound (.ready (some (.ok s))) => some s
  | _ => none

/-- A call on the facade that returns, with its answer and the state it stores back;
the engine and the futures answer as the state they are in says, so every outcome of
theirs is a state. -/
inductive Call : ConnectionState → Answer → ConnectionState → Prop
  | newOutbound {c c' : ConnectionState} {r : Poll (Except ConnectionError Stream)} :
      c.pollNewOutbound = .ok (r, c') → Call c (.newOutbound r) c'
  | nextInbound {c c' : ConnectionState} {r : Poll (Option (Except ConnectionError Stream))} :
      c.pollNextInbound = .ok (r, c') → Call c (.nextInbound r) c'
  | close {c c' : ConnectionState} {r : Poll (Except ConnectionError Unit)} :
      c.pollClose = .ok (r, c') → Call c (.close r) c'

/-- A sequence of calls, with their answers in order. -/
inductive Calls : ConnectionState → List Answer → ConnectionState → Prop
  | nil (c : ConnectionState) : Calls c [] c
  | cons {c c' c'' : ConnectionState} {x : Answer} {xs : List Answer} :
      Call c x c' → Calls c' xs c'' → Calls c (x :: xs) c''

/-- Whether the facade holds a live engine. -/
def isActive : ConnectionState → Bool
  | .active _ => true
  | _ => false

variable {x : Answer} {xs : List Answer}

theorem newOutboundClosing_inactive (cl : Closing) :
    (Answer.newOutbound (newOutboundClosing cl).1).stream = none ∧ (newOutboundClosing cl).2.isActive = false := by
  unfold newOutboundClosing; split <;> exact ⟨rfl, rfl⟩

theorem newOutboundCleanup_inactive (cl : Cleanup) :
    (Answer.newOutbound (newOutboundCleanup cl).1).stream = none ∧ (newOutboundCleanup cl).2.isActive = false := by
  unfold newOutboundCleanup; split <;> exact ⟨rfl, rfl⟩

theorem nextInboundCleanup_inactive (cl : Cleanup) :
    (Answer.nextInbound (nextInboundCleanup cl).1).stream = none ∧ (nextInboundCleanup cl).2.isActive = false := by
  unfold nextInboundCleanup; split <;> exact ⟨rfl, rfl⟩

theorem closeClosing_inactive (cl : Closing) : (closeClosing cl).2.isActive = false := by
  unfold closeClosing; split <;> rfl

/-- A call on a facade that has left `Active` hands out no stream and stays out. -/
theorem Call.inactive (h : Call c x c') (hc : c.isActive = false) : x.stream = none ∧ c'.isActive = false := by
  cases c with
  | active a => cases hc
  | poisoned => cases h <;> rename_i h <;> cases h
  | closed => cases h <;> rename_i h <;> cases h <;> exact ⟨rfl, rfl⟩
  | closing cl =>
    cases h with
    | newOutbound h =>
      obtain ⟨rfl, rfl⟩ := Prod.ext_iff.1 (Except.ok.inj h).symm
      exact newOutboundClosing_inactive cl
    | nextInbound h =>
      simp only [pollNextInbound] at h
      split at h <;> cases h <;> exact ⟨rfl, rfl⟩
    | close h =>
      obtain ⟨rfl, rfl⟩ := Prod.ext_iff.1 (Except.ok.inj h).symm
      exact ⟨rfl, closeClosing_inactive cl⟩
  | cleanup cl =>
    cases h with
    | newOutbound h =>
      obtain ⟨rfl, rfl⟩ := Prod.ext_iff.1 (Except.ok.inj h).symm
      exact newOutboundCleanup_inactive cl
    | nextInbound h =>
      obtain ⟨rfl, rfl⟩ := Prod.ext_iff.1 (Except.ok.inj h).symm
      exact nextInboundCleanup_inactive cl
    | close h =>
      simp only [pollClose] at h
      split at h <;> cases h <;> exact ⟨rfl, rfl⟩

theorem Calls.inactive (h : Calls c xs c') (hc : c.isActive = false) :
    c'.isActive = false ∧ ∀ x ∈ xs, x.stream = none := by
  induction h with
  | nil => exact ⟨hc, fun _ h => nomatch h⟩
  | cons hx _ ih =>
    obtain ⟨h1, h2⟩ := hx.inactive hc
    obtain ⟨h3, h4⟩ := ih h2
    exact ⟨h3, fun y hy => (List.mem_cons.1 hy).elim (fun e => e ▸ h1) (h4 y)⟩

/-- A call on `Closed` answers as a closed connection does and stores `Closed` back. -/
theorem Call.closed (h : Call .closed x c') :
    c' = .closed ∧ (x = .newOutbound (.ready (.error .closed)) ∨ x = .nextInbound (.ready none) ∨
      x = .close (.ready (.ok ()))) := by
  cases h <;> rename_i h <;> cases h
  · exact ⟨rfl, .inl rfl⟩
  · exact ⟨rfl, .inr (.inl rfl)⟩
  · exact ⟨rfl, .inr (.inr rfl)⟩

theorem Calls.closed (h : Calls c xs c') (hc : c = .closed) :
    c' = .closed ∧ ∀ x ∈ xs, x = .newOutbound (.ready (.error .closed)) ∨ x = .nextInbound (.ready none) ∨
      x = .close (.ready (.ok ())) := by
  induction h with
  | nil => exact ⟨hc, fun _ h => nomatch h⟩
  | cons hx _ ih =>
    subst hc
    obtain ⟨h1, h2⟩ := hx.closed
    obtain ⟨h3, h4⟩ := ih h1
    exact ⟨h3, fun y hy => (List.mem_cons.1 hy).elim (fun e => e ▸ h2) (h4 y)⟩

/-- `poll_close` answers `Ready(Ok(()))` only as it stores `Closed`. -/
theorem pollClose_ok (h : c.pollClose = .ok (.ready (.ok ()), c')) : c' = .closed := by
  cases c with
  | active a | closing a =>
    simp only [pollClose, closeClosing, pure, Except.pure, Except.ok.injEq] at h
    split at h <;> cases h; rfl
  | cleanup cl =>
    simp only [pollClose] at h
    split at h <;> cases h; rfl
  | closed => cases h; rfl
  | poisoned => cases h

/-- **Streams come only from `Active`, and `Closed` is for good.** A call hands out a stream
only on a live engine, so once the facade has left `Active` no later call hands one out,
and it never comes back. Once `poll_close` has answered `Ready(Ok(()))` the facade is
`Closed`, and every later call answers as a closed connection does: `poll_new_outbound`
with `Err(Closed)`, `poll_next_inbound` with `None`, `poll_close` with `Ready(Ok(()))`,
each from `Closed` alone, which holds no socket. -/
theorem closed_for_good :
    (∀ (c c' : ConnectionState) x, Call c x c' → x.stream ≠ none → c.isActive = true) ∧
    (∀ (c c' : ConnectionState) xs, Calls c xs c' → c.isActive = false →
      c'.isActive = false ∧ ∀ x ∈ xs, x.stream = none) ∧
    (∀ c c' : ConnectionState, c.pollClose = .ok (.ready (.ok ()), c') → ∀ xs c'', Calls c' xs c'' →
      c'' = .closed ∧ ∀ x ∈ xs, x = .newOutbound (.ready (.error .closed)) ∨
        x = .nextInbound (.ready none) ∨ x = .close (.ready (.ok ()))) :=
  ⟨fun _ _ _ h hs => Bool.of_not_eq_false fun hc => hs (h.inactive hc).1,
    fun _ _ _ h hc => h.inactive hc,
    fun _ _ hc _ _ h => h.closed (pollClose_ok hc)⟩

/-- A client over a socket that accepts everything opens a stream, closes, and is then
called once through each operation: the open came from `Active`, and the three later
calls answer as a closed connection does and hand out nothing. -/
theorem closed_after_close :
    ∃ s c₁ c₂ xs c₃,
      (ConnectionState.new ⟨[.ready (.ok ()), .ready (.ok ())], [], [], [.ready (.ok ())], [], []⟩
        Config.default .client).pollNewOutbound = .ok (.ready (.ok s), c₁) ∧
      (ConnectionState.new ⟨[.ready (.ok ()), .ready (.ok ())], [], [], [.ready (.ok ())], [], []⟩
        Config.default .client).isActive = true ∧
      c₁.pollClose = .ok (.ready (.ok ()), c₂) ∧ Calls c₂ xs c₃ ∧ xs.length = 3 ∧
      c₃ = .closed ∧ (∀ x ∈ xs, x.stream = none) ∧
      ∀ x ∈ xs, x = .newOutbound (.ready (.error .closed)) ∨ x = .nextInbound (.ready none) ∨
        x = .close (.ready (.ok ())) := by
  obtain ⟨s, c₁, c₂, h₁, h₂, hxs⟩ : ∃ s c₁ c₂,
      (ConnectionState.new ⟨[.ready (.ok ()), .ready (.ok ())], [], [], [.ready (.ok ())], [], []⟩
        Config.default .client).pollNewOutbound = .ok (.ready (.ok s), c₁) ∧
      c₁.pollClose = .ok (.ready (.ok ()), c₂) ∧
      Calls c₂ [.newOutbound (.ready (.error .closed)), .nextInbound (.ready none), .close (.ready (.ok ()))]
        .closed := by
    refine ⟨_, _, _, rfl, rfl, ?_⟩
    exact .cons (.newOutbound rfl) (.cons (.nextInbound rfl) (.cons (.close rfl) (.nil _)))
  have hact := closed_for_good.1 _ _ _ (.newOutbound h₁) (Option.some_ne_none s)
  obtain ⟨h₃, h₄⟩ := closed_for_good.2.2 _ _ h₂ _ _ hxs
  have hin : c₂.isActive = false := by rw [pollClose_ok h₂]; rfl
  exact ⟨s, c₁, c₂, _, _, h₁, hact, h₂, hxs, rfl, h₃, (closed_for_good.2.1 _ _ _ hxs hin).2, h₄⟩

end ConnectionState

namespace Active

/-- **A graceful close leaves a reader parked.** A client opens stream 1 and a reader
parks on its empty buffer; after `Active::close` the record its handle holds is still
`Open` with the reader parked, and nothing has been woken. -/
theorem close_leaves_reader_parked :
    ∃ s a₁ a₂, (Active.new Socket.idle Config.default .client).newOutbound = .ok (.ok s, a₁) ∧
      a₁.read s.id ⟨7⟩ = some (.pending, a₂) ∧ (a₂.exit .close).2 = [] ∧
      (a₂.exit .close).1.map (fun r => (r.1, r.2.shared.state, r.2.shared.reader)) =
        [(⟨1⟩, .«open», some ⟨7⟩)] :=
  ⟨_, _, _, rfl, rfl, rfl, rfl⟩

end Active

end Yamux
