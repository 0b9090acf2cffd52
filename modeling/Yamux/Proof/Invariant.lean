import Yamux.Proof.Step

/-!
# Stream ids and the size of the table

Every step of a live engine does one of three things to the mode, the configuration,
`next_id` and the keys of the table (`Step.cases`): removes keys (`Shrinks`, which
covers leaving them alone), adds a remote id that passed a `SYN` arm's checks
(`Opens`), or allocates `next_id` (`Allocates`). From that alone:

* `nextId_fresh`: `next_id` keeps the local parity and stays above every key of
  that parity; so the assertion of `next_stream_id` never fails, `new_outbound` hands
  out an id absent from the table and larger than every id it handed out before, and
  no insertion replaces an entry.
* `streams_le_max`: the table never holds more than `max_num_streams` streams, though
  the `SYN` arms refuse only at equality.
-/

namespace Yamux

namespace Active

open Relation

variable {a a' a'' : Active}

/-- `a'` has the mode, configuration and next id of `a`, and keys among `a`'s. -/
structure Shrinks (a a' : Active) : Prop where
  mode : a'.mode = a.mode
  config : a'.config = a.config
  nextId : a'.nextId = a.nextId
  keys : List.Sublist a'.streams.keys a.streams.keys

/-- `a'` is `a` with `next_id` allocated: inserted in the table and moved on by two. -/
structure Allocates (a a' : Active) : Prop where
  mode : a'.mode = a.mode
  config : a'.config = a.config
  isLocal : a.mode.isLocal ⟨a.nextId⟩ = true
  nextId : a'.nextId.toNat = a.nextId.toNat + 2
  room : a.streams.entries.length < a.config.maxNumStreams
  keys : a'.streams.keys = ⟨a.nextId⟩ :: a.streams.keys.erase ⟨a.nextId⟩

theorem Keeps.shrinks (h : Keeps a a') : Shrinks a a' :=
  ⟨h.mode, h.config, h.nextId, h.keys ▸ List.Sublist.refl _⟩

/-- The ways `new_outbound` can end without panicking: a refusal that changes
nothing, or `next_id` allocated to the stream it returns. -/
theorem newOutbound_cases {r : Except ConnectionError Stream} (h : a.newOutbound = .ok (r, a')) :
    (a' = a ∧ ∃ e, r = .error e) ∨ Allocates a a' ∧
      ∃ s, r = .ok s ∧ s.id = ⟨a.nextId⟩ ∧ a'.streams = a.streams.insert ⟨a.nextId⟩ s := by
  rw [newOutbound_eq] at h
  split_ifs at h with hmax hov hloc
  · cases h; exact .inl ⟨rfl, _, rfl⟩
  · cases h
    obtain ⟨hm, hc, hn, hs⟩ := openOutbound_snd (a := { a with nextId := a.nextId + 2 }) ⟨a.nextId⟩
    refine .inr ⟨⟨hm, hc, hloc, ?_, Nat.lt_of_not_le hmax, ?_⟩, _, rfl, openOutbound_id _, hs⟩
    · rw [hn]; exact UInt32.toNat_add_of_lt hov
    · rw [hs, AList.keys_insert]
  · cases h; exact .inl ⟨rfl, _, rfl⟩

/-- **What a step can do to the ids of the table.** Only a successful `new_outbound`
allocates. -/
theorem Step.cases (hs : Step a a') :
    Shrinks a a' ∨ (∃ id, Opens a a' id) ∨ Allocates a a' ∧ ∃ s, a.newOutbound = .ok (.ok s, a') := by
  cases hs with
  | newOutbound h =>
    rcases newOutbound_cases h with ⟨rfl, -⟩ | ⟨hal, s, rfl, -⟩
    · exact .inl (Keeps.refl _).shrinks
    · exact .inr (.inr ⟨hal, s, h⟩)
  | frame f =>
    rcases onFrame_cases (a := a) f with h | h
    · exact .inl h.shrinks
    · exact .inr (.inl ⟨_, h⟩)
  | @command c rx _ =>
    exact .inl ((show Keeps a { a with streamReceiver := rx } from ⟨rfl, rfl, rfl, rfl⟩).trans
      (keeps_onCommand c)).shrinks
  | collect =>
    obtain ⟨hm, hc, hn, hk⟩ := garbageCollect_keys (a := a)
    exact .inl ⟨hm, hc, hn, hk⟩
  | write => exact .inl (Keeps.shrinks ⟨rfl, rfl, rfl, rfl⟩)
  | socket => exact .inl (Keeps.shrinks ⟨rfl, rfl, rfl, rfl⟩)
  | handleRead h => exact .inl (keeps_read h).shrinks
  | handleWrite h => exact .inl (keeps_write h).shrinks
  | handleClose h => exact .inl (keeps_closeStream h).shrinks
  | handleDrop h => exact .inl (keeps_dropHandle h).shrinks

theorem Step.config (hs : Step a a') : a'.config = a.config := by
  rcases hs.cases with h | ⟨_, h⟩ | ⟨h, -⟩ <;> exact h.config

theorem Step.mode (hs : Step a a') : a'.mode = a.mode := by
  rcases hs.cases with h | ⟨_, h⟩ | ⟨h, -⟩ <;> exact h.mode

/-- The id invariant: `next_id` has the local parity and lies above every local key. -/
structure IdsOk (a : Active) : Prop where
  parity : a.mode.isLocal ⟨a.nextId⟩ = true
  above : ∀ id ∈ a.streams, a.mode.isLocal id = true → id.val.toNat < a.nextId.toNat

theorem idsOk_new (s : Socket) (cfg : Config) (mode : Mode) : IdsOk (Active.new s cfg mode) :=
  ⟨by cases mode <;> simp only [Active.new] <;> decide, fun _ h => absurd h (AList.not_mem_empty _)⟩

theorem IdsOk.step (h : IdsOk a) (hs : Step a a') : IdsOk a' := by
  rcases hs.cases with hs | ⟨id, hs⟩ | ⟨hs, -⟩
  · refine ⟨hs.mode ▸ hs.nextId ▸ h.parity, fun id hid hl => hs.nextId ▸ h.above id ?_ (hs.mode ▸ hl)⟩
    exact AList.mem_keys.2 (hs.keys.subset (AList.mem_keys.1 hid))
  · refine ⟨hs.mode ▸ hs.nextId ▸ h.parity, fun id' hid hl => hs.nextId ▸ h.above id' ?_ (hs.mode ▸ hl)⟩
    rw [AList.mem_keys, hs.keys] at hid
    rcases List.mem_cons.1 hid with rfl | hid
    · rw [hs.mode, hs.remote] at hl; cases hl
    · exact AList.mem_keys.2 hid
  · refine ⟨?_, fun id hid hl => ?_⟩
    · rw [Mode.isLocal_iff, hs.mode]
      show a'.nextId.toNat % 2 = _
      rw [hs.nextId, Nat.add_mod_right]
      exact (Mode.isLocal_iff _ _).1 h.parity
    · rw [AList.mem_keys, hs.keys] at hid
      rw [hs.nextId]
      rcases List.mem_cons.1 hid with rfl | hid
      · exact Nat.lt_add_of_pos_right (by decide)
      · have := h.above id (AList.mem_keys.2 (List.mem_of_mem_erase hid)) (hs.mode ▸ hl)
        omega

theorem Reachable.idsOk (h : Reachable a) : IdsOk a := h.induction idsOk_new IdsOk.step

theorem nextId_le_of_step (hs : Step a a') : a.nextId.toNat ≤ a'.nextId.toNat := by
  rcases hs.cases with hs | ⟨id, hs⟩ | ⟨hs, -⟩
  · rw [hs.nextId]
  · rw [hs.nextId]
  · rw [hs.nextId]; omega

theorem nextId_le_of_run (hr : ReflTransGen Step a a') : a.nextId.toNat ≤ a'.nextId.toNat := by
  induction hr with
  | refl => exact le_rfl
  | tail _ hs ih => exact ih.trans (nextId_le_of_step hs)

theorem newOutbound_ne_error (h : IdsOk a) (p : Panic) : a.newOutbound ≠ .error p := by
  rw [newOutbound_eq, if_pos h.parity]
  split_ifs <;> simp

theorem nextId_not_mem (h : IdsOk a) : (⟨a.nextId⟩ : StreamId) ∉ a.streams :=
  fun hm => Nat.lt_irrefl _ (h.above _ hm h.parity)

/-- **Stream ids stay fresh.** In every reachable state `next_id` has the local
parity and lies above every key of that parity. So `new_outbound` never fails its
assertion, and the stream it returns has an id absent from the table, inserted
without replacing an entry, and smaller than the id of any stream a later
`new_outbound` of the same run returns; a stream a received frame opens is likewise
inserted under an absent id. -/
theorem nextId_fresh (h : Reachable a) :
    a.mode.isLocal ⟨a.nextId⟩ = true ∧
    (∀ id ∈ a.streams, a.mode.isLocal id = true → id.val.toNat < a.nextId.toNat) ∧
    (∀ p, a.newOutbound ≠ .error p) ∧
    (∀ s a', a.newOutbound = .ok (.ok s, a') →
      s.id ∉ a.streams ∧ a'.streams.entries = ⟨s.id, s⟩ :: a.streams.entries ∧
      ∀ a'' s' a''', ReflTransGen Step a' a'' → a''.newOutbound = .ok (.ok s', a''') →
        s.id.val.toNat < s'.id.val.toNat) ∧
    (∀ f s a', a.onFrame f = (.ok (some s), a') →
      s.id ∉ a.streams ∧ a'.streams.entries = ⟨s.id, s⟩ :: a.streams.entries) := by
  have hi := h.idsOk
  refine ⟨hi.parity, hi.above, newOutbound_ne_error hi, fun s a' hn => ?_, fun f s a' hf => ?_⟩
  · rcases newOutbound_cases hn with ⟨-, _, he⟩ | ⟨hal, s₁, he, hid, hs⟩
    · cases he
    cases he
    have hm : s.id ∉ a.streams := hid ▸ nextId_not_mem hi
    refine ⟨hm, by rw [hs, ← hid, AList.insert_entries_of_neg hm], fun a'' s' a''' hr hn' => ?_⟩
    rcases newOutbound_cases hn' with ⟨-, _, he'⟩ | ⟨-, s₂, he', hid', -⟩
    · cases he'
    cases he'
    rw [hid, hid']
    have := nextId_le_of_run hr
    have := hal.nextId
    show a.nextId.toNat < a''.nextId.toNat
    omega
  · obtain ⟨hm, -, hs⟩ := onFrame_inserts hf
    exact ⟨hm, by rw [hs, AList.insert_entries_of_neg hm]⟩

/-- A server that has accepted stream 1 and opened stream 2 opens a stream under an id its
table does not hold and then one under a larger id, and a `SYN` for stream 3 is filed under
an id the table does not hold either. -/
theorem nextId_fresh_server :
    ∃ a : Active, a.Reachable ∧ a.streams.keys = [⟨2⟩, ⟨1⟩] ∧ a.mode.isLocal ⟨a.nextId⟩ = true ∧
      ∃ s a' s' a'' s'' a''', a.newOutbound = .ok (.ok s, a') ∧ s.id ∉ a.streams ∧
        a'.newOutbound = .ok (.ok s', a'') ∧ s.id.val.toNat < s'.id.val.toNat ∧
        a.onFrame (Frame.new (Header.data ⟨3⟩ 0).syn) = (.ok (some s''), a''') ∧ s''.id ∉ a.streams := by
  obtain ⟨s₂, a, s, a', s', a'', s'', a''', h₂, hk, h, h', hf⟩ : ∃ s₂ a s a' s' a'' s'' a''',
      ((Active.new Socket.idle Config.default .server).onFrame
        (Frame.new (Header.data ⟨1⟩ 0).syn)).2.newOutbound = .ok (.ok s₂, a) ∧
      a.streams.keys = [⟨2⟩, ⟨1⟩] ∧ a.newOutbound = .ok (.ok s, a') ∧ a'.newOutbound = .ok (.ok s', a'') ∧
      a.onFrame (Frame.new (Header.data ⟨3⟩ 0).syn) = (.ok (some s''), a''') := by
    refine ⟨_, _, _, _, _, _, _, _, rfl, ?_, rfl, rfl, rfl⟩; rfl
  have ha : a.Reachable := ⟨_, _, _, .tail (.single (.frame _ _)) (.newOutbound h₂)⟩
  obtain ⟨hp, -, -, hn, ho⟩ := nextId_fresh ha
  obtain ⟨hm, -, hlt⟩ := hn s a' h
  exact ⟨a, ha, hk, hp, s, a', s', a'', s'', a''', h, hm, h', hlt a' s' a'' .refl h', hf, (ho _ s'' a''' hf).1⟩

theorem streams_le_max_new (s : Socket) (cfg : Config) (mode : Mode) :
    (Active.new s cfg mode).streams.entries.length ≤ (Active.new s cfg mode).config.maxNumStreams :=
  Nat.zero_le _

theorem streams_le_max_step (h : a.streams.entries.length ≤ a.config.maxNumStreams) (hs : Step a a') :
    a'.streams.entries.length ≤ a'.config.maxNumStreams := by
  rcases hs.cases with hs | ⟨id, hs⟩ | ⟨hs, -⟩
  · rw [← AList.length_keys, hs.config]
    exact hs.keys.length_le.trans ((AList.length_keys _).symm ▸ h)
  · rw [← AList.length_keys, hs.keys, List.length_cons, AList.length_keys, hs.config]
    exact Nat.lt_of_le_of_ne h hs.room
  · rw [← AList.length_keys, hs.keys, List.length_cons, hs.config]
    have := List.length_erase_le ⟨a.nextId⟩ a.streams.keys
    rw [AList.length_keys] at this
    have := hs.room
    omega

/-- **The table never holds more than `max_num_streams` streams**: `new_outbound`
refuses at the limit, and a received frame that opens a stream finds the table below
it, though the `SYN` arms refuse only at equality. -/
theorem streams_le_max (h : Reachable a) :
    a.streams.entries.length ≤ a.config.maxNumStreams ∧
    ∀ f s a', a.onFrame f = (.ok (some s), a') →
      a.streams.entries.length < a.config.maxNumStreams := by
  have hle : a.streams.entries.length ≤ a.config.maxNumStreams :=
    h.induction (P := fun a => a.streams.entries.length ≤ a.config.maxNumStreams)
      streams_le_max_new streams_le_max_step
  exact ⟨hle, fun f s a' hf => Nat.lt_of_le_of_ne hle (onFrame_inserts hf).2.1⟩

/-- A server allowed three streams that has accepted stream 1 and opened stream 2 is within
its limit, and accepts a `SYN` for stream 3 from below it. -/
theorem streams_le_max_two_held :
    ∃ a : Active, a.Reachable ∧ a.streams.keys = [⟨2⟩, ⟨1⟩] ∧ a.config.maxNumStreams = 3 ∧
      a.streams.entries.length ≤ a.config.maxNumStreams ∧
      ∃ s a', a.onFrame (Frame.new (Header.data ⟨3⟩ 0).syn) = (.ok (some s), a') ∧
        a.streams.entries.length < a.config.maxNumStreams := by
  obtain ⟨s₂, a, s, a', h₂, hk, hm, hf⟩ : ∃ s₂ a s a',
      ((Active.new Socket.idle { Config.default with maxNumStreams := 3 } .server).onFrame
        (Frame.new (Header.data ⟨1⟩ 0).syn)).2.newOutbound = .ok (.ok s₂, a) ∧
      a.streams.keys = [⟨2⟩, ⟨1⟩] ∧ a.config.maxNumStreams = 3 ∧
      a.onFrame (Frame.new (Header.data ⟨3⟩ 0).syn) = (.ok (some s), a') := by
    refine ⟨_, _, _, _, rfl, ?_, rfl, rfl⟩; rfl
  have ha : a.Reachable := ⟨_, _, _, .tail (.single (.frame _ _)) (.newOutbound h₂)⟩
  obtain ⟨hle, hlt⟩ := streams_le_max ha
  exact ⟨a, ha, hk, hm, hle, s, a', hf, hlt _ s a' hf⟩

end Active

end Yamux
