import Yamux.Proof.Account
import Yamux.Proof.Invariant

/-!
# The records of the table

What a step does to the record filed under one key (`Evolves`): it leaves it, moves it on
keeping its id with its state moved forward, removes it as `garbage_collect` does once no
handle holds it, or files a new record under its own id. Each operation is read once for
that (`Step.evolves`), and from it:

* `removed_only_dropped`: a step takes a record out of the table only as `garbage_collect`
  does, and only once no user handle holds the stream.
* `keys_match`: in every reachable engine the table files each record under its own id,
  so `garbage_collect`, which names a dropped stream by `stream.id()`, names the key it
  removes, as `drop_all_streams` names the key it drains.
* `state_advances`: while a key stays in the table, its record's state only moves forward,
  from `Open` to one half closed and from there to `Closed` (`State.Le`). No operation
  reopens a stream; only a removal followed by a new `SYN` under the same id can.
-/

namespace Yamux

/-- The order in which a record's state moves: `Open` first, `Closed` last, and the two
half-closed states between, apart. -/
def State.Le (s t : State) : Prop := s = .open ∨ s = t ∨ t = .closed

instance (s t : State) : Decidable (s.Le t) := inferInstanceAs (Decidable (_ ∨ _))

theorem State.Le.refl (s : State) : s.Le s := .inr (.inl rfl)

theorem State.Le.trans {s t u : State} (h : s.Le t) (h' : t.Le u) : s.Le u := by
  rcases h with rfl | rfl | rfl
  · exact .inl rfl
  · exact h'
  · rcases h' with h' | rfl | rfl
    · cases h'
    · exact .inr (.inr rfl)
    · exact .inr (.inr rfl)

/-- `update_state` only moves a state forward. -/
theorem Shared.updateState_le (sh : Shared) (n : State) : sh.state.Le (sh.updateState n).2.state := by
  obtain ⟨st, _, _, _, _, _⟩ := sh
  cases st <;> cases n <;> simp [Shared.updateState, State.Le]

theorem Shared.finish_le (sh : Shared) (b : Bool) : sh.state.Le (sh.finish b).state := by
  unfold Shared.finish; split
  · exact sh.updateState_le _
  · exact .refl _

namespace Active

variable {a a' a'' : Active} {t : StreamId}

/-- What a step from `a` to `a'` does to the record filed under `t`. -/
inductive Evolves (t : StreamId) (a a' : Active) : Prop
  | same : a'.streams.lookup t = a.streams.lookup t → Evolves t a a'
  | moved {r r' : Stream} : a.streams.lookup t = some r → a'.streams.lookup t = some r' → r'.id = r.id →
      r.shared.state.Le r'.shared.state → Evolves t a a'
  | removed {r : Stream} : a.streams.lookup t = some r → a'.streams.lookup t = none → Dropped r →
      a'.streams = a.garbageCollect.streams → Evolves t a a'
  | added {r' : Stream} : a.streams.lookup t = none → a'.streams.lookup t = some r' → r'.id = t →
      Evolves t a a'

/-- `Evolves` reads the later state only through its table. -/
theorem Evolves.congr (he : Evolves t a a') (h : a''.streams = a'.streams) : Evolves t a a'' := by
  cases he with
  | same h1 => exact .same (h ▸ h1)
  | moved h1 h2 h3 h4 => exact .moved h1 (h ▸ h2) h3 h4
  | removed h1 h2 h3 h4 => exact .removed h1 (h ▸ h2) h3 (h.trans h4)
  | added h1 h2 h3 => exact .added h1 (h ▸ h2) h3

theorem evolves_refl (a : Active) (t : StreamId) : Evolves t a a := .same rfl

/-- A record written back under its key, with its id kept and its state moved forward. -/
theorem evolves_setShared {id : StreamId} {rec r' : Stream} {sh : Shared} {w : List Waker} (t : StreamId)
    (hr : a.streams.lookup id = some rec) (hid : r'.id = rec.id) (hst : rec.shared.state.Le sh.state) :
    Evolves t a (a.setShared id r' sh w) := by
  by_cases ht : t = id
  · subst ht; exact .moved hr (setShared_lookup_self hr _ _ _) hid hst
  · exact .same (setShared_lookup_ne ht _ _ _)

/-- A new record filed under its own id, which the table did not hold. -/
theorem evolves_insert {id : StreamId} {s : Stream} (t : StreamId) (hn : id ∉ a.streams) (hid : s.id = id) :
    Evolves t a { a with streams := a.streams.insert id s } := by
  by_cases ht : t = id
  · subst ht; exact .added (AList.lookup_eq_none.2 hn) (AList.lookup_insert _) hid
  · exact .same (AList.lookup_insert_ne ht)

theorem evolves_resetStream (id t : StreamId) : Evolves t a (a.resetStream id) := by
  unfold resetStream; split
  · exact evolves_setShared t ‹_› rfl (Shared.updateState_le _ _)
  · exact evolves_refl a t

/-! ## Each operation -/

theorem evolves_onData (f : Frame) (t : StreamId) : Evolves t a (a.onData f).2 := by
  rcases onData_arms (a := a) f with ⟨-, e⟩ | ⟨-, -, -, e⟩ | ⟨-, -, -, -, hm, ⟨-, e⟩ | ⟨-, e⟩⟩ |
    ⟨-, -, r, hr, e⟩ | ⟨-, -, -, e⟩ <;> rw [e]
  · exact evolves_resetStream _ t
  · exact evolves_refl a t
  · exact evolves_refl a t
  · obtain ⟨s, _, hs, e', -⟩ := onDataSyn_eq (a := a) f
    rw [e']; exact evolves_insert t hm hs
  · rcases onDataKnown_cases (a := a) f r with ⟨-, e'⟩ | ⟨-, -, e'⟩ | ⟨-, -, _, sh, e', hst, -⟩ <;> rw [e']
    · exact evolves_refl a t
    · exact evolves_setShared t hr rfl (Shared.finish_le _ _)
    · exact evolves_setShared t hr rfl (hst ▸ Shared.finish_le _ _)
  · exact evolves_refl a t

theorem evolves_onWindowUpdate (f : Frame) (t : StreamId) : Evolves t a (a.onWindowUpdate f).2 := by
  rcases onWindowUpdate_arms (a := a) f with ⟨-, e⟩ | ⟨-, -, -, e⟩ | ⟨-, -, -, hm, -, e⟩ |
    ⟨-, -, r, hr, e⟩ | ⟨-, -, -, e⟩ <;> rw [e]
  · exact evolves_resetStream _ t
  · exact evolves_refl a t
  · obtain ⟨s, hs, e', -⟩ := onWindowUpdateSyn_eq (a := a) f
    rw [e']; exact evolves_insert t hm hs
  · rw [onWindowUpdateKnown_eq]
    exact evolves_setShared t hr rfl (Shared.finish_le { r.shared with credit := r.shared.credit + f.header.credit } _)
  · exact evolves_refl a t

theorem evolves_onFrame (f : Frame) (t : StreamId) : Evolves t a (a.onFrame f).2 := by
  have hp : ∀ p : Action × Active, Evolves t a p.2 → Evolves t a (p.2.perform p.1).2 := fun ⟨act, _⟩ h => by
    cases act <;> exact h.congr rfl
  unfold onFrame
  cases f.header.tag
  · exact hp _ (evolves_onData f t)
  · exact hp _ (evolves_onWindowUpdate f t)
  · exact hp (a.onPing f, a) (evolves_refl a t)
  · exact evolves_refl a t

theorem evolves_collect (t : StreamId) : Evolves t a a.garbageCollect := by
  cases hr : a.streams.lookup t with
  | none => exact .same ((lookup_garbageCollect_none hr).trans hr.symm)
  | some r =>
    by_cases hd : Dropped r
    · exact .removed hr (lookup_garbageCollect_dropped hr hd) hd rfl
    · exact .same ((lookup_garbageCollect_kept hr hd).trans hr.symm)

theorem evolves_read {id : StreamId} {w : Waker} {r : Poll (Option (List UInt8))} (h : a.read id w = some (r, a'))
    (t : StreamId) : Evolves t a a' := by
  obtain ⟨rec, hr, ⟨_, _, -, -, ⟨_, -, -, h3⟩ | rfl⟩ | ⟨-, -, -, rfl⟩ | ⟨-, -, -, rfl⟩⟩ := read_cases h
  · refine Evolves.congr ?_ (sendCommand_eq h3).2.1
    exact evolves_setShared t hr rfl (.refl _)
  · exact evolves_setShared t hr rfl (.refl _)
  · exact evolves_refl _ t
  · exact evolves_setShared t hr rfl (.refl _)

theorem evolves_write {id : StreamId} {w : Waker} {data : List UInt8} {r : Poll (Except ConnectionError Nat)}
    (h : a.write id w data = some (r, a')) (t : StreamId) : Evolves t a a' := by
  obtain ⟨rec, hr, ⟨-, -, rfl⟩ | ⟨-, -, -, rfl⟩ | ⟨-, -, _, -, -, h3⟩⟩ := write_cases h
  · exact evolves_refl _ t
  · exact evolves_setShared t hr rfl (.refl _)
  · refine Evolves.congr ?_ (sendCommand_eq h3).2.1
    exact evolves_setShared t hr rfl (.refl _)

theorem evolves_closeStream {id : StreamId} (h : a.closeStream id = some a') (t : StreamId) : Evolves t a a' := by
  obtain ⟨rec, hr, ⟨-, rfl⟩ | ⟨-, h⟩⟩ := closeStream_cases h
  · exact evolves_refl _ t
  · refine Evolves.congr ?_ (sendCommand_eq h).2.1
    exact evolves_setShared t hr (by split <;> rfl) (Shared.updateState_le _ _)

theorem evolves_dropHandle {id : StreamId} (h : a.dropHandle id = some a') (t : StreamId) : Evolves t a a' := by
  obtain ⟨rec, hr, -, rfl⟩ := dropHandle_cases h
  exact evolves_setShared t hr rfl (.refl _)

/-- **What a step does to a record**, one key at a time. -/
theorem Step.evolves (hi : IdsOk a) (hs : Step a a') (t : StreamId) : Evolves t a a' := by
  cases hs with
  | newOutbound h =>
    rcases newOutbound_cases h with ⟨rfl, -⟩ | ⟨-, s, -, hid, hst⟩
    · exact evolves_refl _ t
    · exact (evolves_insert t (nextId_not_mem hi) hid).congr hst
  | frame f => exact evolves_onFrame f t
  | command => exact .same (by cases ‹StreamCommand› <;> rfl)
  | collect => exact evolves_collect t
  | write => exact .same rfl
  | socket => exact .same rfl
  | handleRead h => exact evolves_read h t
  | handleWrite h => exact evolves_write h t
  | handleClose h => exact evolves_closeStream h t
  | handleDrop h => exact evolves_dropHandle h t

/-- **No stream is taken from the table while a handle holds it.** A step from a reachable
engine that removes the record of `t` leaves the table `garbage_collect` leaves, and the
record it removed had no user handle left: `strong_count` was down to the table's own
reference. -/
theorem removed_only_dropped {r : Stream} (h : Reachable a) (hs : Step a a')
    (hl : a.streams.lookup t = some r) (hn : a'.streams.lookup t = none) :
    r.handles = 0 ∧ a'.streams = a.garbageCollect.streams := by
  cases hs.evolves h.idsOk t with
  | same h1 => cases hn.symm.trans (h1.trans hl)
  | moved _ h2 _ _ => cases hn.symm.trans h2
  | removed h1 _ hd hg =>
    cases hl.symm.trans h1
    exact ⟨by unfold Dropped Stream.strongCount at hd; omega, hg⟩
  | added h1 _ _ => cases hl.symm.trans h1

/-- A client opens stream 1 and drops its handle; the next collection removes the record. -/
theorem removed_after_drop :
    ∃ (a a' : Active) (r : Stream), a.Reachable ∧ Step a a' ∧ a.streams.lookup ⟨1⟩ = some r ∧
      a'.streams.lookup ⟨1⟩ = none ∧ r.handles = 0 ∧ a'.streams = a.garbageCollect.streams := by
  obtain ⟨s, a1, a2, r, h1, h2, hl, hn⟩ : ∃ s a1 a2 r,
      (Active.new Socket.idle Config.default .client).newOutbound = .ok (s, a1) ∧
      a1.dropHandle ⟨1⟩ = some a2 ∧ a2.streams.lookup ⟨1⟩ = some r ∧
      a2.garbageCollect.streams.lookup ⟨1⟩ = none := by
    refine ⟨_, _, _, _, rfl, rfl, rfl, ?_⟩; rfl
  have ha : a2.Reachable := ⟨_, _, _, .tail (.single (.newOutbound h1)) (.handleDrop h2)⟩
  exact ⟨a2, _, r, ha, .collect a2, hl, hn, removed_only_dropped ha (.collect a2) hl hn⟩

/-! ## Over whole runs -/

/-- Each record of the table is filed under its own id. -/
def KeysMatch (a : Active) : Prop := ∀ t r, a.streams.lookup t = some r → r.id = t

theorem keysMatch_new (s : Socket) (cfg : Config) (mode : Mode) : KeysMatch (Active.new s cfg mode) :=
  fun _ _ h => nomatch h

theorem KeysMatch.step (h : KeysMatch a) (hi : IdsOk a) (hs : Step a a') : KeysMatch a' := fun t r' hr' => by
  cases hs.evolves hi t with
  | same h1 => exact h t r' (h1 ▸ hr')
  | moved h1 h2 h3 _ => cases hr'.symm.trans h2; exact h3.trans (h t _ h1)
  | removed _ h2 _ _ => cases hr'.symm.trans h2
  | added _ h2 h3 => cases hr'.symm.trans h2; exact h3

theorem Reachable.keysMatch (h : Reachable a) : KeysMatch a :=
  (h.induction (P := fun a => KeysMatch a ∧ IdsOk a)
    (fun s c m => ⟨keysMatch_new s c m, idsOk_new s c m⟩) (fun ⟨hk, hi⟩ hs => ⟨hk.step hi hs, hi.step hs⟩)).1

/-- Under `KeysMatch` the ids the sweep notes, which the source takes from `stream.id()`,
are the ids of the dropped records. -/
theorem KeysMatch.sweep_ids (h : KeysMatch a) :
    a.sweep.2 = (a.streams.entries.filter (fun e => Dropped e.2)).map (fun e => e.2.id) := by
  refine List.map_congr_left fun e he => (h e.1 e.2 ?_).symm
  exact AList.mem_lookup_iff.2 (List.mem_filter.1 he).1

/-- **Every record is filed under its own id.** In every reachable engine the record the
table holds under `t` has id `t`. So the ids `garbage_collect` notes for removal, which it
reads off the dropped streams by `stream.id()`, are the keys those streams are filed under,
and the removal takes out exactly the dropped records. -/
theorem keys_match (h : Reachable a) :
    (∀ t r, a.streams.lookup t = some r → r.id = t) ∧
      a.sweep.2 = (a.streams.entries.filter (fun e => Dropped e.2)).map (fun e => e.2.id) :=
  ⟨h.keysMatch, h.keysMatch.sweep_ids⟩

/-- A client that has opened stream 1. -/
theorem keys_match_client :
    ∃ a : Active, a.Reachable ∧ (⟨1⟩ : StreamId) ∈ a.streams ∧
      (∀ t r, a.streams.lookup t = some r → r.id = t) ∧
      a.sweep.2 = (a.streams.entries.filter (fun e => Dropped e.2)).map (fun e => e.2.id) := by
  obtain ⟨r, h⟩ : ∃ r, (Active.new Socket.idle Config.default .client).newOutbound =
      .ok (r, ((Active.new Socket.idle Config.default .client).newOutbound.toOption.map Prod.snd).getD
        (Active.new Socket.idle Config.default .client)) := ⟨_, rfl⟩
  have ha : Reachable _ := ⟨_, _, _, .single (.newOutbound h)⟩
  exact ⟨_, ha, by decide, keys_match ha⟩

/-- **A stream's state only moves forward.** Along a run from a reachable engine during
which the table holds `t` after every step, the record filed under `t` keeps its id and its
state moves forward in `State.Le`: a stream that has left `Open` never returns to it, and
one that is `Closed` stays `Closed`. -/
theorem state_advances {r : Stream} (h : Reachable a)
    (hr : Relation.ReflTransGen (fun x y => Step x y ∧ t ∈ y.streams) a a')
    (hl : a.streams.lookup t = some r) :
    ∃ r', a'.streams.lookup t = some r' ∧ r'.id = r.id ∧ r.shared.state.Le r'.shared.state := by
  induction hr with
  | refl => exact ⟨r, hl, rfl, .refl _⟩
  | @tail b c hab hbc ih =>
    obtain ⟨r', hb, hid, hle⟩ := ih
    have hi : IdsOk b := (h.run (hab.mono fun _ _ h => h.1)).idsOk
    cases hbc.1.evolves hi t with
    | same h1 => exact ⟨r', h1.trans hb, hid, hle⟩
    | moved h1 h2 h3 h4 => cases hb.symm.trans h1; exact ⟨_, h2, h3.trans hid, hle.trans h4⟩
    | removed _ h2 _ _ => exact absurd hbc.2 (AList.lookup_eq_none.1 h2)
    | added h1 _ _ => cases hb.symm.trans h1

/-- A client opens stream 1 and closes it. -/
theorem state_advances_close :
    ∃ (a a' : Active) (r : Stream), a.Reachable ∧
      Relation.ReflTransGen (fun x y => Step x y ∧ (⟨1⟩ : StreamId) ∈ y.streams) a a' ∧
      a.streams.lookup ⟨1⟩ = some r ∧
      ∃ r', a'.streams.lookup ⟨1⟩ = some r' ∧ r'.id = r.id ∧ r.shared.state.Le r'.shared.state := by
  obtain ⟨r, h⟩ : ∃ r, (Active.new Socket.idle Config.default .client).newOutbound =
      .ok (r, ((Active.new Socket.idle Config.default .client).newOutbound.toOption.map Prod.snd).getD
        (Active.new Socket.idle Config.default .client)) := ⟨_, rfl⟩
  have ha : Reachable _ := ⟨_, _, _, .single (.newOutbound h)⟩
  obtain ⟨b, hb⟩ : ∃ b, (((Active.new Socket.idle Config.default .client).newOutbound.toOption.map
      Prod.snd).getD (Active.new Socket.idle Config.default .client)).closeStream ⟨1⟩ = some b := ⟨_, rfl⟩
  have hr : Relation.ReflTransGen (fun x y => Step x y ∧ (⟨1⟩ : StreamId) ∈ y.streams) _ b :=
    .single ⟨.handleClose hb, by rw [← Option.some_inj.1 hb]; decide⟩
  obtain ⟨r, hl⟩ : ∃ r, (((Active.new Socket.idle Config.default .client).newOutbound.toOption.map
      Prod.snd).getD (Active.new Socket.idle Config.default .client)).streams.lookup ⟨1⟩ = some r := ⟨_, rfl⟩
  exact ⟨_, b, r, ha, hr, hl, state_advances ha hr hl⟩

end Active

end Yamux
