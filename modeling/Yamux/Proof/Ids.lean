import Yamux.Proof.Invariant
import Yamux.Proof.Outbound

/-!
# The ids `new_outbound` hands out

`next_stream_id` returns `next_id` and moves it on by two, refusing with
`NoMoreStreamIds` when the addition overflows, and no other step moves `next_id`
(`Step.cases`). A run labelled by the ids its successful `new_outbound` calls return
(`Run`, which every run carries, `Run.of_steps`) therefore hands out the ids of the local
parity in increasing order from 1 (client) or 2 (server), with no gap (`run_ids`).

The addition is checked before the id is returned, so the last id of each parity,
`u32::MAX` for a client and `u32::MAX - 1` for a server, is never handed out: a client
that has handed out every odd id up to 4294967293 is refused, with room in its table
(`client_last_id_refused`, a run of 2^31 - 1 opens, each stream dropped and collected).
-/

namespace Yamux

namespace Active

open Relation

variable {a a' a'' : Active} {ids ids' : List StreamId}

/-- A run of a live engine labelled by the ids it hands out: those of the streams that its
successful `new_outbound` calls return, in order. -/
inductive Run : Active → List StreamId → Active → Prop
  | refl (a : Active) : Run a [] a
  | opened {a a' a'' : Active} {ids : List StreamId} {s : Stream} :
      Run a ids a' → a'.newOutbound = .ok (.ok s, a'') → Run a (ids ++ [s.id]) a''
  | other {a a' a'' : Active} {ids : List StreamId} :
      Run a ids a' → Step a' a'' → (∀ s, a'.newOutbound ≠ .ok (.ok s, a'')) → Run a ids a''

theorem Run.steps (h : Run a ids a') : ReflTransGen Step a a' := by
  induction h with
  | refl => exact .refl
  | opened _ h ih => exact ih.tail (.newOutbound h)
  | other _ hs _ ih => exact ih.tail hs

/-- Every run of the engine is a labelled one. -/
theorem Run.of_steps (h : ReflTransGen Step a a') : ∃ ids, Run a ids a' := by
  induction h with
  | refl => exact ⟨[], .refl _⟩
  | @tail b c _ hs ih =>
    obtain ⟨ids, hr⟩ := ih
    rcases em (∃ s, b.newOutbound = .ok (.ok s, c)) with ⟨s, ho⟩ | ho
    · exact ⟨_, hr.opened ho⟩
    · exact ⟨ids, hr.other hs fun s h => ho ⟨s, h⟩⟩

/-- A step that leaves `next_id` where it was hands out no id. -/
theorem Run.keep (h : Run a ids a') (hs : Step a' a'') (hn : a''.nextId = a'.nextId) : Run a ids a'' :=
  h.other hs fun _ ho => by
    rcases newOutbound_cases ho with ⟨-, _, he⟩ | ⟨hal, -⟩
    · cases he
    · simpa [hn] using hal.nextId

theorem Run.trans (h : Run a ids a') (h' : Run a' ids' a'') : Run a (ids ++ ids') a'' := by
  induction h' with
  | refl => rw [List.append_nil]; exact h
  | opened _ ho ih => rw [← List.append_assoc]; exact ih.opened ho
  | other _ hs hn ih => exact ih.other hs hn

/-- Along a run `next_id` moves on by two for each id handed out, and the ids are its
successive values. -/
theorem Run.ids_eq (h : Run a ids a') :
    a'.nextId.toNat = a.nextId.toNat + 2 * ids.length ∧
      ids.map (·.val.toNat) = (List.range ids.length).map (fun k => a.nextId.toNat + 2 * k) := by
  induction h with
  | refl => simp
  | @opened b _ ids s _ ho ih =>
    rcases newOutbound_cases ho with ⟨-, _, he⟩ | ⟨hal, s', he, hid, -⟩
    · cases he
    cases he
    refine ⟨by rw [hal.nextId, ih.1, List.length_append, List.length_singleton]; omega, ?_⟩
    rw [List.length_append, List.length_singleton, List.range_succ, List.map_append, List.map_append, ih.2,
      hid]
    simp [ih.1]
  | other _ hs hn ih =>
    rcases hs.cases with h | ⟨_, h⟩ | ⟨-, s, ho⟩
    · rw [h.nextId]; exact ih
    · rw [h.nextId]; exact ih
    · exact absurd ho (hn s)

theorem new_nextId_toNat (sock : Socket) (cfg : Config) (mode : Mode) :
    (Active.new sock cfg mode).nextId.toNat = if mode = .client then 1 else 2 := by
  cases mode <;> rfl

/-- **The ids handed out.** Along any run of an engine from `Active::new`, the successful
`new_outbound` calls return the ids of the local parity in increasing order from 1
(client) or 2 (server), with no gap, each at most `u32::MAX - 2`, so a run hands out at
most 2^31 - 1 ids as a client (1 to 4294967293) and 2^31 - 2 as a server (2 to
4294967292). At the end of the run `new_outbound` fails with `NoMoreStreamIds` exactly
when the table has room and `next_id` plus two overflows, which is exactly when that many
ids are out. -/
theorem run_ids {sock : Socket} {cfg : Config} {mode : Mode} (h : Run (Active.new sock cfg mode) ids a) :
    ids.map (·.val.toNat) =
      (List.range ids.length).map (fun k => (if mode = .client then 1 else 2) + 2 * k) ∧
    (∀ id ∈ ids, id.val.toNat + 2 < UInt32.size) ∧
    ids.length ≤ (if mode = .client then 2 ^ 31 - 1 else 2 ^ 31 - 2) ∧
    (a.newOutbound = .ok (.error .noMoreStreamIds, a) ↔
      a.streams.entries.length < a.config.maxNumStreams ∧ UInt32.size ≤ a.nextId.toNat + 2 ∧
        ids.length = (if mode = .client then 2 ^ 31 - 1 else 2 ^ 31 - 2)) := by
  obtain ⟨hn, hids⟩ := h.ids_eq
  rw [new_nextId_toNat] at hn hids
  have hmax : (if mode = .client then 2 ^ 31 - 1 else 2 ^ 31 - 2) = 2 ^ 31 - (if mode = .client then 1 else 2) := by
    split <;> rfl
  have h12 : (if mode = .client then 1 else 2) = 1 ∨ (if mode = .client then 1 else 2) = 2 := by
    split <;> simp
  rw [hmax]
  generalize (if mode = .client then 1 else 2) = n at hn hids h12 ⊢
  have hlt := a.nextId.toNat_lt_size
  have hsize : UInt32.size = 2 ^ 32 := rfl
  refine ⟨hids, fun id hid => ?_, by omega, ?_⟩
  · have hm := List.mem_map_of_mem (fun id : StreamId => id.val.toNat) hid
    rw [hids] at hm
    obtain ⟨k, hk, hkid⟩ := List.mem_map.1 hm
    rw [List.mem_range] at hk
    dsimp only at hkid
    omega
  · rw [newOutbound_eq]
    split_ifs <;> simp <;> omega

/-- Two opens of a fresh server hand out 2 and then 4. -/
theorem server_first_ids :
    ∃ ids a, Run (Active.new Socket.idle Config.default .server) ids a ∧ ids = [⟨2⟩, ⟨4⟩] ∧
      ids.map (·.val.toNat) = (List.range ids.length).map (fun k => 2 + 2 * k) ∧
      (∀ id ∈ ids, id.val.toNat + 2 < UInt32.size) ∧ ids.length ≤ 2 ^ 31 - 2 ∧
      (a.newOutbound = .ok (.error .noMoreStreamIds, a) ↔
        a.streams.entries.length < a.config.maxNumStreams ∧ UInt32.size ≤ a.nextId.toNat + 2 ∧
          ids.length = 2 ^ 31 - 2) :=
  have h := ((Run.refl (Active.new Socket.idle Config.default .server)).opened rfl).opened rfl
  ⟨_, _, h, rfl, run_ids h⟩

/-! ## The last id of a client -/

/-- One round of an engine that opens a stream and drops its handle at once: the stream
goes in under `next_id`, and garbage collection resets and removes it, leaving the table
empty again with `next_id` moved on by two. -/
theorem open_drop_collect (hs : a.streams.entries = []) (hc : a.config.receiveWindow = defaultCredit)
    (hm : 0 < a.config.maxNumStreams) (hx : a.nextId.toNat + 2 < UInt32.size)
    (hl : a.mode.isLocal ⟨a.nextId⟩ = true) :
    ∃ a', Run a [⟨a.nextId⟩] a' ∧ a'.streams.entries = [] ∧ a'.config = a.config ∧ a'.mode = a.mode ∧
      a'.nextId = a.nextId + 2 := by
  set st := (Stream.new ⟨a.nextId⟩ defaultCredit defaultCredit).setFlag .syn
  set a1 : Active := { a with nextId := a.nextId + 2, streams := a.streams.insert ⟨a.nextId⟩ st }
  have h1 : a.newOutbound = .ok (.ok st, a1) := by
    rw [newOutbound_eq, if_neg (by rw [hs]; exact Nat.not_le.2 hm), if_pos hx, if_pos hl,
      openOutbound_default (a := { a with nextId := a.nextId + 2 }) hc]
  have hr1 : a1.streams.lookup ⟨a.nextId⟩ = some st := AList.lookup_insert _
  set a2 := a1.setShared ⟨a.nextId⟩ { st with handles := 0 } st.shared []
  have h2 : a1.dropHandle ⟨a.nextId⟩ = some a2 := by
    simp only [dropHandle, hr1]
    rfl
  have hk : a2.garbageCollect.streams.keys = [] := by
    have hsub : a2.garbageCollect.streams.keys.Sublist [⟨a.nextId⟩] := by
      have h := (garbageCollect_keys (a := a2)).2.2.2
      have h0 : a.streams.keys = [] := by rw [AList.keys, hs]; rfl
      rwa [(keeps_setShared (a := a1) _ _ _ _).keys, AList.keys_insert, h0, List.erase_nil] at h
    have hn := not_mem_garbageCollect (a := a2) (setShared_lookup_self hr1 _ _ _) (Nat.le_refl 1)
    exact List.eq_nil_iff_forall_not_mem.2 fun x hx => by
      have := List.mem_singleton.1 (hsub.subset hx)
      subst this
      exact hn (AList.mem_keys.2 hx)
  refine ⟨a2.garbageCollect, ((Run.refl a).opened h1).keep (.handleDrop h2) rfl |>.keep (.collect a2) rfl,
    ?_, rfl, rfl, rfl⟩
  simpa [AList.keys, List.keys] using hk

/-- A client of the default configuration can run `open_drop_collect` until `next_id`
reaches any odd value. -/
theorem client_opens (k : Nat) (hk : 1 + 2 * k < UInt32.size) :
    ∃ ids a, Run (Active.new Socket.idle Config.default .client) ids a ∧ a.streams.entries = [] ∧
      a.config = Config.default ∧ a.mode = .client ∧ a.nextId.toNat = 1 + 2 * k := by
  induction k with
  | zero => exact ⟨[], _, .refl _, rfl, rfl, rfl, rfl⟩
  | succ k ih =>
    obtain ⟨ids, a, hr, hs, hc, hm, hn⟩ := ih (by omega)
    have hx : a.nextId.toNat + 2 < UInt32.size := by omega
    obtain ⟨a', hr', hs', hc', hm', hn'⟩ := open_drop_collect hs (by rw [hc]; rfl) (by rw [hc]; decide) hx
      (by rw [hm, Mode.isLocal_iff]; dsimp only; omega)
    refine ⟨_, a', hr.trans hr', hs', hc'.trans hc, hm'.trans hm, ?_⟩
    rw [hn', UInt32.toNat_add_of_lt hx, hn]
    rfl

/-- **A client never gets `u32::MAX`.** After handing out every odd id up to 4294967293, a
client of the default configuration, its table empty, is refused the next stream with
`NoMoreStreamIds`, though 4294967295 was never handed out. -/
theorem client_last_id_refused :
    ∃ ids a, Run (Active.new Socket.idle Config.default .client) ids a ∧
      (⟨4294967293⟩ : StreamId) ∈ ids ∧ (⟨4294967295⟩ : StreamId) ∉ ids ∧
      a.newOutbound = .ok (.error .noMoreStreamIds, a) := by
  obtain ⟨ids, a, hr, hs, hc, -, hn⟩ := client_opens 2147483647 (by decide)
  obtain ⟨hn', hids⟩ := hr.ids_eq
  have h1 : (Active.new Socket.idle Config.default .client).nextId.toNat = 1 := rfl
  rw [h1] at hn' hids
  have hlen : ids.length = 2147483647 := by omega
  have hmem : ∀ n, n ∈ ids.map (·.val.toNat) ↔ ∃ k < 2147483647, 1 + 2 * k = n := fun n => by
    rw [hids, hlen, List.mem_map]
    simp only [List.mem_range]
  refine ⟨ids, a, hr, ?_, fun h => ?_, ?_⟩
  · obtain ⟨id, hid, hv⟩ := List.mem_map.1 ((hmem 4294967293).2 ⟨2147483646, by decide, rfl⟩)
    have : id.val = 4294967293 := UInt32.toNat_injective hv
    rwa [← this]
  · obtain ⟨k, hk, hkv⟩ := (hmem 4294967295).1 (List.mem_map_of_mem _ h)
    omega
  · rw [newOutbound_eq, if_neg (by rw [hs, hc]; decide), if_neg (by rw [hn]; decide)]

end Active

end Yamux
