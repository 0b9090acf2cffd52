import Yamux.Proof.Facade
import Yamux.Proof.Inbound
import Yamux.Proof.Records

/-!
# What the engine sends for a stream

The frames of a stream reach the pending frames by three roads: the commands its handle
queues (`SendFrame`, `CloseStream`), in the handle's order; the frames `garbage_collect`
queues for a dropped record, at once; and the answers of the handlers of received frames.

* `garbageCollect_spec`: in every reachable engine `garbage_collect` removes exactly the
  streams the table alone holds, each left `Closed` with both wakers taken, keeps every
  other record as it was, and queues for each removed stream, named by its `stream.id()`,
  an `RST` if it was `Open`, a `FIN` if `RecvClosed`, an `RST` if `SendClosed` with a zero
  window under `OnRead`, and nothing otherwise; for any other stream it queues nothing.

* `collect_overtakes_queue`: the `RST` or `FIN` that `garbage_collect` queues for a dropped
  stream goes ahead of the commands the handle queued before it was dropped, so a data
  frame of the stream follows its `RST` or `FIN`; `reset_before_queued_data` runs a handle
  that writes one byte and is dropped.
* `close_before_write_unannounced`: with a receive window of `DEFAULT_CREDIT` the `SYN` of a
  stream waits for its first data frame, and a close before any write sends a `FIN`
  without it and ends the writes that would have carried it.
* `collect_sendClosed_no_reset`: a dropped record in `SendClosed` goes without a frame under
  `OnReceive`, on the word of a comment that `on_data` will reset the stream later; but
  `on_data` answers a data frame for an id it does not hold with nothing.
-/

namespace Yamux

namespace Active

open Relation

variable {a a' a1 a2 : Active} {t : StreamId} {r s : Stream} {g : Frame}

/-! ## `garbage_collect` by itself -/

theorem garbageCollect_pendingFrames :
    a.garbageCollect.pendingFrames = a.pendingFrames ++
      (a.streams.entries.filter (fun e => Dropped e.2)).filterMap
        (fun e => gcFrame a.config.windowUpdateMode e.1 e.2.shared) := rfl

theorem gcFrame_mem (hr : a.streams.lookup t = some r) (hd : Dropped r)
    (hg : gcFrame a.config.windowUpdateMode t r.shared = some g) : g ∈ a.garbageCollect.pendingFrames := by
  rw [garbageCollect_pendingFrames]
  exact List.mem_append_right _ (List.mem_filterMap.2
    ⟨⟨t, r⟩, List.mem_filter.2 ⟨AList.mem_lookup_iff.1 hr, decide_eq_true hd⟩, hg⟩)

theorem not_mem_garbageCollect (hr : a.streams.lookup t = some r) (hd : Dropped r) :
    t ∉ a.garbageCollect.streams := by
  rw [← AList.lookup_eq_none]; exact lookup_garbageCollect_dropped hr hd

theorem dropped_iff : Dropped r ↔ r.strongCount = 1 := by
  unfold Dropped Stream.strongCount; omega

theorem gcFrame_streamId {mode : WindowUpdateMode} {sh : Shared} (h : gcFrame mode t sh = some g) :
    g.header.streamId = t := by
  unfold gcFrame at h
  split at h <;> (try split_ifs at h) <;> cases h <;> rfl

/-- The frames of the sweep that name `t` come from the entry of `t` alone, keys being
unique. -/
theorem filter_sweepFrames (mode : WindowUpdateMode) (t : StreamId) (l : List (Σ _ : StreamId, Stream))
    (hl : l.NodupKeys) :
    ((l.filter (fun e => Dropped e.2)).filterMap (fun e => gcFrame mode e.1 e.2.shared)).filter
        (fun g => g.header.streamId = t) =
      match l.dlookup t with
      | some r => if r.strongCount = 1 then (gcFrame mode t r.shared).toList else []
      | none => [] := by
  induction l with
  | nil => rfl
  | cons e l ih =>
    obtain ⟨k, v⟩ := e
    rw [List.nodupKeys_cons] at hl
    have hg : ∀ g, gcFrame mode k v.shared = some g → g.header.streamId = k := fun g => gcFrame_streamId
    by_cases hk : t = k
    · subst hk
      rw [List.dlookup_cons_eq]
      rw [List.dlookup_eq_none.2 hl.1] at ih
      by_cases hd : Dropped v <;> cases hgk : gcFrame mode t v.shared <;>
        simp [List.filter_cons, ← dropped_iff, hd, hgk, hg, ih hl.2]
    · rw [List.dlookup_cons_ne _ _ hk, ← ih hl.2]
      by_cases hd : Dropped v <;> cases hgk : gcFrame mode k v.shared <;>
        simp [List.filter_cons, ← dropped_iff, hd, hgk, hg, Ne.symm hk]

/-- The frame the sweep queues for a dropped record, by its state. -/
theorem gcFrame_toList (mode : WindowUpdateMode) (t : StreamId) (sh : Shared) :
    (gcFrame mode t sh).toList =
      if sh.state = .open ∨ sh.state = .sendClosed ∧ mode = .onRead ∧ sh.window = 0 then
        [Frame.new (Header.data t 0).rst]
      else if sh.state = .recvClosed then [Frame.new (Header.data t 0).fin] else [] := by
  unfold gcFrame
  split <;> simp_all [apply_ite Option.toList]

/-- **`garbage_collect`, stream by stream.** In a reachable engine a stream leaves the
table exactly when the table holds the only reference to it, and every other record stays
as it was; the sweep leaves each removed record `Closed` with both wakers taken. Behind the
pending frames go, for each removed stream, the frame its state asks for, under the id the
stream carries: an `RST` if it was `Open`, a `FIN` if `RecvClosed`, an `RST` if `SendClosed`
with a zero window under `OnRead`, nothing otherwise; and no frame for any stream that
stays, or that the table does not hold. -/
theorem garbageCollect_spec (ha : a.Reachable) :
    (∀ t, a.garbageCollect.streams.lookup t = (a.streams.lookup t).filter (fun r => r.strongCount ≠ 1)) ∧
    (∀ t r, a.streams.lookup t = some r → r.strongCount = 1 →
      ∃ r', a.sweep.1.streams.lookup t = some r' ∧ r'.shared.state = .closed ∧
        r'.shared.reader = none ∧ r'.shared.writer = none) ∧
    ∃ E, a.garbageCollect.pendingFrames = a.pendingFrames ++ E ∧
      ∀ t, E.filter (fun g => g.header.streamId = t) =
        match a.streams.lookup t with
        | some r =>
          if r.strongCount = 1 then
            if r.shared.state = .open ∨
                r.shared.state = .sendClosed ∧ a.config.windowUpdateMode = .onRead ∧ r.shared.window = 0 then
              [Frame.new (Header.data r.id 0).rst]
            else if r.shared.state = .recvClosed then [Frame.new (Header.data r.id 0).fin] else []
          else []
        | none => [] := by
  refine ⟨fun t => ?_, fun t r hr hd => ?_, _, garbageCollect_pendingFrames, fun t => ?_⟩
  · rw [lookup_garbageCollect]
    cases hr : a.streams.lookup t with
    | none => simp
    | some r =>
      by_cases hd : Dropped r <;> simp [mem_sweep_ids, hr, hd, Option.filter, sweepRecord, ← dropped_iff]
  · refine ⟨_, by rw [lookup_sweep, hr]; rfl, ?_⟩
    simp [sweepRecord, dropped_iff.2 hd, Shared.takeWakers, Shared.updateState_closed]
  · refine (filter_sweepFrames _ t _ a.streams.nodupKeys).trans ?_
    rw [show a.streams.entries.dlookup t = a.streams.lookup t from rfl]
    cases hr : a.streams.lookup t with
    | none => rfl
    | some r => dsimp only; rw [ha.keysMatch t r hr, gcFrame_toList]

/-- A client opens stream 1 and drops its handle: the next collection removes the
record, still `Open`, and queues an `RST` for stream 1. -/
theorem collect_resets_dropped :
    ∃ a : Active, a.Reachable ∧ (⟨1⟩ : StreamId) ∈ a.streams ∧ (⟨1⟩ : StreamId) ∉ a.garbageCollect.streams ∧
      ∃ E, a.garbageCollect.pendingFrames = a.pendingFrames ++ E ∧
        E.filter (fun g => g.header.streamId = ⟨1⟩) = [Frame.new (Header.data ⟨1⟩ 0).rst] := by
  obtain ⟨s, a1, a2, r, h1, h2, hr, hc, hs, hid⟩ : ∃ s a1 a2 r,
      (Active.new Socket.idle Config.default .client).newOutbound = .ok (.ok s, a1) ∧
      a1.dropHandle ⟨1⟩ = some a2 ∧ a2.streams.lookup ⟨1⟩ = some r ∧ r.strongCount = 1 ∧
      r.shared.state = .open ∧ r.id = ⟨1⟩ := by
    refine ⟨_, _, _, _, rfl, rfl, rfl, ?_⟩; exact ⟨rfl, rfl, rfl⟩
  have ha : a2.Reachable := ⟨_, _, _, .tail (.single (.newOutbound h1)) (.handleDrop h2)⟩
  obtain ⟨hl, -, E, hE, hf⟩ := garbageCollect_spec ha
  refine ⟨a2, ha, AList.lookup_isSome.1 (by rw [hr]; rfl), fun hm => ?_, E, hE, ?_⟩
  · rw [← AList.lookup_isSome, hl, hr] at hm
    simp [Option.filter, hc] at hm
  · rw [hf, hr]
    simp [hc, hs, hid]

/-! ## `garbage_collect` and the command queue -/

/-- **`garbage_collect` overtakes the command queue.** The frame it queues for a dropped
stream, an `RST` for an `Open` record or a `FIN` for a `RecvClosed` one, goes into the
pending frames at once, ahead of the commands the handle queued before it was dropped:
the next command the engine takes, a data frame of that very stream among them, is queued
after it. -/
theorem collect_overtakes_queue {c : StreamCommand} {rx : Receiver} (hr : a.streams.lookup t = some r)
    (hd : Dropped r) (hg : gcFrame a.config.windowUpdateMode t r.shared = some g)
    (hc : a.streamReceiver.pollNext = (.ready (some c), rx)) :
    ReflTransGen Step a (onCommand { a.garbageCollect with streamReceiver := rx } c) ∧
      [g, c.frame].Sublist (onCommand { a.garbageCollect with streamReceiver := rx } c).pendingFrames := by
  refine ⟨.tail (.single (.collect a)) (.command hc), ?_⟩
  rw [onCommand_pendingFrames]
  exact (List.singleton_sublist.2 (gcFrame_mem hr hd hg)).append (List.Sublist.refl [c.frame])

/-- **Failing input**: a client opens stream 1, whose `SYN` waits for the first data
frame; its handle writes one byte and is dropped. The next collection queues an `RST` for
stream 1, and the data frame with the `SYN` and the byte is queued after it. -/
theorem reset_before_queued_data :
    ∃ a1 a2 a3 s, (Active.new Socket.idle Config.default .client).newOutbound = .ok (.ok s, a1) ∧
      a1.write ⟨1⟩ ⟨0⟩ [1] = some (.ready (.ok 1), a2) ∧ a2.dropHandle ⟨1⟩ = some a3 ∧
      ∃ a4, ReflTransGen Step a3 a4 ∧
        [Frame.new (Header.data ⟨1⟩ 0).rst, ⟨(Header.data ⟨1⟩ 1).syn, [1]⟩].Sublist a4.pendingFrames :=
  ⟨_, _, _, _, rfl, rfl, rfl, _,
    collect_overtakes_queue (t := ⟨1⟩) (c := .sendFrame ⟨(Header.data ⟨1⟩ 1).syn, [1]⟩)
      (by rfl) (by decide) (by rfl) (by rfl)⟩

/-! ## A close before the first write -/

/-- With a receive window of `DEFAULT_CREDIT`, `new_outbound` queues nothing: the stream
it inserts owes its `SYN` to its first frame. -/
theorem openOutbound_default (h : a.config.receiveWindow = defaultCredit) (id : StreamId) :
    a.openOutbound id = ((Stream.new id defaultCredit defaultCredit).setFlag .syn,
      { a with streams := a.streams.insert id ((Stream.new id defaultCredit defaultCredit).setFlag .syn) }) := by
  rcases openOutbound_arms (a := a) id with ⟨hn, -⟩ | ⟨-, e⟩
  · exact absurd (by rw [h]; decide) hn
  · rw [e, h]

/-- A close queues `CloseStream` with whether the pending flag is `ACK`, and closes the
record's sending half. -/
theorem closeStream_spec (hr : a.streams.lookup t = some r) (hst : r.shared.state ≠ .closed)
    (hc : a.closeStream t = some a') :
    a'.streamReceiver.queue = a.streamReceiver.queue ++ [.closeStream t (decide (r.flag = .ack))] ∧
      ∃ r', a'.streams.lookup t = some r' ∧ r'.shared.state = (r.shared.updateState .sendClosed).2.state := by
  obtain ⟨r', hr', ⟨hcl, -⟩ | ⟨-, hc⟩⟩ := closeStream_cases hc <;> rw [hr] at hr' <;> cases hr'
  · exact absurd hcl hst
  · exact ⟨by rw [sendCommand_queue hc]; rfl, _, by rw [(sendCommand_eq hc).2.1]; exact setShared_lookup_self hr _ _ [], rfl⟩

/-- A write on a record whose sending half is closed is refused and changes nothing. -/
theorem write_refused (hr : a.streams.lookup t = some r)
    (hst : r.shared.state = .sendClosed ∨ r.shared.state = .closed) (w : Waker) (data : List UInt8) :
    a.write t w data = some (.ready (.error .closed), a) := by
  simp [write, hr, hst]

/-- **A stream closed before its first write is never announced.** With a receive window
of `DEFAULT_CREDIT`, `new_outbound` queues no frame and leaves the `SYN` to the stream's
first data frame. A close before any write queues `CloseStream{id, ack: false}`, whose
`FIN` carries no `SYN`, and closes the stream's sending half, so every later write is
refused and the `SYN` is never sent: the remote hears of the stream only by a `FIN` for an
id it does not know. -/
theorem close_before_write_unannounced (hrw : a.config.receiveWindow = defaultCredit)
    (hn : a.newOutbound = .ok (.ok s, a1)) (hc : a1.closeStream s.id = some a2) :
    a1.pendingFrames = a.pendingFrames ∧ a1.streamReceiver = a.streamReceiver ∧
      a2.streamReceiver.queue = a.streamReceiver.queue ++ [.closeStream s.id false] ∧
      (Frame.closeStream s.id false).header.flags.syn = false ∧
      ∀ w data, a2.write s.id w data = some (.ready (.error .closed), a2) := by
  rw [newOutbound_eq] at hn
  split_ifs at hn <;> simp only [Except.ok.injEq, Prod.mk.injEq, reduceCtorEq, false_and] at hn
  obtain ⟨hs, rfl⟩ := hn
  rw [openOutbound_default (a := { a with nextId := a.nextId + 2 }) hrw] at hs hc ⊢
  cases hs
  have hr : (a.streams.insert ⟨a.nextId⟩ ((Stream.new ⟨a.nextId⟩ defaultCredit defaultCredit).setFlag .syn)).lookup
      ⟨a.nextId⟩ = some ((Stream.new ⟨a.nextId⟩ defaultCredit defaultCredit).setFlag .syn) :=
    AList.lookup_insert _
  obtain ⟨hq, r', hr', hst⟩ := closeStream_spec hr (by simp [Stream.setFlag, Stream.new, Shared.new]) hc
  exact ⟨rfl, rfl, hq, rfl, write_refused hr' (.inl hst)⟩

/-- **Failing input**: a fresh client with the default configuration opens stream 1 and
closes it at once. The only frame it ever queues for stream 1 is a `FIN` without `SYN`,
which a fresh server ignores. -/
theorem fin_without_syn :
    ∃ s a1 a2, (Active.new Socket.idle Config.default .client).newOutbound = .ok (.ok s, a1) ∧
      a1.closeStream s.id = some a2 ∧ a1.pendingFrames = [] ∧ a1.streamReceiver.queue = [] ∧
      a2.streamReceiver.queue = [.closeStream ⟨1⟩ false] ∧
      (Frame.closeStream ⟨1⟩ false).header.flags.syn = false ∧
      (∀ w data, a2.write ⟨1⟩ w data = some (.ready (.error .closed), a2)) ∧
      (Active.new Socket.idle Config.default .server).onFrame (Frame.closeStream ⟨1⟩ false) =
        (.ok none, Active.new Socket.idle Config.default .server) := by
  obtain ⟨h1, h2, h3, h4, h5⟩ := close_before_write_unannounced (a := Active.new Socket.idle Config.default .client)
    (s := (Stream.new ⟨1⟩ defaultCredit defaultCredit).setFlag .syn) rfl rfl rfl
  exact ⟨_, _, _, rfl, rfl, h1, congrArg Receiver.queue h2, h3, h4, h5, rfl⟩

/-! ## A dropped stream whose sending half is closed -/

/-- **A dropped stream whose sending half is closed goes without a reset.** Under
`OnReceive`, or with window left, `garbage_collect` queues no frame for a dropped record in
`SendClosed`: its comment counts on `on_data` to reset the stream when a later data frame
for it arrives. But the record is removed, and `on_data` answers a data frame without
`SYN` for an id the table does not hold with nothing, so the remote's writer on the stream
is never told, and gets no credit back for what it sends. -/
theorem collect_sendClosed_no_reset (hr : a.streams.lookup t = some r) (hd : Dropped r)
    (hst : r.shared.state = .sendClosed) (hm : a.config.windowUpdateMode = .onReceive ∨ r.shared.window ≠ 0) :
    gcFrame a.config.windowUpdateMode t r.shared = none ∧ t ∉ a.garbageCollect.streams ∧
      ∀ f : Frame, f.header.tag = .data → f.header.streamId = t → f.header.flags.syn = false →
        a.garbageCollect.onFrame f = (.ok none, a.garbageCollect) := by
  have hn := not_mem_garbageCollect hr hd
  refine ⟨?_, hn, fun f htag hid hsyn => ?_⟩
  · simp only [gcFrame, hst]
    rw [if_neg]
    rintro ⟨h1, h2⟩
    rcases hm with hm | hm
    · rw [hm] at h1; cases h1
    · exact hm h2
  · rw [onFrame_data htag, onData_unknown hsyn (hid ▸ hn)]
    rfl

/-- **Failing input**: a server accepts stream 1, whose handle closes it and is dropped;
the close's `FIN` is queued. The collection queues nothing more and removes the record, and
the remote's next data frame on stream 1 is answered with nothing. -/
theorem dropped_after_close_no_reset :
    ∃ a2 a3 r, ((Active.new Socket.idle Config.default .server).onFrame
        (Frame.new (Header.data ⟨1⟩ 0).syn)).2.closeStream ⟨1⟩ = some a2 ∧
      a2.dropHandle ⟨1⟩ = some a3 ∧ a3.streams.lookup ⟨1⟩ = some r ∧
      gcFrame a3.config.windowUpdateMode ⟨1⟩ r.shared = none ∧ (⟨1⟩ : StreamId) ∉ a3.garbageCollect.streams ∧
      a3.garbageCollect.onFrame ⟨Header.data ⟨1⟩ 3, [1, 2, 3]⟩ = (.ok none, a3.garbageCollect) :=
  ⟨_, _, _, rfl, rfl, rfl,
    have h := collect_sendClosed_no_reset (by rfl) (by decide) (by rfl) (.inl rfl)
    ⟨h.1, h.2.1, h.2.2 _ rfl rfl rfl⟩⟩

end Active

end Yamux
