import Mathlib.Algebra.BigOperators.Group.List
import Yamux.Proof.Table
import Yamux.Spec.Link

/-!
# The accounts of a stream

Flow control is bookkeeping per stream: the sender's credit, the receiver's window,
and the data and credit carried by frames not yet received. This module gives each
operation of an engine its effect on those accounts, stream by stream (`Law`): what
it emits, and how the record of the stream changes, as equations in exact
arithmetic. The two-engine argument (`Flow`) is then arithmetic over these laws
alone, and never unfolds an operation again.

The frames an engine has produced and not written yet are `Active.out`: the pending
frames, then the frames of the commands still queued.
-/

namespace Yamux

/-- The frame a stream command becomes, in `Active` and in `Closing` alike. -/
def StreamCommand.frame : StreamCommand → Frame
  | .sendFrame f => f
  | .closeStream id ack => Frame.closeStream id ack

theorem Active.onCommand_pendingFrames (a : Active) (cmd : StreamCommand) :
    (a.onCommand cmd).pendingFrames = a.pendingFrames ++ [cmd.frame] := by
  cases cmd <;> rfl

@[simp] theorem Active.onCommand_streamReceiver (a : Active) (cmd : StreamCommand) :
    (a.onCommand cmd).streamReceiver = a.streamReceiver := by
  cases cmd <;> rfl

theorem Frame.dataFor_eq_length (s : StreamId) (f : Frame) : f.dataFor s = (f.payloadFor s).length := by
  unfold Frame.dataFor Frame.payloadFor; split <;> rfl

/-- The total of a per-frame quantity over a list of frames. -/
def total (g : Frame → Nat) (fs : List Frame) : Nat := (fs.map g).sum

@[simp] theorem total_nil (g : Frame → Nat) : total g [] = 0 := rfl

@[simp] theorem total_cons (g : Frame → Nat) (f : Frame) (fs : List Frame) :
    total g (f :: fs) = g f + total g fs := List.sum_cons

@[simp] theorem total_append (g : Frame → Nat) (fs gs : List Frame) :
    total g (fs ++ gs) = total g fs + total g gs := by
  simp [total, List.sum_append]

/-- The data bytes a list of frames carries on stream `s`, in order. -/
def payload (s : StreamId) (fs : List Frame) : List UInt8 := fs.flatMap (Frame.payloadFor s)

@[simp] theorem payload_nil (s : StreamId) : payload s [] = [] := rfl

@[simp] theorem payload_cons (s : StreamId) (f : Frame) (fs : List Frame) :
    payload s (f :: fs) = f.payloadFor s ++ payload s fs := List.flatMap_cons _ _ _

@[simp] theorem payload_append (s : StreamId) (fs gs : List Frame) :
    payload s (fs ++ gs) = payload s fs ++ payload s gs := List.flatMap_append _ _ _

theorem total_dataFor (s : StreamId) (fs : List Frame) : total (Frame.dataFor s) fs = (payload s fs).length := by
  induction fs with
  | nil => rfl
  | cons f fs ih => simp [ih, Frame.dataFor_eq_length]

/-- The frames an engine has produced and not written yet, oldest first. -/
def Active.out (a : Active) : List Frame :=
  a.pendingFrames ++ a.streamReceiver.queue.map StreamCommand.frame

/-- The send credit and the receive window of a record, as numbers, and whether it
still owes its `SYN`. -/
def Stream.credit (r : Stream) : Nat := r.shared.credit.toNat

def Stream.window (r : Stream) : Nat := r.shared.window.toNat

def Stream.synFlag (r : Stream) : Nat := if r.flag = .syn then 1 else 0

theorem AList.lookup_replace {t s : StreamId} (b : Stream) (m : Table) :
    (m.replace t b).lookup s = if s = t then (m.lookup t).map fun _ => b else m.lookup s := by
  obtain ⟨l, nd⟩ := m
  show (List.kreplace t b l).dlookup s = if s = t then (l.dlookup t).map _ else l.dlookup s
  clear nd
  induction l with
  | nil => split <;> rfl
  | cons e l ih =>
    obtain ⟨k, v⟩ := e
    by_cases hk : t = k
    · subst hk
      rw [show List.kreplace t b (⟨t, v⟩ :: l) = ⟨t, b⟩ :: l from List.lookmap_cons_some _ _ (if_pos rfl)]
      by_cases hs : s = t
      · subst hs; simp [List.dlookup_cons_eq]
      · simp [hs, List.dlookup_cons_ne _ ⟨t, _⟩ hs]
    · rw [show List.kreplace t b (⟨k, v⟩ :: l) = ⟨k, v⟩ :: List.kreplace t b l from
        List.lookmap_cons_none _ _ (if_neg hk)]
      by_cases hs : s = k
      · subst hs; simp [List.dlookup_cons_eq, Ne.symm hk]
      · rw [List.dlookup_cons_ne _ ⟨k, _⟩ hs, List.dlookup_cons_ne _ ⟨k, _⟩ hs, ih, List.dlookup_cons_ne _ ⟨k, _⟩ hk]

namespace Active

variable {a : Active} {s t : StreamId}

@[simp] theorem setShared_lookup_ne (h : s ≠ t) (r : Stream) (sh : Shared) (w : List Waker) :
    (a.setShared t r sh w).streams.lookup s = a.streams.lookup s := by
  simp [setShared, AList.lookup_replace, h]

theorem setShared_lookup_self {r : Stream} (h : a.streams.lookup t = some r) (r' : Stream) (sh : Shared)
    (w : List Waker) : (a.setShared t r' sh w).streams.lookup t = some { r' with shared := sh } := by
  simp [setShared, AList.lookup_replace, h]

end Active

/-- What becomes of the record of stream `s` when `a` becomes `a'`, taking in the frames
`fin` and emitting `E`. A kept record's credit grows by at most the credit taken in
and shrinks by the data sent; its window shrinks by at most the data taken in and
grows by the credit granted. A record is created with `DEFAULT_CREDIT` for both, by the
`SYN` of a received frame or by an open of the engine's own. Only the `SYN` a record
still owes, or an open, puts a `SYN` on a frame. -/
inductive Trans (s : StreamId) (a a' : Active) (fin E : List Frame) : Prop
  | absent : a.streams.lookup s = none → a'.streams.lookup s = none →
      total (Frame.dataFor s) E = 0 → total (Frame.creditFor s) E = 0 → total (Frame.synFor s) E = 0 →
      Trans s a a' fin E
  | kept {r r' : Stream} : a.streams.lookup s = some r → a'.streams.lookup s = some r' →
      r'.credit + total (Frame.dataFor s) E ≤ r.credit + total (Frame.creditFor s) fin →
      r.window + total (Frame.creditFor s) E ≤ r'.window + total (Frame.dataFor s) fin →
      r'.window ≤ a.config.receiveWindow.toNat →
      total (Frame.synFor s) E + r'.synFlag ≤ r.synFlag → Trans s a a' fin E
  | removed {r : Stream} : a.streams.lookup s = some r → a'.streams.lookup s = none →
      total (Frame.dataFor s) E = 0 → total (Frame.creditFor s) E = 0 → total (Frame.synFor s) E = 0 →
      Trans s a a' fin E
  | opened {r' : Stream} : a.streams.lookup s = none → a'.streams.lookup s = some r' →
      r'.credit + total (Frame.dataFor s) E ≤ defaultCredit.toNat + total (Frame.creditFor s) fin →
      defaultCredit.toNat + total (Frame.creditFor s) E ≤ r'.window + total (Frame.dataFor s) fin →
      r'.window ≤ a.config.receiveWindow.toNat →
      (0 < total (Frame.synFor s) fin ∧ total (Frame.synFor s) E + r'.synFlag = 0 ∨
        fin = [] ∧ s = ⟨a.nextId⟩ ∧ total (Frame.synFor s) E + r'.synFlag = 1) →
      Trans s a a' fin E

/-- **The accounts of stream `s` across an operation**: the unwritten frames gain
exactly the emitted frames `E`, the data of `s` among them in order, and the record of
`s` changes as `Trans` allows. -/
structure Law (s : StreamId) (a a' : Active) (fin E : List Frame) : Prop where
  out : ∀ g, total g a'.out = total g a.out + total g E
  payload : payload s a'.out = payload s a.out ++ payload s E
  trans : Trans s a a' fin E

variable {s : StreamId} {a a' : Active} {fin E : List Frame}

/-- The window bound a law needs: every record of `s` within the receive window. -/
def WindowOk (s : StreamId) (a : Active) : Prop :=
  ∀ r, a.streams.lookup s = some r → r.window ≤ a.config.receiveWindow.toNat

/-- An operation that leaves the record of `s` and emits nothing on it. -/
theorem Trans.same (hw : WindowOk s a) (h : a'.streams.lookup s = a.streams.lookup s)
    (hd : total (Frame.dataFor s) E = 0) (hc : total (Frame.creditFor s) E = 0)
    (hs : total (Frame.synFor s) E = 0) : Trans s a a' fin E := by
  cases hr : a.streams.lookup s with
  | none => exact .absent hr (h.trans hr) hd hc hs
  | some r => exact .kept hr (h.trans hr) (by omega) (by omega) (hw r hr) (by omega)

/-- A record whose credit and window stay, which emits nothing on `s`. -/
theorem Trans.keep {r r' : Stream} (hw : WindowOk s a) (hr : a.streams.lookup s = some r)
    (hr' : a'.streams.lookup s = some r') (hc : r'.credit = r.credit) (hwin : r'.window = r.window)
    (hf : r'.synFlag ≤ r.synFlag) (hd : total (Frame.dataFor s) E = 0)
    (hcr : total (Frame.creditFor s) E = 0) (hs : total (Frame.synFor s) E = 0) : Trans s a a' fin E :=
  .kept hr hr' (by omega) (by omega) (hwin ▸ hw r hr) (by omega)

/-- A rewrite of the record of `t` that keeps its credit, window and flag, emitting nothing. -/
theorem Trans.setShared_keep {t : StreamId} {r r' : Stream} {sh : Shared} {w : List Waker} (hw : WindowOk s a)
    (hr : a.streams.lookup t = some r) (hc : ({ r' with shared := sh } : Stream).credit = r.credit)
    (hwin : ({ r' with shared := sh } : Stream).window = r.window)
    (hf : ({ r' with shared := sh } : Stream).synFlag ≤ r.synFlag) : Trans s a (a.setShared t r' sh w) fin [] := by
  by_cases hs : s = t
  · subst hs; exact Trans.keep hw hr (Active.setShared_lookup_self hr _ _ _) hc hwin hf rfl rfl rfl
  · exact Trans.same hw (Active.setShared_lookup_ne hs _ _ _) rfl rfl rfl

namespace Frame

variable {s t : StreamId} {f : Frame}

/-- A frame of another stream, or of the session, counts nothing on `s`. -/
structure Quiet (s : StreamId) (f : Frame) : Prop where
  data : f.dataFor s = 0
  credit : f.creditFor s = 0
  syn : f.synFor s = 0

theorem quiet_of_ne (h : f.header.streamId ≠ s) : Quiet s f :=
  ⟨by simp [dataFor, h], by simp [creditFor, h], by simp [synFor, h]⟩

theorem quiet_of_tag (h : f.header.tag = .ping ∨ f.header.tag = .goAway) : Quiet s f := by
  rcases h with h | h <;> exact ⟨by simp [dataFor, h], by simp [creditFor, h], by simp [synFor, h]⟩

theorem Quiet.total {fs : List Frame} (h : ∀ f ∈ fs, Quiet s f) :
    Yamux.total (dataFor s) fs = 0 ∧ Yamux.total (creditFor s) fs = 0 ∧ Yamux.total (synFor s) fs = 0 := by
  induction fs with
  | nil => simp
  | cons f fs ih =>
    have hf := h f (List.mem_cons_self _ _)
    obtain ⟨h1, h2, h3⟩ := ih fun g hg => h g (List.mem_cons_of_mem _ hg)
    simp [hf.data, hf.credit, hf.syn, h1, h2, h3]

theorem Quiet.single (h : Quiet s f) :
    Yamux.total (dataFor s) [f] = 0 ∧ Yamux.total (creditFor s) [f] = 0 ∧ Yamux.total (synFor s) [f] = 0 := by
  simp [h.data, h.credit, h.syn]

theorem Quiet.payload {fs : List Frame} (h : ∀ f ∈ fs, Quiet s f) : Yamux.payload s fs = [] := by
  rw [← List.length_eq_zero, ← total_dataFor]; exact (Quiet.total h).1

/-- A frame without body, credit or `SYN`: a close, a reset, a ping or a go-away. -/
theorem quiet_of_empty (hb : f.body = []) (ht : f.header.tag ≠ .windowUpdate) (hs : f.header.flags.syn = false) :
    Quiet s f :=
  ⟨by simp [dataFor, hb], by simp [creditFor, ht], by simp [synFor, hs]⟩

end Frame

section Headers

variable (h : Header) (fl : Flag)

@[simp] theorem Header.syn_tag : h.syn.tag = h.tag := rfl
@[simp] theorem Header.syn_streamId : h.syn.streamId = h.streamId := rfl
@[simp] theorem Header.syn_length : h.syn.length = h.length := rfl
@[simp] theorem Header.syn_flags_syn : h.syn.flags.syn = true := rfl
@[simp] theorem Header.ack_tag : h.ack.tag = h.tag := rfl
@[simp] theorem Header.ack_streamId : h.ack.streamId = h.streamId := rfl
@[simp] theorem Header.ack_length : h.ack.length = h.length := rfl
@[simp] theorem Header.ack_flags_syn : h.ack.flags.syn = h.flags.syn := rfl
@[simp] theorem Header.fin_tag : h.fin.tag = h.tag := rfl
@[simp] theorem Header.fin_streamId : h.fin.streamId = h.streamId := rfl
@[simp] theorem Header.fin_flags_syn : h.fin.flags.syn = h.flags.syn := rfl
@[simp] theorem Header.rst_tag : h.rst.tag = h.tag := rfl
@[simp] theorem Header.rst_streamId : h.rst.streamId = h.streamId := rfl
@[simp] theorem Header.rst_flags_syn : h.rst.flags.syn = h.flags.syn := rfl

@[simp] theorem Flag.apply_tag : (fl.apply h).tag = h.tag := by cases fl <;> rfl
@[simp] theorem Flag.apply_streamId : (fl.apply h).streamId = h.streamId := by cases fl <;> rfl
@[simp] theorem Flag.apply_length : (fl.apply h).length = h.length := by cases fl <;> rfl
@[simp] theorem Flag.apply_flags_syn : (fl.apply h).flags.syn = (h.flags.syn || fl = .syn) := by
  cases fl <;> simp [Flag.apply]

end Headers

namespace Active

variable {a a' : Active} {s t : StreamId}

@[simp] theorem setShared_out (r : Stream) (sh : Shared) (w : List Waker) :
    (a.setShared t r sh w).out = a.out := rfl

@[simp] theorem setShared_config (r : Stream) (sh : Shared) (w : List Waker) :
    (a.setShared t r sh w).config = a.config := rfl

@[simp] theorem setShared_nextId (r : Stream) (sh : Shared) (w : List Waker) :
    (a.setShared t r sh w).nextId = a.nextId := rfl

/-- A command sent through the channel is queued last. -/
theorem sendCommand_queue {c : StreamCommand} (h : a.sendCommand c = some a') :
    a'.streamReceiver.queue = a.streamReceiver.queue ++ [c] := by
  unfold sendCommand Receiver.push at h
  by_cases hc : a.streamReceiver.closed
  · simp [hc] at h
  · simp only [hc, if_false, Option.map_some', Option.some.injEq, Bool.false_eq_true] at h
    subst h
    rfl

theorem sendCommand_eq {c : StreamCommand} (h : a.sendCommand c = some a') :
    a'.out = a.out ++ [c.frame] ∧ a'.streams = a.streams ∧ a'.config = a.config ∧ a'.nextId = a.nextId := by
  unfold sendCommand Receiver.push at h
  by_cases hc : a.streamReceiver.closed
  · simp [hc] at h
  · simp only [hc, if_false, Option.map_some', Option.some.injEq, Bool.false_eq_true] at h
    subst h
    simp [out]

end Active

section Shared

variable (sh : Shared) (n : State)

@[simp] theorem Shared.updateState_credit : (sh.updateState n).2.credit = sh.credit := rfl
@[simp] theorem Shared.updateState_window : (sh.updateState n).2.window = sh.window := rfl
@[simp] theorem Shared.updateState_buffer : (sh.updateState n).2.buffer = sh.buffer := rfl

end Shared

theorem Frame.quiet_closeStream (t : StreamId) (ack : Bool) : Frame.Quiet s (Frame.closeStream t ack) := by
  unfold Frame.closeStream
  split <;> exact Frame.quiet_of_empty rfl (by simp [Frame.new, Header.data]) rfl

theorem UInt32.toNat_sub_toUInt32 {c : UInt32} {n : Nat} (h : n ≤ c.toNat) :
    (c - n.toUInt32).toNat = c.toNat - n := by
  have hn : n.toUInt32.toNat = n := UInt32.toNat_ofNat_of_lt (by have := c.toNat_lt_size; omega)
  rw [UInt32.toNat_sub_of_le _ _ (by rw [UInt32.le_iff_toNat_le, hn]; exact h), hn]

/-- A window update restores the window to the receive window, exactly. -/
theorem Shared.nextWindowUpdate_eq {cfg : Config} {sh : Shared} {c : UInt32}
    (hw : sh.window.toNat ≤ cfg.receiveWindow.toNat) (h : sh.nextWindowUpdate cfg = some c) :
    c.toNat + sh.window.toNat = cfg.receiveWindow.toNat ∧
      (sh.window + c).toNat = cfg.receiveWindow.toNat := by
  unfold Shared.nextWindowUpdate at h
  dsimp only at h
  split_ifs at h
  cases h
  have hc := UInt32.toNat_sub_of_le cfg.receiveWindow sh.window (UInt32.le_iff_toNat_le.2 hw)
  refine ⟨by omega, ?_⟩
  rw [UInt32.toNat_add_of_lt (by have := cfg.receiveWindow.toNat_lt_size; omega), hc]
  omega

/-- Each way a record of `s` can go keeps it within the receive window, which an
operation that keeps the configuration leaves as it was. -/
theorem Trans.windowOk (ht : Trans s a a' fin E) (hc : a'.config = a.config) : WindowOk s a' := by
  intro r' h
  rw [hc]
  rcases ht with ⟨-, h2, -⟩ | ⟨-, h2, -, -, h5, -⟩ | ⟨-, h2, -⟩ | ⟨-, h2, -, -, h5, -⟩ <;>
    rw [h2] at h <;> cases h <;> exact h5

/-- An operation that appends `E` to the unwritten frames. -/
theorem Law.of_append (h : a'.out = a.out ++ E) (ht : Trans s a a' fin E) : Law s a a' fin E :=
  ⟨fun g => by rw [h, total_append], by rw [h, payload_append], ht⟩

/-- An operation that changes nothing. -/
theorem Law.refl (hw : WindowOk s a) : Law s a a [] [] :=
  Law.of_append (by simp) (Trans.same hw rfl rfl rfl rfl)

/-- An operation that queues `E`, carrying no data of `s`, behind the pending frames of
a state `b` with the unwritten frames of `a`. -/
theorem Law.of_pending {b : Active} (hb : b.out = a.out)
    (h : a'.out = b.pendingFrames ++ E ++ b.streamReceiver.queue.map StreamCommand.frame)
    (hp : Yamux.payload s E = []) (ht : Trans s a a' fin E) : Law s a a' fin E := by
  refine ⟨fun g => ?_, by rw [h, ← hb]; simp [Active.out, hp], ht⟩
  rw [h, ← hb]; simp only [Active.out, total_append]; omega

/-- `Trans` reads the later state only through its table. -/
theorem Trans.congr {a'' : Active} (h : a''.streams = a'.streams) (ht : Trans s a a' fin E) :
    Trans s a a'' fin E := by
  cases ht with
  | absent h1 h2 h3 h4 h5 => exact .absent h1 (h ▸ h2) h3 h4 h5
  | kept h1 h2 h3 h4 h5 h6 => exact .kept h1 (h ▸ h2) h3 h4 h5 h6
  | removed h1 h2 h3 h4 h5 => exact .removed h1 (h ▸ h2) h3 h4 h5
  | opened h1 h2 h3 h4 h5 h6 => exact .opened h1 (h ▸ h2) h3 h4 h5 h6

/-- An operation that keeps the record of `s` and emits only frames quiet on `s`. -/
theorem Trans.other (hw : WindowOk s a) (h : a'.streams.lookup s = a.streams.lookup s)
    (hE : ∀ g ∈ E, Frame.Quiet s g) : Trans s a a' fin E :=
  have hq := Frame.Quiet.total hE
  Trans.same hw h hq.1 hq.2.1 hq.2.2

namespace Active

variable {t : StreamId}

theorem law_command {c : StreamCommand} {rx : Receiver} (hw : WindowOk s a)
    (h : a.streamReceiver.pollNext = (.ready (some c), rx)) :
    Law s a (onCommand { a with streamReceiver := rx } c) [] [] := by
  unfold Receiver.pollNext at h
  split at h
  · rename_i c' q hq
    cases h
    exact Law.of_append (by simp [out, onCommand_pendingFrames, hq]) (Trans.same hw (by cases c <;> rfl) rfl rfl rfl)
  · split at h <;> cases h

theorem law_dropHandle (hw : WindowOk s a) (h : a.dropHandle t = some a') : Law s a a' [] [] := by
  obtain ⟨r, hr, -, rfl⟩ := dropHandle_cases h
  exact Law.of_append (by simp) (Trans.setShared_keep hw hr rfl rfl le_rfl)

theorem law_closeStream (hw : WindowOk s a) (h : a.closeStream t = some a') :
    ∃ E, Law s a a' [] E ∧ payload s E = [] := by
  obtain ⟨r, hr, ⟨-, rfl⟩ | ⟨-, h⟩⟩ := closeStream_cases h
  · exact ⟨[], Law.refl hw, rfl⟩
  · obtain ⟨hout, hst, -, -⟩ := sendCommand_eq h
    have hq := Frame.quiet_closeStream (s := s) t (decide (r.flag = .ack))
    refine ⟨[(StreamCommand.closeStream t (r.flag = .ack)).frame], Law.of_append hout ?_,
      Frame.Quiet.payload (by simpa [StreamCommand.frame] using hq)⟩
    have hq := hq.single
    by_cases hs : s = t
    · subst hs
      have hr' := setShared_lookup_self hr (if r.flag = .ack then { r with flag := .none } else r)
        (r.shared.updateState .sendClosed).2 []
      rw [← hst] at hr'
      refine Trans.keep hw hr hr' rfl rfl ?_ hq.1 hq.2.1 hq.2.2
      split <;> simp_all [Stream.synFlag]
    · exact Trans.same hw (by rw [hst]; exact setShared_lookup_ne hs _ _ _) hq.1 hq.2.1 hq.2.2

theorem law_write {w : Waker} {data : List UInt8} {r : Poll (Except ConnectionError Nat)}
    (hw : WindowOk s a) (h : a.write t w data = some (r, a')) :
    ∃ E, Law s a a' [] E ∧ payload s E = if s = t then r.sent data else [] := by
  obtain ⟨rec, hr, ⟨-, rfl, rfl⟩ | ⟨-, -, rfl, rfl⟩ | ⟨-, -, n, hn, rfl, h3⟩⟩ := write_cases h
  · exact ⟨[], Law.refl hw, by split <;> rfl⟩
  · exact ⟨[], Law.of_append (by simp) (Trans.setShared_keep hw hr rfl rfl le_rfl), by split <;> rfl⟩
  · obtain ⟨hout, hst, -, -⟩ := sendCommand_eq h3
    set fr : Frame := ⟨rec.flag.apply (Header.data t n.toUInt32), data.take n⟩
    refine ⟨[fr], Law.of_append hout ?_, ?_⟩
    · by_cases hs : s = t
      · subst hs
        have hr' := setShared_lookup_self hr { rec with flag := .none }
          { rec.shared with credit := rec.shared.credit - n.toUInt32 } []
        rw [← hst] at hr'
        have hd : fr.dataFor s = n := by
          simp only [fr, Frame.dataFor, Flag.apply_tag, Flag.apply_streamId, Header.data, and_self,
            if_true, List.length_take]
          omega
        refine .kept hr hr' ?_ ?_ (hw rec hr) ?_
        · simp only [total_cons, total_nil, hd, Stream.credit]
          rw [UInt32.toNat_sub_toUInt32 (by omega)]
          omega
        · simp [Stream.window, Frame.creditFor, fr, Header.data]
        · cases hf : rec.flag <;> simp [Stream.synFlag, Frame.synFor, fr, Header.data, hf]
      · exact Trans.same hw (by rw [hst]; exact setShared_lookup_ne hs _ _ _)
          (by simp [Frame.dataFor, fr, Header.data, Ne.symm hs])
          (by simp [Frame.creditFor, fr, Header.data]) (by simp [Frame.synFor, fr, Header.data, Ne.symm hs])
    · by_cases hs : s = t
      · subst hs; simp [fr, Frame.payloadFor, Header.data, Poll.sent]
      · simp [fr, Frame.payloadFor, Header.data, hs, Ne.symm hs]

theorem law_read {w : Waker} {r : Poll (Option (List UInt8))} (hw : WindowOk s a)
    (h : a.read t w = some (r, a')) : ∃ E, Law s a a' [] E ∧ payload s E = [] := by
  obtain ⟨rec, hr, ⟨chunk, rest, hb, rfl, ⟨c, -, hc, h3⟩ | rfl⟩ | ⟨-, -, rfl, rfl⟩ | ⟨-, -, rfl, rfl⟩⟩ :=
    read_cases h
  · obtain ⟨hout, hst, -, -⟩ := sendCommand_eq h3
    set fr := Frame.new (rec.flag.apply (Header.windowUpdate t c))
    refine ⟨[fr], Law.of_append hout ?_, by simp [fr, Frame.payloadFor, Frame.new, Header.windowUpdate]⟩
    by_cases hs : s = t
    · subst hs
      obtain ⟨hc1, hc2⟩ := Shared.nextWindowUpdate_eq (hw rec hr) hc
      have hr' := setShared_lookup_self hr { rec with flag := .none }
        { rec.shared with buffer := rest, window := rec.shared.window + c } []
      rw [← hst] at hr'
      refine .kept hr hr' ?_ ?_ ?_ ?_
      · simp [Stream.credit, Frame.dataFor, fr, Frame.new, Header.windowUpdate]
      · simp only [Stream.window, total_cons, total_nil, hc2, Frame.creditFor, fr, Frame.new,
          Flag.apply_tag, Flag.apply_streamId, Flag.apply_length, Header.windowUpdate, Header.credit,
          and_self, if_true]
        omega
      · exact hc2.le
      · cases hf : rec.flag <;> simp [Stream.synFlag, Frame.synFor, fr, Frame.new, Header.windowUpdate, hf]
    · exact Trans.same hw (by rw [hst]; exact setShared_lookup_ne hs _ _ _)
        (by simp [Frame.dataFor, fr, Frame.new, Header.windowUpdate])
        (by simp [Frame.creditFor, fr, Frame.new, Header.windowUpdate, Ne.symm hs])
        (by simp [Frame.synFor, fr, Frame.new, Header.windowUpdate, Ne.symm hs])
  · exact ⟨[], Law.of_append (by simp) (Trans.setShared_keep hw hr rfl rfl le_rfl), rfl⟩
  · exact ⟨[], Law.refl hw, rfl⟩
  · exact ⟨[], Law.of_append (by simp) (Trans.setShared_keep hw hr rfl rfl le_rfl), rfl⟩

theorem law_newOutbound {r : Except ConnectionError Stream} (hw : WindowOk s a)
    (hfresh : (⟨a.nextId⟩ : StreamId) ∉ a.streams) (h : a.newOutbound = .ok (r, a')) :
    ∃ E, Law s a a' [] E ∧ payload s E = [] := by
  rw [newOutbound_eq] at h
  split_ifs at h
  · cases h; exact ⟨[], Law.refl hw, rfl⟩
  · simp only [Except.ok.injEq, Prod.mk.injEq] at h
    obtain ⟨-, rfl⟩ := h
    set id : StreamId := ⟨a.nextId⟩
    rcases openOutbound_arms (a := { a with nextId := a.nextId + 2 }) id with ⟨-, e⟩ | ⟨-, e⟩ <;> rw [e]
    · -- the extra credit goes out in a window update
      set g := Frame.new (Header.windowUpdate id (a.config.receiveWindow - defaultCredit)).syn
      have hp : payload s [g] = [] := by simp [g, Frame.payloadFor, Frame.new, Header.windowUpdate]
      refine ⟨[g], Law.of_pending (b := a) rfl (by simp [out, push]) hp ?_, hp⟩
      by_cases hs : s = id
      · subst hs
        have hx : (a.config.receiveWindow - defaultCredit).toNat =
            a.config.receiveWindow.toNat - defaultCredit.toNat :=
          UInt32.toNat_sub_of_le _ _ a.config.defaultCredit_le
        have hrw := UInt32.le_iff_toNat_le.1 a.config.defaultCredit_le
        refine .opened (AList.lookup_eq_none.2 hfresh) (AList.lookup_insert _)
          ?_ ?_ le_rfl (.inr ⟨rfl, rfl, ?_⟩) <;>
          simp [g, Stream.credit, Stream.window, Stream.synFlag, Stream.new, Shared.new, Frame.dataFor,
            Frame.creditFor, Frame.synFor, Frame.new, Header.windowUpdate, Header.credit, hx]
        omega
      · have hq := (Frame.quiet_of_ne (s := s) (f := g) (Ne.symm hs)).single
        exact Trans.same hw (AList.lookup_insert_ne hs) hq.1 hq.2.1 hq.2.2
    · -- no extra credit: the record owes its SYN
      refine ⟨[], Law.of_pending (b := a) rfl (by simp [out]) rfl ?_, rfl⟩
      by_cases hs : s = id
      · subst hs
        refine .opened (AList.lookup_eq_none.2 hfresh) (AList.lookup_insert _)
          le_rfl (by simpa [Stream.window, Stream.new, Shared.new] using a.config.defaultCredit_le) le_rfl
          (.inr ⟨rfl, rfl, rfl⟩)
      · exact Trans.same hw (AList.lookup_insert_ne hs) rfl rfl rfl
  · cases h; exact ⟨[], Law.refl hw, rfl⟩

theorem lookup_foldl_erase (ids : List StreamId) (m : Table) (s : StreamId) :
    (ids.foldl (fun t id => t.erase id) m).lookup s = if s ∈ ids then none else m.lookup s := by
  induction ids generalizing m with
  | nil => simp
  | cons id ids ih =>
    rw [List.foldl_cons, ih]
    by_cases hs : s = id
    · subst hs; simp
    · simp [hs, AList.lookup_erase_ne hs]

theorem lookup_sweep : a.sweep.1.streams.lookup s = (a.streams.lookup s).map sweepRecord := by
  show List.dlookup s (a.streams.entries.map _) = (a.streams.entries.dlookup s).map _
  induction a.streams.entries with
  | nil => rfl
  | cons e l ih =>
    obtain ⟨k, v⟩ := e
    by_cases hs : s = k
    · subst hs; simp [List.dlookup_cons_eq]
    · simp only [List.map_cons]
      rw [List.dlookup_cons_ne _ ⟨k, _⟩ hs, List.dlookup_cons_ne _ ⟨k, _⟩ hs, ih]

theorem mem_sweep_ids : s ∈ a.sweep.2 ↔ ∃ r, a.streams.lookup s = some r ∧ Dropped r := by
  simp only [sweep, List.mem_map, List.mem_filter, decide_eq_true_eq]
  constructor
  · rintro ⟨⟨k, v⟩, ⟨hm, hd⟩, rfl⟩; exact ⟨v, AList.mem_lookup_iff.2 hm, hd⟩
  · rintro ⟨r, hm, hd⟩; exact ⟨⟨s, r⟩, ⟨AList.mem_lookup_iff.1 hm, hd⟩, rfl⟩

theorem lookup_garbageCollect :
    a.garbageCollect.streams.lookup s = if s ∈ a.sweep.2 then none else (a.streams.lookup s).map sweepRecord := by
  simp only [garbageCollect, lookup_foldl_erase, lookup_sweep]

/-- `garbage_collect` removes the dropped records of the table and keeps the others as
they were. -/
theorem lookup_garbageCollect_none (hr : a.streams.lookup s = none) : a.garbageCollect.streams.lookup s = none := by
  rw [lookup_garbageCollect, hr]; split <;> rfl

theorem lookup_garbageCollect_dropped {r : Stream} (hr : a.streams.lookup s = some r) (hd : Dropped r) :
    a.garbageCollect.streams.lookup s = none := by
  rw [lookup_garbageCollect, if_pos (mem_sweep_ids.2 ⟨r, hr, hd⟩)]

theorem lookup_garbageCollect_kept {r : Stream} (hr : a.streams.lookup s = some r) (hd : ¬Dropped r) :
    a.garbageCollect.streams.lookup s = some r := by
  simp [lookup_garbageCollect, mem_sweep_ids, hr, hd, sweepRecord]

theorem Frame.quiet_gcFrame {mode : WindowUpdateMode} {id : StreamId} {sh : Shared} {f : Frame}
    (h : gcFrame mode id sh = some f) : Frame.Quiet s f := by
  unfold gcFrame at h
  split at h <;> try split_ifs at h
  all_goals cases h
  all_goals exact Frame.quiet_of_empty rfl (by simp [Frame.new, Header.data]) rfl

theorem law_collect (hw : WindowOk s a) : ∃ E, Law s a a.garbageCollect [] E ∧ payload s E = [] := by
  set E := (a.streams.entries.filter (fun e => Dropped e.2)).filterMap
    (fun e => gcFrame a.config.windowUpdateMode e.1 e.2.shared)
  have hE : ∀ f ∈ E, Frame.Quiet s f := fun f hf => by
    obtain ⟨e, -, he⟩ := List.mem_filterMap.1 hf
    exact Frame.quiet_gcFrame he
  have hq := Frame.Quiet.total hE
  refine ⟨E, Law.of_pending (b := a) rfl rfl (Frame.Quiet.payload hE) ?_, Frame.Quiet.payload hE⟩
  cases hr : a.streams.lookup s with
  | none => exact .absent hr (lookup_garbageCollect_none hr) hq.1 hq.2.1 hq.2.2
  | some r =>
    by_cases hd : Dropped r
    · exact .removed hr (lookup_garbageCollect_dropped hr hd) hq.1 hq.2.1 hq.2.2
    · exact Trans.same hw ((lookup_garbageCollect_kept hr hd).trans hr.symm) hq.1 hq.2.1 hq.2.2

end Active

/-- The frames an action queues. -/
def Action.frames : Action → List Frame
  | .none => []
  | .new _ u => u.toList
  | .update f | .ping f | .reset f | .terminate f => [f]

section Shared

variable (sh : Shared) (n : State) (b : Bool)

@[simp] theorem Shared.ite_updateState_credit :
    (if b = true then (sh.updateState n).2 else sh).credit = sh.credit := by split <;> rfl
@[simp] theorem Shared.ite_updateState_window :
    (if b = true then (sh.updateState n).2 else sh).window = sh.window := by split <;> rfl
@[simp] theorem Shared.ite_updateState_buffer :
    (if b = true then (sh.updateState n).2 else sh).buffer = sh.buffer := by split <;> rfl

end Shared

theorem Frame.bodyLen_toNat {f : Frame} (h : f.body.length < UInt32.size) : f.bodyLen.toNat = f.body.length :=
  UInt32.toNat_ofNat_of_lt h

/-- A body that fits a window comes off it exactly: the `saturating_sub` does not clamp. -/
theorem Frame.toNat_saturatingSub_bodyLen {f : Frame} {w : UInt32} (h : f.body.length ≤ w.toNat) :
    (w.saturatingSub f.bodyLen).toNat = w.toNat - f.body.length := by
  rw [UInt32.toNat_saturatingSub, Frame.bodyLen_toNat (by have := w.toNat_lt_size; omega)]

namespace Active

variable {f : Frame} {t : StreamId}

theorem perform_eq (a : Active) (act : Action) :
    (a.perform act).2 = { a with pendingFrames := a.pendingFrames ++ act.frames } := by
  cases act <;> simp [perform, Action.frames, push]

/-- What a handler of a received frame `f` does on stream `s`: it leaves the unwritten
frames, and the frames of its action carry no data and move the record of `s` as
`Trans` allows. -/
structure Handled (s : StreamId) (a : Active) (f : Frame) (p : Action × Active) : Prop where
  out : p.2.out = a.out
  payload : payload s p.1.frames = []
  trans : Trans s a p.2 [f] p.1.frames

theorem Handled.law {p : Action × Active} (h : Handled s a f p) :
    Law s a (p.2.perform p.1).2 [f] p.1.frames := by
  rw [perform_eq]
  exact Law.of_pending h.out (by simp [Active.out]) h.payload (Trans.congr (by rfl) h.trans)

theorem handled_same {act : Action} (hw : WindowOk s a) (hq : ∀ g ∈ act.frames, Frame.Quiet s g) :
    Handled s a f (act, a) :=
  ⟨rfl, Frame.Quiet.payload hq, Trans.other hw rfl hq⟩

theorem handled_resetStream (hw : WindowOk s a) (t : StreamId) : Handled s a f (.none, a.resetStream t) := by
  refine ⟨by unfold resetStream; split <;> rfl, rfl, ?_⟩
  unfold resetStream
  split
  · rename_i r hr
    exact Trans.setShared_keep hw hr rfl rfl le_rfl
  · exact Trans.same hw rfl rfl rfl rfl

/-- An update of another stream's record that emits frames of that stream only. -/
theorem handled_setShared_ne {act : Action} {r : Stream} {sh : Shared} {w : List Waker} (hw : WindowOk s a)
    (hs : s ≠ t) (hE : ∀ g ∈ act.frames, g.header.streamId = t) : Handled s a f (act, a.setShared t r sh w) :=
  have hq : ∀ g ∈ act.frames, Frame.Quiet s g := fun g hg => Frame.quiet_of_ne ((hE g hg).symm ▸ Ne.symm hs)
  ⟨by simp, Frame.Quiet.payload hq, Trans.other hw (setShared_lookup_ne hs _ _ _) hq⟩

theorem handled_onDataKnown {r : Stream} (hw : WindowOk s a) (htag : f.header.tag = .data)
    (hr : a.streams.lookup f.header.streamId = some r) : Handled s a f (a.onDataKnown f r) := by
  rcases onDataKnown_cases (a := a) f r with ⟨-, e⟩ | ⟨-, -, e⟩ | ⟨hle, -, act, sh, e, -, -, hc, hact⟩ <;> rw [e]
  · exact handled_same hw (by simp [Action.frames]; exact Frame.quiet_of_tag (.inr rfl))
  · by_cases hs : s = f.header.streamId
    · subst hs
      have hq := (Frame.quiet_of_empty (s := f.header.streamId) (f := Frame.new (Header.data f.header.streamId 0).rst)
        rfl (by simp [Frame.new, Header.rst, Header.data]) rfl).single
      exact ⟨by simp, by simp [Action.frames, Frame.payloadFor, Frame.new], Trans.keep hw hr
        (setShared_lookup_self hr _ _ _) (by simp [Stream.credit]) (by simp [Stream.window]) le_rfl
        hq.1 hq.2.1 hq.2.2⟩
    · exact handled_setShared_ne hw hs (by simp [Action.frames, Frame.new, Header.rst, Header.data])
  · by_cases hs : s = f.header.streamId
    swap
    · exact handled_setShared_ne hw hs (by
        rcases hact with ⟨rfl, -⟩ | ⟨c, rfl, -⟩ <;> simp [Action.frames, Frame.windowUpdate, Frame.new, Header.windowUpdate])
    subst hs
    have hsat := Frame.toNat_saturatingSub_bodyLen hle
    have hrw : r.shared.window.toNat ≤ a.config.receiveWindow.toNat := hw r hr
    have hd : total (Frame.dataFor f.header.streamId) [f] = f.body.length := by simp [Frame.dataFor, htag]
    rcases hact with ⟨rfl, hwin⟩ | ⟨c, rfl, hu, hwin⟩
    · refine ⟨by simp, rfl, .kept hr (setShared_lookup_self hr _ _ _) ?_ ?_ ?_ ?_⟩
      · simp [Stream.credit, hc, Action.frames]
      · simp only [Stream.window, hwin, hsat, hd, Action.frames, total_nil]; omega
      · simp only [Stream.window, hwin, hsat]; omega
      · simp [Action.frames, Stream.synFlag]
    · obtain ⟨hc1, hc2⟩ := Shared.nextWindowUpdate_eq (by dsimp only; omega) hu
      dsimp only at hc1 hc2
      rw [hsat] at hc1
      refine ⟨by simp, by simp [Action.frames, Frame.payloadFor, Frame.windowUpdate, Frame.new,
        Header.windowUpdate], .kept hr (setShared_lookup_self hr _ _ _) ?_ ?_ ?_ ?_⟩
      · simp [Stream.credit, hc, Action.frames, Frame.dataFor, Frame.windowUpdate, Frame.new,
          Header.windowUpdate]
      · simp only [Stream.window, hwin, hc2, hd, Action.frames, total_cons, total_nil, Frame.creditFor,
          Frame.windowUpdate, Frame.new, Header.windowUpdate, Header.credit, and_self, if_true]
        omega
      · simp only [Stream.window, hwin, hc2, le_rfl]
      · simp [Stream.synFlag, Action.frames, Frame.synFor, Frame.windowUpdate, Frame.new, Header.windowUpdate]

/-- A stream opened under another id, with frames of that id only. -/
theorem handled_insert_ne {act : Action} {r : Stream} (hw : WindowOk s a) (hs : s ≠ t)
    (hE : ∀ g ∈ act.frames, g.header.streamId = t) :
    Handled s a f (act, { a with streams := a.streams.insert t r }) :=
  have hq : ∀ g ∈ act.frames, Frame.Quiet s g := fun g hg => Frame.quiet_of_ne ((hE g hg).symm ▸ Ne.symm hs)
  ⟨rfl, Frame.Quiet.payload hq, Trans.other hw (AList.lookup_insert_ne hs) hq⟩

theorem handled_onDataSyn (hw : WindowOk s a) (htag : f.header.tag = .data) (hsyn : f.header.flags.syn = true)
    (hmem : f.header.streamId ∉ a.streams) (hb : f.body.length ≤ defaultCredit.toNat) :
    Handled s a f (a.onDataSyn f) := by
  obtain ⟨r, u, -, e, -, -, hc, -, -, -, hu⟩ := onDataSyn_eq (a := a) f
  rw [e]
  by_cases hs : s = f.header.streamId
  swap
  · exact handled_insert_ne hw hs (by
      rcases hu with ⟨rfl, -⟩ | ⟨c, rfl, -⟩ <;> simp [Action.frames, Frame.new, Header.windowUpdate])
  subst hs
  have hsat := Frame.toNat_saturatingSub_bodyLen hb
  have hrw := UInt32.le_iff_toNat_le.1 a.config.defaultCredit_le
  have hd : total (Frame.dataFor f.header.streamId) [f] = f.body.length := by simp [Frame.dataFor, htag]
  have hsy : 0 < total (Frame.synFor f.header.streamId) [f] := by simp [Frame.synFor, htag, hsyn]
  rcases hu with ⟨rfl, hfl, hwin⟩ | ⟨c, rfl, hfl, -, hn, hwin⟩
  · refine ⟨rfl, rfl, .opened (AList.lookup_eq_none.2 hmem) (AList.lookup_insert _) ?_ ?_ ?_ (.inl ⟨hsy, ?_⟩)⟩
    · simp [Stream.credit, hc, Action.frames]
    · simp only [Stream.window, hwin, hsat, hd, Action.frames, Option.toList, total_nil]; omega
    · simp only [Stream.window, hwin, hsat]; omega
    · simp [Stream.synFlag, hfl, Action.frames]
  · obtain ⟨hc1, hc3⟩ := Shared.nextWindowUpdate_eq (by dsimp only [Shared.new]; omega) hn
    dsimp only [Shared.new] at hc1 hc3
    rw [hsat] at hc1
    refine ⟨rfl, by simp [Action.frames, Frame.payloadFor, Frame.new, Header.windowUpdate],
      .opened (AList.lookup_eq_none.2 hmem) (AList.lookup_insert _) ?_ ?_ (by simp only [Stream.window, hwin, hc3,
        le_rfl]) (.inl ⟨hsy, ?_⟩)⟩
    · simp [Stream.credit, hc, Action.frames, Frame.dataFor, Frame.new, Header.windowUpdate]
    · simp only [Stream.window, hwin, hc3, hd, Action.frames, Option.toList, total_cons, total_nil,
        Frame.creditFor, Frame.new, Header.ack_tag, Header.ack_streamId, Header.ack_length, Header.windowUpdate,
        Header.credit, and_self, if_true]
      omega
    · simp [Stream.synFlag, hfl, Action.frames, Frame.synFor, Frame.new, Header.windowUpdate]

theorem UInt32.toNat_add_le (x y : UInt32) : (x + y).toNat ≤ x.toNat + y.toNat := by
  rw [UInt32.toNat_add_mod]; exact Nat.mod_le _ _

theorem handled_onWindowUpdateSyn (hw : WindowOk s a) (htag : f.header.tag = .windowUpdate)
    (hsyn : f.header.flags.syn = true) (hmem : f.header.streamId ∉ a.streams) :
    Handled s a f (a.onWindowUpdateSyn f) := by
  obtain ⟨r, -, e, hfl, -, hsh⟩ := onWindowUpdateSyn_eq (a := a) f
  rw [e]
  by_cases hs : s = f.header.streamId
  swap
  · exact handled_insert_ne hw hs (by simp [Action.frames])
  subst hs
  refine ⟨rfl, rfl, .opened (AList.lookup_eq_none.2 hmem) (AList.lookup_insert _) ?_ ?_ ?_ (.inl ⟨?_, ?_⟩)⟩
  · have := UInt32.toNat_add_le f.header.credit defaultCredit
    simp only [Stream.credit, hsh, Shared.finish_credit, Shared.new, Action.frames, Option.toList, total_nil,
      total_cons, Frame.creditFor, htag, and_self, if_true]
    omega
  · simp [Stream.window, hsh, Shared.new, Action.frames]
  · simpa [Stream.window, hsh, Shared.new] using UInt32.le_iff_toNat_le.1 a.config.defaultCredit_le
  · simp [Frame.synFor, htag, hsyn]
  · simp [Stream.synFlag, hfl, Action.frames]

theorem handled_onWindowUpdateKnown {r : Stream} (hw : WindowOk s a) (htag : f.header.tag = .windowUpdate)
    (hr : a.streams.lookup f.header.streamId = some r) : Handled s a f (a.onWindowUpdateKnown f r) := by
  rw [onWindowUpdateKnown_eq]
  by_cases hs : s = f.header.streamId
  swap
  · exact handled_setShared_ne hw hs (by simp [Action.frames])
  subst hs
  refine ⟨by simp, rfl, .kept hr (setShared_lookup_self hr _ _ _) ?_ (by simp [Stream.window, Action.frames])
    (by simpa [Stream.window] using hw r hr) (by simp [Stream.synFlag, Action.frames])⟩
  have := UInt32.toNat_add_le r.shared.credit f.header.credit
  simp only [Stream.credit, Shared.finish_credit, Action.frames, total_nil, total_cons, Frame.creditFor, htag,
    and_self, if_true]
  omega

theorem handled_terminate {g : Frame} (hw : WindowOk s a) (hg : g.header.tag = .goAway) :
    Handled s a f (.terminate g, a) :=
  handled_same hw fun g' h => by
    simp only [Action.frames, List.mem_singleton] at h; subst h; exact Frame.quiet_of_tag (.inr hg)

theorem handled_onData (hw : WindowOk s a) (htag : f.header.tag = .data) : Handled s a f (a.onData f) := by
  rcases onData_arms (a := a) f with ⟨-, e⟩ | ⟨-, -, -, e⟩ | ⟨-, hsyn, -, hb, hm, ⟨-, e⟩ | ⟨-, e⟩⟩ |
    ⟨-, -, r, hr, e⟩ | ⟨-, -, -, e⟩ <;> rw [e]
  · exact handled_resetStream hw _
  · exact handled_terminate hw rfl
  · exact handled_terminate hw rfl
  · exact handled_onDataSyn hw htag hsyn hm hb
  · exact handled_onDataKnown hw htag hr
  · exact handled_same hw (by simp [Action.frames])

theorem handled_onWindowUpdate (hw : WindowOk s a) (htag : f.header.tag = .windowUpdate) :
    Handled s a f (a.onWindowUpdate f) := by
  rcases onWindowUpdate_arms (a := a) f with ⟨-, e⟩ | ⟨-, -, -, e⟩ | ⟨-, hsyn, -, hm, -, e⟩ |
    ⟨-, -, r, hr, e⟩ | ⟨-, -, -, e⟩ <;> rw [e]
  · exact handled_resetStream hw _
  · exact handled_terminate hw rfl
  · exact handled_onWindowUpdateSyn hw htag hsyn hm
  · exact handled_onWindowUpdateKnown hw htag hr
  · exact handled_same hw (by simp [Action.frames])

theorem handled_onPing (hw : WindowOk s a) : Handled s a f (a.onPing f, a) := by
  have h : a.onPing f = .none ∨ a.onPing f = .ping (Frame.new (Header.ping f.header.nonce).ack) := by
    unfold onPing; dsimp only; split_ifs <;> simp
  refine handled_same hw fun g hg => ?_
  rcases h with h | h <;> simp only [h, Action.frames, List.mem_singleton, List.not_mem_nil] at hg
  subst hg; exact Frame.quiet_of_tag (.inl rfl)

theorem Handled.exists_law {p : Action × Active} (h : Handled s a f p) :
    ∃ E, Law s a (p.2.perform p.1).2 [f] E ∧ Yamux.payload s E = [] :=
  ⟨_, h.law, h.payload⟩

/-- **The accounts across a received frame.** -/
theorem law_onFrame (hw : WindowOk s a) (f : Frame) :
    ∃ E, Law s a (a.onFrame f).2 [f] E ∧ payload s E = [] := by
  unfold onFrame
  cases htag : f.header.tag
  · exact (handled_onData hw htag).exists_law
  · exact (handled_onWindowUpdate hw htag).exists_law
  · exact (handled_onPing hw).exists_law
  · exact ⟨[], Law.of_append (by simp) (Trans.same hw rfl rfl rfl rfl), rfl⟩

end Active

end Yamux
