import Yamux.Proof.Account

/-!
# The bytes of a stream

The other half of the bookkeeping of a stream: its bytes and its states. For each
operation of an engine and each stream `s`, `Intake` says what becomes of the receiving
side of `s` (the bodies its record buffers, the bytes its reader takes, how its state may
move) and `Carry` what the operation emits on `s` (where the new frames go among the
unwritten ones, and which of them carry data or close the sending half). As for the
accounts, every operation is unfolded once, here; the argument between two engines
(`Integrity`) reads only these laws.

Order within a list of frames is what `SynLed` (no byte before the `SYN`) and `FinClear`
(no byte after a `FIN`) describe, and `Extends` what emitting does to the frames a side
has in flight.
-/

namespace Yamux

namespace Frame

variable (s : StreamId) (f : Frame)

/-- Whether a frame closes its sender's half of stream `s`: a data or window-update frame
of `s` with `FIN`. -/
def finFor : Nat :=
  if (f.header.tag = .data ∨ f.header.tag = .windowUpdate) ∧ f.header.streamId = s ∧ f.header.flags.fin
  then 1 else 0

end Frame

/-- A state in which the local half is closed: the handle writes no more. -/
def State.SendShut (st : State) : Prop := st = .sendClosed ∨ st = .closed

/-- The bytes a record has buffered, oldest first. -/
def Stream.bytes (r : Stream) : List UInt8 := r.shared.buffer.flatten

section Order

variable {s : StreamId} {l l' l₁ l₂ P Q E : List Frame}

/-- Every byte of `s` in a list of frames comes with or after a `SYN` of `s`. -/
def SynLed (s : StreamId) : List Frame → Prop
  | [] => True
  | f :: fs => 0 < f.synFor s ∨ f.payloadFor s = [] ∧ SynLed s fs

/-- No byte of `s` in a list of frames comes after a `FIN` of `s`. -/
def FinClear (s : StreamId) : List Frame → Prop
  | [] => True
  | f :: fs => (0 < f.finFor s → payload s fs = []) ∧ FinClear s fs

theorem payload_eq_nil : payload s l = [] ↔ ∀ f ∈ l, f.payloadFor s = [] := List.flatMap_eq_nil_iff

theorem synLed_append :
    SynLed s (l₁ ++ l₂) ↔ SynLed s l₁ ∧ (0 < total (Frame.synFor s) l₁ ∨ SynLed s l₂) := by
  induction l₁ with
  | nil => simp [SynLed]
  | cons f l ih =>
    rw [List.cons_append]
    show (0 < f.synFor s ∨ f.payloadFor s = [] ∧ SynLed s (l ++ l₂)) ↔
      (0 < f.synFor s ∨ f.payloadFor s = [] ∧ SynLed s l) ∧ (0 < total (Frame.synFor s) (f :: l) ∨ SynLed s l₂)
    rw [ih, total_cons]
    by_cases h : 0 < f.synFor s
    · exact ⟨fun _ => ⟨.inl h, .inl (by omega)⟩, fun _ => .inl h⟩
    · have h0 : f.synFor s = 0 := by omega
      simp [h0, and_assoc]

theorem synLed_of_payload (h : payload s l = []) : SynLed s l := by
  induction l with
  | nil => trivial
  | cons f l ih =>
    rw [payload_cons, List.append_eq_nil] at h
    exact .inr ⟨h.1, ih h.2⟩

theorem finClear_append : FinClear s (l₁ ++ l₂) ↔
    FinClear s l₁ ∧ FinClear s l₂ ∧ (0 < total (Frame.finFor s) l₁ → payload s l₂ = []) := by
  induction l₁ with
  | nil => simp [FinClear]
  | cons f l ih =>
    rw [List.cons_append]
    show ((0 < f.finFor s → payload s (l ++ l₂) = []) ∧ FinClear s (l ++ l₂)) ↔
      ((0 < f.finFor s → payload s l = []) ∧ FinClear s l) ∧ FinClear s l₂ ∧
        (0 < total (Frame.finFor s) (f :: l) → payload s l₂ = [])
    rw [ih, payload_append, List.append_eq_nil, total_cons]
    by_cases h : 0 < f.finFor s
    · simp only [h, true_implies]
      exact ⟨fun ⟨h1, h2, h3, _⟩ => ⟨⟨h1.1, h2⟩, h3, fun _ => h1.2⟩,
        fun ⟨⟨h1, h2⟩, h3, h4⟩ => ⟨⟨h1, h4 (by omega)⟩, h2, h3, fun _ => h4 (by omega)⟩⟩
    · have h0 : f.finFor s = 0 := by omega
      simp [h0, and_assoc]

theorem finClear_of_payload (h : payload s l = []) : FinClear s l := by
  induction l with
  | nil => trivial
  | cons f l ih =>
    rw [payload_cons, List.append_eq_nil] at h
    exact ⟨fun _ => h.2, ih h.2⟩

theorem synLed_insert (h : SynLed s (P ++ Q)) (hE : payload s E = []) : SynLed s (P ++ E ++ Q) := by
  rw [synLed_append] at h
  rw [synLed_append, synLed_append, total_append]
  exact ⟨⟨h.1, .inr (synLed_of_payload hE)⟩, h.2.imp (fun h => by omega) id⟩

theorem finClear_insert (h : FinClear s (P ++ Q)) (hE : payload s E = [])
    (hf : total (Frame.finFor s) E = 0) : FinClear s (P ++ E ++ Q) := by
  rw [finClear_append] at h
  rw [finClear_append, finClear_append, total_append, hf, Nat.add_zero]
  exact ⟨⟨h.1, finClear_of_payload hE, fun _ => hE⟩, h.2.1, h.2.2⟩

theorem payload_nil_of_data (h : total (Frame.dataFor s) l = 0) : payload s l = [] :=
  List.length_eq_zero.1 (by rw [← total_dataFor]; exact h)

/-- Frames that carry no `SYN` of `s` and lead with it carry no data of it. -/
theorem payload_of_synLed (h : SynLed s l) (h0 : total (Frame.synFor s) l = 0) : payload s l = [] := by
  induction l with
  | nil => rfl
  | cons f l ih =>
    rw [total_cons] at h0
    rcases h with h | ⟨hf, h⟩
    · omega
    · rw [payload_cons, hf, ih h (by omega)]; rfl

/-- `l'` is `l` with `E` behind it, or with `E`, carrying no data of `s`, put somewhere
inside: what becomes of the frames a side has in flight when its engine emits `E`. -/
def Extends (s : StreamId) (l l' E : List Frame) : Prop :=
  l' = l ++ E ∨ (∃ P Q, l = P ++ Q ∧ l' = P ++ E ++ Q) ∧ payload s E = []

namespace Extends

variable (h : Extends s l l' E)
include h

theorem payload_eq : payload s l' = payload s l ++ payload s E := by
  rcases h with rfl | ⟨⟨P, Q, rfl, rfl⟩, hp⟩
  · exact payload_append _ _ _
  · simp [payload_append, hp]

theorem total_eq (g : Frame → Nat) : total g l' = total g l + total g E := by
  rcases h with rfl | ⟨⟨P, Q, rfl, rfl⟩, -⟩
  · exact total_append _ _ _
  · simp only [total_append]; omega

theorem mem {g : Frame} (hg : g ∈ l') : g ∈ l ∨ g ∈ E := by
  rcases h with rfl | ⟨⟨P, Q, rfl, rfl⟩, -⟩ <;> simp only [List.mem_append] at hg ⊢ <;> tauto

theorem synLed (hl : SynLed s l) (hE : 0 < total (Frame.synFor s) l ∨ SynLed s E) : SynLed s l' := by
  rcases h with rfl | ⟨⟨P, Q, rfl, rfl⟩, hp⟩
  · exact synLed_append.2 ⟨hl, hE⟩
  · exact synLed_insert hl hp

theorem finClear (hl : FinClear s l) (hE : FinClear s E)
    (hlE : 0 < total (Frame.finFor s) l → payload s E = [])
    (happ : 0 < total (Frame.finFor s) E → l' = l ++ E) : FinClear s l' := by
  by_cases hf : 0 < total (Frame.finFor s) E
  · rw [happ hf]; exact finClear_append.2 ⟨hl, hE, hlE⟩
  rcases h with rfl | ⟨⟨P, Q, rfl, rfl⟩, hp⟩
  · exact finClear_append.2 ⟨hl, hE, hlE⟩
  · exact finClear_insert hl hp (by omega)

end Extends

end Order

/-- How an operation may move the state of a kept record of `s`: a closed local half
stays closed, and the record reaches `RecvClosed` only from `Open`, on a `FIN` taken in. -/
structure StateStep (s : StreamId) (fin : List Frame) (st st' : State) : Prop where
  shut : st.SendShut → st'.SendShut
  recv : st' = .recvClosed → st = .recvClosed ∨ st = .open ∧ 0 < total (Frame.finFor s) fin

theorem StateStep.refl {s : StreamId} {fin : List Frame} (st : State) : StateStep s fin st st :=
  ⟨id, .inl⟩

/-- `update_state` moves toward `Closed`; it gives `RecvClosed` only when asked to. -/
theorem StateStep.update {s : StreamId} {fin : List Frame} (sh : Shared) {n : State}
    (h : n = .recvClosed → 0 < total (Frame.finFor s) fin) :
    StateStep s fin sh.state (sh.updateState n).2.state := by
  obtain ⟨st, _, _, _, _, _⟩ := sh
  cases st <;> cases n <;>
    exact ⟨by simp [Shared.updateState, State.SendShut], by simp_all [Shared.updateState]⟩

/-- What becomes of the receiving side of stream `s` when `a` becomes `a'`, taking in the
frames `fin` and handing `taken` to the reader. A kept record buffers the bytes of `s`
taken in, after what it held and less what the reader took, unless they were `lost`; its
state moves as `StateStep` allows. A record is created holding the bytes of the frames
that open it, `Open`, or `RecvClosed` on a `FIN`. -/
inductive Intake (s : StreamId) (a a' : Active) (fin : List Frame) (lost : Prop) (taken : List UInt8) :
    Prop
  | absent : a.streams.lookup s = none → a'.streams.lookup s = none → taken = [] →
      Intake s a a' fin lost taken
  | kept {r r' : Stream} : a.streams.lookup s = some r → a'.streams.lookup s = some r' →
      StateStep s fin r.shared.state r'.shared.state →
      (r.bytes ++ payload s fin = taken ++ r'.bytes ∨ lost) → Intake s a a' fin lost taken
  | removed {r : Stream} : a.streams.lookup s = some r → a'.streams.lookup s = none → taken = [] →
      Intake s a a' fin lost taken
  | opened {r' : Stream} : a.streams.lookup s = none → a'.streams.lookup s = some r' → taken = [] →
      r'.bytes = payload s fin →
      (r'.shared.state = .open ∨ r'.shared.state = .recvClosed ∧ 0 < total (Frame.finFor s) fin) →
      Intake s a a' fin lost taken

/-- What an operation emits on stream `s`: the frames `E` follow the unwritten frames, or,
carrying no data of `s`, go between the pending frames and the queued commands. No frame
with data of `s` is a reset, and none follows a `FIN` within `E`. A `FIN` of `s` is
emitted only by a record whose local half is now closed, behind every unwritten frame, or
by the removal of a record that was `RecvClosed`. Data of `s` is emitted only by a record
whose local half is open, with its `SYN` when the record still owes it. -/
structure Carry (s : StreamId) (a a' : Active) (E : List Frame) : Prop where
  shape : a'.out = a.out ++ E ∨ (∃ P Q, a.out = P ++ Q ∧ a'.out = P ++ E ++ Q) ∧ payload s E = []
  rst : ∀ g ∈ E, g.payloadFor s ≠ [] → g.header.flags.rst = false
  clear : FinClear s E
  fin : 0 < total (Frame.finFor s) E → payload s E = [] ∧
    ((∃ r', a'.streams.lookup s = some r' ∧ r'.shared.state.SendShut) ∧ a'.out = a.out ++ E ∨
      (∃ r, a.streams.lookup s = some r ∧ r.shared.state = .recvClosed) ∧ a'.streams.lookup s = none)
  data : payload s E ≠ [] →
    ∃ r, a.streams.lookup s = some r ∧ ¬r.shared.state.SendShut ∧ (r.flag = .syn → SynLed s E)

namespace Intake

variable {s : StreamId} {a a' : Active} {fin : List Frame} {lost lost' : Prop} {taken : List UInt8}

/-- An operation that leaves the record of `s` and takes in no byte of it. -/
theorem same (h : a'.streams.lookup s = a.streams.lookup s) (hp : payload s fin = []) :
    Intake s a a' fin lost [] := by
  cases hr : a.streams.lookup s with
  | none => exact .absent hr (h.trans hr) rfl
  | some r => exact .kept hr (h.trans hr) (.refl _) (.inl (by simp [hp]))

theorem mono (h : Intake s a a' fin lost taken) (hl : lost → lost') : Intake s a a' fin lost' taken := by
  cases h with
  | absent h1 h2 h3 => exact .absent h1 h2 h3
  | kept h1 h2 h3 h4 => exact .kept h1 h2 h3 (h4.imp_right hl)
  | removed h1 h2 h3 => exact .removed h1 h2 h3
  | opened h1 h2 h3 h4 h5 => exact .opened h1 h2 h3 h4 h5

/-- `Intake` reads the later state only through its table. -/
theorem congr {a'' : Active} (h : a''.streams = a'.streams) (hi : Intake s a a' fin lost taken) :
    Intake s a a'' fin lost taken := by
  cases hi with
  | absent h1 h2 h3 => exact .absent h1 (h ▸ h2) h3
  | kept h1 h2 h3 h4 => exact .kept h1 (h ▸ h2) h3 h4
  | removed h1 h2 h3 => exact .removed h1 (h ▸ h2) h3
  | opened h1 h2 h3 h4 h5 => exact .opened h1 (h ▸ h2) h3 h4 h5

section Taken

variable (hin : Intake s a a' fin lost taken)
include hin

/-- Without a record before, nothing is handed to the reader. -/
theorem taken_nil_of_none (h : a.streams.lookup s = none) : taken = [] := by
  cases hin with
  | absent _ _ ht | opened _ _ ht _ _ => exact ht
  | kept h1 | removed h1 => rw [h] at h1; cases h1

/-- Without a record after, nothing is handed to the reader. -/
theorem taken_nil_of_none' (h : a'.streams.lookup s = none) : taken = [] := by
  cases hin with
  | absent _ _ ht | removed _ _ ht => exact ht
  | kept _ h2 | opened _ h2 => rw [h] at h2; cases h2

end Taken

end Intake

namespace Carry

variable {s : StreamId} {a a' : Active} {E : List Frame}

/-- Frames with no data and no `FIN` of `s`, wherever they go. -/
theorem quiet (h : a'.out = a.out ++ E ∨ ∃ P Q, a.out = P ++ Q ∧ a'.out = P ++ E ++ Q)
    (hp : payload s E = []) (hf : total (Frame.finFor s) E = 0) : Carry s a a' E where
  shape := h.imp_right fun h => ⟨h, hp⟩
  rst g hg hne := absurd (payload_eq_nil.1 hp g hg) hne
  clear := finClear_of_payload hp
  fin h := by omega
  data h := absurd hp h

/-- An operation that leaves the unwritten frames. -/
theorem none (h : a'.out = a.out) : Carry s a a' [] := quiet (.inl (by simp [h])) rfl rfl

/-- The data the unwritten frames carry grows by the data emitted. -/
theorem payload_out (hc : Carry s a a' E) :
    payload s a'.out = payload s a.out ++ payload s E := by
  rcases hc.shape with h | ⟨⟨P, Q, h1, h2⟩, hp⟩
  · rw [h, payload_append]
  · rw [h2, h1]; simp [payload_append, hp]

section Shut

variable (hc : Carry s a a' E)
include hc

/-- A record whose local half is closed emits no data. -/
theorem payload_nil_of_shut (h : ∀ r, a.streams.lookup s = some r → r.shared.state.SendShut) :
    payload s E = [] := by
  by_contra hp
  obtain ⟨r, hr, hns, -⟩ := hc.data hp
  exact hns (h r hr)

/-- Nor does a stream without a record. -/
theorem payload_nil_of_none (h : a.streams.lookup s = Option.none) : payload s E = [] :=
  hc.payload_nil_of_shut fun r hr => by rw [h] at hr; cases hr

end Shut

end Carry

namespace Frame

variable {s : StreamId} {f : Frame}

/-- A frame that carries no byte of `s` and does not close it. -/
structure Mute (s : StreamId) (f : Frame) : Prop where
  payload : f.payloadFor s = []
  fin : f.finFor s = 0

theorem mute_of_ne (h : f.header.streamId ≠ s) : Mute s f :=
  ⟨by simp [payloadFor, h], by simp [finFor, h]⟩

/-- A frame without body or `FIN`: every frame the engine itself emits. -/
theorem mute_of_empty (hb : f.body = []) (hf : f.header.flags.fin = false) : Mute s f :=
  ⟨by simp [payloadFor, hb], by simp [finFor, hf]⟩

theorem Mute.total {E : List Frame} (h : ∀ g ∈ E, Mute s g) :
    Yamux.payload s E = [] ∧ Yamux.total (finFor s) E = 0 := by
  induction E with
  | nil => exact ⟨rfl, rfl⟩
  | cons g E ih =>
    have hg := h g (List.mem_cons_self _ _)
    obtain ⟨h1, h2⟩ := ih fun g' hg' => h g' (List.mem_cons_of_mem _ hg')
    simp [hg.payload, hg.fin, h1, h2]

theorem exists_of_total_pos {g : Frame → Nat} {E : List Frame} (h : 0 < Yamux.total g E) :
    ∃ f ∈ E, 0 < g f := by
  induction E with
  | nil => simp at h
  | cons f E ih =>
    rw [total_cons] at h
    by_cases hf : 0 < g f
    · exact ⟨f, List.mem_cons_self _ _, hf⟩
    · obtain ⟨f', hf', h'⟩ := ih (by omega)
      exact ⟨f', List.mem_cons_of_mem _ hf', h'⟩

end Frame

section Headers

variable (h : Header) (fl : Flag)

@[simp] theorem Header.syn_flags_fin : h.syn.flags.fin = h.flags.fin := rfl
@[simp] theorem Header.ack_flags_fin : h.ack.flags.fin = h.flags.fin := rfl
@[simp] theorem Header.rst_flags_fin : h.rst.flags.fin = h.flags.fin := rfl
@[simp] theorem Header.syn_flags_rst : h.syn.flags.rst = h.flags.rst := rfl
@[simp] theorem Header.ack_flags_rst : h.ack.flags.rst = h.flags.rst := rfl
@[simp] theorem Flag.apply_flags_fin : (fl.apply h).flags.fin = h.flags.fin := by cases fl <;> rfl
@[simp] theorem Flag.apply_flags_rst : (fl.apply h).flags.rst = h.flags.rst := by cases fl <;> rfl

end Headers

theorem Shared.updateState_sendClosed (sh : Shared) : (sh.updateState .sendClosed).2.state.SendShut := by
  obtain ⟨st, _, _, _, _, _⟩ := sh
  cases st <;> simp [Shared.updateState, State.SendShut]

theorem Frame.finFor_closeStream (s t : StreamId) (ack : Bool) :
    (Frame.closeStream t ack).finFor s = if t = s then 1 else 0 := by
  unfold Frame.closeStream
  split <;> simp [Frame.finFor, Frame.new, Header.fin, Header.data, Header.ack]

namespace Active

variable {s t : StreamId} {a a' : Active} {lost : Prop}

theorem bytes_command {c : StreamCommand} {rx : Receiver}
    (h : a.streamReceiver.pollNext = (.ready (some c), rx)) :
    Carry s a (onCommand { a with streamReceiver := rx } c) [] ∧
      Intake s a (onCommand { a with streamReceiver := rx } c) [] lost [] := by
  unfold Receiver.pollNext at h
  split at h
  · rename_i c' q hq
    cases h
    exact ⟨.none (by simp [out, onCommand_pendingFrames, hq]), .same (by cases c <;> rfl) rfl⟩
  · split at h <;> cases h

theorem bytes_dropHandle (h : a.dropHandle t = some a') : Carry s a a' [] ∧ Intake s a a' [] lost [] := by
  obtain ⟨r, hr, -, rfl⟩ := dropHandle_cases h
  refine ⟨.none rfl, ?_⟩
  by_cases hs : s = t
  · subst hs
    exact .kept hr (setShared_lookup_self hr _ _ _) (.refl _) (.inl (by simp [Stream.bytes]))
  · exact .same (setShared_lookup_ne hs _ _ _) rfl

/-- A close queues the `FIN` of `t` behind every unwritten frame and closes the local half. -/
theorem bytes_closeStream (h : a.closeStream t = some a') :
    ∃ E, Carry s a a' E ∧ Intake s a a' [] lost [] := by
  obtain ⟨r, hr, ⟨-, rfl⟩ | ⟨-, h⟩⟩ := closeStream_cases h
  · exact ⟨[], .none rfl, .same rfl rfl⟩
  obtain ⟨hout, hst, -, -⟩ := sendCommand_eq h
  set fr := (StreamCommand.closeStream t (r.flag = .ack)).frame
  have hp : payload s [fr] = [] := by
    simp [fr, StreamCommand.frame, Frame.closeStream, Frame.payloadFor, Frame.new]
  refine ⟨[fr], ?_⟩
  by_cases hs : s = t
  · subst hs
    have hr' := setShared_lookup_self hr (if r.flag = .ack then { r with flag := .none } else r)
      (r.shared.updateState .sendClosed).2 []
    rw [← hst] at hr'
    refine ⟨⟨.inl hout, fun g hg hne => ?_, finClear_of_payload hp,
      fun _ => ⟨hp, .inl ⟨⟨_, hr', Shared.updateState_sendClosed _⟩, hout⟩⟩, fun h => absurd hp h⟩,
      .kept hr hr' (.update _ (by simp)) (.inl (by simp [Stream.bytes]))⟩
    exact absurd (payload_eq_nil.1 hp g hg) hne
  · refine ⟨.quiet (.inl hout) hp ?_, .same (by rw [hst]; exact setShared_lookup_ne hs _ _ _) rfl⟩
    simp [fr, StreamCommand.frame, Frame.finFor_closeStream, Ne.symm hs]

/-- A write emits one data frame of `t`, with the `SYN` the record owes, behind every
unwritten frame. -/
theorem bytes_write {w : Waker} {data : List UInt8} {r : Poll (Except ConnectionError Nat)}
    (h : a.write t w data = some (r, a')) : ∃ E, Carry s a a' E ∧ Intake s a a' [] lost [] := by
  obtain ⟨rec, hr, ⟨-, rfl, rfl⟩ | ⟨-, -, rfl, rfl⟩ | ⟨h1, -, n, -, rfl, h3⟩⟩ := write_cases h
  · exact ⟨[], .none rfl, .same rfl rfl⟩
  · refine ⟨[], .none rfl, ?_⟩
    by_cases hs : s = t
    · subst hs
      exact .kept hr (setShared_lookup_self hr _ _ _) (.refl _) (.inl (by simp [Stream.bytes]))
    · exact .same (setShared_lookup_ne hs _ _ _) rfl
  · obtain ⟨hout, hst, -, -⟩ := sendCommand_eq h3
    set fr : Frame := ⟨rec.flag.apply (Header.data t n.toUInt32), data.take n⟩
    have hrst : fr.header.flags.rst = false := by simp [fr, Header.data]
    have hfin : Yamux.total (Frame.finFor s) [fr] = 0 := by simp [fr, Frame.finFor, Header.data]
    refine ⟨[fr], ⟨.inl hout, fun g hg _ => by simp only [List.mem_singleton] at hg; subst hg; exact hrst,
      ⟨fun _ => rfl, trivial⟩, fun h => by omega, fun hne => ?_⟩, ?_⟩
    · by_cases hs : s = t
      · subst hs
        refine ⟨rec, hr, h1, fun hf => .inl ?_⟩
        simp [fr, Frame.synFor, Header.data, hf]
      · exact absurd (by simp [fr, Frame.payloadFor, Header.data, Ne.symm hs]) hne
    · by_cases hs : s = t
      · subst hs
        have hr' := setShared_lookup_self hr { rec with flag := .none }
          { rec.shared with credit := rec.shared.credit - n.toUInt32 } []
        rw [← hst] at hr'
        exact .kept hr hr' (.refl _) (.inl (by simp [Stream.bytes]))
      · exact .same (by rw [hst]; exact setShared_lookup_ne hs _ _ _) rfl

/-- A read hands the oldest buffered body of `t` to the reader. -/
theorem bytes_read {w : Waker} {r : Poll (Option (List UInt8))} (h : a.read t w = some (r, a')) :
    ∃ E, Carry s a a' E ∧ Intake s a a' [] lost (if s = t then r.chunk else []) := by
  obtain ⟨rec, hr, hcases⟩ := read_cases h
  have hsame : ∀ {b : Active} {x : Shared} {q : Stream} {c : List UInt8},
      b.streams = (a.setShared t q x []).streams → x.state = rec.shared.state →
      rec.bytes = c ++ x.buffer.flatten → Intake s a b [] lost (if s = t then c else []) := by
    intro b x q c he hs hb
    by_cases hst : s = t
    · subst hst
      rw [if_pos rfl]
      exact .kept hr (by rw [he]; exact setShared_lookup_self hr _ _ _) (by rw [hs]; exact .refl _)
        (.inl (by simpa [Stream.bytes] using hb))
    · rw [if_neg hst]; exact .same (by rw [he]; exact setShared_lookup_ne hst _ _ _) rfl
  rcases hcases with ⟨chunk, rest, hb, rfl, ⟨c, -, -, h3⟩ | rfl⟩ | ⟨-, -, rfl, rfl⟩ | ⟨-, -, rfl, rfl⟩
  · obtain ⟨hout, hst, -, -⟩ := sendCommand_eq h3
    refine ⟨_, .quiet (.inl hout) ?_ ?_, hsame hst rfl (by simp [Stream.bytes, hb, Poll.chunk])⟩ <;>
      simp [StreamCommand.frame, Frame.payloadFor, Frame.finFor, Frame.new, Header.windowUpdate]
  · exact ⟨[], .none rfl, hsame rfl rfl (by simp [Stream.bytes, hb, Poll.chunk])⟩
  · exact ⟨[], .none rfl, by simpa [Poll.chunk] using (Intake.same rfl rfl : Intake s a' a' [] lost [])⟩
  · exact ⟨[], .none rfl, by simpa [Poll.chunk] using hsame (c := []) (x := { rec.shared with reader := some w }) rfl rfl rfl⟩

theorem openOutbound_shared (id : StreamId) :
    (a.openOutbound id).1.shared = Shared.new a.config.receiveWindow defaultCredit := by
  dsimp only [openOutbound]
  split_ifs <;> rfl

/-- An open puts its window update between the pending frames and the queued commands,
and creates the record of the new id, `Open` and empty. -/
theorem bytes_newOutbound {r : Except ConnectionError Stream} (hfresh : (⟨a.nextId⟩ : StreamId) ∉ a.streams)
    (h : a.newOutbound = .ok (r, a')) : ∃ E, Carry s a a' E ∧ Intake s a a' [] lost [] := by
  rw [newOutbound_eq] at h
  split_ifs at h
  · cases h; exact ⟨[], .none rfl, .same rfl rfl⟩
  · simp only [Except.ok.injEq, Prod.mk.injEq] at h
    obtain ⟨-, rfl⟩ := h
    set id : StreamId := ⟨a.nextId⟩
    have hin : Intake s a (openOutbound { a with nextId := a.nextId + 2 } id).2 [] lost [] := by
      have hst := (openOutbound_snd (a := { a with nextId := a.nextId + 2 }) id).2.2.2
      by_cases hs : s = id
      · subst hs
        refine .opened (AList.lookup_eq_none.2 hfresh) (by rw [hst]; exact AList.lookup_insert _) rfl ?_
          (.inl ?_) <;> simp [Stream.bytes, openOutbound_shared, Shared.new]
      · exact .same (by rw [hst, AList.lookup_insert_ne hs]) rfl
    rcases openOutbound_arms (a := { a with nextId := a.nextId + 2 }) id with ⟨-, e⟩ | ⟨-, e⟩ <;>
      rw [e] at hin ⊢
    · have hq := Frame.Mute.total (s := s) (E := [Frame.new (Header.windowUpdate id
        (a.config.receiveWindow - defaultCredit)).syn]) (by simpa using Frame.mute_of_empty rfl rfl)
      exact ⟨_, .quiet (.inr ⟨a.pendingFrames, _, rfl, by simp [out, push]⟩) hq.1 hq.2, hin⟩
    · exact ⟨[], .none rfl, hin⟩
  · cases h; exact ⟨[], .none rfl, .same rfl rfl⟩

theorem gcFrame_fin {mode : WindowUpdateMode} {id : StreamId} {sh : Shared} {g : Frame}
    (h : gcFrame mode id sh = some g) : Frame.Mute s g ∨ id = s ∧ sh.state = .recvClosed ∧ g.body = [] := by
  unfold gcFrame at h
  split at h <;> try split_ifs at h
  all_goals cases h
  · exact .inl (Frame.mute_of_empty rfl rfl)
  · by_cases hs : id = s
    · exact .inr ⟨hs, ‹_›, rfl⟩
    · exact .inl (Frame.mute_of_ne hs)
  all_goals exact .inl (Frame.mute_of_empty rfl rfl)

/-- A collection puts its resets and `FIN`s between the pending frames and the queued
commands; a `FIN` of `s` among them comes from a `RecvClosed` record it removes. -/
theorem bytes_collect : ∃ E, Carry s a a.garbageCollect E ∧ Intake s a a.garbageCollect [] lost [] := by
  set E := (a.streams.entries.filter (fun e => Dropped e.2)).filterMap
    (fun e => gcFrame a.config.windowUpdateMode e.1 e.2.shared)
  have hp : payload s E = [] := payload_eq_nil.2 fun g hg => by
    obtain ⟨e, -, he⟩ := List.mem_filterMap.1 hg
    rcases gcFrame_fin (s := s) he with h | ⟨-, -, hb⟩
    · exact h.payload
    · simp [Frame.payloadFor, hb]
  refine ⟨E, ⟨.inr ⟨⟨a.pendingFrames, _, rfl, rfl⟩, hp⟩, fun g hg hne => absurd (payload_eq_nil.1 hp g hg) hne,
    finClear_of_payload hp, fun hf => ⟨hp, .inr ?_⟩, fun h => absurd hp h⟩, ?_⟩
  · obtain ⟨g, hg, hpos⟩ := Frame.exists_of_total_pos hf
    obtain ⟨e, he, hge⟩ := List.mem_filterMap.1 hg
    rcases gcFrame_fin (s := s) hge with h | ⟨rfl, hst, -⟩
    · rw [h.fin] at hpos; cases hpos
    · obtain ⟨hm, hd⟩ := List.mem_filter.1 he
      have hd : Dropped e.2 := of_decide_eq_true hd
      have hr : a.streams.lookup e.1 = some e.2 := AList.mem_lookup_iff.2 hm
      exact ⟨⟨e.2, hr, hst⟩, lookup_garbageCollect_dropped hr hd⟩
  · cases hr : a.streams.lookup s with
    | none => exact .absent hr (lookup_garbageCollect_none hr) rfl
    | some r =>
      by_cases hd : Dropped r
      · exact .removed hr (lookup_garbageCollect_dropped hr hd) rfl
      · exact .same ((lookup_garbageCollect_kept hr hd).trans hr.symm) rfl

/-- What a handler of a received frame `f` does on stream `s`: it leaves the unwritten
frames, its action queues frames with no byte or `FIN` of `s`, and the receiving side of
`s` moves as `Intake` allows. -/
structure Took (s : StreamId) (a : Active) (f : Frame) (lost : Prop) (p : Action × Active) : Prop where
  out : p.2.out = a.out
  mute : ∀ g ∈ p.1.frames, Frame.Mute s g
  intake : Intake s a p.2 [f] lost []

variable {f : Frame} {lost' : Prop}

theorem Took.mono {p : Action × Active} (h : Took s a f lost p) (hl : lost → lost') : Took s a f lost' p :=
  ⟨h.out, h.mute, h.intake.mono hl⟩

theorem payload_single_of_ne (h : f.header.streamId ≠ s) : payload s [f] = [] := by
  simp [Frame.payloadFor, h]

theorem payload_single_of_tag (h : f.header.tag ≠ .data) : payload s [f] = [] := by
  simp [Frame.payloadFor, h]

theorem mute_single {g : Frame} (hb : g.body = []) (hf : g.header.flags.fin = false) :
    ∀ g' ∈ [g], Frame.Mute s g' := fun g' hg' => by
  rw [List.mem_singleton] at hg'; subst hg'; exact Frame.mute_of_empty hb hf

/-- A handler that leaves the engine: what `f` carries on `s` is for no record. -/
theorem took_same {act : Action} (hm : ∀ g ∈ act.frames, Frame.Mute s g)
    (hp : a.streams.lookup s = none ∨ payload s [f] = []) : Took s a f lost (act, a) := by
  refine ⟨rfl, hm, ?_⟩
  rcases hp with hn | hp
  · exact .absent hn hn rfl
  · exact .same rfl hp

theorem took_resetStream (t : StreamId) (hp : payload s [f] = []) : Took s a f lost (.none, a.resetStream t) := by
  refine ⟨by unfold resetStream; split <;> rfl, by simp [Action.frames], ?_⟩
  unfold resetStream
  split
  · rename_i r hr
    by_cases hs : s = t
    · subst hs
      exact .kept hr (setShared_lookup_self hr _ _ _) (.update _ (by simp))
        (.inl (by simp [Stream.bytes, hp, Shared.takeWakers]))
    · exact .same (setShared_lookup_ne hs _ _ _) hp
  · exact .same rfl hp

/-- A data frame on a record: the `FIN` moves the state, then the body is buffered, or
lost to the reset of the buffer limit. -/
theorem took_onDataKnown {r : Stream} (htag : f.header.tag = .data)
    (hr : a.streams.lookup f.header.streamId = some r)
    (hterm : (a.onDataKnown f r).1 ≠ .terminate Frame.protocolError) :
    Took s a f (f.header.streamId = s ∧ (a.onDataKnown f r).1.isReset = true) (a.onDataKnown f r) := by
  have hst : s = f.header.streamId → StateStep s [f] r.shared.state (r.shared.finish f.header.flags.fin).state := by
    rintro rfl
    unfold Shared.finish
    split
    · exact .update _ (fun _ => by simp [Frame.finFor, htag, *])
    · exact .refl _
  rcases onDataKnown_cases (a := a) f r with ⟨-, e⟩ | ⟨-, -, e⟩ | ⟨-, -, act, sh, e, hsh, hbuf, -, hact⟩ <;>
    rw [e] at hterm ⊢
  · exact absurd rfl hterm
  · refine ⟨by simp, mute_single rfl rfl, ?_⟩
    by_cases hs : s = f.header.streamId
    · subst hs
      exact .kept hr (setShared_lookup_self hr _ _ _) (hst rfl) (.inr ⟨rfl, rfl⟩)
    · exact .same (setShared_lookup_ne hs _ _ _) (payload_single_of_ne (Ne.symm hs))
  · have hin {l : Prop} : Intake s a (a.setShared f.header.streamId r sh r.shared.reader.toList) [f] l [] := by
      by_cases hs : s = f.header.streamId
      · subst hs
        exact .kept hr (setShared_lookup_self hr _ _ _) (hsh ▸ hst rfl)
          (.inl (by simp [Stream.bytes, hbuf, Frame.payloadFor, htag]))
      · exact .same (setShared_lookup_ne hs _ _ _) (payload_single_of_ne (Ne.symm hs))
    rcases hact with ⟨rfl, -⟩ | ⟨c, rfl, -⟩
    · exact ⟨by simp, by simp [Action.frames], hin⟩
    · exact ⟨by simp, mute_single rfl rfl, hin⟩

/-- A record opened under the id of `f` holding what `f` carries, `Open`, or `RecvClosed`
on the `FIN` of `f`. -/
theorem intake_insert {r : Stream} {w c : UInt32} (ht : f.header.tag = .data ∨ f.header.tag = .windowUpdate)
    (hmem : f.header.streamId ∉ a.streams) (hb : r.bytes = payload f.header.streamId [f])
    (hst : r.shared.state = ((Shared.new w c).finish f.header.flags.fin).state) :
    Intake s a { a with streams := a.streams.insert f.header.streamId r } [f] lost [] := by
  by_cases hs : s = f.header.streamId
  · subst hs
    refine .opened (AList.lookup_eq_none.2 hmem) (AList.lookup_insert _) rfl hb ?_
    rw [hst]
    unfold Shared.finish
    split
    · exact .inr ⟨rfl, by simp [Frame.finFor, ht, *]⟩
    · exact .inl rfl
  · exact .same (AList.lookup_insert_ne hs) (payload_single_of_ne (Ne.symm hs))

/-- A data frame with `SYN` that passed the checks: the new record holds its body, `Open`,
or `RecvClosed` on a `FIN`. -/
theorem took_onDataSyn (htag : f.header.tag = .data) (hmem : f.header.streamId ∉ a.streams) :
    Took s a f lost (a.onDataSyn f) := by
  obtain ⟨r, u, -, e, -, hbuf, -, hst, -, -, hu⟩ := onDataSyn_eq (a := a) f
  rw [e]
  refine ⟨rfl, ?_, intake_insert (.inl htag) hmem (by simp [Stream.bytes, hbuf, Frame.payloadFor, htag]) hst⟩
  rcases hu with ⟨rfl, -⟩ | ⟨c, rfl, -⟩
  · simp [Action.frames]
  · exact mute_single rfl rfl

theorem took_onWindowUpdateSyn (htag : f.header.tag = .windowUpdate) (hmem : f.header.streamId ∉ a.streams) :
    Took s a f lost (a.onWindowUpdateSyn f) := by
  obtain ⟨r, -, e, -, -, hsh⟩ := onWindowUpdateSyn_eq (a := a) f
  rw [e]
  exact ⟨rfl, by simp [Action.frames], intake_insert (.inr htag) hmem
    (by simp [Stream.bytes, hsh, Shared.new, Frame.payloadFor, htag]) (by rw [hsh])⟩

theorem took_onWindowUpdateKnown {r : Stream} (htag : f.header.tag = .windowUpdate)
    (hr : a.streams.lookup f.header.streamId = some r) : Took s a f lost (a.onWindowUpdateKnown f r) := by
  rw [onWindowUpdateKnown_eq]
  refine ⟨by simp, by simp [Action.frames], ?_⟩
  by_cases hs : s = f.header.streamId
  · subst hs
    refine .kept hr (setShared_lookup_self hr _ _ _) ?_ (.inl (by simp [Stream.bytes, Frame.payloadFor, htag]))
    unfold Shared.finish
    split
    · exact .update _ (fun _ => by simp [Frame.finFor, htag, *])
    · exact .refl _
  · exact .same (setShared_lookup_ne hs _ _ _) (payload_single_of_ne (Ne.symm hs))

theorem took_onData (htag : f.header.tag = .data) (hrst : f.header.flags.rst = true → payload s [f] = [])
    (hterm : (a.onData f).1 ≠ .terminate Frame.protocolError) :
    Took s a f (f.header.streamId = s ∧ (a.onData f).1.isReset = true) (a.onData f) := by
  have hnone : a.streams.lookup f.header.streamId = none →
      a.streams.lookup s = none ∨ payload s [f] = [] := fun h => by
    by_cases hs : f.header.streamId = s
    · exact .inl (hs ▸ h)
    · exact .inr (payload_single_of_ne hs)
  rcases onData_arms (a := a) f with ⟨h1, e⟩ | ⟨-, -, -, e⟩ | ⟨-, -, -, -, hm, ⟨-, e⟩ | ⟨-, e⟩⟩ |
    ⟨-, -, r, hr, e⟩ | ⟨-, -, hl, e⟩ <;> rw [e] at hterm ⊢
  · exact took_resetStream _ (hrst h1)
  · exact absurd rfl hterm
  · exact took_same (mute_single rfl rfl) (hnone (AList.lookup_eq_none.2 hm))
  · exact took_onDataSyn htag hm
  · exact took_onDataKnown htag hr hterm
  · exact took_same (by simp [Action.frames]) (hnone hl)

theorem took_onWindowUpdate (htag : f.header.tag = .windowUpdate) : Took s a f lost (a.onWindowUpdate f) := by
  have hp := payload_single_of_tag (s := s) (f := f) (by simp [htag])
  rcases onWindowUpdate_arms (a := a) f with ⟨-, e⟩ | ⟨-, -, -, e⟩ | ⟨-, -, -, hm, -, e⟩ | ⟨-, -, r, hr, e⟩ |
    ⟨-, -, -, e⟩ <;> rw [e]
  · exact took_resetStream _ hp
  · exact took_same (mute_single rfl rfl) (.inr hp)
  · exact took_onWindowUpdateSyn htag hm
  · exact took_onWindowUpdateKnown htag hr
  · exact took_same (by simp [Action.frames]) (.inr hp)

theorem took_onPing (htag : f.header.tag = .ping) : Took s a f lost (a.onPing f, a) := by
  have h : a.onPing f = .none ∨ a.onPing f = .ping (Frame.new (Header.ping f.header.nonce).ack) := by
    unfold onPing; dsimp only; split_ifs <;> simp
  refine took_same ?_ (.inr (payload_single_of_tag (by simp [htag])))
  rcases h with h | h <;> rw [h]
  · simp [Action.frames]
  · exact mute_single rfl rfl

/-- **The bytes across a received frame**: what it carries on `s` is buffered, unless it
is a data frame of `s` answered with the reset of the buffer limit. A reset carrying data
and a data frame refused for its size are left out by the hypotheses. -/
theorem bytes_onFrame (f : Frame) (hrst : f.header.flags.rst = true → payload s [f] = [])
    (hterm : f.header.tag = .data → (a.onData f).1 ≠ .terminate Frame.protocolError) :
    ∃ E, Carry s a (a.onFrame f).2 E ∧ Intake s a (a.onFrame f).2 [f]
      (f.header.tag = .data ∧ f.header.streamId = s ∧ (a.onData f).1.isReset = true) [] := by
  have key : ∀ {l : Prop} {p : Action × Active}, Took s a f l p →
      ∃ E, Carry s a (p.2.perform p.1).2 E ∧ Intake s a (p.2.perform p.1).2 [f] l [] := by
    intro l p h
    have hq := Frame.Mute.total h.mute
    rw [perform_eq]
    exact ⟨p.1.frames, .quiet (.inr ⟨p.2.pendingFrames, p.2.streamReceiver.queue.map StreamCommand.frame,
      by rw [← h.out]; rfl, rfl⟩) hq.1 hq.2, Intake.congr (by rfl) h.intake⟩
  unfold onFrame
  cases htag : f.header.tag
  · refine key ?_
    exact (took_onData htag hrst (hterm htag)).mono fun h => ⟨rfl, h⟩
  · refine key ?_
    exact took_onWindowUpdate htag
  · refine key (p := (a.onPing f, a)) ?_
    exact took_onPing htag
  · exact ⟨[], .none rfl, .same rfl (payload_single_of_tag (by simp [htag]))⟩

end Active

end Yamux
