import Yamux.Proof.Account
import Yamux.Proof.Invariant

/-!
# Flow control between two engines

A client and a server joined by a `Link`, each end running the engine, its stream
handles acting on it. For a stream `s`, the side that allocates its id owns it
(`Side.owner`) and is the only one whose frames carry its `SYN`; the other side opens
its record when that `SYN` arrives. While it is on its way the other side counts as
holding `DEFAULT_CREDIT` of credit and of window (`vcredit`, `win`).

Every step of a link is, for `s`, one side applying a `Law` of `Account` to the
frames it takes from the other side (`Move`), or a write to the socket, which moves
a frame from the engine to the wire and changes nothing counted (`Sends`). From the
laws alone:

* `Inv.step`: the sender's credit, the data it has in flight and the credit granted
  to it in flight never exceed the receiver's window; the `SYN` of a stream is owed
  at most once, and only by its owner; the handles of a side never write more than
  `DEFAULT_CREDIT` and the credit the side has received.
* `flow_within_window`: so in every reachable link the data in flight toward a side
  fits its window, a data frame is never refused for its size, and a writer never
  outruns the credit it was granted.
-/

namespace Yamux

namespace Side

@[simp] theorem other_other (i : Side) : i.other.other = i := by cases i <;> rfl

@[simp] theorem other_ne (i : Side) : i.other ≠ i := by cases i <;> decide

@[simp] theorem ne_other (i : Side) : i ≠ i.other := by cases i <;> decide

theorem eq_or_eq_other (i k : Side) : i = k ∨ i = k.other := by cases i <;> cases k <;> simp [other]

/-- The side that allocates `s`: the client the odd ids, the server the even ones. -/
def owner (s : StreamId) : Side := if s.isClient then .left else .right

/-- The mode each side of a link runs in. -/
def mode : Side → Mode
  | .left => .client
  | .right => .server

theorem isLocal_iff (i : Side) (s : StreamId) : i.mode.isLocal s = true ↔ i = owner s := by
  cases i <;> cases h : s.isClient <;>
    simp [mode, owner, Mode.isLocal, h, StreamId.isServer_iff, ← StreamId.isClient_iff]
  simp only [StreamId.isClient_iff, Bool.eq_false_iff, ne_eq] at h ⊢
  omega

end Side

namespace Link

variable (L : Link) (i : Side) (s : StreamId)

/-- The record side `i` holds for `s`. -/
def record : Option Stream := (L.engine i).streams.lookup s

/-- The frames side `i` has produced and the other side has not read yet, oldest
first: those on the wire, then those still in the engine. -/
def flight : List Frame := L.wire i ++ (L.engine i).out

/-- The data of `s` side `i` has in flight. -/
def data : Nat := total (Frame.dataFor s) (L.flight i)

/-- The credit on `s` side `i` has granted and the other side not received. -/
def grant : Nat := total (Frame.creditFor s) (L.flight i)

/-- The `SYN` a record still owes. -/
def flagOf : Option Stream → Nat
  | none => 0
  | some r => r.synFlag

/-- The `SYN`s of `s` still to be received: owed by the owner's record, or in flight. -/
def synAhead : Nat := total (Frame.synFor s) (L.flight (Side.owner s)) + flagOf (L.record (Side.owner s) s)

/-- A `SYN` of `s` is on its way to side `i`. -/
def Ahead : Prop := i ≠ Side.owner s ∧ L.synAhead s = 1

instance : Decidable (L.Ahead i s) := inferInstanceAs (Decidable (_ ∧ _))

/-- The send credit of side `i` on `s`: its record's, or `DEFAULT_CREDIT` while the
`SYN` that opens its record is on its way. -/
def vcredit : Nat :=
  match L.record i s with
  | some r => r.credit
  | none => if L.Ahead i s then defaultCredit.toNat else 0

/-- The receive window of side `i` on `s`: its record's, or `DEFAULT_CREDIT` while the
`SYN` that opens its record is on its way. -/
def win : Option Nat :=
  match L.record i s with
  | some r => some r.window
  | none => if L.Ahead i s then some defaultCredit.toNat else none

variable {L i s}

theorem vcredit_of_some {r : Stream} (h : L.record i s = some r) : L.vcredit i s = r.credit := by
  simp [vcredit, h]

theorem vcredit_of_none (h : L.record i s = none) :
    L.vcredit i s = if L.Ahead i s then defaultCredit.toNat else 0 := by
  simp [vcredit, h]

theorem win_of_some {r : Stream} (h : L.record i s = some r) : L.win i s = some r.window := by
  simp [win, h]

theorem win_of_none (h : L.record i s = none) :
    L.win i s = if L.Ahead i s then some defaultCredit.toNat else none := by
  simp [win, h]

end Link

open Relation

variable {L L' : Link} {s : StreamId}

/-- A step at side `k`, seen from stream `s`: the engine of `k` takes in `fin`, the
oldest frames of the other side, and emits `E` under a `Law`; the other engine and
`k`'s wire stay; the handles of `k` record the data of `s` it emitted, and `k` the
credit of `s` it took in. -/
structure Move (s : StreamId) (L L' : Link) (k : Side) (fin E : List Frame) : Prop where
  law : Law s (L.engine k) (L'.engine k) fin E
  config : (L'.engine k).config = (L.engine k).config
  nextId : (L.engine k).nextId.toNat ≤ (L'.engine k).nextId.toNat
  other : L'.engine k.other = L.engine k.other
  wire : L'.wire k = L.wire k
  peer : L.flight k.other = fin ++ L'.flight k.other
  written : L'.written k s = L.written k s ++ payload s E
  writtenOther : L'.written k.other s = L.written k.other s
  granted : L'.granted k s = L.granted k s + total (Frame.creditFor s) fin
  grantedOther : L'.granted k.other s = L.granted k.other s

/-- A write to the socket: a frame moves from an engine to its wire, and nothing the
accounts read changes. -/
structure Sends (L L' : Link) : Prop where
  streams : ∀ i, (L'.engine i).streams = (L.engine i).streams
  config : ∀ i, (L'.engine i).config = (L.engine i).config
  nextId : ∀ i, (L'.engine i).nextId = (L.engine i).nextId
  flight : ∀ i, L'.flight i = L.flight i
  written : L'.written = L.written
  granted : L'.granted = L.granted

namespace Link

theorem setEngine_self (L : Link) (i : Side) (a : Active) : (L.setEngine i a).engine i = a :=
  Function.update_same _ _ _

theorem setEngine_other (L : Link) (i : Side) (a : Active) : (L.setEngine i a).engine i.other = L.engine i.other :=
  Function.update_noteq (Side.other_ne i) _ _

theorem flight_other_of_engine {L' : Link} {i : Side} (he : L'.engine i.other = L.engine i.other)
    (hw : L'.wire i.other = L.wire i.other) : L.flight i.other = [] ++ L'.flight i.other := by
  simp [flight, he, hw]

/-- An operation of side `i` that touches neither wire nor ghost, under its law. -/
theorem move_setEngine {L : Link} {i : Side} {a : Active} {E : List Frame}
    (hl : Law s (L.engine i) a [] E) (hp : payload s E = []) (hc : a.config = (L.engine i).config)
    (hn : (L.engine i).nextId.toNat ≤ a.nextId.toNat) : Move s L (L.setEngine i a) i [] E := by
  refine ⟨by rw [setEngine_self]; exact hl, by rw [setEngine_self]; exact hc, by rw [setEngine_self]; exact hn,
    setEngine_other L i a, rfl, flight_other_of_engine (setEngine_other L i a) rfl, by simp [setEngine, hp],
    rfl, by simp [setEngine], rfl⟩

end Link

namespace Active

variable {a a' : Active}

theorem Local.step (h : Active.Local a a') : Step a a' := by
  cases h with
  | newOutbound h => exact .newOutbound h
  | command h => exact .command h
  | collect => exact .collect _
  | handleClose h => exact .handleClose h
  | handleDrop h => exact .handleDrop h

end Active

namespace Link

/-- Each end of a link runs as a lone engine does: a step of the link is a step of the
engine at its side, and leaves the other engine. -/
theorem Step.engine {L L' : Link} (hs : Step L L') (j : Side) :
    ReflTransGen Active.Step (L.engine j) (L'.engine j) := by
  have hset : ∀ (i : Side) (a : Active), Active.Step (L.engine i) a →
      ReflTransGen Active.Step (L.engine j) ((L.setEngine i a).engine j) := fun i a h => by
    rcases Side.eq_or_eq_other j i with rfl | rfl
    · rw [setEngine_self]; exact .single h
    · rw [setEngine_other]
  cases hs with
  | «local» h => exact hset _ _ h.step
  | read h => exact hset _ _ (.handleRead h)
  | write h => exact hset _ _ (.handleWrite h)
  | send h => exact hset _ _ (.write h)
  | recv h => exact hset _ _ (.frame _ _)

section Moves

variable {L : Link} {i : Side} {a : Active} (hw : ∀ s, WindowOk s (L.engine i))
include hw

/-- An action at side `i` that touches neither wire nor handle data. -/
theorem move_local (hi : Active.IdsOk (L.engine i)) (h : Active.Local (L.engine i) a) (s : StreamId) :
    ∃ E, Move s L (L.setEngine i a) i [] E := by
  have hl : ∃ E, Law s (L.engine i) a [] E ∧ payload s E = [] := by
    cases h with
    | newOutbound h => exact Active.law_newOutbound (hw s) (Active.nextId_not_mem hi) h
    | command h => exact ⟨[], Active.law_command (hw s) h, rfl⟩
    | collect => exact Active.law_collect (hw s)
    | handleClose h => exact Active.law_closeStream (hw s) h
    | handleDrop h => exact ⟨[], Active.law_dropHandle (hw s) h, rfl⟩
  obtain ⟨E, hl, hp⟩ := hl
  exact ⟨E, move_setEngine hl hp h.step.config (Active.nextId_le_of_step h.step)⟩

theorem move_read {id : StreamId} {w : Waker} {r : Poll (Option (List UInt8))}
    (h : (L.engine i).read id w = some (r, a)) (s : StreamId) :
    ∃ E, Move s L { L.setEngine i a with
      consumed := Function.update L.consumed i
        (Function.update (L.consumed i) id (L.consumed i id ++ r.chunk)) } i [] E := by
  obtain ⟨E, hl, hp⟩ := Active.law_read (hw s) h
  have hm := move_setEngine hl hp (Active.Step.handleRead h).config (Active.nextId_le_of_step (.handleRead h))
  exact ⟨E, { hm with }⟩

theorem move_write {id : StreamId} {w : Waker} {data : List UInt8} {r : Poll (Except ConnectionError Nat)}
    (h : (L.engine i).write id w data = some (r, a)) (s : StreamId) :
    ∃ E, Move s L { L.setEngine i a with
      written := Function.update L.written i
        (Function.update (L.written i) id (L.written i id ++ r.sent data)) } i [] E := by
  obtain ⟨E, hl, hp⟩ := Active.law_write (hw s) h
  have ha : Active.Step (L.engine i) a := .handleWrite h
  refine ⟨E, by simp only [setEngine_self]; exact hl, by simp [setEngine_self, ha.config],
    by simpa [setEngine_self] using Active.nextId_le_of_step ha, setEngine_other L i a, rfl,
    flight_other_of_engine (setEngine_other L i a) rfl, ?_, ?_, rfl, rfl⟩
  · rw [hp]
    by_cases hs : s = id
    · subst hs; simp
    · simp [hs, Function.update_noteq hs]
  · simp [Function.update_noteq (Side.other_ne i)]

theorem move_recv {f : Frame} {fs : List Frame} (h : L.wire i.other = f :: fs) (s : StreamId) :
    ∃ E, Move s L (L.recv i f fs) i [f] E := by
  obtain ⟨E, hl, hp⟩ := Active.law_onFrame (hw s) f
  have ha : Active.Step (L.engine i) ((L.engine i).onFrame f).2 := .frame _ _
  exact ⟨E, by simpa [Link.recv] using hl, by simpa [Link.recv] using ha.config,
    by simpa [Link.recv] using Active.nextId_le_of_step ha,
    by simp [Link.recv, Function.update_noteq (Side.other_ne i)],
    by simp [Link.recv, Function.update_noteq (Side.ne_other i)], by simp [Link.recv, flight, h],
    by simp [Link.recv, hp], by simp [Link.recv, Function.update_noteq (Side.other_ne i)], by simp [Link.recv],
    by simp [Link.recv, Function.update_noteq (Side.other_ne i)]⟩

end Moves

theorem sends_send {L : Link} {i : Side} {f : Frame} {fs : List Frame} (h : (L.engine i).pendingFrames = f :: fs) :
    Sends L (L.send i f fs) := by
  refine ⟨fun j => ?_, fun j => ?_, fun j => ?_, fun j => ?_, rfl, rfl⟩
  all_goals rcases Side.eq_or_eq_other j i with rfl | rfl <;> simp [Link.send, flight, Active.out, h, Function.update_noteq]

/-- What a step of a link is, stream by stream: a write to the socket, or a `Move` of
one side under the law of its operation. -/
theorem Step.move {L L' : Link} (hs : Step L L') (hw : ∀ i s, WindowOk s (L.engine i))
    (hi : ∀ i, Active.IdsOk (L.engine i)) : Sends L L' ∨ ∃ k fin, ∀ s, ∃ E, Move s L L' k fin E := by
  cases hs with
  | «local» h => exact .inr ⟨_, [], move_local (hw _) (hi _) h⟩
  | read h => exact .inr ⟨_, [], move_read (hw _) h⟩
  | write h => exact .inr ⟨_, [], move_write (hw _) h⟩
  | send h => exact .inl (sends_send h)
  | recv h => exact .inr ⟨_, [_], move_recv (hw _) h⟩

/-- What a fresh id looks like: no record, nothing counted in flight, no ghost. -/
structure Fresh (L : Link) (s : StreamId) : Prop where
  record : ∀ i, L.record i s = none
  data : ∀ i, L.data i s = 0
  grant : ∀ i, L.grant i s = 0
  syn : ∀ i, total (Frame.synFor s) (L.flight i) = 0
  written : ∀ i, L.written i s = []

/-- **The flow-control invariant of a link.** Ids above the owner's `next_id` are
fresh; the `SYN` of a stream is owed at most once, only by its owner, and while it is
owed the other side holds no record; each record's window is within the receive
window; a sender's credit with its data in flight and the credit granted to it in
flight fit the receiver's window; and a side's handles have written at most
`DEFAULT_CREDIT` and the credit it received, less its credit. -/
structure Inv (L : Link) : Prop where
  mode : ∀ i, (L.engine i).mode = i.mode
  reach : ∀ i, (L.engine i).Reachable
  window : ∀ i s, WindowOk s (L.engine i)
  fresh : ∀ s, (L.engine (Side.owner s)).nextId.toNat ≤ s.val.toNat → L.Fresh s
  synOne : ∀ s, L.synAhead s ≤ 1
  acceptor : ∀ s, total (Frame.synFor s) (L.flight (Side.owner s).other) +
    flagOf (L.record (Side.owner s).other s) = 0
  ahead : ∀ s, L.synAhead s = 1 → L.record (Side.owner s).other s = none
  fc : ∀ i s W, L.win i.other s = some W → L.vcredit i s + L.data i s + L.grant i.other s ≤ W
  sent : ∀ i s, L.vcredit i s + (L.written i s).length ≤ defaultCredit.toNat + L.granted i s

end Link

/-- Only an open of the engine's own puts a second `SYN` on its way. -/
theorem Trans.syn_le {a a' : Active} {fin E : List Frame} (ht : Trans s a a' fin E) :
    total (Frame.synFor s) E + Link.flagOf (a'.streams.lookup s) ≤ Link.flagOf (a.streams.lookup s) ∨
      fin = [] ∧ s = ⟨a.nextId⟩ ∧ a.streams.lookup s = none ∧ a'.streams.lookup s ≠ none := by
  rcases ht with ⟨h1, h2, -, -, h5⟩ | ⟨h1, h2, -, -, -, h6⟩ | ⟨h1, h2, -, -, h5⟩ |
    ⟨h1, h2, -, -, -, ⟨-, h6⟩ | ⟨hf, hs, -⟩⟩
  · left; simp [h1, h2, h5, Link.flagOf]
  · left; simpa [h1, h2, Link.flagOf] using h6
  · left; simp [h1, h2, h5, Link.flagOf]
  · left; simp [h1, h2, Link.flagOf, h6]
  · right; exact ⟨hf, hs, h1, by simp [h2]⟩

namespace Move

variable {k : Side} {fin E : List Frame}

/-- The move opens a record of `s` at `k` by an open of `k`'s own. -/
def Opens (L L' : Link) (k : Side) (fin : List Frame) (s : StreamId) : Prop :=
  fin = [] ∧ L.record k s = none ∧ L'.record k s ≠ none

theorem record_other (hm : Move s L L' k fin E) : L'.record k.other s = L.record k.other s := by
  simp [Link.record, hm.other]

theorem total_self (hm : Move s L L' k fin E) (g : Frame → Nat) :
    total g (L'.flight k) = total g (L.flight k) + total g E := by
  simp only [Link.flight, total_append, hm.wire, hm.law.out g]; omega

theorem total_peer (hm : Move s L L' k fin E) (g : Frame → Nat) :
    total g (L.flight k.other) = total g fin + total g (L'.flight k.other) := by
  rw [hm.peer, total_append]

/-- Outside an open of `k`'s own, the `SYN`s of `s` ahead never grow. -/
theorem synAhead_le (hm : Move s L L' k fin E) (hno : ¬Opens L L' k fin s) :
    L'.synAhead s ≤ L.synAhead s := by
  unfold Link.synAhead
  rcases Side.eq_or_eq_other (Side.owner s) k with ho | ho <;> rw [ho]
  · rcases hm.law.trans.syn_le with h | ⟨hf, -, h1, h2⟩
    · rw [hm.total_self]; simp only [Link.record] at h ⊢; omega
    · exact absurd ⟨hf, h1, h2⟩ hno
  · rw [hm.record_other, hm.total_peer (Frame.synFor s)]; omega

theorem ahead_of_ahead (hI : L.Inv) (hm : Move s L L' k fin E) (hno : ¬Opens L L' k fin s) {x : Side}
    (h : L'.Ahead x s) : L.Ahead x s :=
  ⟨h.1, by have := hm.synAhead_le hno; have := hI.synOne s; have := h.2; omega⟩

/-- A `SYN` taken in was on its way to `k`. -/
theorem ahead_of_syn (hI : L.Inv) (hm : Move s L L' k fin E) (h : 0 < total (Frame.synFor s) fin) :
    L.Ahead k s := by
  have hp := hm.total_peer (Frame.synFor s)
  have hk : k ≠ Side.owner s := by
    rintro rfl; have := hI.acceptor s; omega
  refine ⟨hk, le_antisymm (hI.synOne s) ?_⟩
  rcases Side.eq_or_eq_other (Side.owner s) k with ho | ho
  · exact absurd ho.symm hk
  · unfold Link.synAhead; rw [ho]; omega

end Move

namespace Link.Inv

variable {L : Link} {x : Side}

theorem not_ahead_of_record (hI : L.Inv) {r : Stream} (h : L.record x s = some r) : ¬L.Ahead x s := by
  rintro ⟨hx, h1⟩
  rcases Side.eq_or_eq_other x (Side.owner s) with rfl | rfl
  · exact hx rfl
  · rw [hI.ahead s h1] at h; cases h

/-- A stream with a record somewhere has an allocated id. -/
theorem allocated (hI : L.Inv) (h : L.record x s ≠ none) :
    s.val.toNat < (L.engine (Side.owner s)).nextId.toNat :=
  Nat.lt_of_not_le fun hle => h ((hI.fresh s hle).record x)

end Link.Inv

namespace Move

variable {k : Side} {fin E : List Frame}

/-- A record that appears at `k` other than by an open of `k`'s own was awaited. -/
theorem opened_ahead (hI : L.Inv) (hm : Move s L L' k fin E) (hno : ¬Opens L L' k fin s)
    (h1 : L.record k s = none) (h2 : L'.record k s ≠ none) : L.Ahead k s := by
  rcases hm.law.trans with ⟨-, h2', -⟩ | ⟨h1', -⟩ | ⟨h1', -⟩ | ⟨-, -, -, -, -, ⟨h6, -⟩ | ⟨hf, -, -⟩⟩
  · exact absurd h2' h2
  · exact absurd (h1.symm.trans h1') (by simp)
  · exact absurd (h1.symm.trans h1') (by simp)
  · exact hm.ahead_of_syn hI h6
  · exact absurd ⟨hf, h1, h2⟩ hno

/-- Outside an open of `k`'s own, the other side's credit never grows. -/
theorem vcredit_other_le (hI : L.Inv) (hm : Move s L L' k fin E) (hno : ¬Opens L L' k fin s) :
    L'.vcredit k.other s ≤ L.vcredit k.other s := by
  cases h : L.record k.other s with
  | some r => rw [Link.vcredit_of_some h, Link.vcredit_of_some (hm.record_other.trans h)]
  | none =>
    rw [Link.vcredit_of_none h, Link.vcredit_of_none (hm.record_other.trans h)]
    split_ifs with h1 h2 <;> first | omega | exact absurd (hm.ahead_of_ahead hI hno h1) h2

/-- Outside an open of `k`'s own, the other side's window stays. -/
theorem win_other (hI : L.Inv) (hm : Move s L L' k fin E) (hno : ¬Opens L L' k fin s) {W : Nat}
    (hW : L'.win k.other s = some W) : L.win k.other s = some W := by
  cases h : L.record k.other s with
  | some r => rwa [Link.win_of_some (hm.record_other.trans h), ← Link.win_of_some h] at hW
  | none =>
    rw [Link.win_of_none (hm.record_other.trans h)] at hW
    split_ifs at hW with h1
    rw [Link.win_of_none h, if_pos (hm.ahead_of_ahead hI hno h1), hW]

/-- **The sender's side of a move**: its credit grows by at most the credit taken in, less
the data it emits. -/
theorem vcredit_self (hI : L.Inv) (hm : Move s L L' k fin E) (hno : ¬Opens L L' k fin s) :
    L'.vcredit k s + total (Frame.dataFor s) E ≤ L.vcredit k s + total (Frame.creditFor s) fin := by
  rcases hm.law.trans with ⟨h1, h2, h3, -, -⟩ | ⟨h1, h2, h3, -, -, -⟩ | ⟨h1, h2, h3, -, -⟩ |
    ⟨h1, h2, h3, -, -, ⟨h6, -⟩ | ⟨hf, -, -⟩⟩
  · change L.record k s = none at h1; change L'.record k s = none at h2
    rw [Link.vcredit_of_none h1, Link.vcredit_of_none h2, h3]
    split_ifs with h4 h5 <;> first | omega | exact absurd (hm.ahead_of_ahead hI hno h4) h5
  · rw [Link.vcredit_of_some h1, Link.vcredit_of_some h2]; exact h3
  · change L'.record k s = none at h2
    rw [Link.vcredit_of_none h2, if_neg fun h => hI.not_ahead_of_record h1 (hm.ahead_of_ahead hI hno h), h3]
    omega
  · change L.record k s = none at h1
    rw [Link.vcredit_of_none h1, if_pos (hm.ahead_of_syn hI h6), Link.vcredit_of_some h2]; exact h3
  · exact absurd ⟨hf, h1, by simp [Link.record, h2]⟩ hno

/-- **The receiver's side of a move**: its window shrinks by at most the data taken in,
and grows by the credit it grants. -/
theorem win_self (hI : L.Inv) (hm : Move s L L' k fin E) (hno : ¬Opens L L' k fin s) {W' : Nat}
    (hW : L'.win k s = some W') :
    ∃ W, L.win k s = some W ∧ W + total (Frame.creditFor s) E ≤ W' + total (Frame.dataFor s) fin := by
  rcases hm.law.trans with ⟨h1, h2, -, h4, -⟩ | ⟨h1, h2, -, h4, -, -⟩ | ⟨h1, h2, -, -, -⟩ |
    ⟨h1, h2, -, h4, -, ⟨h6, -⟩ | ⟨hf, -, -⟩⟩
  · change L.record k s = none at h1; change L'.record k s = none at h2
    rw [Link.win_of_none h2] at hW
    split_ifs at hW with h5
    cases hW
    exact ⟨_, by rw [Link.win_of_none h1, if_pos (hm.ahead_of_ahead hI hno h5)], by omega⟩
  · rw [Link.win_of_some h2] at hW; cases hW
    exact ⟨_, Link.win_of_some h1, h4⟩
  · change L'.record k s = none at h2
    rw [Link.win_of_none h2, if_neg fun h => hI.not_ahead_of_record h1 (hm.ahead_of_ahead hI hno h)] at hW
    cases hW
  · change L.record k s = none at h1
    rw [Link.win_of_some h2] at hW; cases hW
    exact ⟨_, by rw [Link.win_of_none h1, if_pos (hm.ahead_of_syn hI h6)], h4⟩
  · exact absurd ⟨hf, h1, by simp [Link.record, h2]⟩ hno

/-- An id opened from fresh is the engine's `next_id`. -/
theorem opens_of_fresh (hm : Move s L L' k fin E) (hF : L.Fresh s) (h : L'.record k s ≠ none) :
    s = ⟨(L.engine k).nextId⟩ := by
  have hp := hm.total_peer (Frame.synFor s)
  have hy := hF.syn k.other
  have hk : (L.engine k).streams.lookup s = none := hF.record k
  rcases hm.law.trans with ⟨-, h2, -⟩ | ⟨h1, -⟩ | ⟨h1, -⟩ | ⟨-, -, -, -, -, ⟨h6, -⟩ | ⟨-, hs, -⟩⟩
  · exact absurd h2 h
  · rw [hk] at h1; cases h1
  · rw [hk] at h1; cases h1
  · omega
  · exact hs

/-- A move that leaves a fresh id without a record at `k` leaves it fresh. -/
theorem fresh (hm : Move s L L' k fin E) (hF : L.Fresh s) (h : L'.record k s = none) : L'.Fresh s := by
  have hq : total (Frame.dataFor s) E = 0 ∧ total (Frame.creditFor s) E = 0 ∧ total (Frame.synFor s) E = 0 := by
    have hk : (L.engine k).streams.lookup s = none := hF.record k
    have hk' : (L'.engine k).streams.lookup s = none := h
    rcases hm.law.trans with ⟨-, -, h3, h4, h5⟩ | ⟨h1, -⟩ | ⟨h1, -⟩ | ⟨-, h2, -⟩
    · exact ⟨h3, h4, h5⟩
    · rw [hk] at h1; cases h1
    · rw [hk] at h1; cases h1
    · rw [hk'] at h2; cases h2
  have hpay : payload s E = [] := by rw [← List.length_eq_zero, ← total_dataFor]; exact hq.1
  have key : ∀ g, total g (L.flight k) = 0 → total g (L.flight k.other) = 0 → total g E = 0 →
      ∀ x, total g (L'.flight x) = 0 := fun g h1 h2 h3 x => by
    have := hm.total_peer g
    rcases Side.eq_or_eq_other x k with rfl | rfl
    · rw [hm.total_self]; omega
    · omega
  refine ⟨fun x => ?_, key _ (hF.data k) (hF.data k.other) hq.1, key _ (hF.grant k) (hF.grant k.other) hq.2.1,
    key _ (hF.syn k) (hF.syn k.other) hq.2.2, fun x => ?_⟩
  · rcases Side.eq_or_eq_other x k with rfl | rfl
    · exact h
    · rw [hm.record_other]; exact hF.record _
  · rcases Side.eq_or_eq_other x k with rfl | rfl
    · rw [hm.written, hF.written, hpay]; rfl
    · rw [hm.writtenOther]; exact hF.written _

/-- **An open of `k`'s own**: `k` owns the id, which was fresh, and the record it creates
starts from `DEFAULT_CREDIT` and owes the one `SYN` of the stream. -/
theorem opens_cases (hI : L.Inv) (hm : Move s L L' k fin E) (ho : Opens L L' k fin s) :
    k = Side.owner s ∧ L.Fresh s ∧ ∃ r', L'.record k s = some r' ∧
      r'.credit + total (Frame.dataFor s) E ≤ defaultCredit.toNat ∧
      defaultCredit.toNat + total (Frame.creditFor s) E ≤ r'.window ∧
      total (Frame.synFor s) E + r'.synFlag = 1 := by
  obtain ⟨rfl, h1, h2⟩ := ho
  have hk : (L.engine k).streams.lookup s = none := h1
  rcases hm.law.trans with ⟨-, h2', -⟩ | ⟨h1', -⟩ | ⟨h1', -⟩ | ⟨-, h2', h3, h4, -, ⟨h6, -⟩ | ⟨-, hs, h6⟩⟩
  · exact absurd h2' h2
  · rw [hk] at h1'; cases h1'
  · rw [hk] at h1'; cases h1'
  · simp at h6
  · have hk : k = Side.owner s := by
      rw [← Side.isLocal_iff, ← hI.mode k, hs]; exact (hI.reach k).idsOk.parity
    refine ⟨hk, hI.fresh s (by rw [← hk, hs]), _, h2', by simpa using h3, by simpa using h4, h6⟩

theorem synAhead_opens (hI : L.Inv) (hm : Move s L L' k fin E) (ho : Opens L L' k fin s) :
    L'.synAhead s = 1 := by
  obtain ⟨hk, hF, r', h2, -, -, h5⟩ := hm.opens_cases hI ho
  unfold Link.synAhead
  rw [← hk, hm.total_self, hF.syn k, h2]
  simpa [Link.flagOf] using h5

theorem window (hI : L.Inv) (hm : Move s L L' k fin E) (i : Side) : WindowOk s (L'.engine i) := by
  rcases Side.eq_or_eq_other i k with rfl | rfl
  · exact hm.law.trans.windowOk hm.config
  · rw [hm.other]; exact hI.window _ s

theorem synOne (hI : L.Inv) (hm : Move s L L' k fin E) : L'.synAhead s ≤ 1 := by
  by_cases ho : Opens L L' k fin s
  · exact (hm.synAhead_opens hI ho).le
  · exact (hm.synAhead_le ho).trans (hI.synOne s)

theorem acceptor (hI : L.Inv) (hm : Move s L L' k fin E) :
    total (Frame.synFor s) (L'.flight (Side.owner s).other) + Link.flagOf (L'.record (Side.owner s).other s) = 0 := by
  have h0 := hI.acceptor s
  rcases Side.eq_or_eq_other (Side.owner s).other k with hk | hk <;> rw [hk] at h0 ⊢
  · rw [hm.total_self]
    rcases hm.law.trans.syn_le with h | ⟨hf, -, h1, h2⟩
    · simp only [Link.record] at h0 ⊢; omega
    · have := (hm.opens_cases hI ⟨hf, h1, h2⟩).1
      rw [← hk] at this; exact absurd this (Side.other_ne _)
  · rw [hm.record_other]; have := hm.total_peer (Frame.synFor s); omega

theorem ahead (hI : L.Inv) (hm : Move s L L' k fin E) (h1 : L'.synAhead s = 1) :
    L'.record (Side.owner s).other s = none := by
  by_cases ho : Opens L L' k fin s
  · obtain ⟨hk, hF, -⟩ := hm.opens_cases hI ho
    rw [← hk, hm.record_other]; exact hF.record _
  have h0 : L.synAhead s = 1 := le_antisymm (hI.synOne s) (h1 ▸ hm.synAhead_le ho)
  have hp := hI.ahead s h0
  rcases Side.eq_or_eq_other (Side.owner s).other k with hk | hk <;> rw [hk] at hp ⊢
  · have hk' : (L.engine k).streams.lookup s = none := hp
    rcases hm.law.trans with ⟨-, h2, -⟩ | ⟨h1', -⟩ | ⟨h1', -⟩ | ⟨-, h2, -, -, -, ⟨h6, -⟩ | ⟨hf, -, -⟩⟩
    · exact h2
    · rw [hk'] at h1'; cases h1'
    · rw [hk'] at h1'; cases h1'
    · have ho' : Side.owner s = k.other := by rw [← hk, Side.other_other]
      have := hm.total_peer (Frame.synFor s)
      unfold Link.synAhead at h0 h1
      rw [ho', hm.record_other] at h1
      rw [ho'] at h0
      omega
    · exact absurd ⟨hf, hp, by simp [Link.record, h2]⟩ ho
  · rw [hm.record_other]; exact hp

theorem data_self (hm : Move s L L' k fin E) : L'.data k s = L.data k s + total (Frame.dataFor s) E :=
  hm.total_self _

theorem data_peer (hm : Move s L L' k fin E) :
    L.data k.other s = total (Frame.dataFor s) fin + L'.data k.other s :=
  hm.total_peer _

theorem grant_self (hm : Move s L L' k fin E) : L'.grant k s = L.grant k s + total (Frame.creditFor s) E :=
  hm.total_self _

theorem grant_peer (hm : Move s L L' k fin E) :
    L.grant k.other s = total (Frame.creditFor s) fin + L'.grant k.other s :=
  hm.total_peer _

/-- **A move keeps the sender within the receiver's window**, in both directions. -/
theorem fc (hI : L.Inv) (hm : Move s L L' k fin E) (i : Side) {W : Nat} (hW : L'.win i.other s = some W) :
    L'.vcredit i s + L'.data i s + L'.grant i.other s ≤ W := by
  by_cases ho : Opens L L' k fin s
  · obtain ⟨hk, hF, r', h2, h3, h4, -⟩ := hm.opens_cases hI ho
    have hA : ∀ x, x ≠ k → L'.Ahead x s := fun x hx => ⟨hk ▸ hx, hm.synAhead_opens hI ho⟩
    have hf : fin = [] := ho.1
    subst hf
    rcases Side.eq_or_eq_other i k with rfl | rfl
    · rw [Link.win_of_none (hm.record_other.trans (hF.record _)), if_pos (hA _ (Side.other_ne i))] at hW
      cases hW
      have := hm.grant_peer; have := hm.data_self; have := hF.data i; have := hF.grant i.other
      rw [Link.vcredit_of_some h2]; simp only [total_nil] at *; omega
    · rw [Side.other_other, Link.win_of_some h2] at hW; cases hW
      rw [Link.vcredit_of_none (hm.record_other.trans (hF.record _)), if_pos (hA _ (Side.other_ne k)),
        Side.other_other, hm.grant_self]
      have := hm.data_peer; have := hF.data k.other; have := hF.grant k
      simp only [total_nil] at *; omega
  · rcases Side.eq_or_eq_other i k with rfl | rfl
    · have := hI.fc i s W (hm.win_other hI ho hW)
      have := hm.vcredit_self hI ho; have := hm.data_self; have := hm.grant_peer
      omega
    · rw [Side.other_other] at hW ⊢
      obtain ⟨W₀, hW₀, hle⟩ := hm.win_self hI ho hW
      have := hI.fc k.other s W₀ (by rwa [Side.other_other])
      have := hm.vcredit_other_le hI ho; have := hm.data_peer; have := hm.grant_self
      simp only [Side.other_other] at *
      omega

/-- A move keeps every side's writes within `DEFAULT_CREDIT` and the credit it received. -/
theorem sent (hI : L.Inv) (hm : Move s L L' k fin E) (i : Side) :
    L'.vcredit i s + (L'.written i s).length ≤ defaultCredit.toNat + L'.granted i s := by
  have h0 := hI.sent i s
  have hw := hm.written
  have hd : (payload s E).length = total (Frame.dataFor s) E := (total_dataFor s E).symm
  by_cases ho : Opens L L' k fin s
  · obtain ⟨hk, hF, r', h2, h3, -⟩ := hm.opens_cases hI ho
    rcases Side.eq_or_eq_other i k with rfl | rfl
    · rw [Link.vcredit_of_some h2, hw, hF.written, hm.granted]
      simp only [List.nil_append, hd]; omega
    · rw [Link.vcredit_of_none (hm.record_other.trans (hF.record _)), hm.writtenOther, hF.written,
        hm.grantedOther]
      split_ifs <;> simp
  · rcases Side.eq_or_eq_other i k with rfl | rfl
    · have := hm.vcredit_self hI ho
      rw [hw, hm.granted, List.length_append, hd]; omega
    · have := hm.vcredit_other_le hI ho
      rw [hm.writtenOther, hm.grantedOther]; omega

/-- An id at or above the owner's `next_id` after a move is still fresh. -/
theorem fresh_inv (hI : L.Inv) (hm : Move s L L' k fin E) (hi : Active.IdsOk (L'.engine (Side.owner s)))
    (hmode : (L'.engine (Side.owner s)).mode = (Side.owner s).mode)
    (hle : (L'.engine (Side.owner s)).nextId.toNat ≤ s.val.toNat) : L'.Fresh s := by
  have hnext : (L.engine (Side.owner s)).nextId.toNat ≤ (L'.engine (Side.owner s)).nextId.toNat := by
    rcases Side.eq_or_eq_other (Side.owner s) k with h | h <;> rw [h]
    · exact hm.nextId
    · rw [hm.other]
  have hF := hI.fresh s (hnext.trans hle)
  refine hm.fresh hF (by_contra fun hne => ?_)
  have hs := hm.opens_of_fresh hF hne
  have hk : k = Side.owner s := by
    rw [← Side.isLocal_iff, ← hI.mode k, hs]; exact (hI.reach k).idsOk.parity
  subst hk
  have hmem : s ∈ (L'.engine (Side.owner s)).streams := by
    rw [← AList.lookup_isSome]; exact Option.ne_none_iff_isSome.1 hne
  have := hi.above s hmem (by rw [hmode, Side.isLocal_iff])
  omega

end Move

namespace Sends

variable {i : Side}

theorem record (hS : Sends L L') : L'.record i s = L.record i s := by simp [Link.record, hS.streams]

theorem synAhead (hS : Sends L L') : L'.synAhead s = L.synAhead s := by simp [Link.synAhead, hS.record, hS.flight]

theorem vcredit (hS : Sends L L') : L'.vcredit i s = L.vcredit i s := by simp [Link.vcredit, Link.Ahead, hS.record, hS.synAhead]

theorem win (hS : Sends L L') : L'.win i s = L.win i s := by simp [Link.win, Link.Ahead, hS.record, hS.synAhead]

theorem data (hS : Sends L L') : L'.data i s = L.data i s := by simp [Link.data, hS.flight]

theorem grant (hS : Sends L L') : L'.grant i s = L.grant i s := by simp [Link.grant, hS.flight]

/-- A write to the socket keeps the invariant. -/
theorem inv (hS : Sends L L') (hI : L.Inv) (hmode : ∀ i, (L'.engine i).mode = i.mode) (hreach : ∀ i, (L'.engine i).Reachable) :
    L'.Inv := by
  refine ⟨hmode, hreach, fun i s r h => ?_, fun s hle => ?_, fun s => ?_, fun s => ?_, fun s h => ?_,
    fun i s W h => ?_, fun i s => ?_⟩
  · rw [hS.config]; exact hI.window i s r (by rwa [hS.streams] at h)
  · have hF := hI.fresh s (by rwa [hS.nextId] at hle)
    exact ⟨fun i => by rw [hS.record]; exact hF.record i, fun i => by rw [hS.data]; exact hF.data i,
      fun i => by rw [hS.grant]; exact hF.grant i, fun i => by rw [hS.flight]; exact hF.syn i,
      fun i => by rw [hS.written]; exact hF.written i⟩
  · rw [hS.synAhead]; exact hI.synOne s
  · rw [hS.flight, hS.record]; exact hI.acceptor s
  · rw [hS.record]; exact hI.ahead s (by rwa [hS.synAhead] at h)
  · rw [hS.vcredit, hS.data, hS.grant]; exact hI.fc i s W (by rwa [hS.win] at h)
  · rw [hS.vcredit, hS.written, hS.granted]; exact hI.sent i s

end Sends

namespace Link

theorem run_mode {a a' : Active} (h : ReflTransGen Active.Step a a') : a'.mode = a.mode := by
  induction h with
  | refl => rfl
  | tail _ hs ih => exact hs.mode.trans ih

/-- **A step keeps the flow-control invariant.** -/
theorem Inv.step (hI : L.Inv) (hs : Step L L') : L'.Inv := by
  have hmode : ∀ i, (L'.engine i).mode = i.mode := fun i => (run_mode (hs.engine i)).trans (hI.mode i)
  have hreach : ∀ i, (L'.engine i).Reachable := fun i => (hI.reach i).run (hs.engine i)
  rcases hs.move hI.window (fun i => (hI.reach i).idsOk) with hS | ⟨k, fin, hm⟩
  · exact hS.inv hI hmode hreach
  refine ⟨hmode, hreach, fun i s => ?_, fun s hle => ?_, fun s => ?_, fun s => ?_, fun s h => ?_,
    fun i s W h => ?_, fun i s => ?_⟩ <;> obtain ⟨E, hm⟩ := hm s
  · exact hm.window hI i
  · exact hm.fresh_inv hI (hreach _).idsOk (hmode _) hle
  · exact hm.synOne hI
  · exact hm.acceptor hI
  · exact hm.ahead hI h
  · exact hm.fc hI i h
  · exact hm.sent hI i

/-- A fresh link: nothing opened, nothing in flight. -/
theorem fresh_new (cl cr : Config) (s : StreamId) : (Link.new cl cr).Fresh s := by
  refine ⟨fun i => ?_, fun i => ?_, fun i => ?_, fun i => ?_, fun i => rfl⟩ <;> cases i <;> rfl

theorem Inv.new (cl cr : Config) : (Link.new cl cr).Inv := by
  have hF := fresh_new cl cr
  have h0 : ∀ s, (Link.new cl cr).synAhead s = 0 := fun s => by
    simp [synAhead, (hF s).syn, (hF s).record, flagOf]
  have hA : ∀ x s, ¬(Link.new cl cr).Ahead x s := fun x s h => by
    have := h.2; rw [h0] at this; cases this
  refine ⟨fun i => ?_, fun i => ?_, fun i s r h => ?_, fun s _ => hF s, fun s => (h0 s).trans_le (by decide),
    fun s => ?_, fun s h => absurd ((h0 s).symm.trans h) (by decide), fun i s W h => ?_, fun i s => ?_⟩
  · cases i <;> rfl
  · cases i <;> exact Active.reachable_new _ _ _
  · have h' : ((Link.new cl cr).engine i).streams.lookup s = none := (hF s).record i
    rw [h'] at h; cases h
  · simp [(hF s).syn, (hF s).record, flagOf]
  · rw [win_of_none ((hF s).record _), if_neg (hA _ _)] at h; cases h
  · rw [vcredit_of_none ((hF s).record _), if_neg (hA _ _), (hF s).written]
    simp

/-- The flow-control invariant holds of every reachable link. -/
theorem Reachable.inv (h : L.Reachable) : L.Inv := by
  obtain ⟨cl, cr, h⟩ := h
  induction h with
  | refl => exact Inv.new cl cr
  | tail _ hs ih => exact ih.step hs

end Link

namespace Active

variable {a : Active} {f : Frame}

theorem isValidRemoteId_data {id : StreamId} (h : a.mode.isLocal id = false) :
    a.isValidRemoteId id .data = true := by
  have ht : ¬(Tag.data = .ping ∨ Tag.data = .goAway) := by decide
  unfold isValidRemoteId
  rw [if_neg ht]
  cases hm : a.mode <;> rw [hm] at h <;> simp only [Mode.isLocal, Bool.eq_false_iff, ne_eq] at h ⊢
  · rw [StreamId.isServer_iff]; rw [StreamId.isClient_iff] at h; omega
  · rw [StreamId.isClient_iff]; rw [StreamId.isServer_iff] at h; omega

/-- **When `on_data` reports a protocol error**: a `SYN` from an id of the wrong
parity, larger than `DEFAULT_CREDIT` or already in the table, or a frame of a known
stream larger than its window. -/
theorem onData_protocolError (h : (a.onData f).1 = .terminate Frame.protocolError) :
    f.header.flags.syn = true ∧ (a.isValidRemoteId f.header.streamId .data = false ∨
      defaultCredit.toNat < f.body.length ∨ f.header.streamId ∈ a.streams) ∨
    f.header.flags.syn = false ∧ ∃ r, a.streams.lookup f.header.streamId = some r ∧
      r.shared.window.toNat < f.body.length := by
  rcases onData_arms (a := a) f with ⟨-, e⟩ | ⟨-, hsyn, hbad, -⟩ | ⟨-, -, -, -, -, ⟨-, e⟩ | ⟨-, e⟩⟩ |
    ⟨-, hsyn, r, hr, e⟩ | ⟨-, -, -, e⟩
  · rw [e] at h; cases h
  · exact .inl ⟨hsyn, hbad⟩
  · rw [e] at h; simp [Frame.internalError, Frame.protocolError, Frame.new, Header.goAway] at h
  · obtain ⟨_, _, -, he, -⟩ := onDataSyn_eq (a := a) f
    rw [e, he] at h; cases h
  · refine .inr ⟨hsyn, r, hr, ?_⟩
    rcases onDataKnown_cases (a := a) f r with ⟨hlt, -⟩ | ⟨-, -, e'⟩ | ⟨-, -, _, _, e', -, -, -, ⟨rfl, -⟩ | ⟨_, rfl, -⟩⟩
    · exact hlt
    all_goals rw [e, e'] at h; cases h
  · rw [e] at h; cases h

end Active

namespace Link

theorem total_head {L : Link} {i : Side} {f : Frame} {fs : List Frame} (h : L.wire i = f :: fs)
    (g : Frame → Nat) : g f ≤ total g (L.flight i) := by
  simp [flight, h]

/-- The data frame at the head of a wire is never answered with a protocol error: a `SYN`
on it was owed by the sender, who owns the id, and the receiver's window covers it. -/
theorem Inv.onData_ne_protocolError {L : Link} (hI : L.Inv) {i : Side} {f : Frame} {fs : List Frame}
    (hw : L.wire i = f :: fs) (htag : f.header.tag = .data) :
    ((L.engine i.other).onData f).1 ≠ .terminate Frame.protocolError := by
  intro hp
  obtain ⟨⟨tag, fl, t, len⟩, body⟩ := f
  dsimp only at htag
  subst htag
  have hd : body.length ≤ L.data i t := by simpa [Frame.dataFor] using total_head hw (Frame.dataFor t)
  have hfc := hI.fc i t
  rcases Active.onData_protocolError hp with ⟨hsyn, hc⟩ | ⟨-, r, hr, hlt⟩
  · have hy := total_head hw (Frame.synFor t)
    simp only [Frame.synFor] at hsyn hy
    simp only [hsyn, true_or, and_self, if_true] at hy
    have hi : i = Side.owner t := by
      rcases Side.eq_or_eq_other i (Side.owner t) with h | h
      · exact h
      · have := hI.acceptor t; rw [← h] at this; omega
    have h1 : L.synAhead t = 1 := le_antisymm (hI.synOne t) (by unfold synAhead; rw [← hi]; omega)
    have hnone : L.record i.other t = none := by rw [hi]; exact hI.ahead t h1
    have hA : L.Ahead i.other t := ⟨by rw [hi]; exact Side.other_ne _, h1⟩
    rcases hc with hc | hc | hc
    · have hloc : (L.engine i.other).mode.isLocal t = false := by
        rw [hI.mode, Bool.eq_false_iff, ne_eq, Side.isLocal_iff, hi]; exact Side.other_ne _
      rw [Active.isValidRemoteId_data hloc] at hc; cases hc
    · have := hfc _ (by rw [win_of_none hnone, if_pos hA])
      dsimp only at hc; omega
    · exact absurd hnone (by simpa [record, AList.lookup_eq_none] using hc)
  · have := hfc _ (win_of_some hr)
    dsimp only [Stream.window] at this hlt; omega

/-- **Flow control between two engines.** In every reachable link, for every side `i`
and stream `s`: the data of `s` that `i` has queued or in flight never exceeds the
window of the other side's record; the handles of `i` never write more on `s` than
`DEFAULT_CREDIT` and the credit `i` has received on `s`; and the other side never
answers a data frame of `i` with a protocol error (a `SYN` it cannot accept, or a
frame larger than the window). -/
theorem flow_within_window {L : Link} (hL : L.Reachable) (i : Side) (s : StreamId) :
    (∀ r, L.record i.other s = some r → L.data i s ≤ r.window) ∧
    (L.written i s).length ≤ defaultCredit.toNat + L.granted i s ∧
    ∀ f fs, L.wire i = f :: fs → f.header.tag = .data →
      ((L.engine i.other).onData f).1 ≠ .terminate Frame.protocolError := by
  have hI := hL.inv
  refine ⟨fun r hr => ?_, (Nat.le_add_left _ _).trans (hI.sent i s), fun f fs hw => hI.onData_ne_protocolError hw⟩
  have := hI.fc i s r.window (win_of_some hr); omega

/-- A client that opens stream 1 and writes three bytes on it: the bytes are taken, and the
bound holds at the link the run reaches. -/
theorem flow_within_window_write :
    let L0 := Link.new Config.default Config.default
    let a1 := ((L0.engine .left).newOutbound.toOption.map Prod.snd).getD (L0.engine .left)
    let a2 := ((a1.write ⟨1⟩ ⟨0⟩ [1, 2, 3]).map Prod.snd).getD a1
    let L1 := L0.setEngine .left a1
    let L2 : Link := { L1.setEngine .left a2 with
      written := Function.update L1.written .left
        (Function.update (L1.written .left) ⟨1⟩ (L1.written .left ⟨1⟩ ++ [1, 2, 3])) }
    L2.written .left ⟨1⟩ = [1, 2, 3] ∧
      (∀ r, L2.record .right ⟨1⟩ = some r → L2.data .left ⟨1⟩ ≤ r.window) ∧
      (L2.written .left ⟨1⟩).length ≤ defaultCredit.toNat + L2.granted .left ⟨1⟩ ∧
      ∀ f fs, L2.wire .left = f :: fs → f.header.tag = .data →
        ((L2.engine .right).onData f).1 ≠ .terminate Frame.protocolError := by
  have h2 : ∃ b, ((((Link.new Config.default Config.default).engine .left).newOutbound.toOption.map
      Prod.snd).getD ((Link.new Config.default Config.default).engine .left)).write ⟨1⟩ ⟨0⟩
      [1, 2, 3] = some (.ready (.ok 3), b) := ⟨_, rfl⟩
  intro L0 a1 a2 L1 L2
  obtain ⟨r1, h1⟩ : ∃ r, (L0.engine .left).newOutbound = .ok (r, a1) := ⟨_, rfl⟩
  obtain ⟨b, h2⟩ := h2
  have h2' : (L1.engine .left).write ⟨1⟩ ⟨0⟩ [1, 2, 3] = some (.ready (.ok 3), a2) := by
    rw [setEngine_self]
    show _ = some (_, ((a1.write ⟨1⟩ ⟨0⟩ [1, 2, 3]).map Prod.snd).getD a1)
    rw [h2]; rfl
  exact ⟨rfl, flow_within_window
    ⟨_, _, .tail (.tail .refl (Step.local (.newOutbound h1))) (Step.write h2')⟩ .left ⟨1⟩⟩

end Link

end Yamux
