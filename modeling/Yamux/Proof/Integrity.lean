import Yamux.Proof.Bytes
import Yamux.Proof.Flow

/-!
# What a stream delivers

Two engines joined by a `Link`, as in `Flow`. What side `j` has taken in on a stream `s`
is what its reader consumed, then what its record still buffers (`delivered`): the bodies
`on_data` appended to the buffer, in order.

* `Intact.step`: while the receiver has answered no data frame of `s` with the reset of
  its buffer limit, the bytes it took in, followed by the data of `s` in flight toward
  it, are exactly what the sender's handles wrote; once it is `RecvClosed` nothing of `s`
  is in flight. The proof follows the order of frames on the way: no byte before the
  `SYN` that opens the stream (`SynLed`), none after a `FIN` (`FinClear`), unless the
  `FIN` is the one `garbage_collect` puts ahead of commands still queued, which it only
  sends once the receiver writes no more (`Shut`). Each step is read through the laws of
  `Bytes` and the moves of `Flow` (`Shift`), never by unfolding an operation.
* `delivered_prefix`: so in every reachable link the bytes a side took in on `s` are a
  prefix of what the other side wrote, and all of it once its record is `RecvClosed`, as
  long as it never dropped a frame of `s` at its buffer limit.
* `delivered_gap`: the proviso is needed. A server with a buffer limit of one byte
  buffers the first of three writes, drops the second with a reset and leaves its record
  `Open`, and, once its reader has taken the first, buffers the third, which was already
  on its way. Its reader gets `1, 3` of `1, 2, 3`, and nothing on its side tells it a
  byte is missing.
-/

namespace Yamux

namespace Link

/-- The bytes side `j` has taken in on `s`: what its reader consumed, then what its
record buffers. -/
def delivered (L : Link) (j : Side) (s : StreamId) : List UInt8 :=
  L.consumed j s ++ ((L.record j s).map Stream.bytes).getD []

variable (L : Link) (i : Side) (s : StreamId)

/-- Side `i` sends no more on `s`: its record has closed its local half, or it holds none
and never will, the id being allocated and no `SYN` of it on its way to `i`. -/
def Shut : Prop :=
  (∀ r, L.record i s = some r → r.shared.state.SendShut) ∧ ¬L.Ahead i s ∧
    s.val.toNat < (L.engine (Side.owner s)).nextId.toNat

/-- **The integrity invariant of a link** for stream `s`, each side `i` sending to the
other. While the receiver has answered no data frame of `s` with the reset of its buffer
limit, what its reader consumed, what its record buffers and the data of `s` in flight
from `i` are, in order, what the handles of `i` wrote; while the receiver awaits the
`SYN` it has consumed nothing; and what it consumed is always a prefix of what `i` wrote.
No byte in flight precedes the `SYN` still owed, and none follows a `FIN` unless the
receiver sends no more. A `FIN` in flight, or a receiver in `RecvClosed`, means `i` sends
no more, and in the latter case nothing is in flight. No reset carries data, and nothing
of an id not yet allocated has been consumed. -/
structure Intact : Prop where
  bytes : ∀ i r, L.overflowed i.other s = false → L.record i.other s = some r →
    L.consumed i.other s ++ r.bytes ++ payload s (L.flight i) = L.written i s
  ahead : ∀ i, L.overflowed i.other s = false → L.Ahead i.other s →
    L.consumed i.other s = [] ∧ payload s (L.flight i) = L.written i s
  consumed : ∀ i, L.overflowed i.other s = false → L.consumed i.other s <+: L.written i s
  synLed : ∀ i, L.Ahead i.other s → SynLed s (L.flight i)
  finShut : ∀ i, 0 < total (Frame.finFor s) (L.flight i) → L.Shut i s
  recvClosed : ∀ i r, L.record i.other s = some r → r.shared.state = .recvClosed →
    payload s (L.flight i) = [] ∧ L.Shut i s
  finClear : ∀ i, ¬L.Shut i.other s → FinClear s (L.flight i)
  rst : ∀ i, ∀ g ∈ L.flight i, g.payloadFor s ≠ [] → g.header.flags.rst = false
  unopened : (L.engine (Side.owner s)).nextId.toNat ≤ s.val.toNat → ∀ i, L.consumed i s = []

namespace Intact

variable {L s} (hT : L.Intact s)
include hT

/-! The fields of `Intact` seen from the receiving side `j`. -/

theorem bytes' (j : Side) {r : Stream} (ho : L.overflowed j s = false) (hr : L.record j s = some r) :
    L.consumed j s ++ r.bytes ++ payload s (L.flight j.other) = L.written j.other s := by
  simpa using hT.bytes j.other r (by simpa using ho) (by simpa using hr)

theorem ahead' (j : Side) (ho : L.overflowed j s = false) (hA : L.Ahead j s) :
    L.consumed j s = [] ∧ payload s (L.flight j.other) = L.written j.other s := by
  simpa using hT.ahead j.other (by simpa using ho) (by simpa using hA)

theorem consumed' (j : Side) (ho : L.overflowed j s = false) : L.consumed j s <+: L.written j.other s := by
  simpa using hT.consumed j.other (by simpa using ho)

theorem synLed' (j : Side) (hA : L.Ahead j s) : SynLed s (L.flight j.other) := by
  simpa using hT.synLed j.other (by simpa using hA)

theorem recvClosed' (j : Side) {r : Stream} (hr : L.record j s = some r) (hst : r.shared.state = .recvClosed) :
    payload s (L.flight j.other) = [] ∧ L.Shut j.other s := by
  simpa using hT.recvClosed j.other r (by simpa using hr) hst

theorem finClear' (j : Side) (h : ¬L.Shut j s) : FinClear s (L.flight j.other) := by
  simpa using hT.finClear j.other (by simpa using h)

end Intact

end Link

/-- A step at side `k`, seen from the bytes of stream `s`: a `Move` of the accounts, the
frames its engine emits (`Carry`) and what it takes in (`Intake`, with the bytes of a
frame lost only where the ghost notes a reset at the buffer limit); the reader of `k`
consumes what `Intake` hands it, and the other side's ghosts stay. -/
structure Shift (s : StreamId) (L L' : Link) (k : Side) (fin : List Frame) : Prop where
  move : ∃ E, Move s L L' k fin E
  carry : ∃ E, Carry s (L.engine k) (L'.engine k) E
  intake : ∃ taken, Intake s (L.engine k) (L'.engine k) fin (L'.overflowed k s = true) taken ∧
    L'.consumed k s = L.consumed k s ++ taken
  consumedOther : L'.consumed k.other s = L.consumed k.other s
  overflowed : L.overflowed k s = true → L'.overflowed k s = true
  overflowedOther : L'.overflowed k.other s = L.overflowed k.other s

namespace Shift

variable {s : StreamId} {L L' : Link} {k : Side} {fin : List Frame}

/-- **The sender's side of a shift**: the frames `k` emits extend what it has in flight,
and the data among them is what its handles wrote. -/
theorem emits (hs : Shift s L L' k fin) : ∃ E, Carry s (L.engine k) (L'.engine k) E ∧
    Extends s (L.flight k) (L'.flight k) E ∧ L'.written k s = L.written k s ++ payload s E := by
  obtain ⟨Em, hm⟩ := hs.move
  obtain ⟨E, hc⟩ := hs.carry
  refine ⟨E, hc, ?_, ?_⟩
  · unfold Link.flight
    rw [hm.wire]
    rcases hc.shape with h | ⟨⟨P, Q, h1, h2⟩, hp⟩
    · exact .inl (by rw [h, List.append_assoc])
    · exact .inr ⟨⟨L.wire k ++ P, Q, by rw [h1, List.append_assoc], by rw [h2]; simp only [List.append_assoc]⟩, hp⟩
  · rw [hm.written, List.append_cancel_left (hm.law.payload.symm.trans hc.payload_out)]

theorem nextId_owner (hs : Shift s L L' k fin) :
    (L.engine (Side.owner s)).nextId.toNat ≤ (L'.engine (Side.owner s)).nextId.toNat := by
  obtain ⟨E, hm⟩ := hs.move
  rcases Side.eq_or_eq_other (Side.owner s) k with h | h <;> rw [h]
  · exact hm.nextId
  · rw [hm.other]

/-- A side that sends no more on `s` goes on sending nothing. -/
theorem shut (hI : L.Inv) (hs : Shift s L L' k fin) {i : Side} (h : L.Shut i s) : L'.Shut i s := by
  obtain ⟨E, hm⟩ := hs.move
  have hno : ¬Move.Opens L L' k fin s := fun ho => by
    obtain ⟨hk, hF, -⟩ := hm.opens_cases hI ho
    have he := hm.opens_of_fresh hF ho.2.2
    have h3 := h.2.2
    rw [← hk, he] at h3
    exact lt_irrefl _ h3
  refine ⟨fun r' hr' => ?_, fun hA => h.2.1 (hm.ahead_of_ahead hI hno hA), lt_of_lt_of_le h.2.2 hs.nextId_owner⟩
  rcases Side.eq_or_eq_other i k with rfl | rfl
  · obtain ⟨taken, hin, -⟩ := hs.intake
    cases hin with
    | absent _ h2 | removed _ h2 => exact absurd (hr'.symm.trans h2) (by simp)
    | kept h1 h2 hst =>
      obtain rfl := Option.some.inj (hr'.symm.trans h2)
      exact hst.shut (h.1 _ h1)
    | opened h1 h2 => exact absurd (hm.opened_ahead hI hno h1 (by rw [Link.record, h2]; simp)) h.2.1
  · rw [hm.record_other] at hr'; exact h.1 _ hr'

/-- A side still awaiting the `SYN` of `s` after a shift of its own awaited it before,
took in no `SYN` of it, and holds no record. -/
theorem still_ahead (hI : L.Inv) (hI' : L'.Inv) (hs : Shift s L L' k fin) (hA' : L'.Ahead k s) :
    L.Ahead k s ∧ total (Frame.synFor s) fin = 0 ∧ L.record k s = none ∧ L'.record k s = none := by
  obtain ⟨E, hm⟩ := hs.move
  have ho : Side.owner s = k.other := (Side.eq_or_eq_other (Side.owner s) k).resolve_left (Ne.symm hA'.1)
  have h2 : L'.record k s = none := by have := hI'.ahead s hA'.2; rwa [ho, Side.other_other] at this
  have hA := hm.ahead_of_ahead hI (fun hop => absurd h2 hop.2.2) hA'
  refine ⟨hA, ?_, by have := hI.ahead s hA.2; rwa [ho, Side.other_other] at this, h2⟩
  have h1 := hA'.2
  have h0 := hA.2
  unfold Link.synAhead at h1 h0
  rw [ho] at h1 h0
  rw [hm.record_other] at h1
  rw [hm.total_peer] at h0
  omega

/-- A receiver that opens its record of `s` had consumed nothing, and what is in flight
toward it is all the sender wrote. -/
theorem fresh_start (hI : L.Inv) (hT : L.Intact s) (hs : Shift s L L' k fin) (ho : L.overflowed k s = false)
    (h1 : L.record k s = none) (h2 : L'.record k s ≠ none) :
    L.consumed k s = [] ∧ payload s (L.flight k.other) = L.written k.other s := by
  obtain ⟨E, hm⟩ := hs.move
  by_cases hop : Move.Opens L L' k fin s
  · obtain ⟨hk, hF, -⟩ := hm.opens_cases hI hop
    have he := hm.opens_of_fresh hF h2
    refine ⟨hT.unopened ?_ k, by rw [hF.written]; exact payload_nil_of_data (hF.data _)⟩
    rw [← hk, he]
  · exact hT.ahead' k ho (hm.opened_ahead hI hop h1 h2)

/-! Each field of `Intact` across a shift at `k`: as `k` sends (`_send`, the receiver
being `k.other`) and as `k` receives (`_recv`). -/

section Fields

variable (hI : L.Inv) (hT : L.Intact s) (hs : Shift s L L' k fin)
include hT hs

theorem bytes_send {r : Stream} (ho : L'.overflowed k.other s = false) (hr : L'.record k.other s = some r) :
    L'.consumed k.other s ++ r.bytes ++ payload s (L'.flight k) = L'.written k s := by
  obtain ⟨E, -, hx, hw⟩ := hs.emits
  obtain ⟨Em, hm⟩ := hs.move
  rw [hs.consumedOther, hx.payload_eq, hw,
    ← hT.bytes k r (by rwa [hs.overflowedOther] at ho) (by rwa [hm.record_other] at hr)]
  simp only [List.append_assoc]

include hI in
theorem bytes_recv {r : Stream} (ho : L'.overflowed k s = false) (hr : L'.record k s = some r) :
    L'.consumed k s ++ r.bytes ++ payload s (L'.flight k.other) = L'.written k.other s := by
  obtain ⟨E, hm⟩ := hs.move
  obtain ⟨taken, hin, hc⟩ := hs.intake
  have ho0 : L.overflowed k s = false := Bool.eq_false_iff.2 fun h => by rw [hs.overflowed h] at ho; cases ho
  have hl : ¬L'.overflowed k s = true := by simp [ho]
  rw [hc, hm.writtenOther]
  cases hin with
  | absent _ h2 | removed _ h2 => exact absurd (hr.symm.trans h2) (by simp)
  | kept h1 h2 _ hb =>
    obtain rfl := Option.some.inj (h2.symm.trans hr)
    rw [← hT.bytes' k ho0 h1, hm.peer, payload_append]
    simp only [List.append_assoc]
    rw [← List.append_assoc _ (payload s fin), hb.resolve_right hl, List.append_assoc]
  | opened h1 h2 htk hby =>
    obtain rfl := Option.some.inj (h2.symm.trans hr)
    obtain ⟨hc0, hw⟩ := hs.fresh_start hI hT ho0 h1 (by rw [Link.record, h2]; simp)
    rw [← hw, hm.peer, payload_append, hc0, htk, hby]
    simp

include hI in
theorem ahead_send (ho : L'.overflowed k.other s = false) (hA : L'.Ahead k.other s) :
    L'.consumed k.other s = [] ∧ payload s (L'.flight k) = L'.written k s := by
  obtain ⟨E, -, hx, hw⟩ := hs.emits
  obtain ⟨Em, hm⟩ := hs.move
  obtain ⟨h1, h2⟩ : L.consumed k.other s = [] ∧ payload s (L.flight k) = L.written k s := by
    by_cases hop : Move.Opens L L' k fin s
    · obtain ⟨hk, hF, -⟩ := hm.opens_cases hI hop
      have he := hm.opens_of_fresh hF hop.2.2
      refine ⟨hT.unopened ?_ k.other, by rw [hF.written]; exact payload_nil_of_data (hF.data k)⟩
      rw [← hk, he]
    · exact hT.ahead k (by rwa [hs.overflowedOther] at ho) (hm.ahead_of_ahead hI hop hA)
  rw [hs.consumedOther, hx.payload_eq, hw, h1, h2]
  exact ⟨rfl, rfl⟩

include hI in
theorem ahead_recv (hI' : L'.Inv) (ho : L'.overflowed k s = false) (hA' : L'.Ahead k s) :
    L'.consumed k s = [] ∧ payload s (L'.flight k.other) = L'.written k.other s := by
  obtain ⟨hA, hsyn, h1, -⟩ := hs.still_ahead hI hI' hA'
  obtain ⟨E, hm⟩ := hs.move
  obtain ⟨taken, hin, hc⟩ := hs.intake
  have ho0 : L.overflowed k s = false := Bool.eq_false_iff.2 fun h => by rw [hs.overflowed h] at ho; cases ho
  obtain ⟨hc0, hp⟩ := hT.ahead' k ho0 hA
  have hl := hT.synLed' k hA
  rw [hm.peer] at hl hp
  have hfin : payload s fin = [] := payload_of_synLed (synLed_append.1 hl).1 hsyn
  rw [hc, hc0, hin.taken_nil_of_none h1, hm.writtenOther, ← hp, payload_append, hfin]
  exact ⟨rfl, rfl⟩

theorem consumed_send (ho : L'.overflowed k.other s = false) : L'.consumed k.other s <+: L'.written k s := by
  obtain ⟨E, -, -, hw⟩ := hs.emits
  rw [hs.consumedOther, hw]
  exact (hT.consumed k (by rwa [hs.overflowedOther] at ho)).trans (List.prefix_append _ _)

include hI in
theorem consumed_recv (ho : L'.overflowed k s = false) : L'.consumed k s <+: L'.written k.other s := by
  cases hr : L'.record k s with
  | some r => exact ⟨_, by rw [← List.append_assoc]; exact hs.bytes_recv hI hT ho hr⟩
  | none =>
    obtain ⟨E, hm⟩ := hs.move
    obtain ⟨taken, hin, hc⟩ := hs.intake
    have ho0 : L.overflowed k s = false := Bool.eq_false_iff.2 fun h => by rw [hs.overflowed h] at ho; cases ho
    rw [hc, hin.taken_nil_of_none' hr, List.append_nil, hm.writtenOther]
    exact hT.consumed' k ho0

include hI in
theorem synLed_send (hA : L'.Ahead k.other s) : SynLed s (L'.flight k) := by
  obtain ⟨E, hc, hx, -⟩ := hs.emits
  obtain ⟨Em, hm⟩ := hs.move
  by_cases hop : Move.Opens L L' k fin s
  · obtain ⟨-, hF, -⟩ := hm.opens_cases hI hop
    refine synLed_of_payload ?_
    rw [hx.payload_eq, payload_nil_of_data (hF.data k), hc.payload_nil_of_none (hF.record k)]
    rfl
  have hA0 := hm.ahead_of_ahead hI hop hA
  refine hx.synLed (hT.synLed k hA0) ((em _).imp_right fun h0 => ?_)
  have hk : Side.owner s = k := (Side.eq_or_eq_other (Side.owner s) k).resolve_right (Ne.symm hA0.1)
  have h1 := hA0.2
  unfold Link.synAhead at h1
  rw [hk] at h1
  cases hr : L.record k s with
  | none => rw [hr] at h1; simp only [Link.flagOf] at h1; omega
  | some r =>
    rw [hr] at h1
    have hflag : r.flag = .syn := by
      simp only [Link.flagOf, Stream.synFlag] at h1; split_ifs at h1 with hf
      · exact hf
      · omega
    by_cases hp : payload s E = []
    · exact synLed_of_payload hp
    · obtain ⟨r0, h0', -, hsyn⟩ := hc.data hp
      obtain rfl := Option.some.inj (h0'.symm.trans hr)
      exact hsyn hflag

include hI in
theorem synLed_recv (hI' : L'.Inv) (hA' : L'.Ahead k s) : SynLed s (L'.flight k.other) := by
  obtain ⟨hA, hsyn, -, -⟩ := hs.still_ahead hI hI' hA'
  obtain ⟨E, hm⟩ := hs.move
  have hl := hT.synLed' k hA
  rw [hm.peer] at hl
  exact (synLed_append.1 hl).2.resolve_left (by omega)

include hI in
theorem finShut_send (hI' : L'.Inv) (h : 0 < total (Frame.finFor s) (L'.flight k)) : L'.Shut k s := by
  obtain ⟨E, hc, hx, -⟩ := hs.emits
  rw [hx.total_eq] at h
  by_cases h0 : 0 < total (Frame.finFor s) (L.flight k)
  · exact hs.shut hI (hT.finShut k h0)
  obtain ⟨-, ⟨⟨r', hr', hsh⟩, -⟩ | ⟨⟨r, hr, -⟩, hn⟩⟩ := hc.fin (by omega)
  · refine ⟨fun r'' h'' => ?_, fun hA => ?_, hI'.allocated (x := k) (by rw [Link.record, hr']; simp)⟩
    · obtain rfl := Option.some.inj (h''.symm.trans hr'); exact hsh
    · have := (hs.still_ahead hI hI' hA).2.2.2
      rw [Link.record, hr'] at this; cases this
  · refine ⟨fun r'' h'' => absurd (h''.symm.trans hn) (by simp),
      fun hA => hI.not_ahead_of_record hr (hs.still_ahead hI hI' hA).1,
      lt_of_lt_of_le (hI.allocated (x := k) (by rw [Link.record, hr]; simp)) hs.nextId_owner⟩

include hI in
theorem finShut_recv (h : 0 < total (Frame.finFor s) (L'.flight k.other)) : L'.Shut k.other s := by
  obtain ⟨E, hm⟩ := hs.move
  exact hs.shut hI (hT.finShut k.other (by rw [hm.total_peer]; omega))

include hI in
theorem recvClosed_send {r : Stream} (hr : L'.record k.other s = some r) (hst : r.shared.state = .recvClosed) :
    payload s (L'.flight k) = [] ∧ L'.Shut k s := by
  obtain ⟨E, hc, hx, -⟩ := hs.emits
  obtain ⟨Em, hm⟩ := hs.move
  rw [hm.record_other] at hr
  obtain ⟨hp, hsh⟩ := hT.recvClosed k r hr hst
  rw [hx.payload_eq, hp, hc.payload_nil_of_shut hsh.1]
  exact ⟨rfl, hs.shut hI hsh⟩

include hI in
theorem recvClosed_recv {r : Stream} (hr : L'.record k s = some r) (hst : r.shared.state = .recvClosed) :
    payload s (L'.flight k.other) = [] ∧ L'.Shut k.other s := by
  obtain ⟨E, hm⟩ := hs.move
  obtain ⟨taken, hin, -⟩ := hs.intake
  have hfin : 0 < total (Frame.finFor s) fin → ¬L.Shut k s →
      payload s (L'.flight k.other) = [] ∧ L'.Shut k.other s := fun hf hns => by
    have hfc := hT.finClear' k hns
    rw [hm.peer] at hfc
    exact ⟨(finClear_append.1 hfc).2.2 hf, hs.shut hI (hT.finShut k.other (by rw [hm.total_peer]; omega))⟩
  cases hin with
  | absent _ h2 | removed _ h2 => exact absurd (hr.symm.trans h2) (by simp)
  | kept h1 h2 hstep =>
    obtain rfl := Option.some.inj (h2.symm.trans hr)
    rcases hstep.recv hst with h0 | ⟨hopen, hf⟩
    · obtain ⟨hp, hsh⟩ := hT.recvClosed' k h1 h0
      rw [hm.peer, payload_append] at hp
      exact ⟨(List.append_eq_nil.1 hp).2, hs.shut hI hsh⟩
    · refine hfin hf fun hsh => ?_
      have := hsh.1 _ h1
      rw [hopen] at this
      simp [State.SendShut] at this
  | opened h1 h2 _ _ hst' =>
    obtain rfl := Option.some.inj (h2.symm.trans hr)
    rcases hst' with h0 | ⟨-, hf⟩
    · rw [h0] at hst; cases hst
    · have hno : ¬Move.Opens L L' k fin s := fun ho => by rw [ho.1] at hf; simp at hf
      exact hfin hf fun hsh => hsh.2.1 (hm.opened_ahead hI hno h1 (by rw [Link.record, h2]; simp))

include hI in
theorem finClear_send (h : ¬L'.Shut k.other s) : FinClear s (L'.flight k) := by
  have hns : ¬L.Shut k.other s := fun h' => h (hs.shut hI h')
  obtain ⟨E, hc, hx, -⟩ := hs.emits
  obtain ⟨Em, hm⟩ := hs.move
  refine hx.finClear (hT.finClear k hns) hc.clear (fun h0 => hc.payload_nil_of_shut (hT.finShut k h0).1)
    fun hf => ?_
  obtain ⟨-, ⟨-, hout⟩ | ⟨⟨r, hr, hrc⟩, -⟩⟩ := hc.fin hf
  · unfold Link.flight; rw [hout, hm.wire, List.append_assoc]
  · exact absurd (hT.recvClosed' k hr hrc).2 hns

include hI in
theorem finClear_recv (h : ¬L'.Shut k s) : FinClear s (L'.flight k.other) := by
  obtain ⟨E, hm⟩ := hs.move
  have hfc := hT.finClear' k fun h' => h (hs.shut hI h')
  rw [hm.peer] at hfc
  exact (finClear_append.1 hfc).2.1

theorem rst_send : ∀ g ∈ L'.flight k, g.payloadFor s ≠ [] → g.header.flags.rst = false := by
  obtain ⟨E, hc, hx, -⟩ := hs.emits
  exact fun g hg hne => (hx.mem hg).elim (hT.rst k g · hne) (hc.rst g · hne)

theorem rst_recv : ∀ g ∈ L'.flight k.other, g.payloadFor s ≠ [] → g.header.flags.rst = false := by
  obtain ⟨E, hm⟩ := hs.move
  exact fun g hg => hT.rst k.other g (by rw [hm.peer]; exact List.mem_append_right _ hg)

include hI in
theorem unopened_shift (h : (L'.engine (Side.owner s)).nextId.toNat ≤ s.val.toNat) (i : Side) :
    L'.consumed i s = [] := by
  have h0 := hs.nextId_owner.trans h
  rcases Side.eq_or_eq_other i k with rfl | rfl
  · obtain ⟨taken, hin, hc⟩ := hs.intake
    rw [hc, hT.unopened h0 i, hin.taken_nil_of_none ((hI.fresh s h0).record i)]
    rfl
  · rw [hs.consumedOther]; exact hT.unopened h0 _

end Fields

end Shift

namespace Link

variable {L L' : Link} {s : StreamId}

/-- **A shift keeps the integrity invariant.** -/
theorem Intact.shift {k : Side} {fin : List Frame} (hI : L.Inv) (hI' : L'.Inv) (hT : L.Intact s)
    (hs : Shift s L L' k fin) : L'.Intact s where
  bytes i r ho hr := by
    rcases Side.eq_or_eq_other i k with rfl | rfl
    · exact hs.bytes_send hT ho hr
    · simpa using hs.bytes_recv hI hT (by simpa using ho) (by simpa using hr)
  ahead i ho hA := by
    rcases Side.eq_or_eq_other i k with rfl | rfl
    · exact hs.ahead_send hI hT ho hA
    · simpa using hs.ahead_recv hI hT hI' (by simpa using ho) (by simpa using hA)
  consumed i ho := by
    rcases Side.eq_or_eq_other i k with rfl | rfl
    · exact hs.consumed_send hT ho
    · simpa using hs.consumed_recv hI hT (by simpa using ho)
  synLed i hA := by
    rcases Side.eq_or_eq_other i k with rfl | rfl
    · exact hs.synLed_send hI hT hA
    · exact hs.synLed_recv hI hT hI' (by simpa using hA)
  finShut i h := by
    rcases Side.eq_or_eq_other i k with rfl | rfl
    · exact hs.finShut_send hI hT hI' h
    · exact hs.finShut_recv hI hT h
  recvClosed i r hr hst := by
    rcases Side.eq_or_eq_other i k with rfl | rfl
    · exact hs.recvClosed_send hI hT hr hst
    · exact hs.recvClosed_recv hI hT (by simpa using hr) hst
  finClear i h := by
    rcases Side.eq_or_eq_other i k with rfl | rfl
    · exact hs.finClear_send hI hT h
    · exact hs.finClear_recv hI hT (by simpa using h)
  rst i := by
    rcases Side.eq_or_eq_other i k with rfl | rfl
    · exact hs.rst_send hT
    · exact hs.rst_recv hT
  unopened h := hs.unopened_shift hI hT h

/-- A write to the socket keeps the integrity invariant: it moves a frame from an engine
to its wire and changes nothing the invariant reads. -/
theorem Intact.sends (hT : L.Intact s) (hS : Sends L L') (hc : L'.consumed = L.consumed)
    (ho : L'.overflowed = L.overflowed) : L'.Intact s := by
  have hA : ∀ i, L'.Ahead i s ↔ L.Ahead i s := fun i => by simp only [Ahead, hS.synAhead]
  have hSh : ∀ i, L'.Shut i s ↔ L.Shut i s := fun i => by simp only [Shut, hS.record, hA, hS.nextId]
  obtain ⟨h1, h2, h3, h4, h5, h6, h7, h8, h9⟩ := hT
  constructor <;> simp only [hS.record, hS.flight, hc, ho, hS.written, hA, hSh, hS.nextId] <;> assumption

/-- What a step of a link is, stream by stream, for the bytes: a write to the socket, or a
`Shift` of one side. -/
theorem Step.shift (hs : Step L L') (hI : L.Inv)
    (hrst : ∀ i s, ∀ g ∈ L.flight i, g.payloadFor s ≠ [] → g.header.flags.rst = false) :
    (Sends L L' ∧ L'.consumed = L.consumed ∧ L'.overflowed = L.overflowed) ∨
      ∃ k fin, ∀ s, Shift s L L' k fin := by
  cases hs with
  | @«local» i a h =>
    refine .inr ⟨i, [], fun s => ?_⟩
    have hE : ∃ E, Carry s (L.engine i) a E ∧ Intake s (L.engine i) a [] False [] := by
      cases h with
      | newOutbound h => exact Active.bytes_newOutbound (Active.nextId_not_mem (hI.reach i).idsOk) h
      | command h => exact ⟨[], Active.bytes_command h⟩
      | collect => exact Active.bytes_collect
      | handleClose h => exact Active.bytes_closeStream h
      | handleDrop h => exact ⟨[], Active.bytes_dropHandle h⟩
    obtain ⟨E, hc, hin⟩ := hE
    exact ⟨move_local (hI.window i) (hI.reach i).idsOk h s, ⟨E, by rwa [setEngine_self]⟩,
      ⟨[], by rw [setEngine_self]; exact hin.mono False.elim, (List.append_nil _).symm⟩, rfl, id, rfl⟩
  | @read i a t w r h =>
    refine .inr ⟨i, [], fun s => ?_⟩
    obtain ⟨E, hc, hin⟩ := Active.bytes_read (s := s) h
    refine ⟨move_read (hI.window i) h s, ⟨E, by simpa [setEngine] using hc⟩,
      ⟨_, by simpa [setEngine] using hin.mono False.elim, ?_⟩, ?_, id, rfl⟩
    · by_cases hs : s = t
      · subst hs; simp
      · simp [hs, Function.update_noteq hs]
    · simp [Function.update_noteq (Side.other_ne i)]
  | @write i a t w data r h =>
    refine .inr ⟨i, [], fun s => ?_⟩
    obtain ⟨E, hc, hin⟩ := Active.bytes_write (s := s) h
    exact ⟨move_write (hI.window i) h s, ⟨E, by simpa [setEngine] using hc⟩,
      ⟨[], by simpa [setEngine] using hin.mono False.elim, (List.append_nil _).symm⟩, rfl, id, rfl⟩
  | send h => exact .inl ⟨sends_send h, rfl, rfl⟩
  | @recv i f fs h =>
    refine .inr ⟨i, [f], fun s => ?_⟩
    have hf : f ∈ L.flight i.other := by simp [flight, h]
    obtain ⟨E, hc, hin⟩ := Active.bytes_onFrame (s := s) (a := L.engine i) f
      (fun hr => by
        by_contra hne
        have := hrst i.other s f hf (by simpa using hne)
        rw [hr] at this; cases this)
      (fun ht => by simpa using hI.onData_ne_protocolError h ht)
    refine ⟨move_recv (hI.window i) h s, ⟨E, by simpa [Link.recv] using hc⟩,
      ⟨[], Intake.congr (by simp [Link.recv]) (hin.mono ?_), by simp [Link.recv]⟩,
      by simp [Link.recv, Function.update_noteq (Side.other_ne i)], fun ho => ?_,
      by simp [Link.recv, Function.update_noteq (Side.other_ne i)]⟩
    · rintro ⟨ht, rfl, hr⟩
      simp [Link.recv, ht, hr]
    · by_cases hs : s = f.header.streamId
      · subst hs; simp [Link.recv, ho]
      · simp [Link.recv, Function.update_noteq hs, ho]

/-- **A step keeps the integrity invariant.** -/
theorem Intact.step (hI : L.Inv) (hT : ∀ s, L.Intact s) (hs : Step L L') : L'.Intact s := by
  rcases hs.shift hI (fun i s => (hT s).rst i) with ⟨hS, hc, ho⟩ | ⟨k, fin, hsh⟩
  · exact (hT s).sends hS hc ho
  · exact (hT s).shift hI (hI.step hs) (hsh s)

theorem Intact.new (cl cr : Config) (s : StreamId) : (Link.new cl cr).Intact s := by
  have hF := fresh_new cl cr s
  have hA : ∀ x, ¬(Link.new cl cr).Ahead x s := fun x h => by
    have := h.2; simp [synAhead, hF.syn, hF.record, flagOf] at this
  have hfl : ∀ i, (Link.new cl cr).flight i = [] := fun i => by cases i <;> rfl
  refine ⟨fun i r _ hr => ?_, fun i _ h => absurd h (hA _), fun i _ => ?_, fun i h => absurd h (hA _),
    fun i h => ?_, fun i r hr => ?_, fun i _ => ?_, fun i g hg => ?_, fun _ i => rfl⟩
  · rw [hF.record] at hr; cases hr
  · exact List.nil_prefix
  · rw [hfl] at h; cases h
  · rw [hF.record] at hr; cases hr
  · rw [hfl]; trivial
  · rw [hfl] at hg; cases hg

/-- The integrity invariant holds of every reachable link. -/
theorem Reachable.intact (h : L.Reachable) : L.Inv ∧ ∀ s, L.Intact s := by
  obtain ⟨cl, cr, h⟩ := h
  induction h with
  | refl => exact ⟨Inv.new cl cr, Intact.new cl cr⟩
  | tail _ hs ih => exact ⟨ih.1.step hs, fun s => Intact.step ih.1 ih.2 hs⟩

/-- **What a stream delivers.** In every reachable link, for every side `i` and stream
`s`, while the other side has answered no data frame of `s` with the reset of its buffer
limit: the bytes it has taken in on `s` are a prefix of what the handles of `i` wrote, and
all of it once its record of `s` is `RecvClosed`. -/
theorem delivered_prefix (hL : L.Reachable) (i : Side) (s : StreamId) (ho : L.overflowed i.other s = false) :
    L.delivered i.other s <+: L.written i s ∧
      ∀ r, L.record i.other s = some r → r.shared.state = .recvClosed → L.delivered i.other s = L.written i s := by
  have hT := hL.intact.2 s
  unfold delivered
  cases hr : L.record i.other s with
  | none => exact ⟨by simpa using hT.consumed i ho, fun r h => by cases h⟩
  | some r =>
    have hb := hT.bytes i r ho hr
    refine ⟨⟨_, by simpa [List.append_assoc] using hb⟩, fun r' h hst => ?_⟩
    cases h
    simpa [(hT.recvClosed i r hr hst).1] using hb

/-- The run of `delivered_whole`: the client opens stream `1`, writes `1, 2, 3` and closes
it; the server reads both frames. -/
def wholeTrace : List Act :=
  [.newOutbound .left, .write .left ⟨1⟩ ⟨0⟩ [1, 2, 3], .command .left, .send .left,
   .close .left ⟨1⟩, .command .left, .send .left, .recv .right, .recv .right]

theorem delivered_whole :
    ∃ L : Link, L.Reachable ∧ L.overflowed .right ⟨1⟩ = false ∧
      (L.record .right ⟨1⟩).map (fun r => r.shared.state) = some .recvClosed ∧
      L.delivered .right ⟨1⟩ = [1, 2, 3] ∧
      (L.delivered .right ⟨1⟩ <+: L.written .left ⟨1⟩ ∧ ∀ r, L.record .right ⟨1⟩ = some r →
        r.shared.state = .recvClosed → L.delivered .right ⟨1⟩ = L.written .left ⟨1⟩) := by
  have h : ((Link.new Config.default Config.default).run wholeTrace).map
      (fun L => (L.overflowed .right ⟨1⟩, (L.record .right ⟨1⟩).map (fun r => r.shared.state),
        L.delivered .right ⟨1⟩)) = some (false, some .recvClosed, [1, 2, 3]) := by decide
  obtain ⟨L, hL, he⟩ := Option.map_eq_some'.1 h
  simp only [Prod.mk.injEq] at he
  obtain ⟨h1, h2, h3⟩ := he
  have hR := reachable_of_run hL
  exact ⟨L, hR, h1, h2, h3, delivered_prefix hR .left ⟨1⟩ h1⟩


/-- The run of `delivered_gap`: the client opens stream `1` and writes `1`, `2` and `3`,
each sent at once; the server reads the three frames, its reader taking `1` before the
last arrives. -/
def gapTrace : List Act :=
  [.newOutbound .left,
   .write .left ⟨1⟩ ⟨0⟩ [1], .command .left, .send .left,
   .write .left ⟨1⟩ ⟨0⟩ [2], .command .left, .send .left,
   .write .left ⟨1⟩ ⟨0⟩ [3], .command .left, .send .left,
   .recv .right, .recv .right, .read .right ⟨1⟩ ⟨0⟩, .recv .right]

/-- **A gap in what a stream delivers**: with a buffer limit of one byte at the server,
a reachable link where the server has taken in `1, 3` of the `1, 2, 3` the client wrote,
its record still `Open`, having answered a data frame of the stream with the reset of its
buffer limit. -/
theorem delivered_gap :
    ∃ L : Link, L.Reachable ∧ L.written .left ⟨1⟩ = [1, 2, 3] ∧ L.delivered .right ⟨1⟩ = [1, 3] ∧
      ¬L.delivered .right ⟨1⟩ <+: L.written .left ⟨1⟩ ∧
      (L.record .right ⟨1⟩).map (fun r => r.shared.state) = some .open ∧ L.overflowed .right ⟨1⟩ = true := by
  have h : ((Link.new Config.default { Config.default with maxBufferSize := 1 }).run gapTrace).map
      (fun L => (L.written .left ⟨1⟩, L.delivered .right ⟨1⟩,
        (L.record .right ⟨1⟩).map (fun r => r.shared.state), L.overflowed .right ⟨1⟩)) =
      some ([1, 2, 3], [1, 3], some .open, true) := by decide
  obtain ⟨L, hL, he⟩ := Option.map_eq_some'.1 h
  simp only [Prod.mk.injEq] at he
  obtain ⟨h1, h2, h3, h4⟩ := he
  exact ⟨L, reachable_of_run hL, h1, h2, by rw [h1, h2]; decide, h3, h4⟩

end Link

end Yamux
