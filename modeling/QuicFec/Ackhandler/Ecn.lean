import QuicFec.Lib.Go
import QuicFec.Protocol

/-! # ECN validation

`internal/ackhandler/ecn.go`: the tracker that decides whether a path carries
ECN marks (RFC 9000, section 13.4.2).  The first ten 1-RTT packets go out
marked ECT(0) while the path is tested; then packets go out unmarked until an
ACK shows that a testing packet arrived with its mark, and from then on every
packet is marked again.  The tracker keeps no marking per packet: `ecnMarking`
reads it back from three packet numbers, `firstTestingPacket`,
`lastTestingPacket` and `firstCapablePacket`, and `HandleNewlyAcked` counts
the ECT(0) packets an ACK acknowledges with it.

Along every run in which `Mode` picks the marking of each packet sent, with
increasing packet numbers, and the validation has not failed, each packet was
sent with the marking `sentMarking` reads off the three numbers, which ends
the testing phase with `lastTestingPacket` itself (`ecnTracker_run_marked`).
`ecnMarking` agrees with it on every packet but that last testing packet: sent
with ECT(0) and counted as a testing packet by `isTestingPacket`, it reads as
unmarked, so an ACK that acknowledges it with no ECN counts at all does not
fail the validation.

The tracer and the logger are left out, `HandleNewlyAcked` reads only the
packet numbers of the packets it is given, and the `uint8` counters of testing
packets, which stay at ten or below, are `Nat`s. -/
set_option autoImplicit false

namespace QuicFec.Ackhandler

open Go QuicFec.Protocol

inductive ECN where
  | unsupported
  | non
  | ect1
  | ect0
  | ce
deriving DecidableEq, Repr

/-- `ECN.String`. -/
def ECN.toString : ECN → String
  | .unsupported => "ECN unsupported"
  | .non => "Not-ECT"
  | .ect1 => "ECT(1)"
  | .ect0 => "ECT(0)"
  | .ce => "CE"

instance : ToString ECN := ⟨ECN.toString⟩

inductive ECNState where
  | initial
  | testing
  | unknown
  | capable
  | failed
deriving DecidableEq, Repr

def numECNTestingPackets : Int := 10

structure ECNTracker where
  state : ECNState
  numSentTesting : Nat
  numLostTesting : Nat
  firstTestingPacket : PacketNumber
  lastTestingPacket : PacketNumber
  firstCapablePacket : PacketNumber
  numSentECT0 : Int
  numSentECT1 : Int
  numAckedECT0 : Int
  numAckedECT1 : Int
  numAckedECNCE : Int
deriving DecidableEq, Repr

namespace ECNTracker

def newECNTracker : ECNTracker :=
  ⟨.initial, 0, 0, invalidPacketNumber, invalidPacketNumber, invalidPacketNumber, 0, 0, 0, 0, 0⟩

/-- The part of `SentPacket` after the marking is counted: the first packet
sent once the path is capable, and the testing packets. -/
def recordSent (pn : PacketNumber) (e : ECNTracker) : ECNTracker :=
  let e := if e.state = .capable ∧ e.firstCapablePacket = invalidPacketNumber then
    { e with firstCapablePacket := pn } else e
  if e.state ≠ .testing then e
  else
    let e := { e with numSentTesting := e.numSentTesting + 1 }
    let e := if e.firstTestingPacket = invalidPacketNumber then { e with firstTestingPacket := pn } else e
    if e.numSentECT0 + e.numSentECT1 ≥ numECNTestingPackets then
      { e with state := .unknown, lastTestingPacket := pn }
    else e

def sentPacket (pn : PacketNumber) (ecn : ECN) : Call ECNTracker Unit := fun e =>
  match ecn with
  | .non => .ok () e
  | .ect0 => .ok () (recordSent pn { e with numSentECT0 := e.numSentECT0 + 1 })
  | .ect1 => .ok () (recordSent pn { e with numSentECT1 := e.numSentECT1 + 1 })
  | .unsupported =>
      if e.state ≠ .failed then .panic "didn't expect ECN to be unsupported"
      else .ok () (recordSent pn e)
  | .ce => .panic s!"sent packet with unexpected ECN marking: {ecn}"

/-- `ecnTracker.Mode`; from the initial state it starts testing and calls
itself again, which returns ECT(0). -/
def mode (e : ECNTracker) : ECN × ECNTracker :=
  match e.state with
  | .initial => (.ect0, { e with state := .testing })
  | .testing | .capable => (.ect0, e)
  | .unknown | .failed => (.non, e)

def isTestingPacket (e : ECNTracker) (pn : PacketNumber) : Bool :=
  if e.firstTestingPacket = invalidPacketNumber then false
  else decide (pn ≥ e.firstTestingPacket ∧
    (pn ≤ e.lastTestingPacket ∨ e.lastTestingPacket = invalidPacketNumber))

def ecnMarking (e : ECNTracker) (pn : PacketNumber) : ECN :=
  if pn < e.firstTestingPacket ∨ e.firstTestingPacket = invalidPacketNumber then .non
  else if pn < e.lastTestingPacket ∨ e.lastTestingPacket = invalidPacketNumber then .ect0
  else if pn < e.firstCapablePacket ∨ e.firstCapablePacket = invalidPacketNumber then .non
  else .ect0

def failIfMangled (e : ECNTracker) : ECNTracker :=
  if e.numSentECT0 + e.numSentECT1 > e.numAckedECNCE + e.numLostTesting then e
  else { e with state := .failed }

def lostPacket (pn : PacketNumber) (e : ECNTracker) : ECNTracker :=
  if e.state ≠ .testing ∧ e.state ≠ .unknown then e
  else if !e.isTestingPacket pn then e
  else
    let e := { e with numLostTesting := e.numLostTesting + 1 }
    -- only once all testing packets are sent
    if e.state ≠ .unknown then e
    else if e.numLostTesting ≥ e.numSentTesting then { e with state := .failed }
    else e.failIfMangled

/-- `ecnTracker.HandleNewlyAcked`: whether the ACK reports congestion. -/
def handleNewlyAcked (packets : List PacketNumber) (ect0 ect1 ecnce : Int) (e : ECNTracker) :
    Bool × ECNTracker :=
  if e.state = .failed then (false, e)
  else if ect0 > e.numSentECT0 ∨ ect1 > e.numSentECT1 then (false, { e with state := .failed })
  else
    let ackedECT0 : Int := packets.countP fun pn => e.ecnMarking pn = .ect0
    let ackedECT1 : Int := packets.countP fun pn => e.ecnMarking pn = .ect1
    -- an ECN-marked packet acknowledged without ECN counts: the marks were bleached
    if (ackedECT0 > 0 ∨ ackedECT1 > 0) ∧ ect0 = 0 ∧ ect1 = 0 ∧ ecnce = 0 then
      (false, { e with state := .failed })
    else
      let newECT0 := ect0 - e.numAckedECT0
      let newECT1 := ect1 - e.numAckedECT1
      let newECNCE := ecnce - e.numAckedECNCE
      if newECT0 < 0 ∨ newECT1 < 0 ∨ newECNCE < 0 then (false, { e with state := .failed })
      else if newECT0 + newECNCE < ackedECT0 then (false, { e with state := .failed })
      else if newECT1 + newECNCE < ackedECT1 then (false, { e with state := .failed })
      else
        let e := { e with numAckedECT0 := ect0, numAckedECT1 := ect1, numAckedECNCE := ecnce }
        -- `failIfMangled` runs in the unknown state only, and the state was not failed before it
        let e := if e.state = .unknown then e.failIfMangled else e
        if e.state = .failed then (false, e)
        else
          let e := if (e.state = .testing ∨ e.state = .unknown) ∧ packets.any e.isTestingPacket = true ∧
              (newECT0 > 0 ∨ newECT1 > 0) then { e with state := .capable } else e
          (decide (e.state = .capable ∧ newECNCE > 0), e)

/-- What reaches the tracker of a connection: a 1-RTT packet sent with the
marking `Mode` picks for it (`ECNMode`, then `SentPacket`), a packet declared
lost, and an ACK that raises the largest acknowledged packet, with the packets
it newly acknowledges and its ECN counts. -/
inductive Event where
  | send (pn : PacketNumber)
  | lost (pn : PacketNumber)
  | acked (packets : List PacketNumber) (ect0 ect1 ecnce : Int)
deriving DecidableEq, Repr

/-- One event; a packet sent is returned with its marking. -/
def step : Event → Call ECNTracker (Option (PacketNumber × ECN))
  | .send pn => do
      let (ecn, e) := (← Call.get).mode
      Call.set e
      sentPacket pn ecn
      pure (some (pn, ecn))
  | .lost pn => do
      Call.modify (lostPacket pn)
      pure none
  | .acked packets ect0 ect1 ecnce => do
      Call.modify fun e => (handleNewlyAcked packets ect0 ect1 ecnce e).2
      pure none

/-- A run of events: the packets sent, each with its marking, in order. -/
def run : List Event → Call ECNTracker (List (PacketNumber × ECN))
  | [] => pure []
  | e :: es => do
      let sent ← step e
      let rest ← run es
      pure (sent.toList ++ rest)

/-! ## What each packet was sent with -/

/-- `pn` lies below the packet number `b`, or `b` is not set. -/
def Below (pn b : PacketNumber) : Prop := pn < b ∨ b = invalidPacketNumber

/-- `pn` lies at or below the packet number `b`, or `b` is not set. -/
def AtMost (pn b : PacketNumber) : Prop := pn ≤ b ∨ b = invalidPacketNumber

instance (pn b : PacketNumber) : Decidable (Below pn b) := inferInstanceAs (Decidable (_ ∨ _))

instance (pn b : PacketNumber) : Decidable (AtMost pn b) := inferInstanceAs (Decidable (_ ∨ _))

/-- The marking a packet was sent with, as the three packet numbers record it
when the testing phase ends with `lastTestingPacket` itself. -/
def sentMarking (e : ECNTracker) (pn : PacketNumber) : ECN :=
  if Below pn e.firstTestingPacket then .non
  else if AtMost pn e.lastTestingPacket then .ect0
  else if Below pn e.firstCapablePacket then .non
  else .ect0

theorem ecnMarking_eq_sentMarking (e : ECNTracker) {pn : PacketNumber}
    (other : pn ≠ e.lastTestingPacket) : e.ecnMarking pn = e.sentMarking pn := by
  have strict : pn < e.lastTestingPacket ↔ pn ≤ e.lastTestingPacket := by
    unfold PacketNumber at *
    omega
  simp only [ecnMarking, sentMarking, Below, AtMost, strict]
  rfl

theorem ecnMarking_lastTestingPacket (e : ECNTracker) (ended : e.lastTestingPacket ≠ invalidPacketNumber)
    (started : e.firstTestingPacket ≠ invalidPacketNumber) (ordered : e.firstTestingPacket ≤ e.lastTestingPacket)
    (capableAfter : Below e.lastTestingPacket e.firstCapablePacket) :
    e.ecnMarking e.lastTestingPacket = .non ∧ e.sentMarking e.lastTestingPacket = .ect0 := by
  have notBelow : ¬ Below e.lastTestingPacket e.firstTestingPacket := by
    unfold Below PacketNumber at *
    omega
  constructor
  · simp only [ecnMarking, Int.lt_irrefl, ended, false_or, if_false]
    unfold Below at notBelow capableAfter
    rw [if_neg notBelow, if_pos capableAfter]
  · rw [sentMarking, if_neg notBelow, if_pos (.inl (Int.le_refl _))]

/-- A packet number that stays, or was not set and is set to `pn` now. -/
def SetLater (b b' pn : PacketNumber) : Prop := b' = b ∨ b = invalidPacketNumber ∧ b' = pn

theorem setLater_refl (b pn : PacketNumber) : SetLater b b pn := .inl rfl

theorem setLater_of_invalid {b : PacketNumber} (unset : b = invalidPacketNumber) (pn : PacketNumber) :
    SetLater b (if b = invalidPacketNumber then pn else b) pn := by
  rw [if_pos unset]
  exact .inr ⟨unset, rfl⟩

theorem setLater_ite (b pn : PacketNumber) : SetLater b (if b = invalidPacketNumber then pn else b) pn := by
  by_cases unset : b = invalidPacketNumber
  · exact setLater_of_invalid unset pn
  · rw [if_neg unset]
    exact setLater_refl b pn

section Later

variable {b b' pn p : PacketNumber} (later : SetLater b b' pn) (before : p < pn)
include later before

theorem below_iff_of_setLater : Below p b' ↔ Below p b := by
  rcases later with rfl | ⟨unset, rfl⟩
  · rfl
  · exact iff_of_true (.inl before) (.inr unset)

theorem atMost_iff_of_setLater : AtMost p b' ↔ AtMost p b := by
  rcases later with rfl | ⟨unset, rfl⟩
  · rfl
  · exact iff_of_true (.inl (Int.le_of_lt before)) (.inr unset)

end Later

theorem sentMarking_eq_of_setLater {e e' : ECNTracker} {pn p : PacketNumber}
    (first : SetLater e.firstTestingPacket e'.firstTestingPacket pn)
    (last : SetLater e.lastTestingPacket e'.lastTestingPacket pn)
    (capable : SetLater e.firstCapablePacket e'.firstCapablePacket pn) (before : p < pn) :
    e'.sentMarking p = e.sentMarking p := by
  simp only [sentMarking, below_iff_of_setLater first before, atMost_iff_of_setLater last before,
    below_iff_of_setLater capable before]

/-- A packet number above every packet sent so far, as `PopPacketNumber` hands them out. -/
def Fresh (sent : List (PacketNumber × ECN)) (pn : PacketNumber) : Prop :=
  0 ≤ pn ∧ ∀ p ∈ sent, p.1 < pn

/-- A packet number set by a send is that of a packet sent. -/
def SentOrUnset (sent : List (PacketNumber × ECN)) (b : PacketNumber) : Prop :=
  b = invalidPacketNumber ∨ ∃ p ∈ sent, p.1 = b

/-- What the tracker records of the packets sent: each was sent with the marking
`sentMarking` reads, `numSentECT0` counts the ECT(0) ones, none is ECT(1), and
the three packet numbers are those of packets sent. -/
structure Recorded (e : ECNTracker) (sent : List (PacketNumber × ECN)) : Prop where
  marked : ∀ p ∈ sent, p.2 = e.sentMarking p.1
  counted : e.numSentECT0 = sent.countP fun p => p.2 = .ect0
  noECT1 : e.numSentECT1 = 0
  nonneg : ∀ p ∈ sent, 0 ≤ p.1
  firstSent : SentOrUnset sent e.firstTestingPacket
  lastSent : SentOrUnset sent e.lastTestingPacket
  capableSent : SentOrUnset sent e.firstCapablePacket
  started : e.firstTestingPacket = invalidPacketNumber → sent = []
  initial : e.state = .initial → sent = []

/-- The three packet numbers in each state the validation can be in: testing
ends with `lastTestingPacket` and the path is capable from `firstCapablePacket`. -/
structure Phased (e : ECNTracker) : Prop where
  notFailed : e.state ≠ .failed
  testing : e.state = .testing →
    e.lastTestingPacket = invalidPacketNumber ∧ e.firstCapablePacket = invalidPacketNumber
  unknown : e.state = .unknown →
    e.lastTestingPacket ≠ invalidPacketNumber ∧ e.firstCapablePacket = invalidPacketNumber
  capable : e.state = .capable → e.firstTestingPacket ≠ invalidPacketNumber
  ordered : e.lastTestingPacket ≠ invalidPacketNumber →
    e.firstTestingPacket ≠ invalidPacketNumber ∧ e.firstTestingPacket ≤ e.lastTestingPacket
  capableAfter : Below e.lastTestingPacket e.firstCapablePacket

theorem SentOrUnset.lt {sent : List (PacketNumber × ECN)} {b pn : PacketNumber}
    (set : SentOrUnset sent b) (fresh : Fresh sent pn) : b < pn := by
  rcases set with unset | ⟨p, member, rfl⟩
  · have := fresh.1
    unfold invalidPacketNumber at unset
    unfold PacketNumber at *
    omega
  · exact fresh.2 p member

theorem SentOrUnset.append {sent : List (PacketNumber × ECN)} {b b' pn : PacketNumber} (ecn : ECN)
    (set : SentOrUnset sent b) (later : SetLater b b' pn) : SentOrUnset (sent ++ [(pn, ecn)]) b' := by
  rcases later with rfl | _
  · rcases set with unset | ⟨p, member, same⟩
    · exact .inl unset
    · exact .inr ⟨p, List.mem_append_left _ member, same⟩
  · rename_i set'
    exact .inr ⟨(pn, ecn), by simp, set'.2.symm⟩

theorem Recorded.append {e e' : ECNTracker} {sent : List (PacketNumber × ECN)} {pn : PacketNumber}
    {ecn : ECN} (recorded : Recorded e sent) (fresh : Fresh sent pn)
    (first : SetLater e.firstTestingPacket e'.firstTestingPacket pn)
    (last : SetLater e.lastTestingPacket e'.lastTestingPacket pn)
    (capable : SetLater e.firstCapablePacket e'.firstCapablePacket pn)
    (newMark : ecn = e'.sentMarking pn)
    (count : e'.numSentECT0 = e.numSentECT0 + if ecn = .ect0 then 1 else 0)
    (noECT1 : e'.numSentECT1 = 0) (started : e'.firstTestingPacket ≠ invalidPacketNumber)
    (notInitial : e'.state ≠ .initial) :
    Recorded e' (sent ++ [(pn, ecn)]) where
  marked := by
    intro p member
    rcases List.mem_append.mp member with old | new
    · rw [sentMarking_eq_of_setLater first last capable (fresh.2 p old)]
      exact recorded.marked p old
    · rw [List.mem_singleton.mp new]
      exact newMark
  counted := by
    rw [count, recorded.counted, List.countP_append]
    by_cases marked : ecn = .ect0 <;> simp [marked]
  noECT1 := noECT1
  nonneg := by
    intro p member
    rcases List.mem_append.mp member with old | new
    · exact recorded.nonneg p old
    · rw [List.mem_singleton.mp new]
      exact fresh.1
  firstSent := recorded.firstSent.append ecn first
  lastSent := recorded.lastSent.append ecn last
  capableSent := recorded.capableSent.append ecn capable
  started := fun unset => absurd unset started
  initial := fun isInitial => absurd isInitial notInitial

/-- The tracker between two events of a run that has not failed. -/
def Marked (e : ECNTracker) (sent : List (PacketNumber × ECN)) : Prop := Recorded e sent ∧ Phased e

/-! ## One event at a time -/

theorem recordSent_of_testing {e : ECNTracker} (testing : e.state = .testing) (pn : PacketNumber) :
    (recordSent pn e).firstTestingPacket =
        (if e.firstTestingPacket = invalidPacketNumber then pn else e.firstTestingPacket) ∧
      (recordSent pn e).lastTestingPacket =
        (if e.numSentECT0 + e.numSentECT1 ≥ numECNTestingPackets then pn else e.lastTestingPacket) ∧
      (recordSent pn e).firstCapablePacket = e.firstCapablePacket ∧
      (recordSent pn e).state =
        (if e.numSentECT0 + e.numSentECT1 ≥ numECNTestingPackets then .unknown else .testing) ∧
      (recordSent pn e).numSentECT0 = e.numSentECT0 ∧ (recordSent pn e).numSentECT1 = e.numSentECT1 := by
  by_cases unset : e.firstTestingPacket = invalidPacketNumber <;>
    by_cases ended : e.numSentECT0 + e.numSentECT1 ≥ numECNTestingPackets <;>
    simp [recordSent, testing, unset, ended]

theorem recordSent_of_capable {e : ECNTracker} (capable : e.state = .capable) (pn : PacketNumber) :
    (recordSent pn e).firstTestingPacket = e.firstTestingPacket ∧
      (recordSent pn e).lastTestingPacket = e.lastTestingPacket ∧
      (recordSent pn e).firstCapablePacket =
        (if e.firstCapablePacket = invalidPacketNumber then pn else e.firstCapablePacket) ∧
      (recordSent pn e).state = .capable ∧
      (recordSent pn e).numSentECT0 = e.numSentECT0 ∧ (recordSent pn e).numSentECT1 = e.numSentECT1 := by
  by_cases unset : e.firstCapablePacket = invalidPacketNumber <;> simp [recordSent, capable, unset]

theorem ite_setLater_bounds {b pn : PacketNumber} (nonneg : 0 ≤ pn) (below : b < pn) :
    (if b = invalidPacketNumber then pn else b) ≠ invalidPacketNumber ∧
      (if b = invalidPacketNumber then pn else b) ≤ pn := by
  by_cases unset : b = invalidPacketNumber
  · rw [if_pos unset]
    unfold invalidPacketNumber PacketNumber at *
    omega
  · rw [if_neg unset]
    exact ⟨unset, Int.le_of_lt below⟩

theorem not_below_of_le {pn b : PacketNumber} (set : b ≠ invalidPacketNumber) (le : b ≤ pn) :
    ¬ Below pn b := by
  unfold Below PacketNumber at *
  omega

theorem Marked.sendTesting {e : ECNTracker} {sent : List (PacketNumber × ECN)} {pn : PacketNumber}
    (marked : Marked e sent) (testing : e.state = .testing) (fresh : Fresh sent pn) :
    Marked (recordSent pn { e with numSentECT0 := e.numSentECT0 + 1 }) (sent ++ [(pn, .ect0)]) := by
  obtain ⟨recorded, phased⟩ := marked
  obtain ⟨unended, uncapable⟩ := phased.testing testing
  obtain ⟨firstSet, firstLe⟩ := ite_setLater_bounds fresh.1 (recorded.firstSent.lt fresh)
  have pnSet : pn ≠ invalidPacketNumber := by
    have := fresh.1
    unfold invalidPacketNumber PacketNumber at *
    omega
  obtain ⟨first, last, capable, state, ect0, ect1⟩ :=
    recordSent_of_testing (e := { e with numSentECT0 := e.numSentECT0 + 1 }) testing pn
  generalize recordSent pn { e with numSentECT0 := e.numSentECT0 + 1 } = e' at first last capable state ect0 ect1 ⊢
  simp only at first last capable state ect0 ect1
  have counted : e'.numSentECT0 = e.numSentECT0 + if ECN.ect0 = .ect0 then 1 else 0 := by
    rw [ect0, if_pos rfl]
  have firstLater : SetLater e.firstTestingPacket e'.firstTestingPacket pn := by
    rw [first]
    exact setLater_ite _ pn
  have capableLater : SetLater e.firstCapablePacket e'.firstCapablePacket pn := by
    rw [capable]
    exact setLater_refl _ pn
  rw [← first] at firstSet firstLe
  by_cases ended : e.numSentECT0 + 1 + e.numSentECT1 ≥ numECNTestingPackets
  · rw [if_pos ended] at last state
    have lastLater : SetLater e.lastTestingPacket e'.lastTestingPacket pn := .inr ⟨unended, last⟩
    refine ⟨recorded.append fresh firstLater lastLater capableLater ?_ counted (ect1.trans recorded.noECT1)
      firstSet (by rw [state]; nofun), ?_⟩
    · rw [sentMarking, last, if_neg (not_below_of_le firstSet firstLe), if_pos (.inl (Int.le_refl _))]
    · refine ⟨by rw [state]; nofun, by rw [state]; nofun,
        fun _ => ⟨by rw [last]; exact pnSet, capable.trans uncapable⟩, by rw [state]; nofun,
        fun _ => ⟨firstSet, by rw [last]; exact firstLe⟩, ?_⟩
      rw [capable]
      exact .inr uncapable
  · rw [if_neg ended] at last state
    have lastLater : SetLater e.lastTestingPacket e'.lastTestingPacket pn := .inl last
    refine ⟨recorded.append fresh firstLater lastLater capableLater ?_ counted (ect1.trans recorded.noECT1)
      firstSet (by rw [state]; nofun), ?_⟩
    · rw [sentMarking, if_neg (not_below_of_le firstSet firstLe), if_pos (.inr (last.trans unended))]
    · refine ⟨by rw [state]; nofun, fun _ => ⟨last.trans unended, capable.trans uncapable⟩,
        by rw [state]; nofun, by rw [state]; nofun, fun set => absurd (last.trans unended) set, ?_⟩
      rw [capable]
      exact .inr uncapable

theorem Marked.sendCapable {e : ECNTracker} {sent : List (PacketNumber × ECN)} {pn : PacketNumber}
    (marked : Marked e sent) (capable : e.state = .capable) (fresh : Fresh sent pn) :
    Marked (recordSent pn { e with numSentECT0 := e.numSentECT0 + 1 }) (sent ++ [(pn, .ect0)]) := by
  obtain ⟨recorded, phased⟩ := marked
  have started := phased.capable capable
  have firstLt := recorded.firstSent.lt fresh
  have lastLt := recorded.lastSent.lt fresh
  obtain ⟨capableSet, capableLe⟩ := ite_setLater_bounds fresh.1 (recorded.capableSent.lt fresh)
  obtain ⟨first, last, capable', state, ect0, ect1⟩ :=
    recordSent_of_capable (e := { e with numSentECT0 := e.numSentECT0 + 1 }) capable pn
  generalize recordSent pn { e with numSentECT0 := e.numSentECT0 + 1 } = e' at first last capable' state ect0 ect1 ⊢
  simp only at first last capable' state ect0 ect1
  rw [← capable'] at capableSet capableLe
  have firstLater : SetLater e.firstTestingPacket e'.firstTestingPacket pn := .inl first
  have lastLater : SetLater e.lastTestingPacket e'.lastTestingPacket pn := .inl last
  have capableLater : SetLater e.firstCapablePacket e'.firstCapablePacket pn := by
    rw [capable']
    exact setLater_ite _ pn
  have notBelowFirst : ¬ Below pn e'.firstTestingPacket := by
    rw [first]
    exact not_below_of_le started (Int.le_of_lt firstLt)
  have newMark : ECN.ect0 = e'.sentMarking pn := by
    rw [sentMarking, if_neg notBelowFirst]
    by_cases atMost : AtMost pn e'.lastTestingPacket
    · rw [if_pos atMost]
    · rw [if_neg atMost, if_neg (not_below_of_le capableSet capableLe)]
  refine ⟨recorded.append fresh firstLater lastLater capableLater newMark (by rw [ect0, if_pos rfl])
    (ect1.trans recorded.noECT1) (by rw [first]; exact started) (by rw [state]; nofun), ?_⟩
  refine ⟨by rw [state]; nofun, by rw [state]; nofun, by rw [state]; nofun,
    fun _ => by rw [first]; exact started, ?_, ?_⟩
  · rw [first, last]
    exact phased.ordered
  · rw [last]
    exact (below_iff_of_setLater capableLater lastLt).mpr phased.capableAfter

theorem Marked.sendUnknown {e : ECNTracker} {sent : List (PacketNumber × ECN)} {pn : PacketNumber}
    (marked : Marked e sent) (unknown : e.state = .unknown) (fresh : Fresh sent pn) :
    Marked e (sent ++ [(pn, .non)]) := by
  obtain ⟨recorded, phased⟩ := marked
  obtain ⟨ended, uncapable⟩ := phased.unknown unknown
  obtain ⟨started, ordered⟩ := phased.ordered ended
  have lastLt := recorded.lastSent.lt fresh
  have newMark : ECN.non = e.sentMarking pn := by
    have notAtMost : ¬ AtMost pn e.lastTestingPacket := by
      unfold AtMost PacketNumber at *
      omega
    rw [sentMarking, if_neg (not_below_of_le started (Int.le_of_lt (Int.lt_of_le_of_lt ordered lastLt))),
      if_neg notAtMost, if_pos (.inr uncapable)]
  exact ⟨recorded.append fresh (setLater_refl _ pn) (setLater_refl _ pn) (setLater_refl _ pn) newMark
    (by rw [if_neg (by decide), Int.add_zero]) recorded.noECT1 started (by rw [unknown]; nofun), phased⟩

theorem SentOrUnset.nil {b : PacketNumber} (set : SentOrUnset [] b) : b = invalidPacketNumber := by
  rcases set with unset | ⟨_, member, _⟩
  · exact unset
  · exact absurd member List.not_mem_nil

theorem Marked.start {e : ECNTracker} {sent : List (PacketNumber × ECN)} (recorded : Recorded e sent)
    (initial : e.state = .initial) : Marked { e with state := .testing } sent := by
  have none := recorded.initial initial
  subst none
  have unended := recorded.lastSent.nil
  refine ⟨⟨recorded.marked, recorded.counted, recorded.noECT1, recorded.nonneg, recorded.firstSent,
    recorded.lastSent, recorded.capableSent, recorded.started, fun _ => rfl⟩, ?_⟩
  exact ⟨nofun, fun _ => ⟨unended, recorded.capableSent.nil⟩, nofun, nofun, fun ended => absurd unended ended,
    .inr recorded.capableSent.nil⟩

/-- Two trackers that agree on what `Marked` reads: the state, the three packet
numbers and the counts of packets sent. -/
structure SameMarks (e e' : ECNTracker) : Prop where
  state : e'.state = e.state
  first : e'.firstTestingPacket = e.firstTestingPacket
  last : e'.lastTestingPacket = e.lastTestingPacket
  capable : e'.firstCapablePacket = e.firstCapablePacket
  ect0 : e'.numSentECT0 = e.numSentECT0
  ect1 : e'.numSentECT1 = e.numSentECT1

theorem SameMarks.refl (e : ECNTracker) : SameMarks e e := ⟨rfl, rfl, rfl, rfl, rfl, rfl⟩

theorem SameMarks.trans {e e' e'' : ECNTracker} (same : SameMarks e e') (same' : SameMarks e' e'') :
    SameMarks e e'' :=
  ⟨same'.state.trans same.state, same'.first.trans same.first, same'.last.trans same.last,
    same'.capable.trans same.capable, same'.ect0.trans same.ect0, same'.ect1.trans same.ect1⟩

theorem Marked.of_sameMarks {e e' : ECNTracker} {sent : List (PacketNumber × ECN)} (marked : Marked e sent)
    (same : SameMarks e e') : Marked e' sent := by
  obtain ⟨s, n, l, f, t, c, e0, e1, a0, a1, ace⟩ := e
  obtain ⟨s', n', l', f', t', c', e0', e1', a0', a1', ace'⟩ := e'
  obtain ⟨rfl, rfl, rfl, rfl, rfl, rfl⟩ := same
  obtain ⟨r, p⟩ := marked
  exact ⟨⟨r.marked, r.counted, r.noECT1, r.nonneg, r.firstSent, r.lastSent, r.capableSent, r.started, r.initial⟩,
    ⟨p.notFailed, p.testing, p.unknown, p.capable, p.ordered, p.capableAfter⟩⟩

/-- The call either fails the validation or leaves what `Marked` reads. -/
def FailsOrKeeps (e e' : ECNTracker) : Prop := e'.state = .failed ∨ SameMarks e e'

theorem failIfMangled_failsOrKeeps (e : ECNTracker) : FailsOrKeeps e e.failIfMangled := by
  unfold failIfMangled
  split_ifs
  · exact .inr (SameMarks.refl e)
  · exact .inl rfl

theorem FailsOrKeeps.trans {e e' e'' : ECNTracker} (keeps : SameMarks e e') (next : FailsOrKeeps e' e'') :
    FailsOrKeeps e e'' :=
  next.imp id keeps.trans

theorem lostPacket_failsOrKeeps (pn : PacketNumber) (e : ECNTracker) : FailsOrKeeps e (lostPacket pn e) := by
  have counted : SameMarks e { e with numLostTesting := e.numLostTesting + 1 } := ⟨rfl, rfl, rfl, rfl, rfl, rfl⟩
  unfold lostPacket
  dsimp only
  split_ifs
  · exact .inr (SameMarks.refl e)
  · exact .inr (SameMarks.refl e)
  · exact .inr counted
  · exact .inl rfl
  · exact FailsOrKeeps.trans counted (failIfMangled_failsOrKeeps _)

theorem isTestingPacket_started {e : ECNTracker} {pn : PacketNumber} (testing : e.isTestingPacket pn = true) :
    e.firstTestingPacket ≠ invalidPacketNumber := by
  intro unset
  simp [isTestingPacket, unset] at testing

theorem Marked.capable {e : ECNTracker} {sent : List (PacketNumber × ECN)} (marked : Marked e sent)
    (started : e.firstTestingPacket ≠ invalidPacketNumber) : Marked { e with state := .capable } sent := by
  obtain ⟨r, p⟩ := marked
  exact ⟨⟨r.marked, r.counted, r.noECT1, r.nonneg, r.firstSent, r.lastSent, r.capableSent, r.started, nofun⟩,
    ⟨nofun, nofun, nofun, fun _ => started, p.ordered, p.capableAfter⟩⟩

theorem handleNewlyAcked_marked {e : ECNTracker} {sent : List (PacketNumber × ECN)} (marked : Marked e sent)
    (packets : List PacketNumber) (ect0 ect1 ecnce : Int) :
    (handleNewlyAcked packets ect0 ect1 ecnce e).2.state = .failed ∨
      Marked (handleNewlyAcked packets ect0 ect1 ecnce e).2 sent := by
  have acked : SameMarks e { e with numAckedECT0 := ect0, numAckedECT1 := ect1, numAckedECNCE := ecnce } :=
    ⟨rfl, rfl, rfl, rfl, rfl, rfl⟩
  have counted : FailsOrKeeps e (if e.state = .unknown then
      ({ e with numAckedECT0 := ect0, numAckedECT1 := ect1, numAckedECNCE := ecnce } : ECNTracker).failIfMangled
      else { e with numAckedECT0 := ect0, numAckedECT1 := ect1, numAckedECNCE := ecnce }) := by
    split
    · exact FailsOrKeeps.trans acked (failIfMangled_failsOrKeeps _)
    · exact .inr acked
  unfold handleNewlyAcked
  rw [if_neg marked.2.notFailed]
  by_cases tooMany : ect0 > e.numSentECT0 ∨ ect1 > e.numSentECT1
  · rw [if_pos tooMany]
    exact .inl rfl
  rw [if_neg tooMany]
  dsimp only
  split
  · exact .inl rfl
  split
  · exact .inl rfl
  split
  · exact .inl rfl
  split
  · exact .inl rfl
  generalize (if e.state = .unknown then _ else _) = e' at counted ⊢
  rcases counted with failed | same
  · rw [if_pos failed]
    exact .inl failed
  have marked' := marked.of_sameMarks same
  rw [if_neg marked'.2.notFailed]
  dsimp only
  split
  · rename_i found
    obtain ⟨pn, _, testing⟩ := List.any_eq_true.mp found.2.1
    exact .inr (marked'.capable (isTestingPacket_started testing))
  · exact .inr marked'

/-! ## Along a run -/

/-- The packet numbers a run of events sends, in order. -/
def sends : List Event → List PacketNumber
  | [] => []
  | .send pn :: events => pn :: sends events
  | .lost _ :: events => sends events
  | .acked .. :: events => sends events

theorem sends_cons (ev : Event) (events : List Event) : sends (ev :: events) = sends [ev] ++ sends events := by
  cases ev <;> rfl

theorem marked_newECNTracker : Marked newECNTracker [] :=
  ⟨⟨(fun _ member => nomatch member), rfl, rfl, (fun _ member => nomatch member), .inl rfl, .inl rfl, .inl rfl,
    fun _ => rfl, fun _ => rfl⟩, ⟨nofun, nofun, nofun, nofun, fun ended => absurd rfl ended, .inr rfl⟩⟩

theorem step_marked {e : ECNTracker} {sent : List (PacketNumber × ECN)}
    (marked : Marked e sent ∨ e.state = .failed) (ev : Event) (fresh : ∀ pn, ev = .send pn → Fresh sent pn) :
    ∃ out e', step ev e = .ok out e' ∧ (Marked e' (sent ++ out.toList) ∨ e'.state = .failed) ∧
      out.toList.map Prod.fst = sends [ev] := by
  cases ev with
  | send pn =>
    have fresh := fresh pn rfl
    rcases marked with marked | failed
    · -- `Mode` picks the marking from the state the packet is sent in
      cases state : e.state with
      | initial =>
        have testing := Marked.start marked.1 state
        exact ⟨some (pn, .ect0), recordSent pn { e with state := .testing, numSentECT0 := e.numSentECT0 + 1 },
          by simp [step, mode, state, sentPacket], .inl (testing.sendTesting rfl fresh), rfl⟩
      | testing =>
        exact ⟨some (pn, .ect0), recordSent pn { e with numSentECT0 := e.numSentECT0 + 1 },
          by simp [step, mode, state, sentPacket], .inl (marked.sendTesting state fresh), rfl⟩
      | unknown =>
        exact ⟨some (pn, .non), e, by simp [step, mode, state, sentPacket], .inl (marked.sendUnknown state fresh),
          rfl⟩
      | capable =>
        exact ⟨some (pn, .ect0), recordSent pn { e with numSentECT0 := e.numSentECT0 + 1 },
          by simp [step, mode, state, sentPacket], .inl (marked.sendCapable state fresh), rfl⟩
      | failed => exact absurd state marked.2.notFailed
    · exact ⟨some (pn, .non), e, by simp [step, mode, failed, sentPacket], .inr failed, rfl⟩
  | lost pn =>
    refine ⟨none, lostPacket pn e, by simp [step], ?_, rfl⟩
    rcases marked with marked | failed
    · rw [Option.toList_none, List.append_nil]
      exact (lostPacket_failsOrKeeps pn e).elim .inr fun same => .inl (marked.of_sameMarks same)
    · exact .inr (by simp [lostPacket, failed])
  | acked packets ect0 ect1 ecnce =>
    refine ⟨none, (handleNewlyAcked packets ect0 ect1 ecnce e).2, by simp [step], ?_, rfl⟩
    rcases marked with marked | failed
    · rw [Option.toList_none, List.append_nil]
      exact (handleNewlyAcked_marked marked packets ect0 ect1 ecnce).symm
    · exact .inr (by simp [handleNewlyAcked, failed])

theorem run_marked {events : List Event} {e : ECNTracker} {sent : List (PacketNumber × ECN)}
    (marked : Marked e sent ∨ e.state = .failed)
    (increasing : (invalidPacketNumber :: (sent.map Prod.fst ++ sends events)).Pairwise (· < ·)) :
    ∃ out e', run events e = .ok out e' ∧ (Marked e' (sent ++ out) ∨ e'.state = .failed) := by
  induction events generalizing e sent with
  | nil => exact ⟨[], e, rfl, by rwa [List.append_nil]⟩
  | cons ev events ih =>
    have fresh : ∀ pn, ev = .send pn → Fresh sent pn := by
      rintro pn rfl
      obtain ⟨aboveInvalid, ordered⟩ := List.pairwise_cons.mp increasing
      have nonneg := aboveInvalid pn (by simp [sends])
      refine ⟨by unfold invalidPacketNumber PacketNumber at *; omega, fun p member => ?_⟩
      exact (List.pairwise_append.mp ordered).2.2 p.1 (List.mem_map_of_mem member) pn (by simp [sends])
    obtain ⟨out, e', stepped, marked', sendsOut⟩ := step_marked marked ev fresh
    -- the packet sent joins the packets before the rest of the run
    have increasing' : (invalidPacketNumber :: ((sent ++ out.toList).map Prod.fst ++ sends events)).Pairwise (· < ·) := by
      rw [List.map_append, sendsOut, List.append_assoc, ← sends_cons]
      exact increasing
    obtain ⟨rest, e'', ran, marked''⟩ := ih marked' increasing'
    refine ⟨out.toList ++ rest, e'', ?_, by rwa [← List.append_assoc]⟩
    simp [run, stepped, ran]

theorem ecnTracker_run_marked (events : List Event)
    (increasing : (invalidPacketNumber :: sends events).IsChain (· < ·)) :
    ∃ sent e, run events newECNTracker = .ok sent e ∧ (e.state ≠ .failed →
      (∀ p ∈ sent, p.2 = e.sentMarking p.1 ∧ (p.1 ≠ e.lastTestingPacket → e.ecnMarking p.1 = p.2)) ∧
      e.numSentECT0 = sent.countP (fun p => p.2 = .ect0) ∧
      (e.lastTestingPacket ≠ invalidPacketNumber →
        (e.lastTestingPacket, .ect0) ∈ sent ∧ e.ecnMarking e.lastTestingPacket = .non)) := by
  obtain ⟨sent, e, ran, marked⟩ :=
    run_marked (.inl marked_newECNTracker) (by simpa using List.isChain_iff_pairwise.mp increasing)
  rw [List.nil_append] at marked
  refine ⟨sent, e, ran, fun notFailed => ?_⟩
  obtain ⟨recorded, phased⟩ := marked.resolve_right notFailed
  refine ⟨fun p member => ⟨recorded.marked p member, fun other => ?_⟩, recorded.counted, fun ended => ?_⟩
  · rw [ecnMarking_eq_sentMarking e other]
    exact (recorded.marked p member).symm
  obtain ⟨started, ordered⟩ := phased.ordered ended
  obtain ⟨readsUnmarked, sentMarked⟩ := ecnMarking_lastTestingPacket e ended started ordered phased.capableAfter
  obtain ⟨p, member, same⟩ := recorded.lastSent.resolve_left ended
  have mark := recorded.marked p member
  rw [same, sentMarked] at mark
  refine ⟨?_, readsUnmarked⟩
  rwa [show (e.lastTestingPacket, ECN.ect0) = p from Prod.ext same.symm mark.symm]

/-- A code bug: the last testing packet goes out with ECT(0) and counts as a
testing packet, but `ecnMarking` reads it as unmarked.  After ten packets the
tracker waits for the result of the test; an ACK of packet 9 that carries no
ECN counts, as from a path that bleaches the marks, leaves the state unknown,
where a count of the ECT(0) packet it acknowledges fails the validation. -/
theorem ecnMarking_lastTestingPacket_bleached :
    run ((List.range 10).map (fun pn => Event.send pn) ++ [.acked [9] 0 0 0]) newECNTracker =
        .ok ((List.range 10).map fun pn => ((pn : PacketNumber), ECN.ect0))
          ⟨.unknown, 10, 0, 0, 9, invalidPacketNumber, 10, 0, 0, 0, 0⟩ ∧
      (⟨.unknown, 10, 0, 0, 9, invalidPacketNumber, 10, 0, 0, 0, 0⟩ : ECNTracker).ecnMarking 9 = .non ∧
      (⟨.unknown, 10, 0, 0, 9, invalidPacketNumber, 10, 0, 0, 0, 0⟩ : ECNTracker).isTestingPacket 9 = true := by
  -- the elaborator's evaluation copies the state of each step into the next; the kernel's shares it
  decide +kernel

end ECNTracker

end QuicFec.Ackhandler
