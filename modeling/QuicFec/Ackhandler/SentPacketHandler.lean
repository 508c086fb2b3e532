import QuicFec.Ackhandler.SentPacketHistory

/-! # The packets an ACK frame acknowledges

`sentPacketHandler.detectAndRemoveAckedPackets` (`sent_packet_handler.go`):
the history of the ACK's packet number space is walked in slot order while an
index moves up through the frame's ranges, which the frame stores highest
first; every packet in a range is collected, an acknowledged skipped packet
ends the walk with a protocol violation, and the packets collected are then
removed from the history after their frames' `OnAcked` callbacks.

On a well-formed history and a frame `validateAckRanges` accepts, the walk
collects exactly the packets the frame acknowledges (`ackedBeforeSkipped`,
what the walk is for), and every `Remove` after it finds its packet. -/
set_option autoImplicit false

namespace QuicFec.Ackhandler

open Go QuicFec.Protocol QuicFec.Wire SentPacketHistory

/-- The errors `detectAndRemoveAckedPackets` returns. -/
inductive AckError where
  /-- A `qerr.TransportError` with `qerr.ProtocolViolation`. -/
  | protocolViolation (errorMessage : String)
  /-- An error made by `fmt.Errorf`. -/
  | errorf (message : String)
deriving DecidableEq, Repr

/-- The error for an acknowledged skipped packet number. -/
def skippedPacketError (encLevel : EncryptionLevel) (pn : PacketNumber) : AckError :=
  .protocolViolation s!"received an ACK for skipped packet number: {pn} ({encLevel})"

/-- `ack.AckRanges[len(ack.AckRanges)-1-ackRangeIndex]`: the ranges counted
from the lowest. -/
def rangeAt (ack : AckFrame) (ackRangeIndex : Nat) : AckRange :=
  ack.ackRanges.get ⟨ack.ackRanges.length - 1 - ackRangeIndex, by
    have := List.length_pos_of_ne_nil ack.nonempty
    omega⟩

/-- The inner loop of the walk: on to the next range up while `pn` lies above
the current one and there is one. -/
def advanceRange (ack : AckFrame) (pn : PacketNumber) (ackRangeIndex : Nat) : Nat :=
  if pn > (rangeAt ack ackRangeIndex).largest ∧ ackRangeIndex < ack.ackRanges.length - 1 then
    advanceRange ack pn (ackRangeIndex + 1)
  else ackRangeIndex
termination_by ack.ackRanges.length - ackRangeIndex

/-- The end of the callback, for a packet the ranges take: a skipped packet is
an error, any other is collected. -/
def acceptPacket (encLevel : EncryptionLevel) (p : Packet) (ackRangeIndex : Nat)
    (ackedPackets : List Packet) : (Bool × Option AckError) × (Nat × List Packet) :=
  if p.skippedPacket then
    ((false, some (skippedPacketError encLevel p.packetNumber)), (ackRangeIndex, ackedPackets))
  else ((true, none), (ackRangeIndex, ackedPackets ++ [p]))

/-- The callback `detectAndRemoveAckedPackets` passes to `Iterate`; its state
is `ackRangeIndex` and `h.ackedPackets`. -/
def ackedPacketsStep (ack : AckFrame) (encLevel : EncryptionLevel) (p : Packet) :
    Nat × List Packet → (Bool × Option AckError) × (Nat × List Packet)
  | (ackRangeIndex, ackedPackets) =>
      if p.packetNumber < ack.lowestAcked then ((true, none), (ackRangeIndex, ackedPackets))
      else if p.packetNumber > ack.largestAcked then ((false, none), (ackRangeIndex, ackedPackets))
      else if ack.hasMissingRanges then
        let ackRangeIndex := advanceRange ack p.packetNumber ackRangeIndex
        let ackRange := rangeAt ack ackRangeIndex
        if p.packetNumber < ackRange.smallest then ((true, none), (ackRangeIndex, ackedPackets))
        else if p.packetNumber > ackRange.largest then
          ((false, some (.errorf
            s!"BUG: ackhandler would have acked wrong packet {p.packetNumber}, while evaluating range {ackRange.smallest} -> {ackRange.largest}")),
            (ackRangeIndex, ackedPackets))
        else acceptPacket encLevel p ackRangeIndex ackedPackets
      else acceptPacket encLevel p ackRangeIndex ackedPackets

/-- What `detectAndRemoveAckedPackets` reads and writes of `sentPacketHandler`:
the history of the ACK's packet number space, `lowestNotConfirmedAcked`, and
the packets whose frames' `OnAcked` has been called, in call order. -/
structure AckHandling where
  history : SentPacketHistory
  lowestNotConfirmedAcked : PacketNumber
  onAcked : List Packet

/-- The loop over the collected packets, which stops at an error of `Remove`. -/
def removeAcked (encLevel : EncryptionLevel) : List Packet → Call AckHandling (Option String)
  | [] => pure none
  | p :: rest => do
      if p.largestAcked ≠ invalidPacketNumber ∧ encLevel = .oneRTT then
        Call.modify fun s => { s with
          lowestNotConfirmedAcked := max s.lowestNotConfirmedAcked (p.largestAcked + 1) }
      Call.modify fun s => { s with onAcked := s.onAcked ++ [p] }
      match ← Call.attempt (Call.focus AckHandling.history (fun h s => { s with history := h })
          (remove p.packetNumber)) with
      | .error e => pure (some e)
      | .ok () => removeAcked encLevel rest

def detectAndRemoveAckedPackets (ack : AckFrame) (encLevel : EncryptionLevel) :
    Call AckHandling (List Packet × Option AckError) := do
  let walk := iterate (ackedPacketsStep ack encLevel) (← Call.get).history.packets (0, [])
  match ← removeAcked encLevel walk.2.2 with
  | some e => pure ([], some (.errorf e))
  | none => pure (walk.2.2, walk.1)

/-! ## The ranges from the lowest up -/

section Ranges

variable {ack : AckFrame}

theorem getElem?_rangeAt (ack : AckFrame) (i : Nat) :
    ack.ackRanges[ack.ackRanges.length - 1 - i]? = some (rangeAt ack i) := by
  simp [rangeAt]

theorem rangeAt_mem (i : Nat) : rangeAt ack i ∈ ack.ackRanges := List.get_mem _ _

theorem exists_rangeAt {r : AckRange} (mem : r ∈ ack.ackRanges) :
    ∃ j < ack.ackRanges.length, rangeAt ack j = r := by
  obtain ⟨m, inside, atM⟩ := List.getElem_of_mem mem
  refine ⟨ack.ackRanges.length - 1 - m, by omega, ?_⟩
  have counted := getElem?_rangeAt ack (ack.ackRanges.length - 1 - m)
  rw [show ack.ackRanges.length - 1 - (ack.ackRanges.length - 1 - m) = m by omega,
    List.getElem?_eq_getElem inside, atM] at counted
  exact (Option.some.inj counted).symm

theorem largest_rangeAt_top : (rangeAt ack (ack.ackRanges.length - 1)).largest = ack.largestAcked := by
  obtain ⟨head, rest, split⟩ := List.exists_cons_of_ne_nil ack.nonempty
  have counted := getElem?_rangeAt ack (ack.ackRanges.length - 1)
  rw [Nat.sub_self, split, List.getElem?_cons_zero] at counted
  simp only [AckFrame.largestAcked, split, List.head_cons, ← Option.some.inj counted]

theorem advanceRange_spec {pn : PacketNumber} (notAbove : pn ≤ ack.largestAcked) :
    ∀ idx, idx < ack.ackRanges.length → (∀ j < idx, (rangeAt ack j).largest < pn) →
      advanceRange ack pn idx < ack.ackRanges.length ∧
      (∀ j < advanceRange ack pn idx, (rangeAt ack j).largest < pn) ∧
      pn ≤ (rangeAt ack (advanceRange ack pn idx)).largest := by
  intro idx
  induction idx using advanceRange.induct ack pn with
  | case1 idx next ih =>
      intro inside passed
      rw [advanceRange, if_pos next]
      apply ih (by omega)
      intro j below
      rcases Nat.lt_succ_iff_lt_or_eq.mp below with lower | rfl
      · exact passed j lower
      · exact next.1
  | case2 idx stop =>
      intro inside passed
      rw [advanceRange, if_neg stop]
      refine ⟨inside, passed, ?_⟩
      by_cases top : idx < ack.ackRanges.length - 1
      · have : ¬ pn > (rangeAt ack idx).largest := fun above => stop ⟨above, top⟩
        unfold PacketNumber at *
        omega
      · have atTop : idx = ack.ackRanges.length - 1 := by omega
        rw [atTop, largest_rangeAt_top]
        exact notAbove

variable (valid : ack.validateAckRanges = true)
include valid

theorem rangeAt_below {i j : Nat} (earlier : i < j) (inside : j < ack.ackRanges.length) :
    (rangeAt ack i).largest + 1 < (rangeAt ack j).smallest := by
  have pairwise := List.pairwise_iff_getElem.mp (AckFrame.ranges_pairwise valid)
    (ack.ackRanges.length - 1 - j) (ack.ackRanges.length - 1 - i) (by omega) (by omega) (by omega)
  have atI := getElem?_rangeAt ack i
  have atJ := getElem?_rangeAt ack j
  rw [List.getElem?_eq_getElem (by omega)] at atI atJ
  rw [← Option.some.inj atI, ← Option.some.inj atJ]
  exact pairwise

theorem acksPacket_iff_rangeAt {pn : PacketNumber} {k : Nat} (inside : k < ack.ackRanges.length)
    (passed : ∀ j < k, (rangeAt ack j).largest < pn) (reaches : pn ≤ (rangeAt ack k).largest) :
    ack.acksPacket pn = true ↔ (rangeAt ack k).smallest ≤ pn := by
  rw [AckFrame.acksPacket_iff valid]
  constructor
  · rintro ⟨r, mem, above, below⟩
    obtain ⟨j, insideJ, rfl⟩ := exists_rangeAt mem
    rcases Nat.lt_trichotomy j k with lower | rfl | higher
    · have := passed j lower
      unfold PacketNumber at *
      omega
    · exact above
    · have := rangeAt_below valid higher insideJ
      unfold PacketNumber at *
      omega
  · intro above
    exact ⟨rangeAt ack k, rangeAt_mem k, above, reaches⟩

theorem acksPacket_of_single {pn : PacketNumber} (single : ack.hasMissingRanges = false)
    (above : ack.lowestAcked ≤ pn) (below : pn ≤ ack.largestAcked) : ack.acksPacket pn = true := by
  obtain ⟨r, rest, split⟩ := List.exists_cons_of_ne_nil ack.nonempty
  have one : rest = [] := by
    simp only [AckFrame.hasMissingRanges, split, List.length_cons, decide_eq_false_iff_not] at single
    exact List.eq_nil_of_length_eq_zero (by omega)
  subst one
  have lowest : ack.lowestAcked = r.smallest := by simp [AckFrame.lowestAcked, split]
  have largest : ack.largestAcked = r.largest := by simp [AckFrame.largestAcked, split]
  rw [AckFrame.acksPacket_iff valid]
  exact ⟨r, by simp [split], lowest ▸ above, largest ▸ below⟩

end Ranges

/-! ## The walk -/

/-- What the walk is for: of packets in increasing order, the ones the frame
acknowledges up to the first acknowledged skipped packet, and the error for
that one if there is one. -/
def ackedBeforeSkipped (ack : AckFrame) (encLevel : EncryptionLevel) (ps : List Packet) :
    Option AckError × List Packet :=
  let acked := ps.filter fun p => ack.acksPacket p.packetNumber
  ((acked.find? Packet.skippedPacket).map fun p => skippedPacketError encLevel p.packetNumber,
    acked.takeWhile fun p => !p.skippedPacket)

section Walk

variable {ack : AckFrame} (valid : ack.validateAckRanges = true) (encLevel : EncryptionLevel)
include valid

theorem ackedPacketsStep_cases (p : Packet) {idx : Nat} (acc : List Packet)
    (inside : idx < ack.ackRanges.length) (passed : ∀ j < idx, (rangeAt ack j).largest < p.packetNumber) :
    (ack.largestAcked < p.packetNumber ∧ ackedPacketsStep ack encLevel p (idx, acc) = ((false, none), (idx, acc))) ∨
    ∃ idx', idx' < ack.ackRanges.length ∧ (∀ j < idx', (rangeAt ack j).largest < p.packetNumber) ∧
      ackedPacketsStep ack encLevel p (idx, acc) =
        if ack.acksPacket p.packetNumber then acceptPacket encLevel p idx' acc else ((true, none), (idx', acc)) := by
  unfold ackedPacketsStep
  by_cases below : p.packetNumber < ack.lowestAcked
  · have notAcked : ack.acksPacket p.packetNumber = false := by simp [AckFrame.acksPacket, below]
    exact .inr ⟨idx, inside, passed, by simp [below, notAcked]⟩
  by_cases above : p.packetNumber > ack.largestAcked
  · exact .inl ⟨above, by simp [below, above]⟩
  right
  have notAbove : p.packetNumber ≤ ack.largestAcked := by
    unfold PacketNumber at *
    omega
  by_cases missing : ack.hasMissingRanges = true
  · -- the index moves to the lowest range that reaches the packet
    obtain ⟨inside', passed', reaches⟩ := advanceRange_spec notAbove idx inside passed
    have acks := acksPacket_iff_rangeAt valid inside' passed' reaches
    refine ⟨advanceRange ack p.packetNumber idx, inside', passed', ?_⟩
    have notAboveRange : ¬ p.packetNumber > (rangeAt ack (advanceRange ack p.packetNumber idx)).largest := by
      unfold PacketNumber at *
      omega
    by_cases starts : (rangeAt ack (advanceRange ack p.packetNumber idx)).smallest ≤ p.packetNumber
    · have notBelowRange : ¬ p.packetNumber < (rangeAt ack (advanceRange ack p.packetNumber idx)).smallest := by
        unfold PacketNumber at *
        omega
      simp only [below, above, missing, ↓reduceIte, notBelowRange, notAboveRange, acks.mpr starts]
    · have belowRange : p.packetNumber < (rangeAt ack (advanceRange ack p.packetNumber idx)).smallest := by
        unfold PacketNumber at *
        omega
      have notAcked : ack.acksPacket p.packetNumber = false := by
        cases acked : ack.acksPacket p.packetNumber
        · rfl
        · exact absurd (acks.mp acked) starts
      simp only [below, above, missing, ↓reduceIte, belowRange, notAcked, Bool.false_eq_true]
  · have atLeast : ack.lowestAcked ≤ p.packetNumber := by
      unfold PacketNumber at *
      omega
    have acked := acksPacket_of_single valid (by simpa using missing) atLeast notAbove
    exact ⟨idx, inside, passed, by simp [below, above, missing, acked]⟩

omit valid in
theorem not_acks_of_above {pn : PacketNumber} (above : ack.largestAcked < pn) :
    ack.acksPacket pn = false := by
  simp [AckFrame.acksPacket, above]

theorem iterate_ackedPacketsStep : ∀ (slots : List (Option Packet)) (idx : Nat) (acc : List Packet),
    (slots.reduceOption.Pairwise fun p q => p.packetNumber < q.packetNumber) → idx < ack.ackRanges.length →
    (∀ q ∈ slots.reduceOption, ∀ j < idx, (rangeAt ack j).largest < q.packetNumber) →
    ∃ idx', iterate (ackedPacketsStep ack encLevel) slots (idx, acc) =
      ((ackedBeforeSkipped ack encLevel slots.reduceOption).1,
        (idx', acc ++ (ackedBeforeSkipped ack encLevel slots.reduceOption).2)) := by
  intro slots
  induction slots with
  | nil =>
      intro idx acc _ _ _
      exact ⟨idx, by simp [iterate, ackedBeforeSkipped]⟩
  | cons slot rest ih =>
      intro idx acc increasing inside passed
      cases slot with
      | none =>
          rw [List.reduceOption_cons_of_none] at increasing passed ⊢
          exact ih idx acc increasing inside passed
      | some p =>
          rw [List.reduceOption_cons_of_some] at increasing passed ⊢
          obtain ⟨later, increasing⟩ := List.pairwise_cons.mp increasing
          have restPassed : ∀ k, (∀ j < k, (rangeAt ack j).largest < p.packetNumber) →
              ∀ q ∈ rest.reduceOption, ∀ j < k, (rangeAt ack j).largest < q.packetNumber :=
            fun k passedP q mem j lower => Int.lt_trans (passedP j lower) (later q mem)
          rcases ackedPacketsStep_cases valid encLevel p acc inside (passed p List.mem_cons_self) with
            ⟨above, step⟩ | ⟨k, inside', passed', step⟩
          · -- above `largestAcked`: nothing from here on is acknowledged
            have none : (p :: rest.reduceOption).filter (fun q => ack.acksPacket q.packetNumber) = [] := by
              rw [List.filter_eq_nil_iff]
              intro q mem
              rcases List.mem_cons.mp mem with rfl | after
              · simp [not_acks_of_above above]
              · simp [not_acks_of_above (Int.lt_trans above (later q after))]
            refine ⟨idx, ?_⟩
            simp only [iterate, step, ackedBeforeSkipped, none, List.find?_nil, Option.map_none,
              List.takeWhile_nil, List.append_nil]
          · cases acks : ack.acksPacket p.packetNumber
            · rw [acks, if_neg Bool.false_ne_true] at step
              obtain ⟨idx', rest'⟩ := ih k acc increasing inside' (restPassed k passed')
              refine ⟨idx', ?_⟩
              simpa [iterate, step, ackedBeforeSkipped, acks] using rest'
            · rw [acks, if_pos rfl] at step
              cases skipped : p.skippedPacket
              · obtain ⟨idx', rest'⟩ := ih k (acc ++ [p]) increasing inside' (restPassed k passed')
                refine ⟨idx', ?_⟩
                simp only [acceptPacket, skipped, Bool.false_eq_true, ↓reduceIte] at step
                simpa [iterate, step, ackedBeforeSkipped, acks, skipped] using rest'
              · refine ⟨k, ?_⟩
                simp only [acceptPacket, skipped, ↓reduceIte] at step
                simp [iterate, step, ackedBeforeSkipped, acks, skipped]

end Walk

/-! ## Removing what the walk collected -/

theorem removeAcked_spec (encLevel : EncryptionLevel) : ∀ (ps : List Packet) (s : AckHandling),
    Wellformed s.history → (∀ p ∈ ps, some p ∈ s.history.packets ∧ p.skippedPacket = false) →
    (ps.Pairwise fun p q => p.packetNumber < q.packetNumber) →
    ∃ s', removeAcked encLevel ps s = .ok none s' ∧ Wellformed s'.history ∧
      s'.onAcked = s.onAcked ++ ps ∧ (∀ p ∈ ps, some p ∉ s'.history.packets) ∧
      ∀ q, some q ∈ s'.history.packets → some q ∈ s.history.packets := by
  intro ps
  induction ps with
  | nil =>
      intro s wellformed _ _
      exact ⟨s, rfl, wellformed, by simp, by simp, fun _ held => held⟩
  | cons p rest ih =>
      intro s wellformed held increasing
      obtain ⟨later, increasing⟩ := List.pairwise_cons.mp increasing
      obtain ⟨i, inside, atI⟩ := List.getElem_of_mem (held p List.mem_cons_self).1
      obtain ⟨h', removal, removed⟩ :=
        remove_of_held wellformed (by rw [List.getElem?_eq_getElem inside, atI])
      let told : AckHandling := { s with
        lowestNotConfirmedAcked := if p.largestAcked ≠ invalidPacketNumber ∧ encLevel = .oneRTT then
          max s.lowestNotConfirmedAcked (p.largestAcked + 1) else s.lowestNotConfirmedAcked
        onAcked := s.onAcked ++ [p] }
      have step : removeAcked encLevel (p :: rest) s = removeAcked encLevel rest { told with history := h' } := by
        by_cases confirmed : p.largestAcked ≠ invalidPacketNumber ∧ encLevel = .oneRTT
        · simp only [removeAcked, confirmed, ne_eq, not_false_eq_true, and_self, ↓reduceIte, Call.bind_apply,
            Call.modify_apply, Call.attempt_apply, Call.focus_apply, removal, told]
        · simp only [removeAcked, confirmed, ↓reduceIte, Call.bind_apply,
            Call.modify_apply, Call.attempt_apply, Call.focus_apply, removal, told]
      have stillHeld : ∀ q ∈ rest, some q ∈ h'.packets ∧ q.skippedPacket = false := by
        intro q mem
        obtain ⟨heldQ, notSkipped⟩ := held q (List.mem_cons_of_mem _ mem)
        have other : q ≠ p := fun same => by
          have := later q mem
          rw [same] at this
          exact Int.lt_irrefl _ this
        exact ⟨removed.kept q heldQ ⟨other, notSkipped⟩, notSkipped⟩
      obtain ⟨s', run, wellformed', told', gone, sub⟩ :=
        ih { told with history := h' } removed.wellformed stillHeld increasing
      refine ⟨s', by rw [step, run], wellformed', by simp [told', told], ?_,
        fun q heldQ => removed.sub q (sub q heldQ)⟩
      intro q mem
      rcases List.mem_cons.mp mem with rfl | after
      · exact fun heldAgain => removed.gone (sub q heldAgain)
      · exact gone q after

theorem detectAndRemoveAckedPackets_spec {ack : AckFrame} (valid : ack.validateAckRanges = true)
    (encLevel : EncryptionLevel) {s : AckHandling} (wellformed : Wellformed s.history) :
    ∃ s', detectAndRemoveAckedPackets ack encLevel s =
        .ok ((ackedBeforeSkipped ack encLevel s.history.packets.reduceOption).2,
          (ackedBeforeSkipped ack encLevel s.history.packets.reduceOption).1) s' ∧
      Wellformed s'.history ∧
      s'.onAcked = s.onAcked ++ (ackedBeforeSkipped ack encLevel s.history.packets.reduceOption).2 ∧
      ∀ p ∈ (ackedBeforeSkipped ack encLevel s.history.packets.reduceOption).2, some p ∉ s'.history.packets := by
  obtain ⟨base, numbered⟩ := wellformed.laid.numbered
  have increasing := numbered.pairwise
  obtain ⟨k, walk⟩ := iterate_ackedPacketsStep valid encLevel s.history.packets 0 [] increasing
    (List.length_pos_of_ne_nil ack.nonempty) (fun _ _ j lower => absurd lower (Nat.not_lt_zero j))
  have collected := List.takeWhile_sublist (fun p : Packet => !p.skippedPacket)
    (l := s.history.packets.reduceOption.filter fun p => ack.acksPacket p.packetNumber)
  have held : ∀ p ∈ (ackedBeforeSkipped ack encLevel s.history.packets.reduceOption).2,
      some p ∈ s.history.packets ∧ p.skippedPacket = false := by
    intro p mem
    refine ⟨List.reduceOption_mem_iff.mp (List.mem_of_mem_filter (collected.mem mem)), ?_⟩
    simpa using List.mem_takeWhile_imp mem
  obtain ⟨s', removal, wellformed', told, gone, -⟩ :=
    removeAcked_spec encLevel _ s wellformed held ((increasing.filter _).sublist collected)
  refine ⟨s', ?_, wellformed', told, gone⟩
  simp only [detectAndRemoveAckedPackets, Call.bind_apply, Call.get_apply, walk, List.nil_append, removal,
    Call.pure_apply]

/-- ACK processing acknowledges exactly what the frame acknowledges: on every
history reached by calls that send consecutive packet numbers, with `Remove`
and `DeclareLost` in between, and every frame `validateAckRanges` accepts,
`detectAndRemoveAckedPackets` returns the packets held that `AcksPacket`
acknowledges, in increasing packet-number order, up to the first of them that
is a skipped packet; its error is the protocol violation for that skipped
packet, and there is none when none of them is skipped.  The error of a wrong
range and that of a `Remove` that finds nothing never come back. -/
theorem detectAndRemoveAckedPackets_exact (ops : List Op) (consecutive : Consecutive ops)
    (h : SentPacketHistory) (reached : run ops newSentPacketHistory = .ok () h)
    (ack : AckFrame) (valid : ack.validateAckRanges = true) (encLevel : EncryptionLevel)
    (lowestNotConfirmedAcked : PacketNumber) (onAcked : List Packet) :
    (h.packets.reduceOption.filter fun p => ack.acksPacket p.packetNumber).Pairwise
        (fun p q => p.packetNumber < q.packetNumber) ∧
    ∃ s', detectAndRemoveAckedPackets ack encLevel ⟨h, lowestNotConfirmedAcked, onAcked⟩ =
      .ok ((h.packets.reduceOption.filter fun p => ack.acksPacket p.packetNumber).takeWhile
            (fun p => !p.skippedPacket),
          ((h.packets.reduceOption.filter fun p => ack.acksPacket p.packetNumber).find?
            Packet.skippedPacket).map fun p => skippedPacketError encLevel p.packetNumber) s' := by
  have wellformed := (run_lands ops wellformed_newSentPacketHistory (fun _ _ => .inr ⟨rfl, rfl⟩)
    consecutive).2 h reached
  obtain ⟨base, numbered⟩ := wellformed.laid.numbered
  obtain ⟨s', detected, -⟩ := detectAndRemoveAckedPackets_spec valid encLevel
    (s := ⟨h, lowestNotConfirmedAcked, onAcked⟩) wellformed
  exact ⟨numbered.pairwise.filter _, s', detected⟩

/-- Packets 0 and 2 to 4 held, 3 skipped, and an ACK of 2 to 4: packet 2 comes
back with the protocol violation for 3. -/
theorem detectAndRemoveAckedPackets_exact_skipped :
    run [.sentAckElicitingPacket { packetNumber := 0 }, .sentNonAckElicitingPacket 1,
        .sentAckElicitingPacket { packetNumber := 2 }, .skippedPacket 3,
        .sentAckElicitingPacket { packetNumber := 4 }] newSentPacketHistory =
      .ok () ⟨[some { packetNumber := 0 }, none, some { packetNumber := 2 },
        some { packetNumber := 3, skippedPacket := true }, some { packetNumber := 4 }], 3, 4⟩ ∧
    ∃ s', detectAndRemoveAckedPackets ⟨[⟨2, 4⟩], List.cons_ne_nil _ _, 0, 0, 0, 0⟩ .oneRTT
        ⟨⟨[some { packetNumber := 0 }, none, some { packetNumber := 2 },
          some { packetNumber := 3, skippedPacket := true }, some { packetNumber := 4 }], 3, 4⟩, 0, []⟩ =
      .ok ([{ packetNumber := 2 }], some (skippedPacketError .oneRTT 3)) s' := by
  have reached : run [.sentAckElicitingPacket { packetNumber := 0 }, .sentNonAckElicitingPacket 1,
      .sentAckElicitingPacket { packetNumber := 2 }, .skippedPacket 3,
      .sentAckElicitingPacket { packetNumber := 4 }] newSentPacketHistory =
    .ok () ⟨[some { packetNumber := 0 }, none, some { packetNumber := 2 },
      some { packetNumber := 3, skippedPacket := true }, some { packetNumber := 4 }], 3, 4⟩ := rfl
  obtain ⟨-, s', detected⟩ := detectAndRemoveAckedPackets_exact _ (by decide) _ reached
    ⟨[⟨2, 4⟩], List.cons_ne_nil _ _, 0, 0, 0, 0⟩ (by decide) .oneRTT 0 []
  exact ⟨reached, s', detected⟩

end QuicFec.Ackhandler
