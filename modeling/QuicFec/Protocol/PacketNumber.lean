import QuicFec.Protocol

/-! # Truncated packet numbers

`internal/protocol/packet_number.go`: a packet carries only the low
`8 * PacketNumberLen` bits of its packet number, and `DecodePacketNumber`
restores the full number from the highest one received so far.  The decoder
looks at the three numbers with the received bits in the epoch of the last
packet number, the epoch before and the epoch after, and takes the one
closest to the next expected number.

The decoder is right whenever the packet number is less than half an epoch
away from the next expected number: it is then strictly the closest number
with those low bits (`abs_sub_lt_of_dvd`).  `GetPacketNumberLengthForHeader`
picks the length from the distance to the lowest unacknowledged packet, so a
receiver far behind the sender can be more than half an epoch away.

Packet numbers are `int64`s; the numbers here stay far from the ends of that
range (below `2^62`, with epochs of at most `2^32`), and `Int` computes them
exactly. -/
set_option autoImplicit false

namespace QuicFec.Protocol

/-- `protocol.PacketNumberLen`, a byte; the lengths in use are 1 to 4. -/
abbrev PacketNumberLen := Nat

/-- The `epochDelta` of `DecodePacketNumber`: `PacketNumber(1) << 8` and so on,
and 0 for a length the `switch` does not list. -/
def epochDelta : PacketNumberLen → PacketNumber
  | 1 => 2 ^ 8
  | 2 => 2 ^ 16
  | 3 => 2 ^ 24
  | 4 => 2 ^ 32
  | _ => 0

def delta (a b : PacketNumber) : PacketNumber := if a < b then b - a else a - b

/-- `closestTo`: `a` if it is strictly closer to `target`, `b` otherwise. -/
def closestTo (target a b : PacketNumber) : PacketNumber :=
  if delta target a < delta target b then a else b

/-- `DecodePacketNumber`.  On an `int64`, `lastPacketNumber & ^(epochDelta - 1)`
rounds down to a multiple of `epochDelta` (and is 0 when `epochDelta` is 0),
which is the floor division below. -/
def decodePacketNumber (packetNumberLength : PacketNumberLen)
    (lastPacketNumber wirePacketNumber : PacketNumber) : PacketNumber :=
  let epochDelta := epochDelta packetNumberLength
  let epoch := lastPacketNumber / epochDelta * epochDelta
  let prevEpochBegin := if epoch > epochDelta then epoch - epochDelta else 0
  let nextEpochBegin := epoch + epochDelta
  closestTo (lastPacketNumber + 1) (epoch + wirePacketNumber)
    (closestTo (lastPacketNumber + 1) (prevEpochBegin + wirePacketNumber) (nextEpochBegin + wirePacketNumber))

/-- `GetPacketNumberLengthForHeader`: never one byte.  The difference is
converted to `uint64`, so a negative one wraps around. -/
def getPacketNumberLengthForHeader (packetNumber leastUnacked : PacketNumber) : PacketNumberLen :=
  let diff := ((packetNumber - leastUnacked) % 2 ^ 64).toNat
  if diff < 2 ^ (16 - 1) then 2
  else if diff < 2 ^ (24 - 1) then 3
  else 4

/-- The low bits a packet number of this length carries. -/
def truncate (packetNumberLength : PacketNumberLen) (packetNumber : PacketNumber) : PacketNumber :=
  packetNumber % 2 ^ (8 * packetNumberLength)

/-! ## The closest number with given low bits -/

section Closest

variable {period pn target c : Int}

theorem abs_sub_lt_of_dvd (close : 2 * |pn - target| < period) (congruent : period ∣ c - pn)
    (other : c ≠ pn) : |target - pn| < |target - c| := by
  obtain ⟨m, multiple⟩ := congruent
  have positive : 0 < period := lt_of_le_of_lt (by positivity) close
  have nonzero : m ≠ 0 := by
    rintro rfl
    exact other (by linarith)
  have apart : period ≤ |c - pn| := by
    rw [multiple, abs_mul, abs_of_pos positive]
    nlinarith [Int.one_le_abs nonzero]
  have triangle : |c - pn| ≤ |target - c| + |target - pn| := by
    calc |c - pn| = |(target - pn) - (target - c)| := by ring_nf
      _ ≤ |target - pn| + |target - c| := abs_sub _ _
      _ = |target - c| + |target - pn| := add_comm _ _
  rw [abs_sub_comm] at close
  linarith

theorem delta_eq_abs (a b : PacketNumber) : delta a b = |a - b| := by
  unfold delta
  by_cases below : a < b
  · rw [if_pos below, abs_of_neg (sub_neg.mpr below)]
    ring
  · rw [if_neg below, abs_of_nonneg (sub_nonneg.mpr (not_lt.mp below))]

theorem closestTo_left (close : 2 * |pn - target| < period) (congruent : period ∣ c - pn) :
    closestTo target pn c = pn := by
  unfold closestTo
  by_cases same : c = pn
  · rw [same, if_neg (lt_irrefl _)]
  · rw [if_pos (by rw [delta_eq_abs, delta_eq_abs]; exact abs_sub_lt_of_dvd close congruent same)]

theorem closestTo_right (close : 2 * |pn - target| < period) (congruent : period ∣ c - pn) :
    closestTo target c pn = pn := by
  unfold closestTo
  by_cases same : c = pn
  · rw [same, if_neg (lt_irrefl _)]
  · rw [if_neg (by rw [delta_eq_abs, delta_eq_abs]; exact not_lt.mpr (abs_sub_lt_of_dvd close congruent same).le)]

theorem closestTo_eq_or (target a b : PacketNumber) : closestTo target a b = a ∨ closestTo target a b = b := by
  unfold closestTo
  by_cases closer : delta target a < delta target b
  · exact .inl (if_pos closer)
  · exact .inr (if_neg closer)

end Closest

/-! ## Decoding -/

section Decode

variable {packetNumberLength : PacketNumberLen} {lastPacketNumber packetNumber : PacketNumber}

theorem prevEpochBegin_eq {period epochs bits : Int} (positive : 0 < period) (bitsLt : bits < period)
    (nonneg : 0 ≤ period * (epochs - 1) + bits) :
    (if epochs * period > period then epochs * period - period else 0) = epochs * period - period := by
  split_ifs with large
  · rfl
  · have atLeastOne : 1 ≤ epochs := by
      by_contra small
      have : period * (epochs - 1) ≤ period * (-1) := mul_le_mul_of_nonneg_left (by omega) positive.le
      linarith
    nlinarith

theorem decodePacketNumber_eq (positive : 0 < epochDelta packetNumberLength) (lastNonneg : 0 ≤ lastPacketNumber)
    (nonneg : 0 ≤ packetNumber)
    (close : 2 * |packetNumber - (lastPacketNumber + 1)| < epochDelta packetNumberLength) :
    decodePacketNumber packetNumberLength lastPacketNumber (packetNumber % epochDelta packetNumberLength) =
      packetNumber := by
  unfold decodePacketNumber
  dsimp only
  unfold PacketNumber at *
  generalize epochDelta packetNumberLength = period at positive close ⊢
  have split := Int.mul_ediv_add_emod packetNumber period
  have bitsNonneg := Int.emod_nonneg packetNumber (ne_of_gt positive)
  have bitsLt := Int.emod_lt_of_pos packetNumber positive
  have epochLe := Int.ediv_mul_le lastPacketNumber (ne_of_gt positive)
  have epochGt := Int.lt_ediv_add_one_mul_self lastPacketNumber positive
  have epochsNonneg : 0 ≤ lastPacketNumber / period := Int.ediv_nonneg lastNonneg positive.le
  have within : |packetNumber - (lastPacketNumber + 1)| < period := by
    linarith [abs_nonneg (packetNumber - (lastPacketNumber + 1))]
  obtain ⟨closeBelow, closeAbove⟩ := abs_lt.mp within
  generalize packetNumber % period = bits at split bitsNonneg bitsLt ⊢
  generalize packetNumber / period = epochsAt at split
  generalize lastPacketNumber / period = epochs at epochLe epochGt epochsNonneg ⊢
  subst split
  -- the packet number lies in the epoch before, the same epoch or the next one
  have above : -2 < epochsAt - epochs := by
    by_contra far
    have : period * (epochsAt - epochs) ≤ period * (-2) :=
      mul_le_mul_of_nonneg_left (not_lt.mp far) positive.le
    nlinarith
  have below : epochsAt - epochs < 2 := by
    by_contra far
    have : period * 2 ≤ period * (epochsAt - epochs) := mul_le_mul_of_nonneg_left (not_lt.mp far) positive.le
    nlinarith
  rcases (by omega : epochsAt = epochs - 1 ∨ epochsAt = epochs ∨ epochsAt = epochs + 1) with
    before | same | after
  · subst before
    rw [prevEpochBegin_eq positive bitsLt nonneg,
      show epochs * period - period + bits = period * (epochs - 1) + bits by ring,
      closestTo_left close ⟨2, by ring⟩, closestTo_right close ⟨1, by ring⟩]
  · subst epochsAt
    rw [show epochs * period + bits = period * epochs + bits by ring]
    rcases closestTo_eq_or (lastPacketNumber + 1)
        ((if epochs * period > period then epochs * period - period else 0) + bits)
        (epochs * period + period + bits) with inner | inner <;> rw [inner]
    · split_ifs
      · exact closestTo_left close ⟨-1, by ring⟩
      · exact closestTo_left close ⟨-epochs, by ring⟩
    · exact closestTo_left close ⟨1, by ring⟩
  · subst after
    rw [show epochs * period + period + bits = period * (epochs + 1) + bits by ring]
    have inner : closestTo (lastPacketNumber + 1)
        ((if epochs * period > period then epochs * period - period else 0) + bits)
        (period * (epochs + 1) + bits) = period * (epochs + 1) + bits := by
      split_ifs
      · exact closestTo_right close ⟨-2, by ring⟩
      · exact closestTo_right close ⟨-(epochs + 1), by ring⟩
    rw [inner, closestTo_right close ⟨-1, by ring⟩]

theorem epochDelta_eq {packetNumberLength : PacketNumberLen} (atLeast : 1 ≤ packetNumberLength)
    (atMost : packetNumberLength ≤ 4) : epochDelta packetNumberLength = 2 ^ (8 * packetNumberLength) := by
  unfold PacketNumberLen at *
  obtain rfl | rfl | rfl | rfl : packetNumberLength = 1 ∨ packetNumberLength = 2 ∨ packetNumberLength = 3 ∨
      packetNumberLength = 4 := by omega
  all_goals rfl

theorem decodePacketNumber_truncate {packetNumberLength : PacketNumberLen} (atLeast : 1 ≤ packetNumberLength)
    (atMost : packetNumberLength ≤ 4) (lastNonneg : 0 ≤ lastPacketNumber) (nonneg : 0 ≤ packetNumber)
    (close : |packetNumber - (lastPacketNumber + 1)| < 2 ^ (8 * packetNumberLength - 1)) :
    decodePacketNumber packetNumberLength lastPacketNumber (truncate packetNumberLength packetNumber) =
      packetNumber := by
  have epoch := epochDelta_eq atLeast atMost
  have halves : (2 : Int) ^ (8 * packetNumberLength) = 2 * 2 ^ (8 * packetNumberLength - 1) := by
    rw [← pow_succ']
    congr 1
    unfold PacketNumberLen at *
    omega
  rw [truncate, ← epoch]
  apply decodePacketNumber_eq (by rw [epoch]; positivity) lastNonneg nonneg
  rw [epoch, halves]
  linarith

theorem two_mul_le_epochDelta {leastUnacked : PacketNumber} (ahead : leastUnacked ≤ packetNumber)
    (near : packetNumber - leastUnacked ≤ 2 ^ 31) :
    2 * (packetNumber - leastUnacked) ≤ epochDelta (getPacketNumberLengthForHeader packetNumber leastUnacked) := by
  unfold getPacketNumberLengthForHeader
  dsimp only
  unfold PacketNumber at *
  rw [Int.emod_eq_of_lt (show 0 ≤ packetNumber - leastUnacked by omega)
    (show packetNumber - leastUnacked < 2 ^ 64 by omega)]
  split_ifs <;> simp only [epochDelta] <;> omega

theorem getPacketNumberLengthForHeader_pos (packetNumber leastUnacked : PacketNumber) :
    1 ≤ getPacketNumberLengthForHeader packetNumber leastUnacked ∧
      getPacketNumberLengthForHeader packetNumber leastUnacked ≤ 4 := by
  unfold getPacketNumberLengthForHeader
  dsimp only
  split_ifs <;> decide

theorem decodePacketNumber_getPacketNumberLengthForHeader {leastUnacked : PacketNumber}
    (acked : leastUnacked ≤ lastPacketNumber) (sent : lastPacketNumber < packetNumber)
    (lastNonneg : 0 ≤ lastPacketNumber) (near : packetNumber - leastUnacked ≤ 2 ^ 31) :
    decodePacketNumber (getPacketNumberLengthForHeader packetNumber leastUnacked) lastPacketNumber
        (truncate (getPacketNumberLengthForHeader packetNumber leastUnacked) packetNumber) = packetNumber := by
  obtain ⟨atLeast, atMost⟩ := getPacketNumberLengthForHeader_pos packetNumber leastUnacked
  have twice := two_mul_le_epochDelta (le_of_lt (lt_of_le_of_lt acked sent)) near
  have epoch := epochDelta_eq atLeast atMost
  rw [truncate, ← epoch]
  apply decodePacketNumber_eq (by rw [epoch]; positivity) lastNonneg (by linarith)
  rw [abs_of_nonneg (sub_nonneg.mpr (Int.add_one_le_iff.mpr sent))]
  linarith

end Decode

/-! ## The round trip through the header -/

/-- A packet number survives truncation to any length from 1 to 4 bytes when it
is less than half an epoch from the next expected number, and truncation to the
length `GetPacketNumberLengthForHeader` picks when it is at most `2^31` past the
largest acknowledged packet, which the receiver has seen. -/
theorem packetNumber_truncation_roundTrip :
    (∀ (packetNumberLength : PacketNumberLen) (lastPacketNumber packetNumber : PacketNumber),
        1 ≤ packetNumberLength → packetNumberLength ≤ 4 → 0 ≤ lastPacketNumber → 0 ≤ packetNumber →
        packetNumber < 2 ^ 62 → |packetNumber - (lastPacketNumber + 1)| < 2 ^ (8 * packetNumberLength - 1) →
        decodePacketNumber packetNumberLength lastPacketNumber (truncate packetNumberLength packetNumber) =
          packetNumber) ∧
    (∀ largestAcked lastPacketNumber packetNumber : PacketNumber,
        largestAcked ≤ lastPacketNumber → lastPacketNumber < packetNumber → 0 ≤ lastPacketNumber →
        packetNumber < 2 ^ 62 → packetNumber - largestAcked ≤ 2 ^ 31 →
        decodePacketNumber (getPacketNumberLengthForHeader packetNumber largestAcked) lastPacketNumber
          (truncate (getPacketNumberLengthForHeader packetNumber largestAcked) packetNumber) = packetNumber) := by
  constructor
  · intro packetNumberLength lastPacketNumber packetNumber atLeast atMost lastNonneg nonneg _ close
    exact decodePacketNumber_truncate atLeast atMost lastNonneg nonneg close
  · intro largestAcked lastPacketNumber packetNumber acked sent lastNonneg _ near
    exact decodePacketNumber_getPacketNumberLengthForHeader acked sent lastNonneg near

/-- Packet 259 crosses the one-byte epoch after packet 254, and packet 40000 is
sent with three bytes to a receiver at packet 300. -/
theorem packetNumber_truncation_roundTrip_acrossEpoch :
    decodePacketNumber 1 254 (truncate 1 259) = 259 ∧
      decodePacketNumber (getPacketNumberLengthForHeader 40000 200) 300
        (truncate (getPacketNumberLengthForHeader 40000 200) 40000) = 40000 :=
  ⟨packetNumber_truncation_roundTrip.1 1 254 259 (by decide) (by decide) (by decide) (by decide) (by decide)
      (by decide),
    packetNumber_truncation_roundTrip.2 200 300 40000 (by decide) (by decide) (by decide) (by decide)
      (by decide)⟩

/-- With nothing acknowledged since packet 0, packet `2^32 + 5` gets four bytes,
which carry only 5, and the receiver at packet 0 decodes 5. -/
theorem decodePacketNumber_far_ahead_of_largestAcked :
    getPacketNumberLengthForHeader (2 ^ 32 + 5) 0 = 4 ∧
      decodePacketNumber (getPacketNumberLengthForHeader (2 ^ 32 + 5) 0) 0
        (truncate (getPacketNumberLengthForHeader (2 ^ 32 + 5) 0) (2 ^ 32 + 5)) = 5 := by
  decide


end QuicFec.Protocol
