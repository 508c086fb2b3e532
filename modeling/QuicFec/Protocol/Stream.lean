import QuicFec.Lib.Go
import QuicFec.Protocol

/-! # Stream IDs

`internal/protocol/stream.go`: a stream ID carries the stream's initiator in
its lowest bit and its direction in the next one; the rest counts the streams
of that kind before it.  Stream numbers and IDs are `int64`s, and
`StreamNum.StreamID` computes in `int64`, so it wraps for stream numbers above
`2 ^ 61`.  Up to there (every number up to `MaxStreamCount = 2 ^ 60` a peer may
use is), the ID gives back type, initiator and number (`streamID_roundTrip`),
and different streams get different IDs. -/
set_option autoImplicit false

namespace QuicFec.Protocol

open Go

/-- `protocol.StreamNum`, an `int64`. -/
abbrev StreamNum := Int

/-- `protocol.StreamID`, an `int64`. -/
abbrev StreamID := Int

def invalidStreamID : StreamID := -1

def invalidStreamNum : StreamNum := -1

/-- The ID of the first stream of a type opened by one side. -/
def firstStreamID : StreamType → Perspective → StreamID
  | .bidi, .client => 0
  | .bidi, .server => 1
  | .uni, .client => 2
  | .uni, .server => 3

/-- `StreamNum.StreamID`: every operation of `first + 4*StreamID(s-1)` wraps. -/
def StreamNum.streamID (s : StreamNum) (stype : StreamType) (pers : Perspective) : StreamID :=
  if s = 0 then invalidStreamID
  else int64 (firstStreamID stype pers + int64 (4 * int64 (s - 1)))

/-- `StreamID.InitiatedBy`; Go's `%` truncates. -/
def StreamID.initiatedBy (s : StreamID) : Perspective :=
  if s.tmod 2 = 0 then .client else .server

def StreamID.type (s : StreamID) : StreamType :=
  if s.tmod 4 ≥ 2 then .uni else .bidi

/-- `StreamID.StreamNum`; `s/4 + 1` lies well inside `int64`. -/
def StreamID.streamNum (s : StreamID) : StreamNum := s.tdiv 4 + 1

theorem firstStreamID_bounds (stype : StreamType) (pers : Perspective) :
    0 ≤ firstStreamID stype pers ∧ firstStreamID stype pers < 4 := by
  cases stype <;> cases pers <;> decide

theorem streamID_eq {s : StreamNum} (positive : 1 ≤ s) (small : s ≤ 2 ^ 61)
    (stype : StreamType) (pers : Perspective) :
    s.streamID stype pers = firstStreamID stype pers + 4 * (s - 1) := by
  have first := firstStreamID_bounds stype pers
  unfold StreamNum StreamID at *
  have nonzero : s ≠ 0 := by omega
  rw [StreamNum.streamID, if_neg nonzero, int64_mul_int64, int64_add_int64]
  exact int64_of_isInt64 (by unfold IsInt64; omega)

/-! ## Decoding -/

section Decode

variable {s : StreamID} (nonneg : 0 ≤ s)
include nonneg

theorem initiatedBy_eq : s.initiatedBy = if s % 2 = 0 then .client else .server := by
  rw [StreamID.initiatedBy, Int.tmod_eq_emod_of_nonneg nonneg]

theorem type_eq : s.type = if s % 4 ≥ 2 then .uni else .bidi := by
  rw [StreamID.type, Int.tmod_eq_emod_of_nonneg nonneg]

theorem streamNum_eq : s.streamNum = s / 4 + 1 := by
  rw [StreamID.streamNum, Int.tdiv_eq_ediv_of_nonneg nonneg]

end Decode

theorem firstStreamID_add_four_mul {first k : Int} (low : 0 ≤ first ∧ first < 4) (nonneg : 0 ≤ k) :
    0 ≤ first + 4 * k ∧ (first + 4 * k) % 4 = first ∧ (first + 4 * k) % 2 = first % 2 ∧
      (first + 4 * k) / 4 = k := by
  omega

theorem streamID_roundTrip (stype : StreamType) (pers : Perspective) (s : StreamNum)
    (positive : 1 ≤ s) (small : s ≤ 2 ^ 61) :
    (s.streamID stype pers).type = stype ∧ (s.streamID stype pers).initiatedBy = pers ∧
      (s.streamID stype pers).streamNum = s := by
  rw [streamID_eq positive small]
  obtain ⟨nonneg, low, lowest, count⟩ :=
    firstStreamID_add_four_mul (firstStreamID_bounds stype pers) (Int.sub_nonneg_of_le positive)
  refine ⟨?_, ?_, ?_⟩
  · rw [type_eq nonneg, low]
    cases stype <;> cases pers <;> decide
  · rw [initiatedBy_eq nonneg, lowest]
    cases stype <;> cases pers <;> decide
  · rw [streamNum_eq nonneg, count, Int.sub_add_cancel]

theorem firstStreamID_type_initiatedBy {id : StreamID} (nonneg : 0 ≤ id) :
    firstStreamID id.type id.initiatedBy = id % 4 := by
  rw [type_eq nonneg, initiatedBy_eq nonneg, ← Int.emod_emod_of_dvd id (show (2 : Int) ∣ 4 by decide)]
  unfold StreamID at id
  have low : id % 4 = 0 ∨ id % 4 = 1 ∨ id % 4 = 2 ∨ id % 4 = 3 := by omega
  -- one case per value of the two bits
  rcases low with low | low | low | low <;> rw [low] <;> decide

theorem streamID_streamNum {id : StreamID} (nonneg : 0 ≤ id) (fits : id < 2 ^ 63) :
    id.streamNum.streamID id.type id.initiatedBy = id := by
  unfold StreamID at *
  have positive : (1 : Int) ≤ id / 4 + 1 := by omega
  have small : id / 4 + 1 ≤ (2 : Int) ^ 61 := by omega
  rw [streamNum_eq nonneg, streamID_eq positive small, firstStreamID_type_initiatedBy nonneg]
  omega

theorem streamID_injective {stype stype' : StreamType} {pers pers' : Perspective} {s s' : StreamNum}
    (positive : 1 ≤ s) (small : s ≤ 2 ^ 61) (positive' : 1 ≤ s') (small' : s' ≤ 2 ^ 61)
    (same : s.streamID stype pers = s'.streamID stype' pers') :
    stype = stype' ∧ pers = pers' ∧ s = s' := by
  obtain ⟨type, initiator, num⟩ := streamID_roundTrip stype pers s positive small
  obtain ⟨type', initiator', num'⟩ := streamID_roundTrip stype' pers' s' positive' small'
  rw [same] at type initiator num
  exact ⟨type.symm.trans type', initiator.symm.trans initiator', num.symm.trans num'⟩

/-- Stream number `2 ^ 62` wraps: `4*StreamID(s-1)` is -4, which is also the
bidirectional client ID, and its number is 0. -/
theorem streamID_wraps :
    StreamNum.streamID (2 ^ 62) .bidi .client = -4 ∧
      (StreamNum.streamID (2 ^ 62) .bidi .client).streamNum = 0 := by
  decide

end QuicFec.Protocol
