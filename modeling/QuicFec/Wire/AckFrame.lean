import QuicFec.Quicvarint
import QuicFec.Protocol

/-! # ACK frames

`internal/wire/ack_frame.go` and `ack_range.go`: the ranges an ACK frame
carries, the lookups the sent packet handler makes on them, and the frame's
length and serialization.  An ACK frame encodes only as many ranges as fit in
`protocol.MaxAckFrameSize` bytes (`numEncodableAckRanges`); `Length` and
`Append` both stop there.  The count leaves out the first range and the ECN
counts, so an encoded frame can pass `MaxAckFrameSize` by up to 32 bytes.

Packet numbers are `int64`s; the differences the encoder converts to
`uint64` are non-negative on every frame `validateAckRanges` accepts, and are
taken with `Int.toNat`. -/
set_option autoImplicit false

namespace QuicFec.Wire

open Go QuicFec.Protocol

/-- `wire.AckRange`: the packet numbers `smallest` to `largest`. -/
structure AckRange where
  smallest : PacketNumber
  largest : PacketNumber
deriving DecidableEq, Repr

def AckRange.len (r : AckRange) : PacketNumber := r.largest - r.smallest + 1

/-- `wire.AckFrame`, its ranges ordered from the highest to the lowest.  Every
ACK frame the received packet handler builds and every one `parseAckFrame`
returns has at least one range, which `LargestAcked` and `LowestAcked` index
without a check. -/
structure AckFrame where
  ackRanges : List AckRange
  nonempty : ackRanges ≠ []
  /-- `DelayTime`, in nanoseconds. -/
  delayTime : Nat
  ect0 : Nat
  ect1 : Nat
  ecnce : Nat
deriving DecidableEq

namespace AckFrame

def ackFrameType : Nat := 0x2

def ackECNFrameType : Nat := 0x3

def largestAcked (f : AckFrame) : PacketNumber := (f.ackRanges.head f.nonempty).largest

def lowestAcked (f : AckFrame) : PacketNumber := (f.ackRanges.getLast f.nonempty).smallest

def hasMissingRanges (f : AckFrame) : Bool := decide (1 < f.ackRanges.length)

/-- `AckFrame.AcksPacket`.  `sort.Search` finds the first range whose smallest
packet number is at most `p`; on ranges that descend, as `validateAckRanges`
demands, that is the first such range in list order.  One exists once `p` is
not below `LowestAcked`. -/
def acksPacket (f : AckFrame) (p : PacketNumber) : Bool :=
  if p < f.lowestAcked || p > f.largestAcked then false
  else
    match f.ackRanges.find? (fun r => decide (r.smallest ≤ p)) with
    | some r => decide (p ≤ r.largest)
    | none => false

/-- The consistency loop of `validateAckRanges`: each range lies strictly
below the previous one, with at least one missing packet between them. -/
def rangesDescend : List AckRange → Bool
  | prev :: cur :: rest =>
      decide (cur.smallest < prev.smallest) && decide (cur.largest + 1 < prev.smallest) &&
        rangesDescend (cur :: rest)
  | _ => true

def validateAckRanges (f : AckFrame) : Bool :=
  f.ackRanges.all (fun r => decide (r.smallest ≤ r.largest)) && rangesDescend f.ackRanges

theorem rangesDescend_iff : ∀ rs : List AckRange,
    rangesDescend rs = true ↔
      rs.IsChain fun prev cur => cur.smallest < prev.smallest ∧ cur.largest + 1 < prev.smallest
  | [] => by simp [rangesDescend]
  | [_] => by simp [rangesDescend]
  | prev :: cur :: rest => by
      simp [rangesDescend, rangesDescend_iff (cur :: rest), and_assoc]

theorem validateAckRanges_iff (f : AckFrame) :
    f.validateAckRanges = true ↔ (∀ r ∈ f.ackRanges, r.smallest ≤ r.largest) ∧
      f.ackRanges.IsChain fun prev cur => cur.smallest < prev.smallest ∧ cur.largest + 1 < prev.smallest := by
  simp [validateAckRanges, rangesDescend_iff]

/-! ## What a valid frame acknowledges -/

theorem pairwise_above : ∀ rs : List AckRange, (∀ r ∈ rs, r.smallest ≤ r.largest) →
    rs.IsChain (fun prev cur => cur.smallest < prev.smallest ∧ cur.largest + 1 < prev.smallest) →
    rs.Pairwise fun prev cur => cur.largest + 1 < prev.smallest
  | [], _, _ => List.Pairwise.nil
  | [_], _, _ => List.pairwise_singleton _ _
  | prev :: cur :: rest, ordered, chain => by
      rw [List.isChain_cons_cons] at chain
      have below := pairwise_above (cur :: rest) (fun r mem => ordered r (List.mem_cons_of_mem _ mem)) chain.2
      refine List.Pairwise.cons ?_ below
      intro r mem
      rcases List.mem_cons.mp mem with rfl | later
      · exact chain.1.2
      · have underCur := List.rel_of_pairwise_cons below later
        have curOrdered := ordered cur (by simp)
        unfold PacketNumber at *
        omega

section Valid

variable {f : AckFrame} (valid : f.validateAckRanges = true)
include valid

theorem ranges_pairwise : f.ackRanges.Pairwise fun prev cur => cur.largest + 1 < prev.smallest := by
  obtain ⟨ordered, chain⟩ := (validateAckRanges_iff f).mp valid
  exact pairwise_above f.ackRanges ordered chain

theorem lowestAcked_le {r : AckRange} (mem : r ∈ f.ackRanges) : f.lowestAcked ≤ r.smallest := by
  have ordered := ((validateAckRanges_iff f).mp valid).1
  have split := List.dropLast_append_getLast f.nonempty
  have pairwise := ranges_pairwise valid
  rw [← split, List.pairwise_append] at pairwise
  rw [← split, List.mem_append] at mem
  have lastOrdered := ordered _ (List.getLast_mem f.nonempty)
  rcases mem with earlier | last
  · have above := pairwise.2.2 r earlier _ (List.mem_singleton_self _)
    simp only [lowestAcked]
    unfold PacketNumber at *
    omega
  · rw [List.mem_singleton.mp last]
    exact Int.le_refl _

theorem le_largestAcked {r : AckRange} (mem : r ∈ f.ackRanges) : r.largest ≤ f.largestAcked := by
  have ordered := ((validateAckRanges_iff f).mp valid).1
  have pairwise := ranges_pairwise valid
  obtain ⟨head, rest, split⟩ := List.exists_cons_of_ne_nil f.nonempty
  have largest : f.largestAcked = head.largest := by simp only [largestAcked, split, List.head_cons]
  rw [split] at mem pairwise ordered
  rcases List.mem_cons.mp mem with rfl | later
  · exact Int.le_of_eq largest.symm
  · have below := List.rel_of_pairwise_cons pairwise later
    have headOrdered := ordered head (List.mem_cons_self)
    unfold PacketNumber at *
    omega

theorem acksPacket_iff (p : PacketNumber) :
    f.acksPacket p = true ↔ ∃ r ∈ f.ackRanges, r.smallest ≤ p ∧ p ≤ r.largest := by
  unfold acksPacket
  split
  case isTrue outside =>
    simp only [Bool.false_eq_true, false_iff, not_exists, not_and]
    intro r mem above below
    have := lowestAcked_le valid mem
    have := le_largestAcked valid mem
    simp only [Bool.or_eq_true, decide_eq_true_eq] at outside
    unfold PacketNumber at *
    omega
  case isFalse =>
    constructor
    · intro acks
      split at acks
      case h_1 r found =>
        exact ⟨r, List.mem_of_find?_eq_some found, by simpa using List.find?_some found, by simpa using acks⟩
      case h_2 => exact absurd acks Bool.false_ne_true
    · rintro ⟨r, mem, above, below⟩
      cases found : f.ackRanges.find? (fun r => decide (r.smallest ≤ p)) with
      | none =>
          exact absurd above (by simpa using List.find?_eq_none.mp found r mem)
      | some r' =>
          obtain ⟨starts, before, after, split, skipped⟩ := List.find?_eq_some_iff_append.mp found
          have pairwise := ranges_pairwise valid
          rw [split] at mem pairwise
          rw [List.pairwise_append, List.pairwise_cons] at pairwise
          have starts' : r'.smallest ≤ p := by simpa using starts
          rcases List.mem_append.mp mem with earlier | rest
          · exact absurd above (by simpa using skipped r earlier)
          · rcases List.mem_cons.mp rest with rfl | later
            · simpa using below
            · have := pairwise.2.1.1 r later
              unfold PacketNumber at *
              omega

end Valid

/-- `encodeAckDelay`: microseconds, scaled down by `2^AckDelayExponent`. -/
def encodeAckDelay (delay : Nat) : Nat := delay / (1000 * 2 ^ ackDelayExponent)

/-- `encodeAckRange(i)` for `i ≥ 1`: the gap below range `i - 1`, and the
length of range `i`, both less two as the wire format counts them. -/
def encodeAckRange (prev cur : AckRange) : Nat × Nat :=
  ((prev.smallest - cur.largest - 2).toNat, (cur.largest - cur.smallest).toNat)

/-- `encodeAckRange(i)` of every range after the first. -/
def rangeEncodings : List AckRange → List (Nat × Nat)
  | prev :: cur :: rest => encodeAckRange prev cur :: rangeEncodings (cur :: rest)
  | _ => []

/-- The loop of `numEncodableAckRanges` from range `i` on, with `length`
bytes used so far: the first range that would pass `MaxAckFrameSize` stops it,
and one range less than the ones before it is encoded. -/
def countEncodable (numRanges : Nat) : Nat → Nat → List (Nat × Nat) → Nat
  | _, _, [] => numRanges
  | length, i, (gap, len) :: rest =>
      let rangeLen := Quicvarint.size gap + Quicvarint.size len
      if length + rangeLen > maxAckFrameSize then i - 1
      else countEncodable numRanges (length + rangeLen) (i + 1) rest

/-- `AckFrame.numEncodableAckRanges`, assuming two bytes for the range count. -/
def numEncodableAckRanges (f : AckFrame) : Nat :=
  countEncodable f.ackRanges.length
    (1 + Quicvarint.size f.largestAcked.toNat + Quicvarint.size (encodeAckDelay f.delayTime) + 2)
    1 (rangeEncodings f.ackRanges)

/-- `encodeAckRange(0)`: the length of the first range, less one. -/
def firstRange (f : AckFrame) : Nat :=
  (f.largestAcked - (f.ackRanges.head f.nonempty).smallest).toNat

/-- `encodeAckRange(i)` for `1 ≤ i < numRanges`. -/
def encodedRanges (f : AckFrame) : List (Nat × Nat) :=
  (rangeEncodings f.ackRanges).take (f.numEncodableAckRanges - 1)

/-- `f.ECT0 > 0 || f.ECT1 > 0 || f.ECNCE > 0`. -/
def hasECN (f : AckFrame) : Bool := decide (0 < f.ect0) || decide (0 < f.ect1) || decide (0 < f.ecnce)

/-- The bytes of one encoded range. -/
def rangeLength (r : Nat × Nat) : Nat := Quicvarint.size r.1 + Quicvarint.size r.2

def length (f : AckFrame) : Nat :=
  1 + Quicvarint.size f.largestAcked.toNat + Quicvarint.size (encodeAckDelay f.delayTime) +
    Quicvarint.size (f.numEncodableAckRanges - 1) + Quicvarint.size f.firstRange +
    (f.encodedRanges.map rangeLength).sum +
    (if f.hasECN then Quicvarint.size f.ect0 + Quicvarint.size f.ect1 + Quicvarint.size f.ecnce else 0)

/-- One iteration of the range loop of `Append`. -/
def appendRange {σ : Type} (r : Nat × Nat) (b : List UInt8) : Call σ (List UInt8) := do
  let b ← Quicvarint.append b r.1
  Quicvarint.append b r.2

def append {σ : Type} (f : AckFrame) (b : List UInt8) : Call σ (List UInt8) := do
  let typ : UInt8 := UInt8.ofNat (if f.hasECN then ackECNFrameType else ackFrameType)
  let b ← Quicvarint.append (b ++ [typ]) f.largestAcked.toNat
  let b ← Quicvarint.append b (encodeAckDelay f.delayTime)
  let b ← Quicvarint.append b (f.numEncodableAckRanges - 1)
  let b ← Quicvarint.append b f.firstRange
  let b ← Call.appendEach appendRange f.encodedRanges b
  if f.hasECN then
    let b ← Quicvarint.append b f.ect0
    let b ← Quicvarint.append b f.ect1
    Quicvarint.append b f.ecnce
  else return b

/-! ## Length and serialization agree -/

theorem appendRange_writes {σ : Type} (r : Nat × Nat) :
    Call.Writes (σ := σ) (appendRange r) (rangeLength r) :=
  (Quicvarint.append_writes r.1).bind (Quicvarint.append_writes r.2)

theorem appendRange_keeps {σ : Type} (r : Nat × Nat) (b : List UInt8) :
    Call.Keeps (σ := σ) (appendRange r b) :=
  (Quicvarint.append_keeps b r.1).bind fun b => Quicvarint.append_keeps b r.2

theorem append_keeps {σ : Type} (f : AckFrame) (b : List UInt8) : Call.Keeps (σ := σ) (f.append b) := by
  unfold append
  refine (Quicvarint.append_keeps _ _).bind fun b => (Quicvarint.append_keeps _ _).bind fun b =>
    (Quicvarint.append_keeps _ _).bind fun b => (Quicvarint.append_keeps _ _).bind fun b =>
      (Call.keeps_appendEach appendRange_keeps _ b).bind fun b => Call.keeps_ite _ ?_ (Call.keeps_pure b)
  exact (Quicvarint.append_keeps _ _).bind fun b => (Quicvarint.append_keeps _ _).bind fun b =>
    Quicvarint.append_keeps _ _

theorem append_writes {σ : Type} (f : AckFrame) : Call.Writes (σ := σ) f.append f.length := by
  intro b s out s' run
  obtain ⟨largest, largestLen, run⟩ := (Quicvarint.append_writes _).peel run
  obtain ⟨delay, delayLen, run⟩ := (Quicvarint.append_writes _).peel run
  obtain ⟨count, countLen, run⟩ := (Quicvarint.append_writes _).peel run
  obtain ⟨first, firstLen, run⟩ := (Quicvarint.append_writes _).peel run
  obtain ⟨ranges, rangesLen, run⟩ :=
    (Call.writes_appendEach rangeLength f.encodedRanges fun r _ => appendRange_writes r).peel run
  by_cases ecn : f.hasECN
  · simp only [ecn, if_true] at run
    obtain ⟨ect0, ect0Len, run⟩ := (Quicvarint.append_writes _).peel run
    obtain ⟨ect1, ect1Len, run⟩ := (Quicvarint.append_writes _).peel run
    obtain ⟨rfl, ecnce, rfl, ecnceLen⟩ := Quicvarint.append_writes _ _ _ _ _ run
    refine ⟨rfl, [UInt8.ofNat (if f.hasECN then ackECNFrameType else ackFrameType)] ++ largest ++ delay ++ count ++ first ++ ranges ++ ect0 ++ ect1 ++ ecnce,
      by simp [ecn], ?_⟩
    simp [length, ecn, largestLen, delayLen, countLen, firstLen, rangesLen, ect0Len, ect1Len,
      ecnceLen]
    omega
  · simp only [ecn, Bool.false_eq_true, if_false] at run
    obtain ⟨rfl, rfl⟩ : _ ∧ _ := by simpa using run
    refine ⟨rfl, [UInt8.ofNat (if f.hasECN then ackECNFrameType else ackFrameType)] ++ largest ++ delay ++ count ++ first ++ ranges, by simp [ecn], ?_⟩
    simp [length, ecn, largestLen, delayLen, countLen, firstLen, rangesLen]
    omega

/-! ## At least one range is encoded

`Append` writes `uint64(numRanges - 1)`, which is only a valid count for
`numRanges ≥ 1`: the first range after the largest always fits, since the
fixed fields take at most 19 bytes and one range at most 16. -/

theorem countEncodable_pos (numRanges : Nat) (atLeastOne : 1 ≤ numRanges) :
    ∀ (length i : Nat) (rs : List (Nat × Nat)), 2 ≤ i → 1 ≤ countEncodable numRanges length i rs
  | _, _, [], _ => atLeastOne
  | length, i, (gap, len) :: rest, later => by
      unfold countEncodable
      dsimp only
      split_ifs
      · omega
      · exact countEncodable_pos numRanges atLeastOne _ _ rest (by omega)

theorem numEncodableAckRanges_pos (f : AckFrame) : 1 ≤ f.numEncodableAckRanges := by
  have atLeastOne : 1 ≤ f.ackRanges.length := List.length_pos_iff.mpr f.nonempty
  unfold numEncodableAckRanges
  cases ranges : rangeEncodings f.ackRanges with
  | nil => exact atLeastOne
  | cons r rest =>
      have largestLen := Quicvarint.size_le_eight f.largestAcked.toNat
      have delayLen := Quicvarint.size_le_eight (encodeAckDelay f.delayTime)
      have gapLen := Quicvarint.size_le_eight r.1
      have lenLen := Quicvarint.size_le_eight r.2
      unfold countEncodable
      rw [if_neg (by unfold maxAckFrameSize; omega)]
      exact countEncodable_pos _ atLeastOne _ _ rest (by omega)

/-! ## Parsing -/

def errInvalidAckRanges : String := "AckFrame: ACK frame contains invalid ACK ranges"

/-- `utils.InfDuration`, `math.MaxInt64` nanoseconds. -/
def infDuration : Nat := 2 ^ 63 - 1

/-- `time.Duration(delay*1<<ackDelayExponent) * time.Microsecond`: the shift in
`uint64`, the product in `int64`, both wrapping; a negative product becomes
`utils.InfDuration`. -/
def ackDelayTime (delay ackDelayExponent : Nat) : Nat :=
  let product := delay * 2 ^ ackDelayExponent % 2 ^ 64 * 1000 % 2 ^ 64
  if product < 2 ^ 63 then product else infDuration

/-- The loop of `parseAckFrame` over the `numBlocks` ranges after the first,
from the smallest packet number of the range before. -/
def readAckRanges : Nat → PacketNumber → Call (List UInt8) (List AckRange)
  | 0, _ => pure []
  | n + 1, smallest => do
      let gap : PacketNumber := ↑(← Quicvarint.read)
      Call.failIf (smallest < gap + 2) errInvalidAckRanges
      let largest := smallest - gap - 2
      let ackBlock : PacketNumber := ↑(← Quicvarint.read)
      Call.failIf (ackBlock > largest) errInvalidAckRanges
      let rest ← readAckRanges n (largest - ackBlock)
      return ⟨largest - ackBlock, largest⟩ :: rest

/-- `parseAckFrame`, into a frame fresh from the pool, after the frame type `typ`. -/
def parseAckFrame (typ ackDelayExponent : Nat) : Call (List UInt8) AckFrame := do
  let ecn := typ == ackECNFrameType
  let largestAcked : PacketNumber := ↑(← Quicvarint.read)
  let delay ← Quicvarint.read
  let numBlocks ← Quicvarint.read
  let ackBlock : PacketNumber := ↑(← Quicvarint.read)
  Call.failIf (ackBlock > largestAcked) "invalid first ACK range"
  let more ← readAckRanges numBlocks (largestAcked - ackBlock)
  let frame : AckFrame :=
    ⟨⟨largestAcked - ackBlock, largestAcked⟩ :: more, List.cons_ne_nil _ _,
      ackDelayTime delay ackDelayExponent, 0, 0, 0⟩
  Call.failIf (frame.validateAckRanges = false) errInvalidAckRanges
  if ecn then
    let ect0 ← Quicvarint.read
    let ect1 ← Quicvarint.read
    let ecnce ← Quicvarint.read
    return { frame with ect0, ect1, ecnce }
  else return frame

/-! ## Reading back what `Append` wrote -/

/-- A range `Append` can write: non-negative packet numbers of 62 bits, smallest first. -/
def EncodableRange (r : AckRange) : Prop := 0 ≤ r.smallest ∧ r.smallest ≤ r.largest ∧ r.largest < 2 ^ 62

theorem readAckRanges_append (k : Nat) : ∀ (prev : AckRange) (rs : List AckRange),
    (prev :: rs).IsChain (fun prev cur => cur.smallest < prev.smallest ∧ cur.largest + 1 < prev.smallest) →
    (∀ r ∈ prev :: rs, EncodableRange r) → k ≤ rs.length →
      ∃ enc, (∀ {σ : Type} (b : List UInt8) (s : σ),
          Call.appendEach appendRange ((rangeEncodings (prev :: rs)).take k) b s = .ok (b ++ enc) s) ∧
        ∀ rest, readAckRanges k prev.smallest (enc ++ rest) = .ok (rs.take k) rest := by
  induction k with
  | zero =>
      intro prev rs _ _ _
      exact ⟨[], fun b s => by simp [Call.appendEach], fun rest => by simp [readAckRanges]⟩
  | succ k ih =>
      intro prev rs chain encodable inside
      cases rs with
      | nil => simp at inside
      | cons cur more =>
          obtain ⟨⟨below, apart⟩, chainRest⟩ := List.isChain_cons_cons.mp chain
          obtain ⟨prevLow, prevOrdered, prevHigh⟩ := encodable prev List.mem_cons_self
          obtain ⟨curLow, curOrdered, curHigh⟩ := encodable cur (List.mem_cons_of_mem _ List.mem_cons_self)
          unfold PacketNumber at below apart prevLow prevOrdered prevHigh curLow curOrdered curHigh
          have gapValue : ((prev.smallest - cur.largest - 2).toNat : Int) = prev.smallest - cur.largest - 2 :=
            Int.toNat_of_nonneg (by omega)
          have lenValue : ((cur.largest - cur.smallest).toNat : Int) = cur.largest - cur.smallest :=
            Int.toNat_of_nonneg (by omega)
          obtain ⟨eGap, runGap, readGap⟩ := Quicvarint.append_encodes
            (show (prev.smallest - cur.largest - 2).toNat ≤ Quicvarint.maxVarInt8 by
              unfold Quicvarint.maxVarInt8; omega)
          obtain ⟨eLen, runLen, readLen⟩ := Quicvarint.append_encodes
            (show (cur.largest - cur.smallest).toNat ≤ Quicvarint.maxVarInt8 by
              unfold Quicvarint.maxVarInt8; omega)
          obtain ⟨enc, runRest, readRest⟩ := ih cur more chainRest
            (fun r member => encodable r (List.mem_cons_of_mem _ member)) (by simp at inside; omega)
          refine ⟨eGap ++ eLen ++ enc, fun b s => ?_, fun rest => ?_⟩
          · simp only [rangeEncodings, List.take_succ_cons, Call.appendEach, appendRange, encodeAckRange,
              Call.bind_apply, runGap, runLen, runRest, List.append_assoc]
          · have fits : ¬ prev.smallest < prev.smallest - cur.largest - 2 + 2 := by
              unfold PacketNumber
              omega
            have largestBack : prev.smallest - (prev.smallest - cur.largest - 2) - 2 = cur.largest := by
              unfold PacketNumber
              omega
            have inRange : ¬ (cur.largest - cur.smallest > cur.largest) := by
              unfold PacketNumber
              omega
            have smallestBack : cur.largest - (cur.largest - cur.smallest) = cur.smallest := by
              unfold PacketNumber
              omega
            simp only [readAckRanges, Call.bind_apply, List.append_assoc, readGap, Call.failIf_apply,
              gapValue, fits, if_false, readLen, lenValue, largestBack, inRange, smallestBack, readRest]
            rfl

theorem countEncodable_le (numRanges : Nat) : ∀ (length i : Nat) (rs : List (Nat × Nat)),
    i + rs.length ≤ numRanges → countEncodable numRanges length i rs ≤ numRanges
  | _, _, [], _ => Nat.le_refl _
  | length, i, (gap, len) :: rest, fits => by
      unfold countEncodable
      dsimp only
      split_ifs
      · omega
      · exact countEncodable_le numRanges _ _ rest (by simp at fits; omega)

theorem length_rangeEncodings : ∀ rs : List AckRange, (rangeEncodings rs).length = rs.length - 1
  | prev :: cur :: rest => by
      simp only [rangeEncodings, List.length_cons, length_rangeEncodings (cur :: rest)]
      omega
  | [_] | [] => rfl

theorem numEncodableAckRanges_le (f : AckFrame) : f.numEncodableAckRanges ≤ f.ackRanges.length := by
  have atLeastOne := List.length_pos_iff.mpr f.nonempty
  exact countEncodable_le _ _ _ _ (by rw [length_rangeEncodings]; omega)

/-! ## How long an encoded frame is

`numEncodableAckRanges` stops before the ranges after the first pass
`MaxAckFrameSize`, counting the fixed fields with two bytes for the range
count.  It leaves out the first range and the ECN counts, up to 32 bytes. -/

theorem rangeLength_two_le (r : Nat × Nat) : 2 ≤ rangeLength r := by
  have := Quicvarint.size_pos r.1
  have := Quicvarint.size_pos r.2
  unfold rangeLength
  omega

theorem countEncodable_fits (numRanges : Nat) : ∀ (length i : Nat) (rs : List (Nat × Nat)),
    length ≤ maxAckFrameSize →
      length + ((rs.take (countEncodable numRanges length i rs - i)).map rangeLength).sum ≤ maxAckFrameSize
  | _, _, [], fits => by simpa using fits
  | length, i, (gap, len) :: rest, fits => by
      unfold countEncodable
      dsimp only
      split_ifs with overBudget
      · -- the range that would pass the budget and every one after it are left out
        rw [show i - 1 - i = 0 by omega]
        simpa using fits
      · have later := countEncodable_fits numRanges (length + (Quicvarint.size gap + Quicvarint.size len)) (i + 1)
          rest (by omega)
        generalize countEncodable numRanges _ (i + 1) rest = c at later ⊢
        cases taken : c - i with
        | zero => simpa using fits
        | succ k =>
          rw [show c - (i + 1) = k by omega] at later
          simp only [List.take_succ_cons, List.map_cons, List.sum_cons, rangeLength]
          omega

theorem encodedRanges_fit (f : AckFrame) :
    1 + Quicvarint.size f.largestAcked.toNat + Quicvarint.size (encodeAckDelay f.delayTime) + 2 +
      (f.encodedRanges.map rangeLength).sum ≤ maxAckFrameSize := by
  have largestLen := Quicvarint.size_le_eight f.largestAcked.toNat
  have delayLen := Quicvarint.size_le_eight (encodeAckDelay f.delayTime)
  exact countEncodable_fits _ _ 1 _ (by unfold maxAckFrameSize; omega)

theorem length_encodedRanges (f : AckFrame) : f.encodedRanges.length = f.numEncodableAckRanges - 1 := by
  have countLe := numEncodableAckRanges_le f
  rw [encodedRanges, List.length_take, length_rangeEncodings]
  omega

theorem rangeCount_le (f : AckFrame) : f.numEncodableAckRanges - 1 ≤ Quicvarint.maxVarInt2 := by
  have fit := encodedRanges_fit f
  have atLeastTwo := List.card_nsmul_le_sum (f.encodedRanges.map rangeLength) 2
    (fun _ member => by
      obtain ⟨r, -, rfl⟩ := List.mem_map.mp member
      exact rangeLength_two_le r)
  rw [List.length_map, length_encodedRanges, smul_eq_mul] at atLeastTwo
  unfold maxAckFrameSize at fit
  unfold Quicvarint.maxVarInt2
  omega

theorem size_rangeCount_le_two (f : AckFrame) : Quicvarint.size (f.numEncodableAckRanges - 1) ≤ 2 :=
  (Quicvarint.size_mono (rangeCount_le f)).trans (by decide)

theorem length_le (f : AckFrame) : f.length ≤ maxAckFrameSize + 32 := by
  have fit := encodedRanges_fit f
  have countLen := size_rangeCount_le_two f
  have firstLen := Quicvarint.size_le_eight f.firstRange
  have ecnLen : (if f.hasECN then Quicvarint.size f.ect0 + Quicvarint.size f.ect1 + Quicvarint.size f.ecnce
      else 0) ≤ 24 := by
    have := Quicvarint.size_le_eight f.ect0
    have := Quicvarint.size_le_eight f.ect1
    have := Quicvarint.size_le_eight f.ecnce
    split_ifs <;> omega
  unfold length
  omega

theorem fields_fit {f : AckFrame} (inRange : ∀ r ∈ f.ackRanges, 0 ≤ r.smallest ∧ r.largest < 2 ^ 62)
    (delayTime : f.delayTime < 2 ^ 63) (counts : f.ect0 < 2 ^ 62 ∧ f.ect1 < 2 ^ 62 ∧ f.ecnce < 2 ^ 62) :
    f.largestAcked.toNat ≤ Quicvarint.maxVarInt8 ∧ encodeAckDelay f.delayTime ≤ Quicvarint.maxVarInt8 ∧
      f.numEncodableAckRanges - 1 ≤ Quicvarint.maxVarInt8 ∧ f.firstRange ≤ Quicvarint.maxVarInt8 ∧
      f.ect0 ≤ Quicvarint.maxVarInt8 ∧ f.ect1 ≤ Quicvarint.maxVarInt8 ∧ f.ecnce ≤ Quicvarint.maxVarInt8 := by
  have headIn := inRange _ (List.head_mem f.nonempty)
  have fewRanges := rangeCount_le f
  unfold firstRange largestAcked encodeAckDelay ackDelayExponent
  unfold Quicvarint.maxVarInt8 Quicvarint.maxVarInt2 at *
  unfold PacketNumber at *
  omega

theorem append_returns (f : AckFrame) (valid : f.validateAckRanges = true)
    (inRange : ∀ r ∈ f.ackRanges, 0 ≤ r.smallest ∧ r.largest < 2 ^ 62) (delayTime : f.delayTime < 2 ^ 63)
    (counts : f.ect0 < 2 ^ 62 ∧ f.ect1 < 2 ^ 62 ∧ f.ecnce < 2 ^ 62) {σ : Type} (b : List UInt8) (s : σ) :
    ∃ out, f.append b s = .ok out s := by
  obtain ⟨largestFits, delayFits, countFits, firstFits, ect0Fits, ect1Fits, ecnceFits⟩ :=
    fields_fit inRange delayTime counts
  obtain ⟨ordered, chain⟩ := (validateAckRanges_iff f).mp valid
  obtain ⟨head, tail, ranges⟩ := List.exists_cons_of_ne_nil f.nonempty
  have encoded : f.encodedRanges = (rangeEncodings (head :: tail)).take (f.numEncodableAckRanges - 1) := by
    simp only [encodedRanges, ranges]
  have countLe := numEncodableAckRanges_le f
  rw [ranges] at ordered chain inRange countLe
  have encodable : ∀ r ∈ head :: tail, EncodableRange r := fun r member =>
    ⟨(inRange r member).1, ordered r member, (inRange r member).2⟩
  obtain ⟨eLargest, runLargest, -⟩ := Quicvarint.append_encodes largestFits
  obtain ⟨eDelay, runDelay, -⟩ := Quicvarint.append_encodes delayFits
  obtain ⟨eCount, runCount, -⟩ := Quicvarint.append_encodes countFits
  obtain ⟨eFirst, runFirst, -⟩ := Quicvarint.append_encodes firstFits
  obtain ⟨eRanges, runRanges, -⟩ :=
    readAckRanges_append (f.numEncodableAckRanges - 1) head tail chain encodable
      (by rw [List.length_cons] at countLe; omega)
  obtain ⟨e0, run0, -⟩ := Quicvarint.append_encodes ect0Fits
  obtain ⟨e1, run1, -⟩ := Quicvarint.append_encodes ect1Fits
  obtain ⟨e2, run2, -⟩ := Quicvarint.append_encodes ecnceFits
  by_cases ecn : f.hasECN
  · simp [append, runLargest, runDelay, runCount, runFirst, encoded, runRanges, ecn, run0, run1, run2]
  · simp [append, runLargest, runDelay, runCount, runFirst, encoded, runRanges, ecn]

/-- `Append` of a valid frame of 62-bit values returns `Length` bytes: the fixed
fields and the ranges after the first, with two bytes for the range count, take
at most `MaxAckFrameSize`, and the whole frame at most 32 bytes more.  At
least one range is encoded. -/
theorem ackFrame_append_length (f : AckFrame) (valid : f.validateAckRanges = true)
    (inRange : ∀ r ∈ f.ackRanges, 0 ≤ r.smallest ∧ r.largest < 2 ^ 62) (delayTime : f.delayTime < 2 ^ 63)
    (counts : f.ect0 < 2 ^ 62 ∧ f.ect1 < 2 ^ 62 ∧ f.ecnce < 2 ^ 62) {σ : Type} (s : σ) :
    (∃ out, f.append [] s = .ok out s ∧ out.length = f.length ∧ out.length ≤ maxAckFrameSize + 32) ∧
      1 + Quicvarint.size f.largestAcked.toNat + Quicvarint.size (encodeAckDelay f.delayTime) + 2 +
        (f.encodedRanges.map rangeLength).sum ≤ maxAckFrameSize ∧
      1 ≤ f.numEncodableAckRanges := by
  obtain ⟨out, run⟩ := append_returns f valid inRange delayTime counts [] s
  obtain ⟨-, written, outEq, writtenLength⟩ := append_writes f [] s out s run
  have outLength : out.length = f.length := by rw [outEq, List.nil_append, writtenLength]
  refine ⟨⟨out, run, outLength, ?_⟩, encodedRanges_fit f, numEncodableAckRanges_pos f⟩
  rw [outLength]
  exact length_le f

/-- Sixty-two ranges of `2^30 + 1` packets, `2^30 + 1` packets apart, below
`2^40`, and ECN counts of `2^30`: every range, every gap and every count takes
eight bytes. -/
def wideRangesFrame : AckFrame where
  ackRanges := (List.range 62).map fun k =>
    ⟨2 ^ 40 - (k : PacketNumber) * (2 ^ 31 + 2) - 2 ^ 30, 2 ^ 40 - (k : PacketNumber) * (2 ^ 31 + 2)⟩
  nonempty := List.ne_nil_of_length_pos (by simp)
  delayTime := 0
  ect0 := 2 ^ 30
  ect1 := 2 ^ 30
  ecnce := 2 ^ 30

theorem wideRangesFrame_encodable :
    wideRangesFrame.validateAckRanges = true ∧
      (∀ r ∈ wideRangesFrame.ackRanges, 0 ≤ r.smallest ∧ r.largest < 2 ^ 62) ∧
      wideRangesFrame.delayTime < 2 ^ 63 ∧
      (wideRangesFrame.ect0 < 2 ^ 62 ∧ wideRangesFrame.ect1 < 2 ^ 62 ∧ wideRangesFrame.ecnce < 2 ^ 62) := by
  decide +kernel

/-- All sixty-two ranges are encoded, and with the eight bytes of the first
range and the 24 of the ECN counts the frame is 1019 bytes long. -/
theorem wideRangesFrame_too_long :
    wideRangesFrame.validateAckRanges = true ∧
      (∀ r ∈ wideRangesFrame.ackRanges, 0 ≤ r.smallest ∧ r.largest < 2 ^ 62) ∧
      ∃ out, wideRangesFrame.append [] () = .ok out () ∧ maxAckFrameSize < out.length := by
  obtain ⟨valid, inRange, delayTime, counts⟩ := wideRangesFrame_encodable
  obtain ⟨out, run⟩ := append_returns wideRangesFrame valid inRange delayTime counts [] ()
  obtain ⟨-, written, outEq, writtenLength⟩ := append_writes wideRangesFrame [] () out () run
  have long : wideRangesFrame.length = 1019 := by decide +kernel
  refine ⟨valid, inRange, out, run, ?_⟩
  rw [outEq, List.nil_append, writtenLength, long]
  decide

theorem ackFrame_append_length_wideRanges :
    wideRangesFrame.validateAckRanges = true ∧
      (∀ r ∈ wideRangesFrame.ackRanges, 0 ≤ r.smallest ∧ r.largest < 2 ^ 62) ∧
      wideRangesFrame.delayTime < 2 ^ 63 ∧
      (wideRangesFrame.ect0 < 2 ^ 62 ∧ wideRangesFrame.ect1 < 2 ^ 62 ∧ wideRangesFrame.ecnce < 2 ^ 62) ∧
      (∃ out, wideRangesFrame.append [] () = .ok out () ∧ out.length = wideRangesFrame.length ∧
          out.length ≤ maxAckFrameSize + 32) ∧
        1 + Quicvarint.size wideRangesFrame.largestAcked.toNat +
            Quicvarint.size (encodeAckDelay wideRangesFrame.delayTime) + 2 +
          (wideRangesFrame.encodedRanges.map rangeLength).sum ≤ maxAckFrameSize ∧
        1 ≤ wideRangesFrame.numEncodableAckRanges :=
  let ⟨valid, inRange, delayTime, counts⟩ := wideRangesFrame_encodable
  ⟨valid, inRange, delayTime, counts, ackFrame_append_length wideRangesFrame valid inRange delayTime counts ()⟩

theorem ackDelayTime_encodeAckDelay {delay : Nat} (fits : delay < 2 ^ 63) :
    ackDelayTime (encodeAckDelay delay) ackDelayExponent =
      delay / (1000 * 2 ^ ackDelayExponent) * (1000 * 2 ^ ackDelayExponent) := by
  unfold ackDelayTime encodeAckDelay ackDelayExponent
  simp only [Nat.reducePow, Nat.reduceMul] at fits ⊢
  have shifted : delay / 8000 * 8 % 18446744073709551616 = delay / 8000 * 8 := Nat.mod_eq_of_lt (by omega)
  have scaled : delay / 8000 * 8 * 1000 % 18446744073709551616 = delay / 8000 * 8000 := by
    rw [Nat.mod_eq_of_lt (by omega)]
    omega
  rw [shifted, scaled, if_pos (by omega)]

theorem validateAckRanges_take {f g : AckFrame} (valid : f.validateAckRanges = true) (n : Nat)
    (isPrefix : g.ackRanges = f.ackRanges.take n) : g.validateAckRanges = true := by
  obtain ⟨ordered, chain⟩ := (validateAckRanges_iff f).mp valid
  rw [validateAckRanges_iff, isPrefix]
  exact ⟨fun r member => ordered r (List.mem_of_mem_take member), chain.take n⟩

theorem length_of_append {σ : Type} {f : AckFrame} {b body : List UInt8} {typ : UInt8} {s : σ}
    (run : f.append b s = .ok (b ++ typ :: body) s) : body.length + 1 = f.length := by
  obtain ⟨-, written, out, length⟩ := append_writes f b s _ s run
  rw [← List.append_cancel_left out] at length
  simpa using length

/-- `parseAckFrame` of what `Append` wrote, after the type byte it chose: the
first `numEncodableAckRanges` ranges, the delay rounded down to its unit and the
ECN counts, and the frame's `Length` consumed. -/
theorem parseAckFrame_append (f : AckFrame) (valid : f.validateAckRanges = true)
    (inRange : ∀ r ∈ f.ackRanges, 0 ≤ r.smallest ∧ r.largest < 2 ^ 62) (delayTime : f.delayTime < 2 ^ 63)
    (counts : f.ect0 < 2 ^ 62 ∧ f.ect1 < 2 ^ 62 ∧ f.ecnce < 2 ^ 62) {σ : Type} (b : List UInt8) (s : σ) :
    ∃ body, f.append b s =
        .ok (b ++ UInt8.ofNat (if f.hasECN then ackECNFrameType else ackFrameType) :: body) s ∧
      body.length + 1 = f.length ∧
      ∀ rest, ∃ f', parseAckFrame (if f.hasECN then ackECNFrameType else ackFrameType) ackDelayExponent
          (body ++ rest) = .ok f' rest ∧
        f'.ackRanges = f.ackRanges.take f.numEncodableAckRanges ∧
        f'.delayTime = f.delayTime / (1000 * 2 ^ ackDelayExponent) * (1000 * 2 ^ ackDelayExponent) ∧
        f'.ect0 = f.ect0 ∧ f'.ect1 = f.ect1 ∧ f'.ecnce = f.ecnce := by
  obtain ⟨largestFits, delayFits, countFits, firstFits, ect0Fits, ect1Fits, ecnceFits⟩ :=
    fields_fit inRange delayTime counts
  obtain ⟨ordered, chain⟩ := (validateAckRanges_iff f).mp valid
  obtain ⟨head, tail, ranges⟩ := List.exists_cons_of_ne_nil f.nonempty
  have largest : f.largestAcked = head.largest := by
    simp only [largestAcked, ranges, List.head_cons]
  have first : f.firstRange = (head.largest - head.smallest).toNat := by
    simp only [firstRange, largest, ranges, List.head_cons]
  have encoded : f.encodedRanges = (rangeEncodings (head :: tail)).take (f.numEncodableAckRanges - 1) := by
    simp only [encodedRanges, ranges]
  rw [ranges] at ordered chain inRange
  have encodable : ∀ r ∈ head :: tail, EncodableRange r := fun r member =>
    ⟨(inRange r member).1, ordered r member, (inRange r member).2⟩
  obtain ⟨headLow, headOrdered, headHigh⟩ := encodable head List.mem_cons_self
  unfold PacketNumber at headLow headOrdered headHigh
  have count := numEncodableAckRanges_pos f
  have countLe := numEncodableAckRanges_le f
  rw [ranges, List.length_cons] at countLe
  obtain ⟨eLargest, runLargest, readLargest⟩ := Quicvarint.append_encodes largestFits
  obtain ⟨eDelay, runDelay, readDelay⟩ := Quicvarint.append_encodes delayFits
  obtain ⟨eCount, runCount, readCount⟩ := Quicvarint.append_encodes countFits
  obtain ⟨eFirst, runFirst, readFirst⟩ := Quicvarint.append_encodes firstFits
  obtain ⟨eRanges, runRanges, readRanges⟩ :=
    readAckRanges_append (f.numEncodableAckRanges - 1) head tail chain encodable (by omega)
  obtain ⟨e0, run0, read0⟩ := Quicvarint.append_encodes ect0Fits
  obtain ⟨e1, run1, read1⟩ := Quicvarint.append_encodes ect1Fits
  obtain ⟨e2, run2, read2⟩ := Quicvarint.append_encodes ecnceFits
  have largestValue : ((f.largestAcked.toNat : Nat) : Int) = head.largest := by
    rw [largest]
    exact Int.toNat_of_nonneg (by omega)
  have firstValue : ((f.firstRange : Nat) : Int) = head.largest - head.smallest := by
    rw [first]
    exact Int.toNat_of_nonneg (by omega)
  have firstFits : ¬ ((head.largest - head.smallest : PacketNumber) > head.largest) := by
    unfold PacketNumber
    omega
  have smallestBack : head.largest - (head.largest - head.smallest) = head.smallest := by
    unfold PacketNumber
    omega
  have parsedRanges : (⟨head.smallest, head.largest⟩ :: tail.take (f.numEncodableAckRanges - 1) : List AckRange) =
      f.ackRanges.take f.numEncodableAckRanges := by
    rw [ranges, show f.numEncodableAckRanges = f.numEncodableAckRanges - 1 + 1 by omega, List.take_succ_cons]
    simp
  have parsedValid : ∀ (d e0 e1 e2 : Nat), validateAckRanges
      ⟨⟨head.smallest, head.largest⟩ :: tail.take (f.numEncodableAckRanges - 1), List.cons_ne_nil _ _,
        d, e0, e1, e2⟩ = true := fun _ _ _ _ => validateAckRanges_take valid _ parsedRanges
  by_cases ecn : f.hasECN
  · have run : f.append b s = .ok (b ++ UInt8.ofNat (if f.hasECN then ackECNFrameType else ackFrameType) ::
        (eLargest ++ eDelay ++ eCount ++ eFirst ++ eRanges ++ e0 ++ e1 ++ e2)) s := by
      simp [append, runLargest, runDelay, runCount, runFirst, encoded, runRanges, ecn, run0, run1, run2]
    refine ⟨_, run, length_of_append run, fun rest => ?_⟩
    have marked : (ackECNFrameType == ackECNFrameType) = true := rfl
    have parsed : parseAckFrame (if f.hasECN then ackECNFrameType else ackFrameType) ackDelayExponent
        (eLargest ++ eDelay ++ eCount ++ eFirst ++ eRanges ++ e0 ++ e1 ++ e2 ++ rest) =
        .ok ⟨⟨head.smallest, head.largest⟩ :: tail.take (f.numEncodableAckRanges - 1), List.cons_ne_nil _ _,
          ackDelayTime (encodeAckDelay f.delayTime) ackDelayExponent, f.ect0, f.ect1, f.ecnce⟩ rest := by
      simp only [ecn, if_true, parseAckFrame, Call.bind_apply, List.append_assoc, readLargest, readDelay,
        readCount, readFirst, largestValue, firstValue, Call.failIf_apply, firstFits, smallestBack, if_false]
      simp only [readRanges, parsedValid, Bool.true_eq_false, if_false, marked, if_true, Call.bind_apply,
        read0, read1, read2, Call.pure_apply]
    exact ⟨_, parsed, parsedRanges, ackDelayTime_encodeAckDelay delayTime, rfl, rfl, rfl⟩
  · have zero : f.ect0 = 0 ∧ f.ect1 = 0 ∧ f.ecnce = 0 := by
      simp [hasECN] at ecn
      omega
    have run : f.append b s = .ok (b ++ UInt8.ofNat (if f.hasECN then ackECNFrameType else ackFrameType) ::
        (eLargest ++ eDelay ++ eCount ++ eFirst ++ eRanges)) s := by
      simp [append, runLargest, runDelay, runCount, runFirst, encoded, runRanges, ecn]
    refine ⟨_, run, length_of_append run, fun rest => ?_⟩
    have plain : (ackFrameType == ackECNFrameType) = false := rfl
    have parsed : parseAckFrame (if f.hasECN then ackECNFrameType else ackFrameType) ackDelayExponent
        (eLargest ++ eDelay ++ eCount ++ eFirst ++ eRanges ++ rest) =
        .ok ⟨⟨head.smallest, head.largest⟩ :: tail.take (f.numEncodableAckRanges - 1), List.cons_ne_nil _ _,
          ackDelayTime (encodeAckDelay f.delayTime) ackDelayExponent, 0, 0, 0⟩ rest := by
      simp only [ecn, Bool.false_eq_true, if_false, parseAckFrame, Call.bind_apply, List.append_assoc,
        readLargest, readDelay, readCount, readFirst, largestValue, firstValue, Call.failIf_apply, firstFits,
        smallestBack]
      simp only [readRanges, parsedValid, Bool.true_eq_false, if_false, plain, Bool.false_eq_true,
        Call.pure_apply]
    exact ⟨_, parsed, parsedRanges, ackDelayTime_encodeAckDelay delayTime, zero.1.symm, zero.2.1.symm,
      zero.2.2.symm⟩

/-- Two ranges with ECN counts and a delay of 123456 ns, read back with the delay
rounded down to 120 µs. -/
theorem parseAckFrame_append_ecn :
    ∃ body, ∀ rest, ∃ f', parseAckFrame ackECNFrameType ackDelayExponent (body ++ rest) = .ok f' rest ∧
      f'.ackRanges = [⟨5, 9⟩, ⟨0, 2⟩] ∧ f'.delayTime = 120000 ∧ f'.ect0 = 1 := by
  obtain ⟨body, -, -, parses⟩ := parseAckFrame_append ⟨[⟨5, 9⟩, ⟨0, 2⟩], List.cons_ne_nil _ _, 123456, 1, 0, 0⟩
    (by decide) (by decide) (by decide) (by decide) [] ()
  refine ⟨body, fun rest => ?_⟩
  obtain ⟨f', parsed, ranges, delay, ect0, -⟩ := parses rest
  exact ⟨f', parsed, ranges, delay, ect0⟩

end AckFrame

end QuicFec.Wire
