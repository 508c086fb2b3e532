import QuicFec.Wire.FecFrames

/-! # STREAM and DATAGRAM frames

`internal/wire/stream_frame.go` and `internal/wire/datagram_frame.go`: the
fields the packer and the send stream read, the serialized length, the
largest payload that fits a size budget, and splitting a STREAM frame to a
budget.  `FECProtected` is not sent; it only tells the packer to wrap the frame
into a SOURCE_SYMBOL frame. -/
set_option autoImplicit false

namespace QuicFec.Wire

open Go QuicFec.Protocol

structure StreamFrame where
  streamID : Nat
  offset : Nat
  data : List UInt8
  fin : Bool
  dataLenPresent : Bool
  fecProtected : Bool
deriving DecidableEq, Repr

namespace StreamFrame

def dataLen (f : StreamFrame) : Nat := f.data.length

/-- `StreamFrame.Length`: type byte, stream ID, the offset unless it is zero,
the data length if present, and the data. -/
def length (f : StreamFrame) : Nat :=
  1 + Quicvarint.size f.streamID + (if f.offset ≠ 0 then Quicvarint.size f.offset else 0) +
    (if f.dataLenPresent then Quicvarint.size f.dataLen else 0) + f.dataLen

/-- `StreamFrame.MaxDataLen`: the most data a frame with this header can carry
in `maxSize` bytes; the length field is first assumed to take one byte. -/
def maxDataLen (f : StreamFrame) (maxSize : Nat) : Nat :=
  let headerLen := 1 + Quicvarint.size f.streamID +
    (if f.offset ≠ 0 then Quicvarint.size f.offset else 0) + (if f.dataLenPresent then 1 else 0)
  if headerLen > maxSize then 0
  else
    let maxDataLen := maxSize - headerLen
    if f.dataLenPresent && Quicvarint.size maxDataLen ≠ 1 then maxDataLen - 1 else maxDataLen

def append {σ : Type} (f : StreamFrame) (b : List UInt8) : Call σ (List UInt8) :=
  if f.data.length = 0 && !f.fin then
    Call.fail "StreamFrame: attempting to write empty frame without FIN"
  else do
    let typ : UInt8 := 0x8 ^^^ (if f.fin then 0b1 else 0) ^^^
      (if f.dataLenPresent then 0b10 else 0) ^^^ (if f.offset ≠ 0 then 0b100 else 0)
    let b ← Quicvarint.append (b ++ [typ]) f.streamID
    let b ← Call.appendWhen (f.offset ≠ 0) (fun b => Quicvarint.append b f.offset) b
    let b ← Call.appendWhen f.dataLenPresent (fun b => Quicvarint.append b f.dataLen) b
    return b ++ f.data

/-- `StreamFrame.MaybeSplitOffFrame`: `none, false` when the frame fits;
`none, true` when not even one byte of data fits; otherwise the first
`MaxDataLen` bytes split off as a new frame from the pool (`GetStreamFrame`:
never with FIN, never FEC protected), and the rest remaining, its offset
advanced. -/
def maybeSplitOffFrame (f : StreamFrame) (maxSize : Nat) :
    Option StreamFrame × Bool × StreamFrame :=
  if maxSize ≥ f.length then (none, false, f)
  else
    let n := f.maxDataLen maxSize
    if n = 0 then (none, true, f)
    else
      (some { f with fin := false, fecProtected := false, data := f.data.take n },
        true, { f with offset := f.offset + n, data := f.data.drop n })

theorem append_keeps {σ : Type} (f : StreamFrame) (b : List UInt8) : Call.Keeps (σ := σ) (f.append b) := by
  unfold append
  refine Call.keeps_ite _ (Call.keeps_fail _) ?_
  exact (Quicvarint.append_keeps _ _).bind fun b =>
    (Call.keeps_appendWhen _ (fun b => Quicvarint.append_keeps b _) b).bind fun b =>
      (Call.keeps_appendWhen _ (fun b => Quicvarint.append_keeps b _) b).bind fun b => Call.keeps_pure _

theorem append_writes {σ : Type} (f : StreamFrame) : Call.Writes (σ := σ) f.append f.length := by
  intro b s out s' run
  unfold append at run
  by_cases empty : (f.data.length = 0 && !f.fin) = true
  · rw [if_pos empty] at run
    simp [Call.fail] at run
  rw [if_neg empty] at run
  obtain ⟨id, idLen, run⟩ := (Quicvarint.append_writes _).peel run
  obtain ⟨offset, offsetLen, run⟩ :=
    ((Quicvarint.append_writes f.offset).when (f.offset ≠ 0)).peel run
  obtain ⟨lenField, lenFieldLen, run⟩ :=
    ((Quicvarint.append_writes f.dataLen).when (f.dataLenPresent = true)).peel run
  simp only [Call.pure_apply, Result.ok.injEq, List.append_assoc] at run
  obtain ⟨rfl, rfl⟩ := run
  refine ⟨rfl, _, rfl, ?_⟩
  simp only [length, StreamFrame.dataLen, List.length_singleton, List.length_append, idLen,
    offsetLen, lenFieldLen]
  omega

/-! ## Splitting to a size budget -/

theorem length_mono (f : StreamFrame) {data data' : List UInt8} (le : data.length ≤ data'.length) :
    { f with data }.length ≤ { f with data := data' }.length := by
  have lenLe := Quicvarint.size_mono le
  simp only [length, dataLen]
  split_ifs <;> omega

theorem size_of_lt_16384 {n : Nat} (small : n < 16384) : Quicvarint.size n = if n ≤ 63 then 1 else 2 := by
  unfold Quicvarint.size Quicvarint.maxVarInt1 Quicvarint.maxVarInt2
  split_ifs <;> omega

theorem length_le_of_maxDataLen (f : StreamFrame) {maxSize : Nat} (small : maxSize < 16384)
    {data : List UInt8} (full : data.length = f.maxDataLen maxSize) (pos : 0 < f.maxDataLen maxSize) :
    { f with data }.length ≤ maxSize := by
  unfold maxDataLen at full pos
  dsimp only at full pos
  generalize header : 1 + Quicvarint.size f.streamID + (if f.offset ≠ 0 then Quicvarint.size f.offset else 0) =
    headerLen at full pos
  simp only [length, dataLen, header]
  have fieldLen := size_of_lt_16384 (n := data.length) (by split_ifs at full <;> omega)
  have guessLen := size_of_lt_16384 (n := maxSize - (headerLen + if f.dataLenPresent then 1 else 0)) (by omega)
  cases present : f.dataLenPresent <;>
    simp only [present, Bool.false_eq_true, Bool.true_and, Bool.false_and, decide_eq_true_eq, ↓reduceIte] at full pos guessLen ⊢
  · split_ifs at full pos <;> omega
  · rw [fieldLen]
    rw [guessLen] at full pos
    split_ifs at full pos ⊢ <;> omega

theorem maxSize_lt_length_of_maxDataLen_zero (f : StreamFrame) {maxSize : Nat}
    (zero : f.maxDataLen maxSize = 0) {data : List UInt8} (nonempty : data ≠ []) :
    maxSize < { f with data }.length := by
  have somData := List.length_pos_iff.mpr nonempty
  have fieldLen := Quicvarint.size_pos data.length
  unfold maxDataLen at zero
  simp only [ne_eq, Quicvarint.size_eq_one_iff, Quicvarint.maxVarInt1, Bool.and_eq_true, decide_eq_true_eq] at zero
  simp only [length, dataLen]
  split_ifs at zero ⊢ <;> omega

theorem maxDataLen_lt_dataLen (f : StreamFrame) {maxSize : Nat} (small : maxSize < 16384)
    (tooLong : maxSize < f.length) (pos : 0 < f.maxDataLen maxSize) : f.maxDataLen maxSize < f.data.length := by
  apply Nat.lt_of_not_le
  intro notMore
  have fits := @length_le_of_maxDataLen f maxSize small (List.replicate (f.maxDataLen maxSize) 0)
    List.length_replicate pos
  have longer := @length_mono f f.data (List.replicate (f.maxDataLen maxSize) 0)
    (by rw [List.length_replicate]; exact notMore)
  exact absurd (Nat.lt_of_lt_of_le tooLong (longer.trans fits)) (Nat.lt_irrefl _)

theorem streamFrame_split (f : StreamFrame) (maxSize : Nat) (small : maxSize < 16384) :
    (∀ data : List UInt8, data.length = f.maxDataLen maxSize → 0 < f.maxDataLen maxSize →
       { f with data }.length ≤ maxSize) ∧
    (match f.maybeSplitOffFrame maxSize with
      | (some g, true, f') => g.length ≤ maxSize ∧ g.offset = f.offset ∧ g.fin = false ∧
          g.data ++ f'.data = f.data ∧ f'.offset = f.offset + g.data.length ∧ f'.fin = f.fin
      | (none, false, f') => f.length ≤ maxSize ∧ f' = f
      | (none, true, f') => f' = f ∧ ∀ data : List UInt8, data ≠ [] → maxSize < { f with data }.length
      | (some _, false, _) => False) := by
  refine ⟨fun data full pos => length_le_of_maxDataLen f small full pos, ?_⟩
  unfold maybeSplitOffFrame
  dsimp only
  split_ifs with fits zero
  · exact ⟨fits, rfl⟩
  · exact ⟨rfl, fun data nonempty => maxSize_lt_length_of_maxDataLen_zero f zero nonempty⟩
  · -- the frame split off takes exactly `MaxDataLen` bytes, since the frame carries more
    have pos := Nat.pos_of_ne_zero zero
    have more := maxDataLen_lt_dataLen f small (Nat.lt_of_not_le fits) pos
    have taken : (f.data.take (f.maxDataLen maxSize)).length = f.maxDataLen maxSize := by
      rw [List.length_take]
      exact Nat.min_eq_left more.le
    refine ⟨length_le_of_maxDataLen f small taken pos, rfl, rfl, List.take_append_drop _ _, by rw [taken], rfl⟩

/-- A frame of five bytes split to five bytes: the header takes three. -/
theorem streamFrame_split_fiveBytes :
    5 < 16384 ∧
    (∀ data : List UInt8, data.length = (⟨0, 0, [1, 2, 3, 4, 5], true, true, false⟩ : StreamFrame).maxDataLen 5 → 0 < (⟨0, 0, [1, 2, 3, 4, 5], true, true, false⟩ : StreamFrame).maxDataLen 5 →
       { (⟨0, 0, [1, 2, 3, 4, 5], true, true, false⟩ : StreamFrame) with data }.length ≤ 5) ∧
    (match (⟨0, 0, [1, 2, 3, 4, 5], true, true, false⟩ : StreamFrame).maybeSplitOffFrame 5 with
      | (some g, true, f') => g.length ≤ 5 ∧ g.offset = (⟨0, 0, [1, 2, 3, 4, 5], true, true, false⟩ : StreamFrame).offset ∧ g.fin = false ∧
          g.data ++ f'.data = (⟨0, 0, [1, 2, 3, 4, 5], true, true, false⟩ : StreamFrame).data ∧ f'.offset = (⟨0, 0, [1, 2, 3, 4, 5], true, true, false⟩ : StreamFrame).offset + g.data.length ∧ f'.fin = (⟨0, 0, [1, 2, 3, 4, 5], true, true, false⟩ : StreamFrame).fin
      | (none, false, f') => (⟨0, 0, [1, 2, 3, 4, 5], true, true, false⟩ : StreamFrame).length ≤ 5 ∧ f' = (⟨0, 0, [1, 2, 3, 4, 5], true, true, false⟩ : StreamFrame)
      | (none, true, f') => f' = (⟨0, 0, [1, 2, 3, 4, 5], true, true, false⟩ : StreamFrame) ∧ ∀ data : List UInt8, data ≠ [] → 5 < { (⟨0, 0, [1, 2, 3, 4, 5], true, true, false⟩ : StreamFrame) with data }.length
      | (some _, false, _) => False) :=
  ⟨by decide, streamFrame_split (⟨0, 0, [1, 2, 3, 4, 5], true, true, false⟩ : StreamFrame) 5 (by decide)⟩

/-- A header longer than the budget: `MaxDataLen` is zero, and the frame with
that many data bytes, none, is still longer than the budget. -/
theorem maxDataLen_zero_header_too_long :
    (⟨0, 0, [1], false, true, false⟩ : StreamFrame).maxDataLen 1 = 0 ∧
      1 < ({ (⟨0, 0, [1], false, true, false⟩ : StreamFrame) with data := [] } : StreamFrame).length := by
  decide

end StreamFrame

def maxDatagramSize : Nat := 16383

structure DatagramFrame where
  dataLenPresent : Bool
  data : List UInt8
  fecProtected : Bool
deriving DecidableEq, Repr

namespace DatagramFrame

def length (f : DatagramFrame) : Nat :=
  1 + f.data.length + (if f.dataLenPresent then Quicvarint.size f.data.length else 0)

def maxDataLen (f : DatagramFrame) (maxSize : Nat) : Nat :=
  let headerLen := if f.dataLenPresent then 2 else 1
  if headerLen > maxSize then 0
  else
    let maxDataLen := maxSize - headerLen
    if f.dataLenPresent && Quicvarint.size maxDataLen ≠ 1 then maxDataLen - 1 else maxDataLen

def append {σ : Type} (f : DatagramFrame) (b : List UInt8) : Call σ (List UInt8) := do
  let typ : UInt8 := if f.dataLenPresent then 0x31 else 0x30
  let b ← Call.appendWhen f.dataLenPresent (fun b => Quicvarint.append b f.data.length) (b ++ [typ])
  return b ++ f.data

theorem append_keeps {σ : Type} (f : DatagramFrame) (b : List UInt8) : Call.Keeps (σ := σ) (f.append b) := by
  unfold append
  exact (Call.keeps_appendWhen _ (fun b => Quicvarint.append_keeps b _) _).bind fun b => Call.keeps_pure _

theorem append_writes {σ : Type} (f : DatagramFrame) :
    Call.Writes (σ := σ) f.append f.length := by
  intro b s out s' run
  unfold append at run
  obtain ⟨dataLen, dataLenLen, run⟩ :=
    ((Quicvarint.append_writes f.data.length).when (f.dataLenPresent = true)).peel run
  simp only [Call.pure_apply, Result.ok.injEq, List.append_assoc] at run
  obtain ⟨rfl, rfl⟩ := run
  refine ⟨rfl, _, rfl, ?_⟩
  simp only [length, List.length_append, List.length_singleton, dataLenLen]
  omega

end DatagramFrame

def SourceSymbolFrame.append {σ : Type} (f : SourceSymbolFrame) (b : List UInt8) :
    Call σ (List UInt8) := do
  let b ← Quicvarint.append b sourceSymbolFrameType
  let b ← Quicvarint.append b f.ssid.toNat
  let b ← Quicvarint.append b f.payload.len
  return b ++ f.payload.data

theorem SourceSymbolFrame.append_keeps {σ : Type} (f : SourceSymbolFrame) (b : List UInt8) :
    Call.Keeps (σ := σ) (f.append b) :=
  (Quicvarint.append_keeps _ _).bind fun _ => (Quicvarint.append_keeps _ _).bind fun _ =>
    (Quicvarint.append_keeps _ _).bind fun _ => Call.keeps_pure _

theorem SourceSymbolFrame.append_writes {σ : Type} (f : SourceSymbolFrame) :
    Call.Writes (σ := σ) f.append f.length := by
  intro b s out s' run
  obtain ⟨typ, typLen, run⟩ := (Quicvarint.append_writes _).peel run
  obtain ⟨ssid, ssidLen, run⟩ := (Quicvarint.append_writes _).peel run
  obtain ⟨payloadLen, payloadLenLen, run⟩ := (Quicvarint.append_writes _).peel run
  simp only [Call.pure_apply, Result.ok.injEq, List.append_assoc] at run
  obtain ⟨rfl, rfl⟩ := run
  refine ⟨rfl, _, rfl, ?_⟩
  simp only [SourceSymbolFrame.length, List.length_append, typLen, ssidLen, payloadLenLen,
    Slice.len]
  omega

def RepairFrame.append {σ : Type} (f : RepairFrame) (b : List UInt8) : Call σ (List UInt8) := do
  let b ← Quicvarint.append b repairFrameType
  let b ← Quicvarint.append b f.metadata.blockID.toNat
  let b ← Quicvarint.append b f.metadata.parityID.toNat
  let b ← Quicvarint.append b f.payload.len
  return b ++ f.payload.data

theorem RepairFrame.append_keeps {σ : Type} (f : RepairFrame) (b : List UInt8) :
    Call.Keeps (σ := σ) (f.append b) :=
  (Quicvarint.append_keeps _ _).bind fun _ => (Quicvarint.append_keeps _ _).bind fun _ =>
    (Quicvarint.append_keeps _ _).bind fun _ => (Quicvarint.append_keeps _ _).bind fun _ => Call.keeps_pure _

theorem RepairFrame.append_writes {σ : Type} (f : RepairFrame) :
    Call.Writes (σ := σ) f.append f.length := by
  intro b s out s' run
  obtain ⟨typ, typLen, run⟩ := (Quicvarint.append_writes _).peel run
  obtain ⟨block, blockLen, run⟩ := (Quicvarint.append_writes _).peel run
  obtain ⟨parity, parityLen, run⟩ := (Quicvarint.append_writes _).peel run
  obtain ⟨payloadLen, payloadLenLen, run⟩ := (Quicvarint.append_writes _).peel run
  simp only [Call.pure_apply, Result.ok.injEq, List.append_assoc] at run
  obtain ⟨rfl, rfl⟩ := run
  refine ⟨rfl, _, rfl, ?_⟩
  simp only [RepairFrame.length, List.length_append, typLen, blockLen, parityLen, payloadLenLen,
    Slice.len]
  omega

end QuicFec.Wire
