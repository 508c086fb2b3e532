import QuicFec.Protocol
import QuicFec.Quicvarint

/-! # SOURCE_SYMBOL and REPAIR frames

`internal/wire/fec_source_symbol_frame.go` and `internal/wire/fec_repair_frame.go`:
the two frames the FEC layer adds to QUIC, their lengths and their parsers.  A
SOURCE_SYMBOL frame wraps the serialized FEC-protected frames of one packet; a
REPAIR frame carries one parity symbol of a block.  The parsers read the bytes
after the frame type. -/
set_option autoImplicit false

namespace QuicFec.Wire

open Go QuicFec.Protocol

/-- `repairFrameType` (`0x32a80fec`, a four-byte varint). -/
def repairFrameType : Nat := 0x32a80fec

/-- `sourceSymbolFrameType` (`0x32a80fec55`, an eight-byte varint). -/
def sourceSymbolFrameType : Nat := 0x32a80fec55

structure SourceSymbolFrame where
  ssid : SourceSymbolID
  payload : Slice UInt8
deriving DecidableEq, Repr

structure BlockMetadata where
  blockID : BlockID
  parityID : ParityID
deriving DecidableEq, Repr

structure RepairFrame where
  metadata : BlockMetadata
  payload : Slice UInt8
deriving DecidableEq, Repr

/-- `SourceSymbolFrame.HeaderLen`: everything but the payload. -/
def SourceSymbolFrame.headerLen (f : SourceSymbolFrame) : Nat :=
  Quicvarint.size sourceSymbolFrameType + Quicvarint.size f.ssid.toNat +
    Quicvarint.size f.payload.len

def SourceSymbolFrame.length (f : SourceSymbolFrame) : Nat :=
  Quicvarint.size sourceSymbolFrameType + Quicvarint.size f.ssid.toNat +
    Quicvarint.size f.payload.len + f.payload.len

def RepairFrame.length (f : RepairFrame) : Nat :=
  Quicvarint.size repairFrameType + Quicvarint.size f.metadata.blockID.toNat +
    Quicvarint.size f.metadata.parityID.toNat + Quicvarint.size f.payload.len + f.payload.len

theorem SourceSymbolFrame.length_eq (f : SourceSymbolFrame) :
    f.length = f.headerLen + f.payload.len := rfl

theorem SourceSymbolFrame.headerLen_le (f : SourceSymbolFrame)
    (short : f.payload.len ≤ Quicvarint.maxVarInt2) :
    f.headerLen ≤ maxFECHeaderOverhead := by
  have ssidLen := Quicvarint.size_le_eight f.ssid.toNat
  have payloadLen : Quicvarint.size f.payload.len ≤ 2 := by
    unfold Quicvarint.size
    split_ifs <;> omega
  have typeLen : Quicvarint.size sourceSymbolFrameType = 8 := by decide
  unfold SourceSymbolFrame.headerLen maxFECHeaderOverhead
  omega

/-- `io.ReadFull` of `n` bytes into a fresh buffer. -/
def readFull (n : Nat) : Call (List UInt8) (List UInt8) := fun r =>
  if n ≤ r.length then .ok (r.take n) (r.drop n) else .error "unexpected EOF" r

/-- `wire.ParseSourceSymbolFrame`.  The payload buffer is allocated with
capacity `MaxPacketBufferSize`, so `make` panics for a longer payload. -/
def parseSourceSymbolFrame : Call (List UInt8) SourceSymbolFrame := do
  let sid ← Quicvarint.read
  let payloadLen ← Quicvarint.read
  let r ← Call.get
  if payloadLen > r.length then Call.fail "EOF"
  else if payloadLen = 0 then return ⟨UInt64.ofNat sid, Slice.empty⟩
  else
    let buffer : Slice UInt8 ← Slice.make 0 payloadLen maxPacketBufferSize
    let bytes ← readFull payloadLen
    return ⟨UInt64.ofNat sid, ⟨bytes, buffer.spare⟩⟩

def parseRepairFrame : Call (List UInt8) RepairFrame := do
  let blockID ← Quicvarint.read
  let parityID ← Quicvarint.read
  let payloadLen ← Quicvarint.read
  let r ← Call.get
  if payloadLen > r.length then Call.fail "EOF"
  else if payloadLen = 0 then return ⟨⟨UInt64.ofNat blockID, UInt64.ofNat parityID⟩, Slice.empty⟩
  else
    let bytes ← readFull payloadLen
    return ⟨⟨UInt64.ofNat blockID, UInt64.ofNat parityID⟩, Slice.ofList bytes⟩

end QuicFec.Wire
