import QuicFec.Quicvarint
import QuicFec.Protocol

/-! # Packet headers

`internal/wire/short_header.go` and `extended_header.go`: how the packer
writes the header of a 1-RTT packet and of a long header packet, and the
lengths it reserves for them.  A long header carries a two-byte `Length`
field: the packet number, the payload and the AEAD overhead that follow it. -/
set_option autoImplicit false

namespace QuicFec.Wire

open Go QuicFec.Protocol

/-- `appendPacketNumber`: the low `pnLen` bytes of the packet number. -/
def appendPacketNumber {σ : Type} (b : List UInt8) (pn : PacketNumber) (pnLen : Nat) :
    Call σ (List UInt8) :=
  if 1 ≤ pnLen ∧ pnLen ≤ 4 then pure (b ++ Quicvarint.bigEndian pn.toNat pnLen)
  else Call.fail s!"invalid packet number length: {pnLen}"

def appendShortHeader {σ : Type} (b : List UInt8) (connID : List UInt8) (pn : PacketNumber)
    (pnLen : Nat) (keyPhaseOne : Bool) : Call σ (List UInt8) :=
  let typeByte : UInt8 := (0x40 : UInt8) ||| UInt8.ofNat (pnLen - 1) ||| (if keyPhaseOne then (1 : UInt8) <<< 2 else 0)
  appendPacketNumber (b ++ [typeByte] ++ connID) pn pnLen

def shortHeaderLen (connID : List UInt8) (pnLen : Nat) : Nat := 1 + connID.length + pnLen

/-- `protocol.PacketType` of a long header. -/
inductive PacketType where
  | initial
  | retry
  | handshake
  | zeroRTT
deriving DecidableEq, Repr

def version2 : UInt32 := 0x6b3343cf

/-- The two packet type bits of the first byte, which QUIC v2 permutes. -/
def packetTypeBits (v : UInt32) : PacketType → UInt8
  | .initial => if v = version2 then 0b01 else 0b00
  | .zeroRTT => if v = version2 then 0b10 else 0b01
  | .handshake => if v = version2 then 0b11 else 0b10
  | .retry => if v = version2 then 0b00 else 0b11

/-- `wire.ExtendedHeader`, with the fields of its `Header`. -/
structure ExtendedHeader where
  type : PacketType
  version : UInt32
  destConnectionID : List UInt8
  srcConnectionID : List UInt8
  token : List UInt8
  length : Nat
  packetNumberLen : Nat
  packetNumber : PacketNumber
deriving DecidableEq, Repr

namespace ExtendedHeader

def append {σ : Type} (h : ExtendedHeader) (b : List UInt8) : Call σ (List UInt8) :=
  if h.destConnectionID.length > maxConnIDLen then
    let n := h.destConnectionID.length
    Call.fail s!"invalid connection ID length: {n} bytes"
  else if h.srcConnectionID.length > maxConnIDLen then
    let n := h.srcConnectionID.length
    Call.fail s!"invalid connection ID length: {n} bytes"
  else
    let firstByte : UInt8 := (0xc0 : UInt8) ||| (packetTypeBits h.version h.type <<< 4) |||
      (if h.type ≠ .retry then UInt8.ofNat (h.packetNumberLen - 1) else 0)
    let b := b ++ [firstByte] ++ Quicvarint.bigEndian h.version.toNat 4 ++
      [UInt8.ofNat h.destConnectionID.length] ++ h.destConnectionID ++
      [UInt8.ofNat h.srcConnectionID.length] ++ h.srcConnectionID
    match h.type with
    | .retry => pure (b ++ h.token)
    | .initial => do
        let b ← Quicvarint.append b h.token.length
        let b ← Quicvarint.appendWithLen (b ++ h.token) h.length 2
        appendPacketNumber b h.packetNumber h.packetNumberLen
    | _ => do
        let b ← Quicvarint.appendWithLen b h.length 2
        appendPacketNumber b h.packetNumber h.packetNumberLen

def getLength (h : ExtendedHeader) : Nat :=
  1 + 4 + 1 + h.destConnectionID.length + 1 + h.srcConnectionID.length + h.packetNumberLen + 2 +
    (if h.type = .initial then Quicvarint.size h.token.length + h.token.length else 0)

end ExtendedHeader

/-! ## Header lengths -/

theorem appendPacketNumber_keeps {σ : Type} (b : List UInt8) (pn : PacketNumber) (pnLen : Nat) :
    Call.Keeps (σ := σ) (appendPacketNumber b pn pnLen) := by
  unfold appendPacketNumber
  exact Call.keeps_ite _ (Call.keeps_pure _) (Call.keeps_fail _)

theorem appendShortHeader_keeps {σ : Type} (b connID : List UInt8) (pn : PacketNumber) (pnLen : Nat)
    (keyPhaseOne : Bool) : Call.Keeps (σ := σ) (appendShortHeader b connID pn pnLen keyPhaseOne) :=
  appendPacketNumber_keeps _ pn pnLen

theorem appendPacketNumber_writes {σ : Type} (pn : PacketNumber) (pnLen : Nat) :
    Call.Writes (σ := σ) (fun b => appendPacketNumber b pn pnLen) pnLen := by
  intro b s out s' run
  unfold appendPacketNumber at run
  split_ifs at run
  · exact (Call.writes_append _).congr (by simp) b s out s' run
  · simp at run

theorem appendShortHeader_writes {σ : Type} (connID : List UInt8) (pn : PacketNumber)
    (pnLen : Nat) (keyPhaseOne : Bool) :
    Call.Writes (σ := σ) (fun b => appendShortHeader b connID pn pnLen keyPhaseOne)
      (shortHeaderLen connID pnLen) := by
  intro b s out s' run
  obtain ⟨rfl, pnBytes, written, pnBytesLen⟩ := appendPacketNumber_writes pn pnLen _ s out s' run
  simp only [List.append_assoc] at written
  exact ⟨rfl, _, written, by simp [shortHeaderLen, pnBytesLen]; omega⟩

theorem ExtendedHeader.append_writes {σ : Type} (h : ExtendedHeader) (notRetry : h.type ≠ .retry) :
    Call.Writes (σ := σ) h.append h.getLength := by
  intro b s out s' run
  unfold ExtendedHeader.append at run
  split_ifs at run with destLong srcLong
  · simp at run
  · simp at run
  cases type : h.type with
  | retry => exact absurd type notRetry
  | initial =>
      simp only [type] at run
      obtain ⟨tokenLen, tokenLenLen, run⟩ := (Quicvarint.append_writes _).peel run
      obtain ⟨lengthField, lengthFieldLen, run⟩ := (Quicvarint.appendWithLen_writes _ 2).peel run
      obtain ⟨rfl, pn, written, pnLen⟩ := appendPacketNumber_writes _ _ _ _ _ _ run
      simp only [List.append_assoc] at written
      refine ⟨rfl, _, written, ?_⟩
      simp [getLength, type, tokenLenLen, lengthFieldLen, pnLen]
      omega
  | handshake | zeroRTT =>
      simp only [type] at run
      obtain ⟨lengthField, lengthFieldLen, run⟩ := (Quicvarint.appendWithLen_writes _ 2).peel run
      obtain ⟨rfl, pn, written, pnLen⟩ := appendPacketNumber_writes _ _ _ _ _ _ run
      simp only [List.append_assoc] at written
      refine ⟨rfl, _, written, ?_⟩
      simp [getLength, type, lengthFieldLen, pnLen]
      omega

end QuicFec.Wire
