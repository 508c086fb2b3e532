import Mathlib

/-! # Protocol constants and FEC identifiers

The constants of `internal/protocol` that the modeled code reads, and the FEC
identifier types of `internal/protocol/fec.go`.  Byte counts (`protocol.ByteCount`,
an `int64`) are natural numbers wherever the modeled code only adds and compares
them; the identifiers are the `uint64` and `byte` types of the source. -/
set_option autoImplicit false

namespace QuicFec.Protocol

/-- `protocol.MaxByteCount`, the largest value of a `ByteCount` (2^62 - 1). -/
def maxByteCount : Nat := 2 ^ 62 - 1

def maxPacketBufferSize : Nat := 1452

/-- `protocol.MaxFECHeaderOverhead`: the SOURCE_SYMBOL type (8 bytes), SSID (up
to 8 bytes) and length (2 bytes) that wrap FEC-protected frames. -/
def maxFECHeaderOverhead : Nat := 18

def maxFECPacketBufferSize : Nat := maxPacketBufferSize - maxFECHeaderOverhead

/-- `protocol.RepairPayloadMetadataLen`: the two bytes that carry a source
symbol's length inside a repair payload. -/
def repairPayloadMetadataLen : Nat := 2

def minStreamFrameBufferSize : Nat := 128

def maxStreamFrameSorterGaps : Nat := 1000

def minStreamFrameSize : Nat := 128

def maxAckFrameSize : Nat := 1000

/-- `protocol.MaxNumAckRanges`, the most ACK ranges the received packet history keeps. -/
def maxNumAckRanges : Nat := 32

def ackDelayExponent : Nat := 3

def maxNonAckElicitingAcks : Nat := 19

def initialPacketSizeIPv4 : Nat := 1252

def initialPacketSizeIPv6 : Nat := 1232

def minInitialPacketSize : Nat := 1200

/-- `protocol.InvalidByteCount`, where a `ByteCount` field marks that it holds none. -/
def invalidByteCount : Int := -1

/-- `protocol.PacketNumber`, an `int64`. -/
abbrev PacketNumber := Int

def invalidPacketNumber : PacketNumber := -1

/-- `protocol.MaxStreamCount`, the largest stream count (a `StreamNum`) a
MAX_STREAMS frame may carry. -/
def maxStreamCount : Int := 2 ^ 60

inductive StreamType where
  | uni
  | bidi
deriving DecidableEq, Repr

/-- `protocol.MaxActiveConnectionIDs`, the number of the peer's connection IDs kept. -/
def maxActiveConnectionIDs : Nat := 4

def packetsPerConnectionID : Nat := 10000

def maxConnIDLen : Nat := 20

inductive Perspective where
  | server
  | client
deriving DecidableEq, Repr

/-- `Perspective.String`. -/
def Perspective.toString : Perspective → String
  | .server => "server"
  | .client => "client"

instance : ToString Perspective := ⟨Perspective.toString⟩

def Perspective.opposite : Perspective → Perspective
  | .server => .client
  | .client => .server

/-- `protocol.EncryptionLevel`; the zero value `Unencrypted` is never passed to
the code modelled here. -/
inductive EncryptionLevel where
  | initial
  | handshake
  | zeroRTT
  | oneRTT
deriving DecidableEq, Repr

/-- `EncryptionLevel.String`. -/
def EncryptionLevel.toString : EncryptionLevel → String
  | .initial => "Initial"
  | .handshake => "Handshake"
  | .zeroRTT => "0-RTT"
  | .oneRTT => "1-RTT"

instance : ToString EncryptionLevel := ⟨EncryptionLevel.toString⟩

abbrev SourceSymbolID := UInt64

abbrev BlockID := UInt64

abbrev ParityID := UInt64

/-- `protocol.DecoderFECScheme`, a byte: the peer may announce any value. -/
abbrev DecoderFECScheme := UInt8

def fecDisabled : DecoderFECScheme := 0

def xorFECScheme : DecoderFECScheme := 1

def reedSolomonFECScheme : DecoderFECScheme := 2

end QuicFec.Protocol
