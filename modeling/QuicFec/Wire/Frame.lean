import QuicFec.Wire.AckFrame
import QuicFec.Wire.StreamFrame

/-! # Frames

`wire.Frame`, the interface every frame implements (`Append` and `Length`),
over the frames the packer and the FEC path handle, and the frame wrappers of
`internal/ackhandler` that carry a frame's acknowledgement handler.

The control frames that only the framer and the retransmission queue hand out
(MAX_DATA, NEW_CONNECTION_ID, RESET_STREAM, ...) are one constructor: their
frame type and the bytes after it.  The packer only measures and writes them.

Every frame's `Append` writes exactly its `Length` bytes (`Frame.append_writes`);
the packer's size accounting rests on that. -/
set_option autoImplicit false

namespace QuicFec.Wire

open Go

structure ConnectionCloseFrame where
  isApplicationError : Bool
  errorCode : Nat
  frameType : Nat
  reasonPhrase : List UInt8
deriving DecidableEq, Repr

namespace ConnectionCloseFrame

def connectionCloseFrameType : Nat := 0x1c

def applicationCloseFrameType : Nat := 0x1d

def length (f : ConnectionCloseFrame) : Nat :=
  1 + Quicvarint.size f.errorCode + Quicvarint.size f.reasonPhrase.length + f.reasonPhrase.length +
    (if !f.isApplicationError then Quicvarint.size f.frameType else 0)

def append {σ : Type} (f : ConnectionCloseFrame) (b : List UInt8) : Call σ (List UInt8) := do
  let typ : UInt8 :=
    UInt8.ofNat (if f.isApplicationError then applicationCloseFrameType else connectionCloseFrameType)
  let b ← Quicvarint.append (b ++ [typ]) f.errorCode
  let b ← Call.appendWhen (!f.isApplicationError) (fun b => Quicvarint.append b f.frameType) b
  let b ← Quicvarint.append b f.reasonPhrase.length
  return b ++ f.reasonPhrase

theorem append_keeps {σ : Type} (f : ConnectionCloseFrame) (b : List UInt8) :
    Call.Keeps (σ := σ) (f.append b) := by
  unfold append
  exact (Quicvarint.append_keeps _ _).bind fun b =>
    (Call.keeps_appendWhen _ (fun b => Quicvarint.append_keeps b _) b).bind fun b =>
      (Quicvarint.append_keeps _ _).bind fun b => Call.keeps_pure _

theorem append_writes {σ : Type} (f : ConnectionCloseFrame) :
    Call.Writes (σ := σ) f.append f.length := by
  intro b s out s' run
  obtain ⟨code, codeLen, run⟩ := (Quicvarint.append_writes _).peel run
  obtain ⟨typeField, typeFieldLen, run⟩ :=
    ((Quicvarint.append_writes f.frameType).when ((!f.isApplicationError) = true)).peel run
  obtain ⟨reasonLen, reasonLenLen, run⟩ := (Quicvarint.append_writes _).peel run
  simp only [Call.pure_apply, Result.ok.injEq, List.append_assoc] at run
  obtain ⟨rfl, rfl⟩ := run
  refine ⟨rfl, _, rfl, ?_⟩
  simp only [length, List.length_append, List.length_singleton, codeLen, typeFieldLen,
    reasonLenLen]
  omega

end ConnectionCloseFrame

def pingFrameType : Nat := 0x1

def pathChallengeFrameType : Nat := 0x1a

def pathResponseFrameType : Nat := 0x1b

/-- `wire.Frame`, over the frames this model handles. -/
inductive Frame where
  /-- `wire.PingFrame`. -/
  | ping
  | ack (f : AckFrame)
  | connectionClose (f : ConnectionCloseFrame)
  /-- `wire.PathChallengeFrame`, with its eight bytes of data. -/
  | pathChallenge (data : Vector UInt8 8)
  /-- `wire.PathResponseFrame`. -/
  | pathResponse (data : Vector UInt8 8)
  | stream (f : StreamFrame)
  | datagram (f : DatagramFrame)
  | sourceSymbol (f : SourceSymbolFrame)
  | repair (f : RepairFrame)
  /-- Any other control frame: its type and the bytes after it. -/
  | control (frameType : Nat) (body : List UInt8)
deriving DecidableEq

namespace Frame

def length : Frame → Nat
  | ping => 1
  | ack f => f.length
  | connectionClose f => f.length
  | pathChallenge _ => 1 + 8
  | pathResponse _ => 1 + 8
  | stream f => f.length
  | datagram f => f.length
  | sourceSymbol f => f.length
  | repair f => f.length
  | control frameType body => Quicvarint.size frameType + body.length

def append {σ : Type} : Frame → List UInt8 → Call σ (List UInt8)
  | ping, b => pure (b ++ [UInt8.ofNat pingFrameType])
  | ack f, b => f.append b
  | connectionClose f, b => f.append b
  | pathChallenge data, b => pure (b ++ [UInt8.ofNat pathChallengeFrameType] ++ data.toList)
  | pathResponse data, b => pure (b ++ [UInt8.ofNat pathResponseFrameType] ++ data.toList)
  | stream f, b => f.append b
  | datagram f, b => f.append b
  | sourceSymbol f, b => f.append b
  | repair f, b => f.append b
  | control frameType body, b => do
      let b ← Quicvarint.append b frameType
      return b ++ body

theorem length_pos : ∀ f : Frame, 0 < f.length
  | ping | pathChallenge _ | pathResponse _ => by simp [length]
  | ack f => by
      simp only [length, AckFrame.length]
      omega
  | connectionClose f => by
      simp only [length, ConnectionCloseFrame.length]
      omega
  | stream f => by
      simp only [length, StreamFrame.length]
      omega
  | datagram f => by
      simp only [length, DatagramFrame.length]
      omega
  | sourceSymbol f => by
      have := Quicvarint.size_pos sourceSymbolFrameType
      simp only [length, SourceSymbolFrame.length]
      omega
  | repair f => by
      have := Quicvarint.size_pos repairFrameType
      simp only [length, RepairFrame.length]
      omega
  | control frameType _ => by
      have := Quicvarint.size_pos frameType
      simp only [length]
      omega

theorem writes_typeAndData {σ : Type} (typ : UInt8) (data : Vector UInt8 8) :
    Call.Writes (σ := σ) (fun b => pure (b ++ [typ] ++ data.toList)) (1 + 8) := by
  intro b s out s' run
  simp only [Call.pure_apply, Result.ok.injEq, List.append_assoc] at run
  obtain ⟨rfl, rfl⟩ := run
  exact ⟨rfl, _, rfl, by simp⟩

theorem append_keeps {σ : Type} : ∀ (f : Frame) (b : List UInt8), Call.Keeps (σ := σ) (f.append b)
  | ping, _ => Call.keeps_pure _
  | ack f, b => f.append_keeps b
  | connectionClose f, b => f.append_keeps b
  | pathChallenge _, _ => Call.keeps_pure _
  | pathResponse _, _ => Call.keeps_pure _
  | stream f, b => f.append_keeps b
  | datagram f, b => f.append_keeps b
  | sourceSymbol f, b => f.append_keeps b
  | repair f, b => f.append_keeps b
  | control frameType _, b => (Quicvarint.append_keeps b frameType).bind fun _ => Call.keeps_pure _

theorem append_writes {σ : Type} : ∀ f : Frame, Call.Writes (σ := σ) f.append f.length
  | ping => Call.writes_append _
  | ack f => f.append_writes
  | connectionClose f => f.append_writes
  | pathChallenge data => writes_typeAndData _ data
  | pathResponse data => writes_typeAndData _ data
  | stream f => f.append_writes
  | datagram f => f.append_writes
  | sourceSymbol f => f.append_writes
  | repair f => f.append_writes
  | control frameType body => (Quicvarint.append_writes frameType).bind (Call.writes_append body)

end Frame

end QuicFec.Wire

namespace QuicFec.Ackhandler

open QuicFec.Wire

/-- The `ackhandler.FrameHandler`s the 1-RTT packer hands out: a send
stream's (`sendStreamAckHandler`), which the framer gives the STREAM frames it
pops, and the retransmission queue's (`AppDataAckHandler`). -/
inductive FrameHandler where
  | sendStream (streamID : Nat)
  | appData
deriving DecidableEq, Repr

/-- `ackhandler.Frame`: a frame and the handler told when it is acknowledged
or lost; a nil `Handler` is `none`. -/
structure Frame where
  frame : Wire.Frame
  handler : Option FrameHandler
deriving DecidableEq

structure StreamFrame where
  frame : Wire.StreamFrame
  handler : Option FrameHandler
deriving DecidableEq

/-- `ackhandler.IsFrameAckEliciting`: every frame but ACK and CONNECTION_CLOSE. -/
def isFrameAckEliciting : Wire.Frame → Bool
  | .ack _ => false
  | .connectionClose _ => false
  | _ => true

def hasAckElicitingFrames (fs : List Frame) : Bool :=
  fs.any fun f => isFrameAckEliciting f.frame

end QuicFec.Ackhandler
