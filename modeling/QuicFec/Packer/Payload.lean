import QuicFec.Wire.Header
import QuicFec.Fec.Manager
import QuicFec.Connection.Framer

/-! # Composing a packet's payload

`packet_packer.go`: `composeNextPacket` and `maybeGetAppDataPacket`, which
decide what goes into a 1-RTT (or 0-RTT) packet, and the queues they draw
from: REPAIR and DATAGRAM frames (`repair_queue.go`, `datagram_queue.go`),
lost control frames (`retransmission_queue.go`), and the framer with the send
streams (`framer.go`).

The packer's other components, the received packet handler that supplies ACK
frames, the packet number manager, the connection ID manager and the crypto
setup, are the `Components` interface over a state `E` of their own.  None of
their methods on this path returns an error, so each is a state transformer
of `E`.  The packer's own state is `Packer E`.

`composeNextPacket` is one Go function; the model cuts it at its blocks (the
ACK, the REPAIR frame, the DATAGRAM frame, the retransmissions, the framer's
data), each a definition of its own, and `composeNextPacket` runs them in the
source's order.

Byte counts are `protocol.ByteCount`, an `int64`: `maxFrameSize - pl.length`
goes negative once a frame fills the packet, so they are `Int` here. -/
set_option autoImplicit false

namespace QuicFec

open Go QuicFec.Protocol QuicFec.Wire

/-! ## The queues -/

def maxRepairSendQueueLen : Nat := 32

/-- `ringbuffer.RingBuffer.PopFront`'s panic on an empty queue. -/
def popFromEmpty : String := "github.com/quic-go/quic-go/internal/utils/ringbuffer: pop from an empty queue"

/-- `quic.repairQueue`: its send queue of REPAIR frames, oldest first. -/
structure RepairQueue where
  sendQueue : List RepairFrame
deriving DecidableEq

namespace RepairQueue

/-- `repairQueue.Add`.  Its comment says a full queue blocks; the code panics. -/
def add (f : RepairFrame) : Call RepairQueue Unit := fun q =>
  if q.sendQueue.length < maxRepairSendQueueLen then .ok () ⟨q.sendQueue ++ [f]⟩
  else .panic "repair queue full"

def peek (q : RepairQueue) : Option RepairFrame := q.sendQueue.head?

def pop : Call RepairQueue Unit := fun q =>
  match q.sendQueue with
  | [] => .panic popFromEmpty
  | _ :: rest => .ok () ⟨rest⟩

end RepairQueue

/-- `quic.datagramQueue`: its send queue of DATAGRAM frames, oldest first. -/
structure DatagramQueue where
  sendQueue : List DatagramFrame
deriving DecidableEq

namespace DatagramQueue

def peek (q : DatagramQueue) : Option DatagramFrame := q.sendQueue.head?

def pop : Call DatagramQueue Unit := fun q =>
  match q.sendQueue with
  | [] => .panic popFromEmpty
  | _ :: rest => .ok () ⟨rest⟩

end DatagramQueue

/-- `quic.retransmissionQueue`, its 1-RTT part: the control frames lost in
1-RTT packets, oldest first.  The Initial and Handshake queues serve the
handshake packets, which this model does not pack. -/
structure RetransmissionQueue where
  appData : List Frame
deriving DecidableEq

namespace RetransmissionQueue

def hasAppData (q : RetransmissionQueue) : Bool := decide (q.appData.length > 0)

/-- `addAppData`, which `AddPing` and the handler's `OnLost` call. -/
def addAppData (f : Frame) : Call RetransmissionQueue Unit := fun q =>
  match f with
  | .stream _ => .panic "STREAM frames are handled with their respective streams."
  | _ => .ok () ⟨q.appData ++ [f]⟩

/-- `GetAppDataFrame`: the oldest frame, if it fits into `maxLen` bytes. -/
def getAppDataFrame (maxLen : Int) : Call RetransmissionQueue (Option Frame) := fun q =>
  match q.appData with
  | [] => .ok none q
  | f :: rest => if (f.length : Int) > maxLen then .ok none q else .ok (some f) ⟨rest⟩

end RetransmissionQueue

/-! ## The packer and its components -/

/-- The 1-RTT sealer (`handshake.ShortHeaderSealer`): its key phase, its AEAD
overhead, and `Seal` (`sealPayload`: packet number, header, plaintext), which
adds exactly the overhead to the plaintext.  Header protection flips bits in
place and is not modeled. -/
structure Sealer where
  keyPhaseOne : Bool
  overhead : Nat
  sealPayload : PacketNumber → List UInt8 → List UInt8 → List UInt8
  length_sealPayload : ∀ pn header payload,
    (sealPayload pn header payload).length = payload.length + overhead

/-- What `packetPacker` calls on the other components of the connection, over
their state `E`. -/
structure Components (E : Type) where
  /-- `p.acks.GetAckFrame(protocol.Encryption1RTT, onlyIfQueued)`. -/
  getAckFrame : Bool → E → Option AckFrame × E
  /-- `p.pnManager.PeekPacketNumber(protocol.Encryption1RTT)`: the number and its length. -/
  peekPacketNumber : E → PacketNumber × Nat
  /-- `p.pnManager.PopPacketNumber(protocol.Encryption1RTT)`. -/
  popPacketNumber : E → PacketNumber × E
  /-- `p.getDestConnID()`. -/
  getDestConnID : E → List UInt8
  /-- `p.cryptoSetup.Get1RTTSealer()`. -/
  get1RTTSealer : E → Except String Sealer
  /-- The order `p.rand.Shuffle` puts the control frames of a packet in. -/
  shuffle : List Ackhandler.Frame → List Ackhandler.Frame
  shuffle_perm : ∀ frames, (shuffle frames).Perm frames

/-- `quic.packetPacker`: its components' state and the fields it owns.  A
connection always creates both FEC queues (`preSetup`); `fecSender` is nil
until `SetFECSender`.  `framer` is the framer with the send streams it reaches. -/
structure Packer (E : Type) where
  env : E
  perspective : Perspective
  framer : Sending
  retransmissionQueue : RetransmissionQueue
  repairQueue : RepairQueue
  datagramQueue : DatagramQueue
  fecSender : Option FECEndpoint
  numNonAckElicitingAcks : Nat

structure Payload where
  streamFrames : List Ackhandler.StreamFrame
  frames : List Ackhandler.Frame
  ack : Option AckFrame
  length : Int
  fecFrames : List Ackhandler.Frame
  fecStreamFrames : List Ackhandler.StreamFrame
deriving DecidableEq

/-- `payload{}`. -/
def Payload.empty : Payload := ⟨[], [], none, 0, [], []⟩

namespace Packer

variable {E : Type} (c : Components E)

/-- Call a component on the packer's environment. -/
def onEnv {α : Type} (x : E → α × E) : Call (Packer E) α := fun p =>
  .ok (x p.env).1 { p with env := (x p.env).2 }

/-- Call a method of the repair queue. -/
def onRepairQueue {α : Type} (x : Call RepairQueue α) : Call (Packer E) α :=
  Call.focus (·.repairQueue) (fun q p => { p with repairQueue := q }) x

/-- Call a method of the datagram queue. -/
def onDatagramQueue {α : Type} (x : Call DatagramQueue α) : Call (Packer E) α :=
  Call.focus (·.datagramQueue) (fun q p => { p with datagramQueue := q }) x

/-- Call a method of the framer. -/
def onFramer {α : Type} (x : Call Sending α) : Call (Packer E) α :=
  Call.focus (·.framer) (fun f p => { p with framer := f }) x

/-- Call a method of the retransmission queue. -/
def onRetransmissionQueue {α : Type} (x : Call RetransmissionQueue α) : Call (Packer E) α :=
  Call.focus (·.retransmissionQueue) (fun q p => { p with retransmissionQueue := q }) x

/-- Call a method through `p.fecSender`, a nil-pointer dereference while it
is nil. -/
def throughSender {α : Type} (x : Fec.BlockFECScheme → Call Fec.Manager α) : Call (Packer E) α :=
  fun p =>
    match p.fecSender with
    | none => .panic "runtime error: invalid memory address or nil pointer dereference"
    | some (scheme, m) =>
        match x scheme m with
        | .ok a m' => .ok a { p with fecSender := some (scheme, m') }
        | .error e m' => .error e { p with fecSender := some (scheme, m') }
        | .panic msg => .panic msg

/-! ## `composeNextPacket`, block by block -/

/-- The ACK block: `GetAckFrame`, asking only for a queued ACK when there is
nothing else to send. -/
def addAck (onlyIfQueued : Bool) : Call (Packer E) Payload := do
  match ← onEnv (c.getAckFrame onlyIfQueued) with
  | some ack => return { Payload.empty with ack := some ack, length := ack.length }
  | none => return Payload.empty

/-- The REPAIR block: the oldest queued REPAIR frame goes in if it fits; if it
does not and the packet has no ACK, the packer panics.  Also returns whether
a REPAIR frame was added. -/
def addRepairFrame (maxFrameSize : Int) (hasAck : Bool) (pl : Payload) :
    Call (Packer E) (Payload × Bool) := do
  match (← Call.get).repairQueue.peek with
  | none => return (pl, false)
  | some f =>
      let size : Int := f.length
      let remaining := maxFrameSize - pl.length
      if size ≤ remaining then
        onRepairQueue RepairQueue.pop
        return ({ pl with frames := pl.frames ++ [⟨.repair f, none⟩], length := pl.length + size },
          true)
      else if !hasAck then
        Call.panic s!"no space for repair frame: frame size {size}, remaining space {remaining}"
      else return (pl, false)

/-- The DATAGRAM block: the oldest queued DATAGRAM frame goes in if it fits,
into the FEC-protected frames if it asks for protection; a frame that does not
fit into a packet with neither an ACK nor a REPAIR frame is dropped. -/
def addDatagramFrame (maxFrameSize : Int) (hasAck addedRepairFrame : Bool) (pl : Payload) :
    Call (Packer E) Payload := do
  match (← Call.get).datagramQueue.peek with
  | none => return pl
  | some f =>
      let size : Int := f.length
      if size ≤ maxFrameSize - pl.length then
        onDatagramQueue DatagramQueue.pop
        if f.fecProtected then
          return { pl with fecFrames := pl.fecFrames ++ [⟨.datagram f, none⟩],
                           length := pl.length + size }
        else
          return { pl with frames := pl.frames ++ [⟨.datagram f, none⟩], length := pl.length + size }
      else if !hasAck && !addedRepairFrame then
        onDatagramQueue DatagramQueue.pop
        return pl
      else return pl

/-- The retransmission loop: frames from the retransmission queue while at
least `MinStreamFrameSize` bytes are left.  Every frame is at least one byte
long, so the space left shrinks with each iteration. -/
def addRetransmissions (maxFrameSize : Int) (pl : Payload) : Call (Packer E) Payload :=
  let remainingLen := maxFrameSize - pl.length
  if remainingLen < minStreamFrameSize then pure pl
  else do
    match ← onRetransmissionQueue (RetransmissionQueue.getAppDataFrame remainingLen) with
    | none => return pl
    | some f =>
        addRetransmissions maxFrameSize
          { pl with frames := pl.frames ++ [⟨f, some .appData⟩],
                    length := pl.length + f.length }
termination_by (maxFrameSize - pl.length).toNat
decreasing_by
  have positive := Frame.length_pos f
  unfold minStreamFrameSize at *
  omega

/-- The handler `composeNextPacket` gives a control frame the framer added:
the retransmission queue's, except for PATH_CHALLENGE and PATH_RESPONSE, which
are never retransmitted. -/
def withAppDataHandler (f : Ackhandler.Frame) : Ackhandler.Frame :=
  match f.frame with
  | .pathChallenge _ | .pathResponse _ => f
  | _ => { f with handler := some .appData }

/-- The loop over the STREAM frames the framer returned: FEC-protected ones
go into the SOURCE_SYMBOL frame, which needs a FEC sender. -/
def sortStreamFrames (fecEnabled : Bool) :
    List Ackhandler.StreamFrame → Payload → Call (Packer E) Payload
  | [], pl => pure pl
  | f :: rest, pl => do
      if f.frame.fecProtected then
        if !fecEnabled then
          let perspective := (← Call.get).perspective
          Call.panic s!"fec.Sender doesn't exist but there is a FEC protected stream frame: perspective {perspective}"
        else sortStreamFrames fecEnabled rest { pl with fecStreamFrames := pl.fecStreamFrames ++ [f] }
      else sortStreamFrames fecEnabled rest { pl with streamFrames := pl.streamFrames ++ [f] }

/-- The `hasData` block: the framer's control frames, then its STREAM frames,
leaving `MaxFECHeaderOverhead` bytes for the SOURCE_SYMBOL header when there
is a FEC sender. -/
def addFramerData (maxFrameSize : Int) (pl : Payload) : Call (Packer E) Payload := do
  let startLen := pl.frames.length
  let (frames, lengthAdded) ← onFramer (Sending.onFramer (Framer.appendControlFrames pl.frames (maxFrameSize - pl.length)))
  let pl := { pl with frames := frames.take startLen ++ (frames.drop startLen).map withAppDataHandler,
                      length := pl.length + lengthAdded }
  let fecEnabled := (← Call.get).fecSender.isSome
  let maxLen := if fecEnabled then maxFrameSize - pl.length - maxFECHeaderOverhead
    else maxFrameSize - pl.length
  let (streamFrames, lengthAdded) ← onFramer (Sending.appendStreamFrames pl.streamFrames maxLen)
  let pl ← sortStreamFrames fecEnabled streamFrames pl
  return { pl with length := pl.length + lengthAdded }

def composeNextPacket (maxFrameSize : Int) (onlyAck ackAllowed : Bool) :
    Call (Packer E) Payload := do
  if onlyAck then
    match ← onEnv (c.getAckFrame true) with
    | some ack => return { Payload.empty with ack := some ack, length := ack.length }
    | none => return Payload.empty
  else
    let p ← Call.get
    let hasData := p.framer.framer.hasData
    let hasRetransmission := p.retransmissionQueue.hasAppData
    let pl ← if ackAllowed then addAck c (!hasRetransmission && !hasData) else pure Payload.empty
    let hasAck := pl.ack.isSome
    let (pl, addedRepairFrame) ← addRepairFrame maxFrameSize hasAck pl
    let pl ← addDatagramFrame maxFrameSize hasAck addedRepairFrame pl
    if hasAck && !hasData && !hasRetransmission then return pl
    else
      let pl ← if hasRetransmission then addRetransmissions maxFrameSize pl else pure pl
      if hasData then addFramerData maxFrameSize pl else return pl

/-- `packetPacker.maybeGetAppDataPacket`: an ACK-only payload gets a PING
after `MaxNonAckElicitingAcks` ACK-only packets in a row. -/
def maybeGetAppDataPacket (maxPayloadSize : Int) (onlyAck ackAllowed : Bool) :
    Call (Packer E) Payload := do
  let pl ← composeNextPacket c maxPayloadSize onlyAck ackAllowed
  let p ← Call.get
  if pl.frames.isEmpty && pl.streamFrames.isEmpty && pl.fecFrames.isEmpty &&
      pl.fecStreamFrames.isEmpty then
    if pl.ack.isNone then return Payload.empty
    else if p.numNonAckElicitingAcks ≥ maxNonAckElicitingAcks then
      Call.set { p with numNonAckElicitingAcks := 0 }
      return { pl with frames := pl.frames ++ [⟨.ping, none⟩], length := pl.length + 1 }
    else
      Call.set { p with numNonAckElicitingAcks := p.numNonAckElicitingAcks + 1 }
      return pl
  else
    Call.set { p with numNonAckElicitingAcks := 0 }
    return pl

end Packer

/-! ## What each block adds

Every block adds to `pl.length` the length of the frames it adds, so that the
payload's length counts its frames (`Payload.Sized`); only the framer's block
adds STREAM frames. -/

/-- The length of a payload's frames as `appendPacketPayload` writes them, the
SOURCE_SYMBOL header apart. -/
def Payload.framesLength (pl : Payload) : Nat :=
  (pl.ack.map AckFrame.length).getD 0 + (pl.frames.map (·.frame.length)).sum +
    (pl.streamFrames.map (·.frame.length)).sum + (pl.fecFrames.map (·.frame.length)).sum +
    (pl.fecStreamFrames.map (·.frame.length)).sum

/-- `pl.length` counts the payload's frames. -/
def Payload.Sized (pl : Payload) : Prop := pl.length = pl.framesLength

/-- A payload as the blocks before the framer's leave it: sized, with no
STREAM frame yet. -/
structure Payload.Unstreamed (pl : Payload) : Prop where
  sized : pl.Sized
  noStreamFrames : pl.streamFrames = []
  noFecStreamFrames : pl.fecStreamFrames = []

theorem Payload.unstreamed_empty : Payload.empty.Unstreamed := ⟨rfl, rfl, rfl⟩

theorem Payload.Unstreamed.addFrame {pl : Payload} (unstreamed : pl.Unstreamed) (f : Ackhandler.Frame) :
    ({ pl with frames := pl.frames ++ [f], length := pl.length + f.frame.length } : Payload).Unstreamed := by
  obtain ⟨sized, noStream, noFecStream⟩ := unstreamed
  refine ⟨?_, noStream, noFecStream⟩
  unfold Payload.Sized Payload.framesLength at *
  simp only [List.map_append, List.map_singleton, List.sum_append, List.sum_singleton, sized]
  push_cast
  ring

theorem Payload.Unstreamed.addFecFrame {pl : Payload} (unstreamed : pl.Unstreamed) (f : Ackhandler.Frame) :
    ({ pl with fecFrames := pl.fecFrames ++ [f], length := pl.length + f.frame.length } : Payload).Unstreamed := by
  obtain ⟨sized, noStream, noFecStream⟩ := unstreamed
  refine ⟨?_, noStream, noFecStream⟩
  unfold Payload.Sized Payload.framesLength at *
  simp only [List.map_append, List.map_singleton, List.sum_append, List.sum_singleton, sized]
  push_cast
  ring

namespace Packer

variable {E : Type} (c : Components E)

theorem addAck_unstreamed {onlyIfQueued : Bool} {p p' : Packer E} {pl : Payload}
    (run : addAck c onlyIfQueued p = .ok pl p') : pl.Unstreamed ∧ p'.framer = p.framer := by
  unfold addAck at run
  simp only [Call.bind_apply, onEnv] at run
  cases ack : (c.getAckFrame onlyIfQueued p.env).1 with
  | none =>
    simp only [ack, Call.pure_apply, Result.ok.injEq] at run
    obtain ⟨rfl, rfl⟩ := run
    exact ⟨Payload.unstreamed_empty, rfl⟩
  | some a =>
    simp only [ack, Call.pure_apply, Result.ok.injEq] at run
    obtain ⟨rfl, rfl⟩ := run
    exact ⟨⟨by simp [Payload.Sized, Payload.framesLength, Payload.empty], rfl, rfl⟩, rfl⟩

theorem addRepairFrame_unstreamed {maxFrameSize : Int} {hasAck : Bool} {pl pl' : Payload} {added : Bool}
    {p p' : Packer E} (unstreamed : pl.Unstreamed)
    (run : addRepairFrame maxFrameSize hasAck pl p = .ok (pl', added) p') : pl'.Unstreamed ∧ p'.framer = p.framer := by
  unfold addRepairFrame at run
  simp only [Call.bind_apply, Call.get_apply] at run
  cases peeked : p.repairQueue.peek with
  | none =>
    simp only [peeked, Call.pure_apply, Result.ok.injEq, Prod.mk.injEq] at run
    obtain ⟨⟨rfl, -⟩, rfl⟩ := run
    exact ⟨unstreamed, rfl⟩
  | some f =>
    simp only [peeked] at run
    split_ifs at run with fits
    · -- the frame goes in: `Pop` drops the frame `Peek` saw
      obtain ⟨rest, queued⟩ : ∃ rest, p.repairQueue.sendQueue = f :: rest := by
        unfold RepairQueue.peek at peeked
        cases queue : p.repairQueue.sendQueue with
        | nil => rw [queue] at peeked; cases peeked
        | cons g rest => rw [queue] at peeked; cases peeked; exact ⟨rest, rfl⟩
      simp only [onRepairQueue, RepairQueue.pop, Call.focus_apply, queued, Call.bind_apply, Call.pure_apply,
        Result.ok.injEq, Prod.mk.injEq] at run
      obtain ⟨⟨rfl, -⟩, rfl⟩ := run
      exact ⟨unstreamed.addFrame ⟨.repair f, none⟩, rfl⟩
    · cases run
    · simp only [Call.pure_apply, Result.ok.injEq, Prod.mk.injEq] at run
      obtain ⟨⟨rfl, -⟩, rfl⟩ := run
      exact ⟨unstreamed, rfl⟩

theorem onDatagramQueue_pop {p : Packer E} {f : DatagramFrame} (peeked : p.datagramQueue.peek = some f) :
    ∃ q, onDatagramQueue DatagramQueue.pop p = .ok () { p with datagramQueue := q } := by
  unfold DatagramQueue.peek at peeked
  cases queue : p.datagramQueue.sendQueue with
  | nil => rw [queue] at peeked; cases peeked
  | cons g rest => exact ⟨⟨rest⟩, by simp [onDatagramQueue, DatagramQueue.pop, queue]⟩

theorem addDatagramFrame_unstreamed {maxFrameSize : Int} {hasAck addedRepairFrame : Bool} {pl pl' : Payload}
    {p p' : Packer E} (unstreamed : pl.Unstreamed)
    (run : addDatagramFrame maxFrameSize hasAck addedRepairFrame pl p = .ok pl' p') :
    pl'.Unstreamed ∧ p'.framer = p.framer := by
  unfold addDatagramFrame at run
  simp only [Call.bind_apply, Call.get_apply] at run
  cases peeked : p.datagramQueue.peek with
  | none =>
    simp only [peeked, Call.pure_apply, Result.ok.injEq] at run
    obtain ⟨rfl, rfl⟩ := run
    exact ⟨unstreamed, rfl⟩
  | some f =>
    obtain ⟨q, popped⟩ := onDatagramQueue_pop peeked
    simp only [peeked] at run
    split_ifs at run with fits isFec
    · rw [Call.bind_of_ok popped] at run
      obtain ⟨rfl, rfl⟩ := Call.pure_eq_ok.mp run
      exact ⟨unstreamed.addFecFrame ⟨.datagram f, none⟩, rfl⟩
    · rw [Call.bind_of_ok popped] at run
      obtain ⟨rfl, rfl⟩ := Call.pure_eq_ok.mp run
      exact ⟨unstreamed.addFrame ⟨.datagram f, none⟩, rfl⟩
    · -- a frame too large for a packet with neither an ACK nor a REPAIR frame is dropped
      rw [Call.bind_of_ok popped] at run
      obtain ⟨rfl, rfl⟩ := Call.pure_eq_ok.mp run
      exact ⟨unstreamed, rfl⟩
    · obtain ⟨rfl, rfl⟩ := Call.pure_eq_ok.mp run
      exact ⟨unstreamed, rfl⟩

theorem addRetransmissions_unstreamed (maxFrameSize : Int) (pl : Payload) {pl' : Payload} {p p' : Packer E}
    (unstreamed : pl.Unstreamed) (run : addRetransmissions maxFrameSize pl p = .ok pl' p') :
    pl'.Unstreamed ∧ p'.framer = p.framer := by
  rw [addRetransmissions] at run
  split_ifs at run with few
  · obtain ⟨rfl, rfl⟩ := Call.pure_eq_ok.mp run
    exact ⟨unstreamed, rfl⟩
  · obtain ⟨f?, p₁, got, rest⟩ := Call.bind_eq_ok.mp run
    obtain ⟨q, -, rfl⟩ := Call.focus_eq_ok.mp got
    cases f? with
    | none =>
      obtain ⟨rfl, rfl⟩ := Call.pure_eq_ok.mp rest
      exact ⟨unstreamed, rfl⟩
    | some f =>
      have shrinks := Frame.length_pos f
      obtain ⟨kept, sameFramer⟩ := addRetransmissions_unstreamed maxFrameSize _ (unstreamed.addFrame ⟨f, some .appData⟩) rest
      exact ⟨kept, sameFramer⟩
termination_by (maxFrameSize - pl.length).toNat
decreasing_by
  unfold minStreamFrameSize at few
  omega

theorem sortStreamFrames_spec {fecEnabled : Bool} : ∀ (fs : List Ackhandler.StreamFrame) {pl pl' : Payload}
    {p p' : Packer E}, sortStreamFrames fecEnabled fs pl p = .ok pl' p' →
      p' = p ∧ pl' = { pl with streamFrames := pl.streamFrames ++ fs.filter (fun f => !f.frame.fecProtected),
                               fecStreamFrames := pl.fecStreamFrames ++ fs.filter (·.frame.fecProtected) } ∧
        (fs.any (·.frame.fecProtected) → fecEnabled = true)
  | [], pl, pl', p, p', run => by
    simp only [sortStreamFrames, Call.pure_apply, Result.ok.injEq] at run
    obtain ⟨rfl, rfl⟩ := run
    simp
  | f :: rest, pl, pl', p, p', run => by
    unfold sortStreamFrames at run
    by_cases isFec : f.frame.fecProtected = true
    · by_cases enabled : fecEnabled = true
      · simp only [isFec, enabled, Bool.not_true, Bool.false_eq_true, if_false, if_true] at run
        obtain ⟨rfl, rfl, -⟩ := sortStreamFrames_spec rest run
        simp [isFec, enabled]
      · simp [isFec, enabled] at run
    · simp only [isFec, Bool.false_eq_true, if_false] at run
      obtain ⟨rfl, rfl, fecOfRest⟩ := sortStreamFrames_spec rest run
      refine ⟨rfl, by simp [isFec], fun anyFec => fecOfRest ?_⟩
      simpa [isFec] using anyFec

@[simp] theorem withAppDataHandler_frame (f : Ackhandler.Frame) : (withAppDataHandler f).frame = f.frame := by
  unfold withAppDataHandler
  split <;> rfl

theorem sortStreamFrames_noError (fecEnabled : Bool) :
    ∀ (fs : List Ackhandler.StreamFrame) (pl : Payload),
      Call.NoError (sortStreamFrames fecEnabled fs pl : Call (Packer E) Payload)
  | [], pl => Call.noError_pure pl
  | f :: rest, pl => by
    intro p e p' run
    unfold sortStreamFrames at run
    split_ifs at run
    · simp at run
    · exact sortStreamFrames_noError fecEnabled rest _ p e p' run
    · exact sortStreamFrames_noError fecEnabled rest _ p e p' run

theorem addFramerData_okOrPanic {maxFrameSize : Int} (small : maxFrameSize ≤ maxPacketBufferSize) {pl : Payload}
    {p : Packer E} (unstreamed : pl.Unstreamed) (ready : p.framer.Ready) :
    (addFramerData maxFrameSize pl p).OkOrPanic fun pl' p' =>
      pl'.Sized ∧ p'.framer.Ready ∧ (pl'.fecStreamFrames ≠ [] → pl'.length + maxFECHeaderOverhead ≤ maxFrameSize) := by
  obtain ⟨sized, noStream, noFecStream⟩ := unstreamed
  obtain ⟨newControl, controlLength, framer₁, controlRun, sameQueue, sameActive, controlTotal, -, -⟩ :=
    Framer.appendControlFrames_spec pl.frames (maxFrameSize - pl.length) p.framer.framer
  have ready₁ : ({ p.framer with framer := framer₁ } : Sending).Ready :=
    ⟨ready.scheduled.of_eq sameQueue sameActive, ready.poppable, ready.within⟩
  have nonneg : 0 ≤ pl.length + controlLength := by
    rw [sized, controlTotal]
    exact Int.add_nonneg (Int.natCast_nonneg _) (List.sum_nonneg fun x member => by
      obtain ⟨g, -, rfl⟩ := List.mem_map.mp member
      exact Int.natCast_nonneg _)
  have smallLen : (if p.fecSender.isSome = true then maxFrameSize - (pl.length + controlLength) - maxFECHeaderOverhead
      else maxFrameSize - (pl.length + controlLength)) ≤ maxPacketBufferSize := by
    split_ifs <;> omega
  obtain ⟨newStream, streamLength, sys₂, streamRun, ready₂, -, streamTotal, streamFits, -⟩ :=
    ready₁.appendStreamFrames pl.streamFrames smallLen
  have controlCall : onFramer (Sending.onFramer (Framer.appendControlFrames pl.frames (maxFrameSize - pl.length))) p =
      .ok (pl.frames ++ newControl, controlLength) { p with framer := { p.framer with framer := framer₁ } } := by
    simp [onFramer, Sending.onFramer, controlRun]
  unfold addFramerData
  rw [Call.bind_of_ok controlCall]
  dsimp only
  rw [Call.bind_of_ok (Call.get_apply _)]
  dsimp only
  rw [noStream] at streamRun ⊢
  have streamCall : onFramer (Sending.appendStreamFrames []
      (if p.fecSender.isSome = true then maxFrameSize - (pl.length + controlLength) - maxFECHeaderOverhead
        else maxFrameSize - (pl.length + controlLength)))
      ({ p with framer := { p.framer with framer := framer₁ } } : Packer E) =
      .ok ([] ++ newStream, streamLength) { p with framer := sys₂ } := by
    simp [onFramer, streamRun]
  rw [Call.bind_of_ok streamCall]
  dsimp only
  refine Call.OkOrPanic.bind (Call.okOrPanic_of (sortStreamFrames_noError _ _ _ _)
    fun pl₂ p₄ sortCall => sortStreamFrames_spec _ sortCall) fun pl₂ p₄ sorted => ?_
  obtain ⟨rfl, rfl, needsSender⟩ := sorted
  rw [Call.pure_apply, Call.okOrPanic_ok]
  rw [List.nil_append] at needsSender ⊢
  refine ⟨?_, ready₂, fun fecIn => ?_⟩
  · -- every STREAM frame went into one of the two lists
    have parts := ((List.filter_append_perm (fun f : Ackhandler.StreamFrame => f.frame.fecProtected)
      newStream).map fun f => f.frame.length).sum_eq
    rw [List.map_append, List.sum_append] at parts
    unfold Payload.Sized Payload.framesLength at sized ⊢
    rw [noStream, noFecStream] at sized
    simp only [noFecStream, List.nil_append, List.take_left', List.drop_left', List.map_append, List.map_map,
      Function.comp_def, withAppDataHandler_frame, List.sum_append, List.map_nil, List.sum_nil] at sized ⊢
    have castParts := congrArg (Nat.cast : Nat → Int) parts
    rw [sized, controlTotal, streamTotal]
    push_cast at castParts ⊢
    simp only [List.map_map, Function.comp_def] at castParts ⊢
    linarith
  · -- a FEC-protected STREAM frame came from the framer, under a FEC sender
    rw [noFecStream, List.nil_append] at fecIn
    obtain ⟨f, member⟩ := List.exists_mem_of_ne_nil _ fecIn
    obtain ⟨inNew, isFec⟩ := List.mem_filter.mp member
    have enabled := needsSender (List.any_eq_true.mpr ⟨f, inNew, isFec⟩)
    have fits := streamFits (List.ne_nil_of_mem inNew)
    rw [if_pos enabled] at fits
    dsimp only
    omega

theorem addAck_noError (onlyIfQueued : Bool) : Call.NoError (addAck c onlyIfQueued) := by
  intro p e p' run
  unfold addAck at run
  simp only [Call.bind_apply, onEnv] at run
  cases ack : (c.getAckFrame onlyIfQueued p.env).1 <;> simp [ack] at run

theorem addRepairFrame_noError (maxFrameSize : Int) (hasAck : Bool) (pl : Payload) :
    Call.NoError (addRepairFrame maxFrameSize hasAck pl : Call (Packer E) (Payload × Bool)) := by
  intro p e p' run
  unfold addRepairFrame at run
  simp only [Call.bind_apply, Call.get_apply] at run
  cases peeked : p.repairQueue.peek with
  | none => simp [peeked] at run
  | some f =>
    simp only [peeked] at run
    split_ifs at run
    · cases queue : p.repairQueue.sendQueue <;>
        simp [Call.bind_apply, onRepairQueue, RepairQueue.pop, queue] at run
    · cases run
    · cases run

theorem addDatagramFrame_noError (maxFrameSize : Int) (hasAck addedRepairFrame : Bool) (pl : Payload) :
    Call.NoError (addDatagramFrame maxFrameSize hasAck addedRepairFrame pl : Call (Packer E) Payload) := by
  intro p e p' run
  unfold addDatagramFrame at run
  simp only [Call.bind_apply, Call.get_apply] at run
  cases peeked : p.datagramQueue.peek with
  | none => simp [peeked] at run
  | some f =>
    simp only [peeked] at run
    cases queue : p.datagramQueue.sendQueue <;>
      split_ifs at run <;> simp [Call.bind_apply, onDatagramQueue, DatagramQueue.pop, queue] at run

theorem addRetransmissions_noError (maxFrameSize : Int) (pl : Payload) :
    Call.NoError (addRetransmissions maxFrameSize pl : Call (Packer E) Payload) := by
  intro p e p' run
  rw [addRetransmissions] at run
  split_ifs at run with few
  · cases run
  · rcases Call.bind_eq_error.mp run with got | ⟨f?, p₁, -, rest⟩
    · cases queue : p.retransmissionQueue.appData <;>
        simp [onRetransmissionQueue, RetransmissionQueue.getAppDataFrame, queue] at got
      split_ifs at got
    · cases f? with
      | none => cases rest
      | some f =>
        have shrinks := Frame.length_pos f
        exact addRetransmissions_noError maxFrameSize _ p₁ e p' rest
termination_by (maxFrameSize - pl.length).toNat
decreasing_by
  unfold minStreamFrameSize at few
  omega

theorem composeNextPacket_okOrPanic {maxFrameSize : Int} (small : maxFrameSize ≤ maxPacketBufferSize)
    (onlyAck ackAllowed : Bool) {p : Packer E} (ready : p.framer.Ready) :
    (composeNextPacket c maxFrameSize onlyAck ackAllowed p).OkOrPanic fun pl p' =>
      pl.Sized ∧ p'.framer.Ready ∧ (pl.fecStreamFrames ≠ [] → pl.length + maxFECHeaderOverhead ≤ maxFrameSize) := by
  have early : ∀ {pl : Payload} {p' : Packer E}, pl.Unstreamed → p'.framer = p.framer →
      pl.Sized ∧ p'.framer.Ready ∧ (pl.fecStreamFrames ≠ [] → pl.length + maxFECHeaderOverhead ≤ maxFrameSize) :=
    fun unstreamed same => ⟨unstreamed.sized, same ▸ ready, fun fecIn => absurd unstreamed.noFecStreamFrames fecIn⟩
  have addAck_ok : ∀ onlyIfQueued : Bool, (addAck c onlyIfQueued p).OkOrPanic fun pl p' =>
      pl.Unstreamed ∧ p'.framer = p.framer :=
    fun onlyIfQueued => Call.okOrPanic_of (addAck_noError c onlyIfQueued p) fun _ _ run => addAck_unstreamed c run
  unfold composeNextPacket
  cases onlyAck with
  | true =>
    change (addAck c true p).OkOrPanic _
    exact Call.OkOrPanic.mono (addAck_ok true) fun _ _ ⟨unstreamed, same⟩ => early unstreamed same
  | false =>
    simp only [Bool.false_eq_true, if_false]
    rw [Call.bind_of_ok (Call.get_apply p), Call.ite_bind]
    refine Call.OkOrPanic.bind (Q := fun pl₁ p₁ => pl₁.Unstreamed ∧ p₁.framer = p.framer) ?_
      fun pl₁ p₁ ⟨unstreamed₁, same₁⟩ => ?_
    · cases ackAllowed with
      | true => exact addAck_ok _
      | false => exact ⟨Payload.unstreamed_empty, rfl⟩
    refine Call.OkOrPanic.bind (Call.okOrPanic_of (addRepairFrame_noError _ _ _ p₁)
      fun _ _ run => addRepairFrame_unstreamed unstreamed₁ run) fun ⟨pl₂, added⟩ p₂ ⟨unstreamed₂, same₂⟩ => ?_
    refine Call.OkOrPanic.bind (Call.okOrPanic_of (addDatagramFrame_noError _ _ _ _ p₂)
      fun _ _ run => addDatagramFrame_unstreamed unstreamed₂ run) fun pl₃ p₃ ⟨unstreamed₃, same₃⟩ => ?_
    have same₃' : p₃.framer = p.framer := same₃.trans (same₂.trans same₁)
    by_cases ackOnly : (pl₁.ack.isSome && !p.framer.framer.hasData && !p.retransmissionQueue.hasAppData) = true
    · rw [if_pos ackOnly, Call.pure_apply]
      exact early unstreamed₃ same₃'
    rw [if_neg ackOnly, Call.ite_bind]
    refine Call.OkOrPanic.bind (Q := fun pl₄ p₄ => pl₄.Unstreamed ∧ p₄.framer = p.framer) ?_
      fun pl₄ p₄ ⟨unstreamed₄, same₄⟩ => ?_
    · by_cases retransmit : p.retransmissionQueue.hasAppData = true
      · rw [if_pos retransmit]
        refine Call.okOrPanic_of (addRetransmissions_noError _ _ _) fun pl₄ p₄ run => ?_
        obtain ⟨unstreamed₄, same₄⟩ := addRetransmissions_unstreamed maxFrameSize pl₃ unstreamed₃ run
        exact ⟨unstreamed₄, same₄.trans same₃'⟩
      · rw [if_neg retransmit, Call.pure_apply]
        exact ⟨unstreamed₃, same₃'⟩
    by_cases hasData : p.framer.framer.hasData = true
    · rw [if_pos hasData]
      exact addFramerData_okOrPanic small unstreamed₄ (same₄ ▸ ready)
    · rw [if_neg hasData, Call.pure_apply]
      exact early unstreamed₄ same₄

/-- What `composeNextPacket` returns is sized, it leaves the framer ready, and
a payload with FEC-protected STREAM frames leaves `MaxFECHeaderOverhead` bytes
of `maxFrameSize` for the SOURCE_SYMBOL header. -/
theorem composeNextPacket_spec {maxFrameSize : Int} (small : maxFrameSize ≤ maxPacketBufferSize)
    {onlyAck ackAllowed : Bool} {p p' : Packer E} {pl : Payload} (ready : p.framer.Ready)
    (run : composeNextPacket c maxFrameSize onlyAck ackAllowed p = .ok pl p') :
    pl.Sized ∧ p'.framer.Ready ∧ (pl.fecStreamFrames ≠ [] → pl.length + maxFECHeaderOverhead ≤ maxFrameSize) :=
  Call.OkOrPanic.of_ok (composeNextPacket_okOrPanic c small onlyAck ackAllowed ready) run

/-- `maybeGetAppDataPacket` keeps the framer ready: `composeNextPacket` does,
and the PING bookkeeping after it writes only `numNonAckElicitingAcks`. -/
theorem maybeGetAppDataPacket_ready {maxPayloadSize : Int} (small : maxPayloadSize ≤ maxPacketBufferSize)
    (onlyAck ackAllowed : Bool) :
    Call.Invariant (fun p : Packer E => p.framer.Ready) (maybeGetAppDataPacket c maxPayloadSize onlyAck ackAllowed) := by
  unfold maybeGetAppDataPacket
  refine Call.Invariant.bind (Call.invariant_of_okOrPanic fun p ready => Call.OkOrPanic.mono
    (composeNextPacket_okOrPanic c small onlyAck ackAllowed ready) fun _ _ holds => holds.2.1) fun pl => ?_
  refine (?_ : Call.Preserves Packer.framer _).invariant Sending.Ready
  intro p p' ended
  simp only [Call.bind_apply, Call.get_apply] at ended
  -- each branch returns after at most one Call.set of p with another counter
  split_ifs at ended <;>
    simp only [Call.bind_apply, Call.set_apply, Call.pure_apply, Result.state?, Option.some.injEq] at ended <;>
    rw [← ended]

end Packer

end QuicFec
