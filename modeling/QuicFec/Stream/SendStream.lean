import QuicFec.Stream.ReceiveStream
import QuicFec.Flowcontrol.Send

/-! # Send streams

`send_stream.go`: `Write` hands the application's bytes to the stream in
`dataForWriting` and waits until they are taken.  The packer pops STREAM
frames (`popStreamFrame`): first what was lost and queued for retransmission,
then new data, as much as flow control and the packet's space allow.  Once
what `Write` still holds fits a packet it is copied to `nextFrame` and `Write`
returns, so that a `Close` that follows can set the FIN on that frame.  The
ack handler reports each frame acknowledged or lost; the stream counts the
frames out, and reports itself completed once the FIN, or a RESET_STREAM, and
every frame before it are through.

The stream's flow controller charges the connection's as well, so the popping
calls run on the stream together with the connection's send flow controller.
The calls the stream makes on its `streamSender` are kept, oldest first, in
`sender`.  `writeChan` has room for one value, and `signalWrite` sends on it
without blocking: the field says whether a value waits.  The deadline stays
zero, as when `SetWriteDeadline` is never called; the context, the pool the
frames come from, and the mutex are not modeled (each call here runs with the
mutex held), and `writeOnce` is the `System` letting one `Write` run at a
time. -/
set_option autoImplicit false

namespace QuicFec

open Go QuicFec.Protocol QuicFec.Wire QuicFec.Flowcontrol

structure StreamDataBlockedFrame where
  streamID : Nat
  maximumStreamData : Nat
deriving DecidableEq, Repr

structure StopSendingFrame where
  streamID : Nat
  errorCode : Nat
deriving DecidableEq, Repr

/-- The frames a send stream hands to `queueControlFrame`. -/
inductive ControlFrame where
  | streamDataBlocked (f : StreamDataBlockedFrame)
  | resetStream (f : ResetStreamFrame)
deriving DecidableEq, Repr

/-- A call of a send stream on its `streamSender`. -/
inductive SenderCall where
  | onHasStreamData (streamID : Nat)
  | queueControlFrame (frame : ControlFrame)
  | onStreamCompleted (streamID : Nat)
deriving DecidableEq, Repr

structure SendStream where
  numOutstandingFrames : Int
  retransmissionQueue : List StreamFrame
  streamID : Nat
  sender : List SenderCall
  writeOffset : Nat
  cancelWriteErr : Option StreamError
  closeForShutdownErr : Option String
  finishedWriting : Bool
  finSent : Bool
  completed : Bool
  dataForWriting : List UInt8
  nextFrame : Option StreamFrame
  writeChan : Bool
  flowController : SendFlowController
  fecProtected : Bool
deriving DecidableEq, Repr

/-- The errors of `Write` and `Close`. -/
inductive SendError where
  /-- `fmt.Errorf("write on closed stream %d", s.streamID)`. -/
  | writeOnClosed (streamID : Nat)
  /-- `fmt.Errorf("close called for canceled stream %d", s.streamID)`. -/
  | closeCanceled (streamID : Nat)
  /-- `cancelWriteErr`. -/
  | stream (err : StreamError)
  /-- `closeForShutdownErr`. -/
  | shutdown (message : String)
deriving DecidableEq, Repr

/-- Where a `Write` call is: it returned the bytes written and its error, or
it waits on `writeChan`. -/
inductive WriteOutcome where
  | returned (n : Nat) (err : Option SendError)
  | blocked
deriving DecidableEq, Repr

/-- The panic of `OnAcked` and `OnLost`. -/
def numOutstandingFramesNegative : String := "numOutStandingFrames negative"

namespace SendStream

def newSendStreamWithFEC (streamID : Nat) (flowController : SendFlowController) (fecProtected : Bool) :
    SendStream where
  numOutstandingFrames := 0
  retransmissionQueue := []
  streamID := streamID
  sender := []
  writeOffset := 0
  cancelWriteErr := none
  closeForShutdownErr := none
  finishedWriting := false
  finSent := false
  completed := false
  dataForWriting := []
  nextFrame := none
  writeChan := false
  flowController := flowController
  fecProtected := fecProtected

/-- `newSendStream`: the same stream, not FEC protected. -/
def newSendStream (streamID : Nat) (flowController : SendFlowController) : SendStream :=
  newSendStreamWithFEC streamID flowController false

/-- A call on `sender`. -/
def call (c : SenderCall) (s : SendStream) : SendStream := { s with sender := s.sender ++ [c] }

/-- `signalWrite`: the value is dropped when `writeChan` holds one. -/
def signalWrite (s : SendStream) : SendStream := { s with writeChan := true }

def canBufferStreamFrame (s : SendStream) : Bool :=
  let l := match s.nextFrame with
    | some f => f.dataLen
    | none => 0
  decide (l + s.dataForWriting.length ≤ maxPacketBufferSize)

/-! ## Writing -/

/-- `Write`'s checks before it takes `p`: what it returns when it returns at
once. -/
def writeChecks (p : List UInt8) (s : SendStream) : Option WriteOutcome :=
  if s.finishedWriting then some (.returned 0 (some (.writeOnClosed s.streamID)))
  else
    match s.cancelWriteErr, s.closeForShutdownErr with
    | some e, _ => some (.returned 0 (some (.stream e)))
    | none, some e => some (.returned 0 (some (.shutdown e)))
    | none, none => if p.length = 0 then some (.returned 0 none) else none

/-- What `Write` returns after its loop, for a `p` of `len` bytes. -/
def writeResult (len bytesWritten : Nat) (s : SendStream) : WriteOutcome :=
  if bytesWritten = len then .returned bytesWritten none
  else
    match s.closeForShutdownErr, s.cancelWriteErr with
    | some e, _ => .returned bytesWritten (some (.shutdown e))
    | none, some e => .returned bytesWritten (some (.stream e))
    | none, none => .returned bytesWritten none

/-- One turn of `Write`'s loop for a `p` of `len` bytes: it ends the call, or
the call waits on `writeChan` (`blocked`). -/
def writeLoop (len : Nat) (notifiedSender : Bool) (s : SendStream) : WriteOutcome × SendStream :=
  -- what is left fits a packet: it goes into `nextFrame`, and `Write` returns
  if s.canBufferStreamFrame ∧ s.dataForWriting.length > 0 then
    let nextFrame : StreamFrame := match s.nextFrame with
      | none => ⟨s.streamID, s.writeOffset, s.dataForWriting, false, true, false⟩
      | some f => { f with data := f.data ++ s.dataForWriting }
    let s := { s with nextFrame := some nextFrame, dataForWriting := [] }
    let s := if notifiedSender then s else s.call (.onHasStreamData s.streamID)
    (writeResult len len s, s)
  else
    let bytesWritten := len - s.dataForWriting.length
    if s.dataForWriting = [] ∨ s.cancelWriteErr.isSome ∨ s.closeForShutdownErr.isSome then
      (writeResult len bytesWritten s, s)
    else
      let s := if notifiedSender then s else s.call (.onHasStreamData s.streamID)
      (.blocked, s)

/-- `Write`, up to the first time its loop waits. -/
def write (p : List UInt8) (s : SendStream) : WriteOutcome × SendStream :=
  match s.writeChecks p with
  | some outcome => (outcome, s)
  | none => writeLoop p.length false { s with dataForWriting := p }

/-- A `Write` call waiting in its loop, for a `p` of `len` bytes, takes the
value of `writeChan` and runs the next turn; it told the sender in its first. -/
def writeWake (len : Nat) (s : SendStream) : WriteOutcome × SendStream :=
  writeLoop len true { s with writeChan := false }

/-! ## Popping STREAM frames -/

/-- `getDataForWriting`: `f` takes what `dataForWriting` holds, up to
`maxBytes` bytes. -/
def getDataForWriting (f : StreamFrame) (maxBytes : Nat) (s : SendStream) : StreamFrame × SendStream :=
  if s.dataForWriting.length ≤ maxBytes then
    ({ f with data := s.dataForWriting }, signalWrite { s with dataForWriting := [] })
  else
    let s' := { s with dataForWriting := s.dataForWriting.drop maxBytes }
    ({ f with data := s.dataForWriting.take maxBytes }, if s'.canBufferStreamFrame then signalWrite s' else s')

/-- `popNewStreamFrameWithoutBuffer`, with whether more data waits. -/
def popNewStreamFrameWithoutBuffer (f : StreamFrame) (maxBytes sendWindow : Nat) (s : SendStream) :
    (StreamFrame × Bool) × SendStream :=
  let hasMore (s : SendStream) : Bool := decide (s.dataForWriting ≠ []) || s.nextFrame.isSome || s.finishedWriting
  let maxDataLen := f.maxDataLen maxBytes
  -- a STREAM frame must have at least one byte of data
  if maxDataLen = 0 then ((f, hasMore s), s)
  else
    let (f, s) := s.getDataForWriting f (min maxDataLen sendWindow)
    ((f, hasMore s), s)

/-- `popNewStreamFrame`: `nextFrame`, split to what fits, or a frame of the
data `Write` holds; `none` when that frame would be empty. -/
def popNewStreamFrame (maxBytes sendWindow : Nat) (s : SendStream) : (Option StreamFrame × Bool) × SendStream :=
  match s.nextFrame with
  | some nextFrame =>
    let maxDataLen := min sendWindow (nextFrame.maxDataLen maxBytes)
    if nextFrame.dataLen > maxDataLen then
      let rest : StreamFrame :=
        ⟨s.streamID, s.writeOffset + maxDataLen, nextFrame.data.drop maxDataLen, false, true, false⟩
      ((some { nextFrame with data := nextFrame.data.take maxDataLen }, true), { s with nextFrame := some rest })
    else
      ((some nextFrame, decide (s.dataForWriting ≠ [])), signalWrite { s with nextFrame := none })
  | none =>
    let f : StreamFrame := ⟨s.streamID, s.writeOffset, [], false, true, false⟩
    let ((f, hasMoreData), s) := s.popNewStreamFrameWithoutBuffer f maxBytes sendWindow
    if f.data.length = 0 ∧ !f.fin then ((none, hasMoreData), s) else ((some f, hasMoreData), s)

/-- `maybeGetRetransmission`: the first frame queued for retransmission, or
its part that fits `maxBytes`, and whether more retransmissions wait. -/
def maybeGetRetransmission (maxBytes : Nat) : Call SendStream (Option StreamFrame × Bool) := fun s =>
  match s.retransmissionQueue with
  | [] => .panic "runtime error: index out of range"
  | f :: rest =>
    match f.maybeSplitOffFrame maxBytes with
    | (newFrame, true, f) => .ok (newFrame, true) { s with retransmissionQueue := f :: rest }
    | (_, false, _) => .ok (some f, decide (rest.length > 0)) { s with retransmissionQueue := rest }

/-- The part of `popNewOrRetransmittedStreamFrame` after the retransmissions:
the FIN alone, a STREAM_DATA_BLOCKED frame when flow control blocks the
stream, or new data. -/
def popNewData (maxBytes : Nat) : Call (SendStream × SendFlowController) (Option StreamFrame × Bool) :=
  fun (s, conn) =>
  if s.dataForWriting.length = 0 ∧ s.nextFrame = none then
    if s.finishedWriting ∧ !s.finSent then
      .ok (some ⟨s.streamID, s.writeOffset, [], true, true, false⟩, false) ({ s with finSent := true }, conn)
    else .ok (none, false) (s, conn)
  else
    let sendWindow := StreamFlowController.sendWindowSize s.flowController conn
    if sendWindow = 0 then
      let ((isBlocked, offset), fc) := s.flowController.isNewlyBlocked
      let s := { s with flowController := fc }
      if isBlocked then
        .ok (none, false) (s.call (.queueControlFrame (.streamDataBlocked ⟨s.streamID, offset⟩)), conn)
      else .ok (none, true) (s, conn)
    else
      let ((f?, hasMoreData), s) := s.popNewStreamFrame maxBytes sendWindow
      match f? with
      -- `f.DataLen()` on a nil frame
      | none => .panic nilDereferenceMessage
      | some f =>
        let (s, conn) :=
          if f.dataLen > 0 then
            let (fc, conn) := StreamFlowController.addBytesSent f.dataLen s.flowController conn
            ({ s with writeOffset := s.writeOffset + f.dataLen, flowController := fc }, conn)
          else (s, conn)
        let fin := s.finishedWriting && s.dataForWriting.isEmpty && s.nextFrame.isNone && !s.finSent
        .ok (some { f with fin := fin }, hasMoreData) (if fin then { s with finSent := true } else s, conn)

def popNewOrRetransmittedStreamFrame (maxBytes : Nat) :
    Call (SendStream × SendFlowController) (Option StreamFrame × Bool) := fun (s, conn) =>
  if s.cancelWriteErr.isSome ∨ s.closeForShutdownErr.isSome then .ok (none, false) (s, conn)
  else if s.retransmissionQueue.length > 0 then
    match maybeGetRetransmission maxBytes s with
    | .ok (f?, hasMoreRetransmissions) s =>
      if f?.isSome ∨ hasMoreRetransmissions then .ok (f?, true) (s, conn) else popNewData maxBytes (s, conn)
    | .error e s => .error e (s, conn)
    | .panic m => .panic m
  else popNewData maxBytes (s, conn)

/-- `popStreamFrame`: the frame, if any, carries the stream's FEC flag and is
counted as outstanding. -/
def popStreamFrame (maxBytes : Nat) : Call (SendStream × SendFlowController) (Option StreamFrame × Bool) :=
  fun sc =>
  match popNewOrRetransmittedStreamFrame maxBytes sc with
  | .ok (some f, hasMoreData) (s, conn) =>
    .ok (some { f with fecProtected := s.fecProtected }, hasMoreData)
      ({ s with numOutstandingFrames := s.numOutstandingFrames + 1 }, conn)
  | .ok (none, hasMoreData) sc => .ok (none, hasMoreData) sc
  | .error e sc => .error e sc
  | .panic m => .panic m

def hasData (s : SendStream) : Bool := decide (s.dataForWriting.length > 0)

/-! ## Closing, canceling and acknowledgments -/

def isNewlyCompleted (s : SendStream) : Bool × SendStream :=
  let completed := (s.finSent || s.cancelWriteErr.isSome) && s.numOutstandingFrames == 0 &&
    s.retransmissionQueue.isEmpty
  if completed && !s.completed then (true, { s with completed := true }) else (false, s)

def close (s : SendStream) : Option SendError × SendStream :=
  if s.closeForShutdownErr.isSome then (none, s)
  else if s.cancelWriteErr.isSome then (some (.closeCanceled s.streamID), s)
  else (none, ({ s with finishedWriting := true }).call (.onHasStreamData s.streamID))

/-- `cancelWriteImpl`: the RESET_STREAM frame carries the bytes sent as the
final size. -/
def cancelWriteImpl (errorCode : Nat) (remote : Bool) (s : SendStream) : SendStream :=
  if s.cancelWriteErr.isSome then s
  else
    let s := { s with cancelWriteErr := some ⟨s.streamID, errorCode, remote⟩, numOutstandingFrames := 0,
                      retransmissionQueue := [] }
    let (newlyCompleted, s) := s.isNewlyCompleted
    let s := (signalWrite s).call (.queueControlFrame (.resetStream ⟨s.streamID, errorCode, s.writeOffset⟩))
    if newlyCompleted then s.call (.onStreamCompleted s.streamID) else s

def cancelWrite (errorCode : Nat) (s : SendStream) : SendStream := s.cancelWriteImpl errorCode false

def handleStopSendingFrame (frame : StopSendingFrame) (s : SendStream) : SendStream :=
  s.cancelWriteImpl frame.errorCode true

/-- `updateSendWindow`, for a MAX_STREAM_DATA frame. -/
def updateSendWindow (limit : Nat) (s : SendStream) : SendStream :=
  let (updated, fc) := s.flowController.updateSendWindow limit
  let s := { s with flowController := fc }
  -- a duplicate or reordered MAX_STREAM_DATA frame
  if !updated then s
  else if s.dataForWriting ≠ [] ∨ s.nextFrame.isSome then s.call (.onHasStreamData s.streamID) else s

/-- `closeForShutdown`: no FIN and no RESET_STREAM are sent. -/
def closeForShutdown (err : String) (s : SendStream) : SendStream :=
  signalWrite { s with closeForShutdownErr := some err }

/-- `sendStreamAckHandler.OnAcked`; the frame is only put back to the pool. -/
def onAcked : Call SendStream Unit := fun s =>
  if s.cancelWriteErr.isSome then .ok () s
  else
    let s := { s with numOutstandingFrames := s.numOutstandingFrames - 1 }
    if s.numOutstandingFrames < 0 then .panic numOutstandingFramesNegative
    else
      let (newlyCompleted, s) := s.isNewlyCompleted
      .ok () (if newlyCompleted then s.call (.onStreamCompleted s.streamID) else s)

/-- `sendStreamAckHandler.OnLost`: the frame is queued for retransmission. -/
def onLost (f : StreamFrame) : Call SendStream Unit := fun s =>
  if s.cancelWriteErr.isSome then .ok () s
  else
    let s := { s with retransmissionQueue := s.retransmissionQueue ++ [{ f with dataLenPresent := true }],
                      numOutstandingFrames := s.numOutstandingFrames - 1 }
    if s.numOutstandingFrames < 0 then .panic numOutstandingFramesNegative
    else .ok () (s.call (.onHasStreamData s.streamID))

/-! ## What each method does -/

/-- The bytes of a buffered frame. -/
def bufferedData : Option StreamFrame → List UInt8
  | some f => f.data
  | none => []

/-- What the stream holds and has not sent, in order: `nextFrame`'s bytes,
then `dataForWriting`. -/
def unsent (s : SendStream) : List UInt8 := bufferedData s.nextFrame ++ s.dataForWriting

/-- A buffered frame of stream `streamID` that starts at `offset`, holds
data and has its length field, as `Write` and `popNewStreamFrame` leave
`nextFrame`. -/
def BufferedAt (streamID offset : Nat) : Option StreamFrame → Prop
  | some f => f.offset = offset ∧ f.streamID = streamID ∧ f.data ≠ [] ∧ f.dataLenPresent = true
  | none => True

/-- The budgets the framer pops STREAM frames with (`AppendStreamFrames`): it
pops only while `MinStreamFrameSize` bytes are left in the packet, and never
more than a packet buffer holds and the length field of the last frame, which
it drops. -/
def FramerBudget (maxBytes : Nat) : Prop :=
  minStreamFrameSize ≤ maxBytes ∧ maxBytes ≤ maxPacketBufferSize + 2

theorem FramerBudget.small {maxBytes : Nat} (budget : FramerBudget maxBytes) : maxBytes < 16384 := by
  have := budget.2
  unfold maxPacketBufferSize at this
  omega

theorem maxDataLen_pos (f : StreamFrame) {maxBytes : Nat} (budget : minStreamFrameSize ≤ maxBytes) :
    0 < f.maxDataLen maxBytes := by
  have idLen := Quicvarint.size_le_eight f.streamID
  have offsetLen := Quicvarint.size_le_eight f.offset
  unfold minStreamFrameSize at budget
  unfold StreamFrame.maxDataLen
  dsimp only
  split_ifs <;> omega

theorem length_le_of_le_maxDataLen (f : StreamFrame) {maxSize : Nat} (small : maxSize < 16384) {data : List UInt8}
    (le : data.length ≤ f.maxDataLen maxSize) (pos : 0 < f.maxDataLen maxSize) : { f with data }.length ≤ maxSize :=
  (StreamFrame.length_mono f (by rw [List.length_replicate]; exact le)).trans
    (StreamFrame.length_le_of_maxDataLen f small (List.length_replicate (n := f.maxDataLen maxSize) (a := (0 : UInt8))) pos)

theorem getDataForWriting_spec (f : StreamFrame) (maxBytes : Nat) (s : SendStream) :
    ∃ writeChan,
      s.getDataForWriting f maxBytes =
        ({ f with data := s.dataForWriting.take maxBytes },
          { s with dataForWriting := s.dataForWriting.drop maxBytes, writeChan }) ∧
      (writeChan = true ∨ writeChan = s.writeChan ∧ s.dataForWriting.drop maxBytes ≠ []) := by
  unfold getDataForWriting
  split_ifs with fits
  · refine ⟨true, ?_, .inl rfl⟩
    rw [List.take_of_length_le fits, List.drop_of_length_le fits]
    rfl
  · have left : s.dataForWriting.drop maxBytes ≠ [] := by
      rw [← List.length_pos_iff, List.length_drop]
      omega
    dsimp only
    split_ifs
    · exact ⟨true, rfl, .inl rfl⟩
    · exact ⟨s.writeChan, rfl, .inr ⟨rfl, left⟩⟩

theorem popNewStreamFrameWithoutBuffer_spec {f : StreamFrame} {maxBytes : Nat} (sendWindow : Nat) (s : SendStream)
    (fits : 0 < f.maxDataLen maxBytes) :
    ∃ hasMore writeChan,
      s.popNewStreamFrameWithoutBuffer f maxBytes sendWindow =
        (({ f with data := s.dataForWriting.take (min (f.maxDataLen maxBytes) sendWindow) }, hasMore),
          { s with dataForWriting := s.dataForWriting.drop (min (f.maxDataLen maxBytes) sendWindow), writeChan }) ∧
      (writeChan = true ∨
        writeChan = s.writeChan ∧ s.dataForWriting.drop (min (f.maxDataLen maxBytes) sendWindow) ≠ []) := by
  obtain ⟨writeChan, got, woken⟩ := getDataForWriting_spec f (min (f.maxDataLen maxBytes) sendWindow) s
  unfold popNewStreamFrameWithoutBuffer
  rw [if_neg (Nat.pos_iff_ne_zero.mp fits)]
  simp only [got]
  exact ⟨_, writeChan, rfl, woken⟩

theorem popNewStreamFrame_spec {maxBytes sendWindow : Nat} {s : SendStream}
    (buffered : BufferedAt s.streamID s.writeOffset s.nextFrame) (pending : s.unsent ≠ [])
    (windowOpen : 0 < sendWindow) (budget : FramerBudget maxBytes) :
    ∃ f hasMore nextFrame dataForWriting writeChan,
      s.popNewStreamFrame maxBytes sendWindow = ((some f, hasMore), { s with nextFrame, dataForWriting, writeChan }) ∧
      f.offset = s.writeOffset ∧ f.streamID = s.streamID ∧ f.data ≠ [] ∧ f.data.length ≤ sendWindow ∧
      f.length ≤ maxBytes ∧ f.dataLenPresent = true ∧
      f.data ++ (bufferedData nextFrame ++ dataForWriting) = s.unsent ∧
      BufferedAt s.streamID (s.writeOffset + f.data.length) nextFrame ∧
      (∃ k, dataForWriting = s.dataForWriting.drop k) ∧
      (writeChan = true ∨ writeChan = s.writeChan ∧ (dataForWriting = [] → s.dataForWriting = [])) := by
  unfold popNewStreamFrame
  cases next : s.nextFrame with
  | some g =>
    rw [next] at buffered
    obtain ⟨atOffset, sameStream, nonempty, lengthField⟩ := buffered
    have fits := maxDataLen_pos g budget.1
    have unsentEq : s.unsent = g.data ++ s.dataForWriting := by simp only [unsent, next, bufferedData]
    dsimp only
    split_ifs with longer
    · -- `nextFrame` holds more than fits: the rest becomes the new `nextFrame`
      have taken : (g.data.take (min sendWindow (g.maxDataLen maxBytes))).length =
          min sendWindow (g.maxDataLen maxBytes) := by
        rw [List.length_take]
        exact Nat.min_eq_left (Nat.le_of_lt longer)
      refine ⟨_, _, _, _, _, rfl, atOffset, sameStream, ?_, ?_, ?_, lengthField, ?_, ?_, ⟨0, rfl⟩, .inr ⟨rfl, id⟩⟩
      · rw [← List.length_pos_iff, taken]
        omega
      · rw [taken]
        exact Nat.min_le_left _ _
      · exact length_le_of_le_maxDataLen g budget.small (by rw [taken]; exact Nat.min_le_right _ _) fits
      · rw [unsentEq, bufferedData, ← List.append_assoc, List.take_append_drop]
      · refine ⟨by rw [taken], rfl, ?_, rfl⟩
        rw [← List.length_pos_iff, List.length_drop]
        exact Nat.sub_pos_of_lt longer
    · have within := Nat.le_of_not_lt longer
      refine ⟨g, _, none, s.dataForWriting, true, rfl, atOffset, sameStream, nonempty, ?_, ?_, lengthField, ?_, trivial,
        ⟨0, rfl⟩, .inl rfl⟩
      · exact Nat.le_trans within (Nat.min_le_left _ _)
      · exact length_le_of_le_maxDataLen g budget.small (Nat.le_trans within (Nat.min_le_right _ _)) fits
      · rw [unsentEq, bufferedData, List.nil_append]
  | none =>
    have holds : s.dataForWriting ≠ [] := by simpa [unsent, next, bufferedData] using pending
    have fits := maxDataLen_pos (⟨s.streamID, s.writeOffset, [], false, true, false⟩ : StreamFrame) budget.1
    obtain ⟨hasMore, writeChan, popped, woken⟩ := popNewStreamFrameWithoutBuffer_spec sendWindow s fits
    rw [next] at popped
    have takes : 0 < min (StreamFrame.maxDataLen ⟨s.streamID, s.writeOffset, [], false, true, false⟩ maxBytes)
        sendWindow := by omega
    have withinWindow := Nat.min_le_right
      (StreamFrame.maxDataLen ⟨s.streamID, s.writeOffset, [], false, true, false⟩ maxBytes) sendWindow
    have withinBudget := Nat.min_le_left
      (StreamFrame.maxDataLen ⟨s.streamID, s.writeOffset, [], false, true, false⟩ maxBytes) sendWindow
    generalize min (StreamFrame.maxDataLen ⟨s.streamID, s.writeOffset, [], false, true, false⟩ maxBytes)
      sendWindow = n at popped takes withinWindow withinBudget woken
    have nonempty : s.dataForWriting.take n ≠ [] := by
      have somData := List.length_pos_iff.mpr holds
      rw [← List.length_pos_iff, List.length_take]
      omega
    dsimp only
    rw [popped]
    dsimp only
    rw [if_neg fun empty => nonempty (List.eq_nil_of_length_eq_zero empty.1)]
    refine ⟨_, hasMore, none, s.dataForWriting.drop n, writeChan, rfl, rfl, rfl, nonempty, ?_, ?_, rfl, ?_, trivial,
      ⟨n, rfl⟩, woken.imp id fun ⟨same, left⟩ => ⟨same, fun taken => absurd taken left⟩⟩
    · exact Nat.le_trans (List.length_take_le _ _) withinWindow
    · exact length_le_of_le_maxDataLen _ budget.small
        (Nat.le_trans (List.length_take_le _ _) withinBudget) fits
    · simp only [unsent, next, bufferedData, List.nil_append, List.take_append_drop]

theorem maybeGetRetransmission_cases {maxBytes : Nat} {s : SendStream} {f : StreamFrame} {rest : List StreamFrame}
    (queued : s.retransmissionQueue = f :: rest) (small : maxBytes < 16384) :
    maybeGetRetransmission maxBytes s = .ok (none, true) s ∨
      (0 < f.maxDataLen maxBytes ∧ f.maxDataLen maxBytes < f.data.length ∧
        maybeGetRetransmission maxBytes s =
          .ok (some { f with fin := false, fecProtected := false, data := f.data.take (f.maxDataLen maxBytes) }, true)
            { s with retransmissionQueue :=
              { f with offset := f.offset + f.maxDataLen maxBytes, data := f.data.drop (f.maxDataLen maxBytes) } :: rest }) ∨
      (f.length ≤ maxBytes ∧
        maybeGetRetransmission maxBytes s = .ok (some f, decide (rest.length > 0)) { s with retransmissionQueue := rest }) := by
  unfold maybeGetRetransmission
  rw [queued]
  unfold StreamFrame.maybeSplitOffFrame
  dsimp only
  split_ifs with fits empty <;> dsimp only
  · exact .inr (.inr ⟨fits, rfl⟩)
  · -- not one byte fits: the queue stays as it is
    refine .inl ?_
    rw [← queued]
  · have pos := Nat.pos_of_ne_zero empty
    exact .inr (.inl ⟨pos, StreamFrame.maxDataLen_lt_dataLen f small (Nat.lt_of_not_le fits) pos, rfl⟩)

/-- What `popNewOrRetransmittedStreamFrame` does under the framer's budget:
the frame it hands out, if any, and the stream and the connection's flow
controller after it. -/
inductive Pops (maxBytes : Nat) (s : SendStream) (conn : SendFlowController) :
    Option StreamFrame → SendStream → SendFlowController → Prop
  /-- Nothing goes out: the stream was canceled or shut down, a lost frame does
  not fit, nothing is left to send, or flow control blocks the stream at a
  limit already reported. -/
  | nothing : Pops maxBytes s conn none s conn
  /-- The stream sent all its window allows: the limit is reported in a
  STREAM_DATA_BLOCKED frame. -/
  | blocked (live : s.cancelWriteErr = none) (pending : s.unsent ≠ [])
      (sentAll : s.flowController.bytesSent = s.flowController.sendWindow)
      (newLimit : s.flowController.lastBlockedAt < s.flowController.sendWindow) :
      Pops maxBytes s conn none
        (({ s with flowController := { s.flowController with lastBlockedAt := s.flowController.sendWindow } }).call
          (.queueControlFrame (.streamDataBlocked ⟨s.streamID, s.flowController.sendWindow⟩))) conn
  /-- The part of the first lost frame that fits goes out; the rest stays first
  in the queue. -/
  | split (f : StreamFrame) (rest : List StreamFrame) (live : s.cancelWriteErr = none)
      (queued : s.retransmissionQueue = f :: rest) (pos : 0 < f.maxDataLen maxBytes)
      (shorter : f.maxDataLen maxBytes < f.data.length) :
      Pops maxBytes s conn (some { f with fin := false, fecProtected := false, data := f.data.take (f.maxDataLen maxBytes) })
        { s with retransmissionQueue :=
          { f with offset := f.offset + f.maxDataLen maxBytes, data := f.data.drop (f.maxDataLen maxBytes) } :: rest }
        conn
  /-- The first lost frame goes out whole. -/
  | whole (f : StreamFrame) (rest : List StreamFrame) (live : s.cancelWriteErr = none)
      (queued : s.retransmissionQueue = f :: rest) (fits : f.length ≤ maxBytes) :
      Pops maxBytes s conn (some f) { s with retransmissionQueue := rest } conn
  /-- After `Close`, with everything sent: the FIN alone. -/
  | fin (live : s.cancelWriteErr = none) (empty : s.unsent = []) (closed : s.finishedWriting = true)
      (notSent : s.finSent = false) :
      Pops maxBytes s conn (some ⟨s.streamID, s.writeOffset, [], true, true, false⟩) { s with finSent := true } conn
  /-- New data: the first bytes the stream holds, at `writeOffset` and within
  flow control, with the FIN when they are the last after `Close`. -/
  | data (f : StreamFrame) (nextFrame : Option StreamFrame) (dataForWriting : List UInt8) (writeChan : Bool)
      (live : s.cancelWriteErr = none) (pending : s.unsent ≠ [])
      (atOffset : f.offset = s.writeOffset) (sameStream : f.streamID = s.streamID) (nonempty : f.data ≠ [])
      (allowed : f.data.length ≤ StreamFlowController.sendWindowSize s.flowController conn)
      (fits : f.length ≤ maxBytes) (lengthField : f.dataLenPresent = true)
      (taken : f.data ++ (bufferedData nextFrame ++ dataForWriting) = s.unsent)
      (restAt : BufferedAt s.streamID (s.writeOffset + f.data.length) nextFrame)
      (drops : ∃ k, dataForWriting = s.dataForWriting.drop k)
      (woken : writeChan = true ∨ writeChan = s.writeChan ∧ (dataForWriting = [] → s.dataForWriting = [])) :
      Pops maxBytes s conn
        (some { f with fin := s.finishedWriting && dataForWriting.isEmpty && nextFrame.isNone && !s.finSent })
        { s with nextFrame, dataForWriting, writeChan, writeOffset := s.writeOffset + f.data.length,
                 flowController := s.flowController.addBytesSent f.data.length,
                 finSent := (s.finishedWriting && dataForWriting.isEmpty && nextFrame.isNone && !s.finSent) || s.finSent }
        (conn.addBytesSent f.data.length)

theorem popNewData_pops {maxBytes : Nat} {s : SendStream} {conn : SendFlowController}
    (budget : FramerBudget maxBytes) (live : s.cancelWriteErr = none)
    (buffered : BufferedAt s.streamID s.writeOffset s.nextFrame) (within : s.flowController.Within) :
    ∃ f? hasMore s' conn', popNewData maxBytes (s, conn) = .ok (f?, hasMore) (s', conn') ∧
      Pops maxBytes s conn f? s' conn' := by
  unfold popNewData
  dsimp only
  by_cases empty : s.dataForWriting.length = 0 ∧ s.nextFrame = none
  · rw [if_pos empty]
    have unsentEmpty : s.unsent = [] := by
      simp only [unsent, empty.2, bufferedData, List.nil_append]
      exact List.eq_nil_of_length_eq_zero empty.1
    by_cases finNow : s.finishedWriting = true ∧ (!s.finSent) = true
    · rw [if_pos finNow]
      exact ⟨_, _, _, _, rfl, .fin live unsentEmpty finNow.1 (by simpa using finNow.2)⟩
    · rw [if_neg finNow]
      exact ⟨_, _, _, _, rfl, .nothing⟩
  rw [if_neg empty]
  have pending : s.unsent ≠ [] := by
    intro unsentEmpty
    apply empty
    cases next : s.nextFrame with
    | none =>
      simp only [unsent, next, bufferedData, List.nil_append] at unsentEmpty
      simp [unsentEmpty]
    | some g =>
      rw [next] at buffered
      simp only [unsent, next, bufferedData, List.append_eq_nil_iff] at unsentEmpty
      exact absurd unsentEmpty.1 buffered.2.2.1
  by_cases closed : StreamFlowController.sendWindowSize s.flowController conn = 0
  · rw [if_pos closed]
    rcases SendFlowController.isNewlyBlocked_spec within with notBlocked | ⟨reported, sentAll, newLimit⟩
    · rw [notBlocked]
      exact ⟨_, _, _, _, rfl, .nothing⟩
    · rw [reported]
      exact ⟨_, _, _, _, rfl, .blocked live pending sentAll newLimit⟩
  rw [if_neg closed]
  obtain ⟨f, hasMore, nextFrame, dataForWriting, writeChan, popped, atOffset, sameStream, nonempty, allowed, fits,
    lengthField, taken, restAt, drops, woken⟩ := popNewStreamFrame_spec buffered pending (Nat.pos_of_ne_zero closed) budget
  rw [popped]
  dsimp only
  have positive : f.dataLen > 0 := List.length_pos_iff.mpr nonempty
  rw [if_pos positive]
  refine ⟨_, _, _, _, by
      generalize (s.finishedWriting && dataForWriting.isEmpty && nextFrame.isNone && !s.finSent) = fin
      cases fin <;> rfl,
    .data f nextFrame dataForWriting writeChan live pending atOffset sameStream nonempty allowed fits lengthField taken
      restAt drops woken⟩

theorem popNewOrRetransmittedStreamFrame_pops {maxBytes : Nat} {s : SendStream} {conn : SendFlowController}
    (budget : FramerBudget maxBytes) (buffered : BufferedAt s.streamID s.writeOffset s.nextFrame)
    (within : s.flowController.Within) :
    ∃ f? hasMore s' conn', popNewOrRetransmittedStreamFrame maxBytes (s, conn) = .ok (f?, hasMore) (s', conn') ∧
      Pops maxBytes s conn f? s' conn' := by
  have small := budget.small
  unfold popNewOrRetransmittedStreamFrame
  dsimp only
  by_cases stopped : s.cancelWriteErr.isSome ∨ s.closeForShutdownErr.isSome
  · rw [if_pos stopped]
    exact ⟨_, _, _, _, rfl, .nothing⟩
  rw [if_neg stopped]
  have live : s.cancelWriteErr = none := Option.not_isSome_iff_eq_none.mp (not_or.mp stopped).1
  cases queued : s.retransmissionQueue with
  | nil =>
    rw [if_neg (by simp)]
    exact popNewData_pops budget live buffered within
  | cons f rest =>
    rw [if_pos (by simp)]
    rcases maybeGetRetransmission_cases queued small with none | ⟨pos, shorter, split⟩ | whole
    · rw [none]
      exact ⟨_, _, _, _, if_pos (.inr rfl), .nothing⟩
    · rw [split]
      exact ⟨_, _, _, _, if_pos (.inl rfl), .split f rest live queued pos shorter⟩
    · rw [whole.2]
      exact ⟨_, _, _, _, if_pos (.inl rfl), .whole f rest live queued whole.1⟩

/-! ### What the framer relies on

The framer pops frame after frame from each stream, within its budget.  What
`popStreamFrame` needs of a stream then (`Poppable`) it keeps, and the frame
it hands out fits the budget and has its length field, which the framer may
drop from the last frame of a packet. -/

/-- What `popStreamFrame` needs of a stream under the framer's budget: the
buffered frame at the write offset, the flow controller within its window,
and a length field on every frame waiting for retransmission. -/
structure Poppable (s : SendStream) : Prop where
  buffered : BufferedAt s.streamID s.writeOffset s.nextFrame
  within : s.flowController.Within
  lengthFields : ∀ f ∈ s.retransmissionQueue, f.dataLenPresent = true

section Pops

variable {maxBytes : Nat} {s : SendStream} {conn : SendFlowController} {f? : Option StreamFrame}
  {s' : SendStream} {conn' : SendFlowController}

theorem Pops.poppable (pops : Pops maxBytes s conn f? s' conn') (poppable : Poppable s) : Poppable s' := by
  cases pops with
  | nothing => exact poppable
  | blocked live pending sentAll newLimit =>
    exact ⟨poppable.buffered, ⟨poppable.within.sentWithin, le_refl _⟩, poppable.lengthFields⟩
  | split f rest live queued pos shorter =>
    refine ⟨poppable.buffered, poppable.within, fun g member => ?_⟩
    rcases List.mem_cons.mp member with rfl | inRest
    · -- the rest of the split frame keeps its length field
      exact poppable.lengthFields f (by rw [queued]; exact List.mem_cons_self)
    · exact poppable.lengthFields g (by rw [queued]; exact List.mem_cons_of_mem _ inRest)
  | whole f rest live queued fits =>
    exact ⟨poppable.buffered, poppable.within,
      fun g inRest => poppable.lengthFields g (by rw [queued]; exact List.mem_cons_of_mem _ inRest)⟩
  | fin live empty closed notSent => exact ⟨poppable.buffered, poppable.within, poppable.lengthFields⟩
  | data f nextFrame dataForWriting writeChan live pending atOffset sameStream nonempty allowed fits lengthField taken
      restAt drops woken =>
    exact ⟨restAt, poppable.within.addBytesSent (le_trans allowed (min_le_left _ _)), poppable.lengthFields⟩

theorem Pops.connWithin (pops : Pops maxBytes s conn f? s' conn') (within : conn.Within) : conn'.Within := by
  cases pops with
  | data f nextFrame dataForWriting writeChan live pending atOffset sameStream nonempty allowed =>
    exact within.addBytesSent (le_trans allowed (min_le_right _ _))
  | _ => exact within

theorem Pops.fits {f : StreamFrame} (pops : Pops maxBytes s conn (some f) s' conn') (budget : FramerBudget maxBytes)
    (poppable : Poppable s) : f.length ≤ maxBytes ∧ f.dataLenPresent = true := by
  cases pops with
  | split g rest live queued pos shorter =>
    exact ⟨length_le_of_le_maxDataLen { g with fin := false } budget.small (List.length_take_le _ _) pos,
      poppable.lengthFields g (by rw [queued]; exact List.mem_cons_self)⟩
  | whole g rest live queued fits =>
    exact ⟨fits, poppable.lengthFields _ (by rw [queued]; exact List.mem_cons_self)⟩
  | fin live empty closed notSent =>
    have idLen := Quicvarint.size_le_eight s.streamID
    have offsetLen := Quicvarint.size_le_eight s.writeOffset
    have zeroLen : Quicvarint.size 0 = 1 := rfl
    have room := budget.1
    unfold minStreamFrameSize at room
    refine ⟨?_, rfl⟩
    simp only [StreamFrame.length, StreamFrame.dataLen, List.length_nil, if_true, zeroLen]
    split_ifs <;> omega
  | data g nextFrame dataForWriting writeChan live pending atOffset sameStream nonempty allowed fits lengthField =>
    exact ⟨fits, lengthField⟩

end Pops

theorem popStreamFrame_of_run {maxBytes : Nat} {sc : SendStream × SendFlowController} {f? : Option StreamFrame}
    {hasMore : Bool} {s : SendStream} {conn : SendFlowController}
    (run : popNewOrRetransmittedStreamFrame maxBytes sc = .ok (f?, hasMore) (s, conn)) :
    popStreamFrame maxBytes sc =
      .ok (f?.map fun f => { f with fecProtected := s.fecProtected }, hasMore)
        (if f?.isSome then { s with numOutstandingFrames := s.numOutstandingFrames + 1 } else s, conn) := by
  cases f? <;> simp [popStreamFrame, run]

theorem popStreamFrame_poppable {maxBytes : Nat} {s : SendStream} {conn : SendFlowController}
    (budget : FramerBudget maxBytes) (poppable : Poppable s) :
    ∃ f? hasMore s' conn', popStreamFrame maxBytes (s, conn) = .ok (f?, hasMore) (s', conn') ∧ Poppable s' ∧
      (conn.Within → conn'.Within) ∧ ∀ f ∈ f?, f.length ≤ maxBytes ∧ f.dataLenPresent = true := by
  obtain ⟨f?, hasMore, s', conn', run, pops⟩ :=
    @popNewOrRetransmittedStreamFrame_pops maxBytes s conn budget poppable.buffered poppable.within
  have kept := pops.poppable poppable
  refine ⟨_, hasMore, _, conn', popStreamFrame_of_run run, ?_, pops.connWithin, ?_⟩
  · -- counting the frame touches nothing `Poppable` reads
    split_ifs
    · exact ⟨kept.buffered, kept.within, kept.lengthFields⟩
    · exact kept
  · intro f member
    cases f? with
    | none => cases member
    | some g =>
      obtain rfl := Option.mem_some_iff.mp member
      exact pops.fits budget poppable

theorem notify_eq (notified : Bool) (s : SendStream) :
    (if notified = true then s else s.call (.onHasStreamData s.streamID)) =
      { s with sender := s.sender ++ (if notified = true then [] else [.onHasStreamData s.streamID]) } := by
  cases notified
  · rfl
  · simp only [↓reduceIte, List.append_nil]

theorem writeResult_ne_blocked (len bytesWritten : Nat) (s : SendStream) :
    writeResult len bytesWritten s ≠ .blocked := by
  unfold writeResult
  split_ifs
  · exact WriteOutcome.noConfusion
  · split <;> exact WriteOutcome.noConfusion

theorem writeLoop_spec (len : Nat) (notifiedSender : Bool) {s : SendStream}
    (buffered : BufferedAt s.streamID s.writeOffset s.nextFrame) :
    ∃ nextFrame dataForWriting calls,
      (s.writeLoop len notifiedSender).2 = { s with nextFrame, dataForWriting, sender := s.sender ++ calls } ∧
      (calls = [] ∨ calls = [.onHasStreamData s.streamID]) ∧
      bufferedData nextFrame ++ dataForWriting = s.unsent ∧
      BufferedAt s.streamID s.writeOffset nextFrame ∧
      ((s.writeLoop len notifiedSender).1 ≠ .blocked →
        dataForWriting = [] ∨ s.cancelWriteErr.isSome ∨ s.closeForShutdownErr.isSome) ∧
      ((s.writeLoop len notifiedSender).1 = .blocked → dataForWriting = s.dataForWriting ∧
        s.dataForWriting ≠ [] ∧ s.cancelWriteErr = none ∧ s.closeForShutdownErr = none) := by
  have calls : (if notifiedSender = true then [] else [SenderCall.onHasStreamData s.streamID]) = [] ∨
      (if notifiedSender = true then [] else [SenderCall.onHasStreamData s.streamID]) =
        [.onHasStreamData s.streamID] := by
    split_ifs
    · exact .inl rfl
    · exact .inr rfl
  unfold writeLoop
  by_cases copy : s.canBufferStreamFrame = true ∧ s.dataForWriting.length > 0
  · -- what is left goes into `nextFrame`, which holds data at `writeOffset`
    rw [if_pos copy]
    dsimp only
    rw [notify_eq]
    have holds : s.dataForWriting ≠ [] := List.length_pos_iff.mp copy.2
    refine ⟨_, [], _, rfl, calls, ?_, ?_, fun _ => .inl rfl,
      fun blocked => absurd blocked (writeResult_ne_blocked _ _ _)⟩
    · cases next : s.nextFrame <;> simp [bufferedData, unsent, next]
    · cases next : s.nextFrame with
      | none => exact ⟨rfl, rfl, holds, rfl⟩
      | some f =>
        rw [next] at buffered
        exact ⟨buffered.1, buffered.2.1, by simp [buffered.2.2.1], buffered.2.2.2⟩
  rw [if_neg copy]
  dsimp only
  by_cases done : s.dataForWriting = [] ∨ s.cancelWriteErr.isSome ∨ s.closeForShutdownErr.isSome
  · rw [if_pos done]
    refine ⟨s.nextFrame, s.dataForWriting, [], by rw [List.append_nil], .inl rfl, rfl, buffered, fun _ => ?_,
      fun blocked => absurd blocked (writeResult_ne_blocked _ _ _)⟩
    rcases done with empty | stopped
    · exact .inl empty
    · exact .inr stopped
  · rw [if_neg done, notify_eq]
    simp only [not_or, Bool.not_eq_true, Option.isSome_eq_false_iff, Option.isNone_iff_eq_none] at done
    exact ⟨s.nextFrame, s.dataForWriting, _, rfl, calls, rfl, buffered, fun notBlocked => absurd rfl notBlocked,
      fun _ => ⟨rfl, done⟩⟩

theorem writeChecks_eq_none {p : List UInt8} {s : SendStream} :
    s.writeChecks p = none ↔
      s.finishedWriting = false ∧ s.cancelWriteErr = none ∧ s.closeForShutdownErr = none ∧ p ≠ [] := by
  unfold writeChecks
  by_cases closed : s.finishedWriting = true
  · simp [closed]
  · rw [if_neg closed]
    cases cancel : s.cancelWriteErr <;> cases shutdown : s.closeForShutdownErr <;>
      simp [closed, List.length_eq_zero_iff]

theorem Poppable.write {s : SendStream} (poppable : Poppable s) (p : List UInt8) :
    Poppable (s.write p).2 ∧ (s.write p).2.streamID = s.streamID ∧
      ((s.write p).2.sender = s.sender ∨ (s.write p).2.sender = s.sender ++ [.onHasStreamData s.streamID]) := by
  unfold SendStream.write
  cases checks : s.writeChecks p with
  | some outcome => exact ⟨poppable, rfl, .inl rfl⟩
  | none =>
    obtain ⟨nextFrame, dataForWriting, calls, state, called, -, buffered, -⟩ :=
      writeLoop_spec p.length false (s := { s with dataForWriting := p }) poppable.buffered
    dsimp only
    rw [state]
    refine ⟨⟨buffered, poppable.within, poppable.lengthFields⟩, rfl, ?_⟩
    rcases called with rfl | rfl
    · exact .inl (List.append_nil _)
    · exact .inr rfl

/-- The condition of `isNewlyCompleted`: the FIN or a RESET_STREAM went out,
and no frame is outstanding or waits for retransmission. -/
def doneSending (s : SendStream) : Bool :=
  (s.finSent || s.cancelWriteErr.isSome) && s.numOutstandingFrames == 0 && s.retransmissionQueue.isEmpty

theorem isNewlyCompleted_eq (s : SendStream) :
    s.isNewlyCompleted = (s.doneSending && !s.completed, { s with completed := s.completed || s.doneSending }) := by
  unfold isNewlyCompleted
  by_cases completed : s.completed = true
  · have same : { s with completed := true } = s := by
      cases s
      simp only at completed
      rw [completed]
    simp only [completed, Bool.not_true, Bool.and_false, Bool.false_eq_true, ↓reduceIte, Bool.true_or, same]
  · have notCompleted : s.completed = false := by simpa using completed
    simp only [notCompleted, doneSending, Bool.not_false, Bool.and_true, Bool.false_or]
    split_ifs with done
    · rw [done]
    · simp only [Bool.not_eq_true] at done
      rw [done]
      cases s
      simp only at notCompleted
      rw [notCompleted]

end SendStream

end QuicFec
