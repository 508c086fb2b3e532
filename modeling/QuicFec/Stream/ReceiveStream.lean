import QuicFec.Stream.Reassembly
import QuicFec.Flowcontrol.Receive
import QuicFec.Wire.StreamFrame

/-! # Receive streams

`receive_stream.go`: a receive stream hands the STREAM frames it gets to its
frame sorter after its flow controller has checked them, and `Read` copies the
sorted data out, frame by frame, telling the flow controller what was read.
A RESET_STREAM frame or `CancelRead` ends the stream early; once the final
size is known as well, the stream is complete and its flow controller is
abandoned, which counts the bytes never read as read for the connection.

The stream's flow controller reports to the connection's, so the calls here
run on the stream together with the connection flow controller.  What the Go
code hands to its `streamSender` is returned: `completed` tells the caller to
call `onStreamCompleted`.  Nothing here sets a read deadline, so `Read`
waits for data when there is none; it then returns `blocked`, and a later
`Read` starts where the waiting one would go on (`signalRead` and the
`readChan` are not modeled, and neither is the STOP_SENDING frame
`CancelRead` queues). -/
set_option autoImplicit false

namespace QuicFec

open Go QuicFec.Protocol QuicFec.Wire QuicFec.Flowcontrol

structure StreamError where
  streamID : Nat
  errorCode : Nat
  remote : Bool
deriving DecidableEq, Repr

structure ResetStreamFrame where
  streamID : Nat
  errorCode : Nat
  finalSize : Nat
deriving DecidableEq, Repr

/-- The errors `Read` returns. -/
inductive ReadError where
  /-- `io.EOF`. -/
  | eof
  /-- `cancelReadErr` or `resetRemotelyErr`. -/
  | stream (err : StreamError)
  /-- `closeForShutdownErr`. -/
  | shutdown (message : String)
  /-- The `BUG:` errors of the copy loop. -/
  | bug (message : String)
deriving DecidableEq, Repr

/-- What `Read` does: it returns (whether the stream completed, the bytes read
and the error), or it waits for data. -/
inductive ReadOutcome where
  | returned (completed : Bool) (n : Nat) (err : Option ReadError)
  | blocked
deriving DecidableEq, Repr

/-- Whether `Read` reports the stream completed. -/
def ReadOutcome.completed : ReadOutcome → Bool
  | .returned completed _ _ => completed
  | .blocked => false

/-- The `onStreamCompleted` calls a call's `completed` result asks for. -/
def completions (completed : Bool) : Nat := if completed then 1 else 0

@[simp] theorem completions_false : completions false = 0 := rfl

@[simp] theorem completions_true : completions true = 1 := rfl

/-- The `error` a frame handler returns: a transport error of flow control, or
the frame sorter's. -/
inductive HandlerError where
  | transport (err : TransportError)
  | sorter (message : String)
deriving DecidableEq, Repr

/-- `receiveStream`.  `released` lists the buffers handed back through
`currentFrameDone`, oldest first. -/
structure ReceiveStream (γ : Type) where
  streamID : Nat
  frameQueue : FrameSorter UInt8 γ
  finalOffset : Nat
  currentFrame : Option (List UInt8)
  currentFrameDone : Option γ
  readPosInFrame : Nat
  currentFrameIsLast : Bool
  finRead : Bool
  closeForShutdownErr : Option String
  cancelReadErr : Option StreamError
  resetRemotelyErr : Option StreamError
  flowController : StreamFlowController
  released : List γ

namespace ReceiveStream

variable {γ : Type}

def newReceiveStream (streamID : Nat) (flowController : StreamFlowController) : ReceiveStream γ where
  streamID := streamID
  frameQueue := FrameSorter.newFrameSorter
  finalOffset := maxByteCount
  currentFrame := none
  currentFrameDone := none
  readPosInFrame := 0
  currentFrameIsLast := false
  finRead := false
  closeForShutdownErr := none
  cancelReadErr := none
  resetRemotelyErr := none
  flowController := flowController
  released := []

/-- `len(s.currentFrame)`: a nil frame is empty. -/
def frameLen (s : ReceiveStream γ) : Nat := (s.currentFrame.getD []).length

/-- Call a method of the frame sorter. -/
def onFrameQueue {α : Type} (x : Call (FrameSorter UInt8 γ) α) : Call (ReceiveStream γ) α :=
  Call.focus (·.frameQueue) (fun q s => { s with frameQueue := q }) x

/-- Call a method of the stream alone. -/
def onStream {α : Type} (x : Call (ReceiveStream γ) α) :
    Call (ReceiveStream γ × ConnectionFlowController) α :=
  Call.focus Prod.fst (fun s p => (s, p.2)) x

def updateHighestReceived (offset : Nat) (final : Bool) :
    Call (ReceiveStream γ × ConnectionFlowController) (Option TransportError) := fun (s, conn) =>
  let (err, fc, conn) := s.flowController.updateHighestReceived offset final conn
  .ok err ({ s with flowController := fc }, conn)

def addBytesRead (n : Nat) : Call (ReceiveStream γ × ConnectionFlowController) Unit := fun (s, conn) =>
  let (fc, conn) := s.flowController.addBytesRead n conn
  .ok () ({ s with flowController := fc }, conn)

def abandon : Call (ReceiveStream γ × ConnectionFlowController) Unit := fun (s, conn) =>
  .ok () (s, s.flowController.abandon conn)

/-! ## Reading -/

/-- `dequeueNextFrame`: release the buffer of the frame read last, and pop the
next one. -/
def dequeueNextFrame : Call (ReceiveStream γ) Unit := do
  Call.modify fun s => { s with released := s.released ++ s.currentFrameDone.toList }
  let (offset, data, done) ← onFrameQueue FrameSorter.pop
  Call.modify fun s =>
    { s with currentFrame := data, currentFrameDone := done,
             currentFrameIsLast := decide (s.finalOffset ≤ offset + (data.getD []).length),
             readPosInFrame := 0 }

/-- How one pass of the copy loop of `readImpl` ends: with a return from
`readImpl`, or with `bytesRead` bytes read and the loop going on. -/
inductive ReadStep where
  | stop (outcome : ReadOutcome)
  | next (bytesRead : Nat)
deriving DecidableEq, Repr

/-- The returns of the copy loop before it copies: no frame after some bytes
were read, the errors the waiting loop stops on, no frame to wait for (with
`bytesRead = 0`), and the two `BUG` checks. -/
def readChecks (p bytesRead : Nat) (s : ReceiveStream γ) : Option ReadOutcome :=
  if s.currentFrame.isNone ∧ 0 < bytesRead then
    some (.returned false bytesRead (s.closeForShutdownErr.map .shutdown))
  else
    match s.closeForShutdownErr, s.cancelReadErr, s.resetRemotelyErr with
    | some err, _, _ => some (.returned false bytesRead (some (.shutdown err)))
    | none, some err, _ => some (.returned false bytesRead (some (.stream err)))
    | none, none, some err => some (.returned false bytesRead (some (.stream err)))
    | none, none, none =>
        if ¬ (s.currentFrame.isSome ∨ s.currentFrameIsLast = true) then some .blocked
        else if p < bytesRead then
          some (.returned false bytesRead
            (some (.bug s!"BUG: bytesRead ({bytesRead}) > len(p) ({p}) in stream.Read")))
        else if s.frameLen < s.readPosInFrame then
          let readPosInFrame := s.readPosInFrame
          let frameLen := s.frameLen
          some (.returned false bytesRead (some (.bug
            s!"BUG: readPosInFrame ({readPosInFrame}) > frame.DataLen ({frameLen}) in stream.Read")))
        else none

/-- The copy: as much of the frame as fits into the rest of `p`, counted as read
by the flow controller; the end of the last frame ends the stream. -/
def copyFromFrame (p bytesRead : Nat) : Call (ReceiveStream γ × ConnectionFlowController) ReadStep :=
  fun (s, conn) =>
    let m := min (p - bytesRead) (s.frameLen - s.readPosInFrame)
    let s := { s with readPosInFrame := s.readPosInFrame + m }
    -- when a RESET_STREAM was received, the flow controller was already
    -- informed about the final byteOffset for this stream
    let (fc, conn) :=
      if s.resetRemotelyErr.isNone then s.flowController.addBytesRead m conn else (s.flowController, conn)
    let s := { s with flowController := fc }
    if s.frameLen ≤ s.readPosInFrame ∧ s.currentFrameIsLast = true then
      .ok (.stop (.returned true (bytesRead + m) (some .eof)))
        ({ s with finRead := true, currentFrame := none,
                  released := s.released ++ s.currentFrameDone.toList }, conn)
    else .ok (.next (bytesRead + m)) (s, conn)

/-- `if s.currentFrame == nil || s.readPosInFrame >= len(s.currentFrame) { s.dequeueNextFrame() }`. -/
def dequeueIfDone : Call (ReceiveStream γ) Unit := fun s =>
  if s.currentFrame.isNone ∨ s.frameLen ≤ s.readPosInFrame then dequeueNextFrame s else .ok () s

/-- One pass of the copy loop of `readImpl`. -/
def readStep (p bytesRead : Nat) : Call (ReceiveStream γ × ConnectionFlowController) ReadStep := do
  onStream dequeueIfDone
  let (s, _) ← Call.get
  match readChecks p bytesRead s with
  | some outcome => return .stop outcome
  | none => copyFromFrame p bytesRead

/-- A pass that goes on has read more, or has popped a frame: the measure of
the copy loop. -/
def readMeasure (p bytesRead : Nat) (s : ReceiveStream γ × ConnectionFlowController) : Nat × Nat :=
  (p - bytesRead, s.1.frameQueue.queue.keys.length)

theorem dequeueNextFrame_ok {s s' : ReceiveStream γ} (run : dequeueNextFrame s = .ok () s') :
    ∃ offset data done, FrameSorter.pop s.frameQueue = .ok (offset, data, done) s'.frameQueue ∧
      s' = { s with frameQueue := s'.frameQueue, currentFrame := data, currentFrameDone := done,
                    currentFrameIsLast := decide (s.finalOffset ≤ offset + (data.getD []).length),
                    readPosInFrame := 0, released := s.released ++ s.currentFrameDone.toList } := by
  simp only [dequeueNextFrame, onFrameQueue, Call.bind_apply, Call.modify_apply, Call.focus_apply] at run
  cases popped : FrameSorter.pop s.frameQueue with
  | ok r q =>
      obtain ⟨offset, data, done⟩ := r
      rw [popped] at run
      simp only [Result.ok.injEq] at run
      obtain ⟨-, rfl⟩ := run
      exact ⟨offset, data, done, rfl, rfl⟩
  | error e q => simp [popped] at run
  | panic m => simp [popped] at run

theorem dequeueIfDone_ok {s s' : ReceiveStream γ} (run : dequeueIfDone s = .ok () s') :
    ((s.currentFrame.isNone ∨ s.frameLen ≤ s.readPosInFrame) ∧ dequeueNextFrame s = .ok () s') ∨
      (¬ (s.currentFrame.isNone ∨ s.frameLen ≤ s.readPosInFrame) ∧ s' = s) := by
  unfold dequeueIfDone at run
  split_ifs at run with done
  · exact .inl ⟨done, run⟩
  · cases run
    exact .inr ⟨done, rfl⟩

theorem readChecks_eq_none {p bytesRead : Nat} {s : ReceiveStream γ}
    (passed : readChecks p bytesRead s = none) :
    s.closeForShutdownErr = none ∧ s.cancelReadErr = none ∧ s.resetRemotelyErr = none ∧
      (s.currentFrame.isSome ∨ s.currentFrameIsLast = true) ∧ bytesRead ≤ p ∧
      s.readPosInFrame ≤ s.frameLen := by
  unfold readChecks at passed
  by_cases noFrame : s.currentFrame.isNone ∧ 0 < bytesRead
  · simp [noFrame] at passed
  rw [if_neg noFrame] at passed
  cases shutdown : s.closeForShutdownErr <;> cases cancel : s.cancelReadErr <;>
    cases reset : s.resetRemotelyErr <;> simp only [shutdown, cancel, reset, reduceCtorEq] at passed
  split_ifs at passed with waiting past bug
  exact ⟨rfl, rfl, rfl, waiting, Nat.le_of_not_lt past, Nat.le_of_not_lt bug⟩

theorem readChecks_completed {p bytesRead : Nat} {s : ReceiveStream γ} {outcome : ReadOutcome}
    (stopped : readChecks p bytesRead s = some outcome) : outcome.completed = false := by
  unfold readChecks at stopped
  by_cases noFrame : s.currentFrame.isNone ∧ 0 < bytesRead
  · rw [if_pos noFrame] at stopped
    cases stopped
    rfl
  rw [if_neg noFrame] at stopped
  cases shutdown : s.closeForShutdownErr <;> cases cancel : s.cancelReadErr <;>
    cases reset : s.resetRemotelyErr <;> simp only [shutdown, cancel, reset] at stopped <;>
    (try split_ifs at stopped) <;> (cases stopped; rfl)

theorem readStep_ok {p bytesRead : Nat} {s t : ReceiveStream γ × ConnectionFlowController} {r : ReadStep}
    (run : readStep p bytesRead s = .ok r t) :
    ∃ s₁, dequeueIfDone s.1 = .ok () s₁ ∧
      ((∃ outcome, readChecks p bytesRead s₁ = some outcome ∧ r = .stop outcome ∧ t = (s₁, s.2)) ∨
        (readChecks p bytesRead s₁ = none ∧ copyFromFrame p bytesRead (s₁, s.2) = .ok r t)) := by
  obtain ⟨u, s₁, dequeued, rest⟩ := Call.bind_eq_ok.mp run
  simp only [onStream, Call.focus_apply] at dequeued
  cases d : dequeueIfDone s.1 with
  | ok u' s₁' =>
      rw [d] at dequeued
      simp only [Result.ok.injEq] at dequeued
      obtain ⟨-, rfl⟩ := dequeued
      refine ⟨s₁', rfl, ?_⟩
      simp only [Call.bind_apply, Call.get_apply] at rest
      cases checks : readChecks p bytesRead s₁' with
      | some outcome =>
          rw [checks] at rest
          simp only [Call.pure_apply, Result.ok.injEq] at rest
          exact .inl ⟨outcome, rfl, rest.1.symm, rest.2.symm⟩
      | none =>
          rw [checks] at rest
          exact .inr ⟨rfl, rest⟩
  | error e s₁' => rw [d] at dequeued; cases dequeued
  | panic m => rw [d] at dequeued; cases dequeued

/-- The bytes one copy takes: what fits into the rest of `p`. -/
def copyLen (p bytesRead : Nat) (s : ReceiveStream γ) : Nat := min (p - bytesRead) (s.frameLen - s.readPosInFrame)

/-- The stream after a copy of `m` bytes, with the flow controller told. -/
@[simp] def afterCopy (m : Nat) (s : ReceiveStream γ) (conn : ConnectionFlowController) : ReceiveStream γ :=
  { s with readPosInFrame := s.readPosInFrame + m, flowController := (s.flowController.addBytesRead m conn).1 }

theorem copyFromFrame_ok {p bytesRead : Nat} {s : ReceiveStream γ} {conn : ConnectionFlowController}
    {r : ReadStep} {t : ReceiveStream γ × ConnectionFlowController}
    (noReset : s.resetRemotelyErr = none) (run : copyFromFrame p bytesRead (s, conn) = .ok r t) :
    (s.frameLen ≤ s.readPosInFrame + copyLen p bytesRead s ∧ s.currentFrameIsLast = true ∧
        r = .stop (.returned true (bytesRead + copyLen p bytesRead s) (some .eof)) ∧
        t = ({ afterCopy (copyLen p bytesRead s) s conn with
                 finRead := true, currentFrame := none,
                 released := s.released ++ s.currentFrameDone.toList },
             conn.addBytesRead (copyLen p bytesRead s))) ∨
      (¬ (s.frameLen ≤ s.readPosInFrame + copyLen p bytesRead s ∧ s.currentFrameIsLast = true) ∧
        r = .next (bytesRead + copyLen p bytesRead s) ∧
        t = (afterCopy (copyLen p bytesRead s) s conn, conn.addBytesRead (copyLen p bytesRead s))) := by
  simp only [copyFromFrame, noReset, Option.isNone_none, if_true] at run
  by_cases finished : s.frameLen ≤ s.readPosInFrame + copyLen p bytesRead s ∧ s.currentFrameIsLast = true
  · rw [if_pos (by simpa only [frameLen, copyLen] using finished)] at run
    cases run
    exact .inl ⟨finished.1, finished.2, rfl, by simp only [afterCopy, copyLen, noReset, frameLen]; rfl⟩
  · rw [if_neg (by simpa only [frameLen, copyLen] using finished)] at run
    cases run
    exact .inr ⟨finished, rfl, by simp only [afterCopy, copyLen, noReset, frameLen]; rfl⟩

theorem readMeasure_lt {p bytesRead b : Nat} {s t : ReceiveStream γ × ConnectionFlowController}
    (run : readStep p bytesRead s = .ok (.next b) t) (more : bytesRead < p) :
    Prod.Lex (· < ·) (· < ·) (readMeasure p b t) (readMeasure p bytesRead s) := by
  obtain ⟨s₁, dequeued, ⟨outcome, -, stopped, -⟩ | ⟨passed, copied⟩⟩ := readStep_ok run
  · cases stopped
  obtain ⟨-, -, noReset, hasFrame, -, -⟩ := readChecks_eq_none passed
  obtain ⟨-, -, stopped, -⟩ | ⟨notLast, next, rfl⟩ := copyFromFrame_ok noReset copied
  · cases stopped
  cases next
  unfold readMeasure
  by_cases copiedSome : 0 < copyLen p bytesRead s₁
  · exact .left _ _ (by omega)
  have usedUp : s₁.frameLen ≤ s₁.readPosInFrame := by
    unfold copyLen at copiedSome
    omega
  have notLastFrame : s₁.currentFrameIsLast = false := by
    simpa [show s₁.frameLen ≤ s₁.readPosInFrame + copyLen p bytesRead s₁ by omega] using notLast
  have present : s₁.currentFrame.isSome := by simpa [notLastFrame] using hasFrame
  rcases dequeueIfDone_ok dequeued with ⟨-, popped⟩ | ⟨notDone, rfl⟩
  · obtain ⟨offset, data, done, pop, dequeuedEq⟩ := dequeueNextFrame_ok popped
    have frameEq : s₁.currentFrame = data := by rw [dequeuedEq]
    obtain ⟨-, ⟨rfl, -⟩ | ⟨entry, found, -, queueEq⟩⟩ := FrameSorter.pop_ok pop
    · simp [frameEq] at present
    · have shorter := FrameSorter.length_keys_erase_lt _ found
      rw [show copyLen p bytesRead s₁ = 0 by omega, Nat.add_zero]
      refine .right _ ?_
      simpa [queueEq] using shorter
  · exact absurd (.inr usedUp) notDone

-- the linter does not see the names `decreasing_by` uses
set_option linter.unusedVariables false in
/-- The copy loop of `readImpl`: `for bytesRead < len(p)`. -/
def readLoop (p bytesRead : Nat) (s : ReceiveStream γ × ConnectionFlowController) :
    Result (ReceiveStream γ × ConnectionFlowController) ReadOutcome :=
  if more : bytesRead < p then
    match step : readStep p bytesRead s with
    | .ok (.stop outcome) t => .ok outcome t
    | .ok (.next b) t => readLoop p b t
    | .error e t => .error e t
    | .panic m => .panic m
  else .ok (.returned false bytesRead none) s
termination_by readMeasure p bytesRead s
decreasing_by exact readMeasure_lt step more

section ReadLoop

variable {p bytesRead : Nat} {s t : ReceiveStream γ × ConnectionFlowController}

theorem readLoop_of_stop {outcome : ReadOutcome} (more : bytesRead < p)
    (step : readStep p bytesRead s = .ok (.stop outcome) t) : readLoop p bytesRead s = .ok outcome t := by
  rw [readLoop, dif_pos more]
  split <;> simp_all

theorem readLoop_of_next {b : Nat} (more : bytesRead < p)
    (step : readStep p bytesRead s = .ok (.next b) t) : readLoop p bytesRead s = readLoop p b t := by
  rw [readLoop, dif_pos more]
  split <;> simp_all

theorem readLoop_of_error {e : String} (more : bytesRead < p)
    (step : readStep p bytesRead s = .error e t) : readLoop p bytesRead s = .error e t := by
  rw [readLoop, dif_pos more]
  split <;> simp_all

theorem readLoop_of_panic {m : String} (more : bytesRead < p)
    (step : readStep p bytesRead s = .panic m) : readLoop p bytesRead s = .panic m := by
  rw [readLoop, dif_pos more]
  split <;> simp_all

theorem readLoop_of_done (done : ¬ bytesRead < p) :
    readLoop p bytesRead s = .ok (.returned false bytesRead none) s := by
  rw [readLoop, dif_neg done]

end ReadLoop

/-- `readImpl`: a stream read to its end, cancelled, reset or closed returns at
once; otherwise the copy loop runs. -/
def readImpl (p : Nat) : Call (ReceiveStream γ × ConnectionFlowController) ReadOutcome :=
  fun (s, conn) =>
    if s.finRead then .ok (.returned false 0 (some .eof)) (s, conn)
    else
      match s.cancelReadErr, s.resetRemotelyErr, s.closeForShutdownErr with
      | some err, _, _ => .ok (.returned false 0 (some (.stream err))) (s, conn)
      | none, some err, _ => .ok (.returned false 0 (some (.stream err))) (s, conn)
      | none, none, some err => .ok (.returned false 0 (some (.shutdown err))) (s, conn)
      | none, none, none => readLoop p 0 (s, conn)

/-! ## Cancelling and frames -/

/-- `cancelReadImpl`: the stream is complete if its final size is known. -/
def cancelReadImpl (errorCode : Nat) (s : ReceiveStream γ) : Bool × ReceiveStream γ :=
  if s.finRead ∨ s.cancelReadErr.isSome ∨ s.resetRemotelyErr.isSome then (false, s)
  else
    let s := { s with cancelReadErr := some ⟨s.streamID, errorCode, false⟩ }
    (decide (s.finalOffset ≠ maxByteCount), s)

/-- `CancelRead`; the result says whether to call `onStreamCompleted`. -/
def cancelRead (errorCode : Nat) (sc : ReceiveStream γ × ConnectionFlowController) :
    Bool × ReceiveStream γ × ConnectionFlowController :=
  let (completed, s) := cancelReadImpl errorCode sc.1
  (completed, s, if completed then s.flowController.abandon sc.2 else sc.2)

/-- `handleStreamFrameImpl`: the flow controller checks the frame's end; data
for a cancelled stream is dropped, other data goes to the frame sorter. -/
def handleStreamFrameImpl (frame : StreamFrame) (putBack : γ) :
    Call (ReceiveStream γ × ConnectionFlowController) (Bool × Option HandlerError) := fun (s, conn) =>
  let maxOffset := frame.offset + frame.dataLen
  let (err, fc, conn) := s.flowController.updateHighestReceived maxOffset frame.fin conn
  let s := { s with flowController := fc }
  match err with
  | some err => .ok (false, some (.transport err)) (s, conn)
  | none =>
      let newlyRcvdFinalOffset := frame.fin && s.finalOffset == maxByteCount
      let s := { s with finalOffset := if frame.fin then maxOffset else s.finalOffset }
      if s.cancelReadErr.isSome then .ok (newlyRcvdFinalOffset, none) (s, conn)
      else
        match FrameSorter.Push frame.data frame.offset (some putBack) s.frameQueue with
        | .ok () q => .ok (false, none) ({ s with frameQueue := q }, conn)
        | .error e q => .ok (false, some (.sorter e)) ({ s with frameQueue := q }, conn)
        | .panic m => .panic m

def handleResetStreamFrameImpl (frame : ResetStreamFrame) :
    Call (ReceiveStream γ × ConnectionFlowController) (Bool × Option HandlerError) := fun (s, conn) =>
  if s.closeForShutdownErr.isSome then .ok (false, none) (s, conn)
  else
    let (err, fc, conn) := s.flowController.updateHighestReceived frame.finalSize true conn
    let s := { s with flowController := fc }
    match err with
    | some err => .ok (false, some (.transport err)) (s, conn)
    | none =>
        let newlyRcvdFinalOffset := s.finalOffset == maxByteCount
        let s := { s with finalOffset := frame.finalSize }
        -- ignore duplicate RESET_STREAM frames for this stream (after checking their final offset)
        if s.resetRemotelyErr.isSome then .ok (false, none) (s, conn)
        else
          .ok (newlyRcvdFinalOffset, none)
            ({ s with resetRemotelyErr := some ⟨s.streamID, frame.errorCode, true⟩ }, conn)

/-- The completion a handler reports abandons the stream's flow controller. -/
def abandonIfCompleted (x : Call (ReceiveStream γ × ConnectionFlowController) (Bool × Option HandlerError)) :
    Call (ReceiveStream γ × ConnectionFlowController) (Bool × Option HandlerError) := fun sc =>
  match x sc with
  | .ok (completed, err) (s, conn) =>
      .ok (completed, err) (s, if completed then s.flowController.abandon conn else conn)
  | r => r

/-- `handleStreamFrame`; the result says whether to call `onStreamCompleted`,
and the error. -/
def handleStreamFrame (frame : StreamFrame) (putBack : γ) :
    Call (ReceiveStream γ × ConnectionFlowController) (Bool × Option HandlerError) :=
  abandonIfCompleted (handleStreamFrameImpl frame putBack)

def handleResetStreamFrame (frame : ResetStreamFrame) :
    Call (ReceiveStream γ × ConnectionFlowController) (Bool × Option HandlerError) :=
  abandonIfCompleted (handleResetStreamFrameImpl frame)

def getWindowUpdate (timing : EpochTiming) (allowConnectionIncrease : Nat → Bool)
    (sc : ReceiveStream γ × ConnectionFlowController) : Nat × ReceiveStream γ × ConnectionFlowController :=
  let (offset, fc, conn) := sc.1.flowController.getWindowUpdate timing allowConnectionIncrease sc.2
  (offset, { sc.1 with flowController := fc }, conn)

/-! ## What each handler can do -/

/-- The transport error code of a handler's error. -/
def HandlerError.code? : HandlerError → Option TransportErrorCode
  | .transport err => some err.errorCode
  | .sorter _ => none

/-- The code of the transport error a call of a handler returns, if any. -/
def transportErrorCode? {σ α : Type} (r : Result σ (α × Option HandlerError)) : Option TransportErrorCode :=
  r.value?.bind fun v => v.2.bind HandlerError.code?

theorem handleStreamFrameImpl_errorCode (frame : StreamFrame) (putBack : γ) (s : ReceiveStream γ)
    (conn : ConnectionFlowController) :
    transportErrorCode? (handleStreamFrameImpl frame putBack (s, conn)) =
      StreamFlowController.expectedError s.flowController conn (frame.offset + frame.dataLen) frame.fin := by
  rw [← StreamFlowController.updateHighestReceived_errorCode]
  unfold handleStreamFrameImpl transportErrorCode?
  dsimp only
  generalize s.flowController.updateHighestReceived (frame.offset + frame.dataLen) frame.fin conn = r
  obtain ⟨err, fc, conn'⟩ := r
  cases err with
  | some err => rfl
  | none =>
      dsimp only
      by_cases cancelled : s.cancelReadErr.isSome = true
      · rw [if_pos cancelled]
        rfl
      · rw [if_neg cancelled]
        split <;> rfl

theorem handleResetStreamFrameImpl_errorCode (frame : ResetStreamFrame) (s : ReceiveStream γ)
    (conn : ConnectionFlowController) (notClosed : s.closeForShutdownErr = none) :
    transportErrorCode? (handleResetStreamFrameImpl frame (s, conn)) =
      StreamFlowController.expectedError s.flowController conn frame.finalSize true := by
  rw [← StreamFlowController.updateHighestReceived_errorCode]
  unfold handleResetStreamFrameImpl transportErrorCode?
  dsimp only
  rw [if_neg (by simp [notClosed])]
  generalize s.flowController.updateHighestReceived frame.finalSize true conn = r
  obtain ⟨err, fc, conn'⟩ := r
  cases err with
  | some err => rfl
  | none =>
      dsimp only
      split_ifs <;> rfl

theorem handleStreamFrameImpl_ok {frame : StreamFrame} {putBack : γ} {s : ReceiveStream γ}
    {conn : ConnectionFlowController} {completed : Bool} {t : ReceiveStream γ × ConnectionFlowController}
    (run : handleStreamFrameImpl frame putBack (s, conn) = .ok (completed, none) t) :
    ∃ fc conn', s.flowController.updateHighestReceived (frame.offset + frame.dataLen) frame.fin conn =
        (none, fc, conn') ∧ t.2 = conn' ∧
      ((s.cancelReadErr.isSome = true ∧ completed = (frame.fin && s.finalOffset == maxByteCount) ∧
          t.1 = { s with flowController := fc,
                         finalOffset := if frame.fin then frame.offset + frame.dataLen else s.finalOffset }) ∨
        (s.cancelReadErr = none ∧ completed = false ∧
          ∃ q, FrameSorter.Push frame.data frame.offset (some putBack) s.frameQueue = .ok () q ∧
            t.1 = { s with flowController := fc, frameQueue := q,
                           finalOffset := if frame.fin then frame.offset + frame.dataLen else s.finalOffset })) := by
  unfold handleStreamFrameImpl at run
  dsimp only at run
  generalize checked : s.flowController.updateHighestReceived (frame.offset + frame.dataLen) frame.fin conn = r
    at run
  obtain ⟨err, fc, conn'⟩ := r
  cases err with
  | some err => cases run
  | none =>
      dsimp only at run
      refine ⟨fc, conn', rfl, ?_⟩
      by_cases cancelled : s.cancelReadErr.isSome = true
      · rw [if_pos cancelled] at run
        cases run
        exact ⟨rfl, .inl ⟨cancelled, rfl, rfl⟩⟩
      · rw [if_neg cancelled] at run
        cases pushed : FrameSorter.Push frame.data frame.offset (some putBack) s.frameQueue with
        | ok u q =>
            rw [pushed] at run
            cases run
            exact ⟨rfl, .inr ⟨by simpa using cancelled, rfl, q, rfl, rfl⟩⟩
        | error e q => rw [pushed] at run; cases run
        | panic m => rw [pushed] at run; cases run

theorem handleResetStreamFrameImpl_ok {frame : ResetStreamFrame} {s : ReceiveStream γ}
    {conn : ConnectionFlowController} {completed : Bool} {t : ReceiveStream γ × ConnectionFlowController}
    (notClosed : s.closeForShutdownErr = none)
    (run : handleResetStreamFrameImpl frame (s, conn) = .ok (completed, none) t) :
    ∃ fc conn', s.flowController.updateHighestReceived frame.finalSize true conn = (none, fc, conn') ∧
      t.2 = conn' ∧
      ((s.resetRemotelyErr.isSome = true ∧ completed = false ∧
          t.1 = { s with flowController := fc, finalOffset := frame.finalSize }) ∨
        (s.resetRemotelyErr = none ∧ completed = (s.finalOffset == maxByteCount) ∧
          t.1 = { s with flowController := fc, finalOffset := frame.finalSize,
                         resetRemotelyErr := some ⟨s.streamID, frame.errorCode, true⟩ })) := by
  unfold handleResetStreamFrameImpl at run
  dsimp only at run
  rw [if_neg (by simp [notClosed])] at run
  generalize checked : s.flowController.updateHighestReceived frame.finalSize true conn = r at run
  obtain ⟨err, fc, conn'⟩ := r
  cases err with
  | some err => cases run
  | none =>
      dsimp only at run
      refine ⟨fc, conn', rfl, ?_⟩
      by_cases reset : s.resetRemotelyErr.isSome = true
      · rw [if_pos reset] at run
        cases run
        exact ⟨rfl, .inl ⟨reset, rfl, rfl⟩⟩
      · rw [if_neg reset] at run
        cases run
        exact ⟨rfl, .inr ⟨by simpa using reset, rfl, rfl⟩⟩

theorem abandonIfCompleted_ok {x : Call (ReceiveStream γ × ConnectionFlowController) (Bool × Option HandlerError)}
    {sc t : ReceiveStream γ × ConnectionFlowController} {completed : Bool} {err : Option HandlerError}
    (run : abandonIfCompleted x sc = .ok (completed, err) t) :
    ∃ t₀, x sc = .ok (completed, err) t₀ ∧
      t = (t₀.1, if completed then t₀.1.flowController.abandon t₀.2 else t₀.2) := by
  unfold abandonIfCompleted at run
  cases result : x sc with
  | ok v t₀ =>
      rw [result] at run
      obtain ⟨completed', err'⟩ := v
      cases run
      exact ⟨t₀, rfl, rfl⟩
  | error e t₀ => rw [result] at run; cases run
  | panic m => rw [result] at run; cases run

theorem transportErrorCode?_abandonIfCompleted
    (x : Call (ReceiveStream γ × ConnectionFlowController) (Bool × Option HandlerError))
    (sc : ReceiveStream γ × ConnectionFlowController) :
    transportErrorCode? (abandonIfCompleted x sc) = transportErrorCode? (x sc) := by
  unfold abandonIfCompleted
  cases x sc <;> rfl

theorem readImpl_ok {p : Nat} {s : ReceiveStream γ} {conn : ConnectionFlowController} {outcome : ReadOutcome}
    {t : ReceiveStream γ × ConnectionFlowController} (run : readImpl p (s, conn) = .ok outcome t) :
    (t = (s, conn) ∧ ∃ err, outcome = .returned false 0 (some err)) ∨
      (s.finRead = false ∧ s.cancelReadErr = none ∧ s.resetRemotelyErr = none ∧
        s.closeForShutdownErr = none ∧ readLoop p 0 (s, conn) = .ok outcome t) := by
  unfold readImpl at run
  dsimp only at run
  by_cases finished : s.finRead = true
  · rw [if_pos finished] at run
    cases run
    exact .inl ⟨rfl, _, rfl⟩
  rw [if_neg finished] at run
  cases cancel : s.cancelReadErr <;> cases reset : s.resetRemotelyErr <;>
    cases shutdown : s.closeForShutdownErr <;> simp only [cancel, reset, shutdown] at run <;>
    first
      | (cases run; exact .inl ⟨rfl, _, rfl⟩)
      | exact .inr ⟨by simpa using finished, rfl, rfl, rfl, run⟩

end ReceiveStream

end QuicFec
