import QuicFec.Stream.SendStream
import QuicFec.Lib.Run

/-! # A send stream and the goroutines around it

The send stream together with those that call it: the application's `Write`,
one at a time as `writeOnce` lets it, and its `Close` and `CancelWrite`; the
framer, popping frames within the budget it pops with; the ack handler,
reporting each frame in flight acknowledged or lost; the peer's
MAX_STREAM_DATA and STOP_SENDING frames; the connection's MAX_DATA frames and
its other streams sending; and the connection shutting the stream down.
`written` is what `Write` took from the application, in order, `inFlight` the
frames popped and neither acknowledged nor lost, and `acked` those
acknowledged.

Along every run (`sendStream_run`) every frame the stream sent carries, at
its offset, the bytes written there, the stream stays within its flow control
window and the connection's, the FIN marks the end of what was written after
`Close`, the sender hears of completion at most once and of a RESET_STREAM
only once, with the final size, and STREAM_DATA_BLOCKED frames announce rising
limits.  A stream reported completed without a RESET_STREAM had every byte
and the FIN acknowledged (`sendStream_completed_acked`), and no enabled step
of a run panics (`sendStream_no_panic`): under the framer's budget
`popStreamFrame` never dereferences the nil frame, and the count of
outstanding frames never drops below zero. -/
set_option autoImplicit false

namespace QuicFec

open Go QuicFec.Protocol QuicFec.Wire QuicFec.Flowcontrol

namespace SendStream

/-- The send stream, the connection's send flow controller, the `Write` call
waiting in its loop with the length of its `p`, and what was written, is in
flight and was acknowledged. -/
structure System where
  stream : SendStream
  connection : SendFlowController
  writer : Option Nat
  written : List UInt8
  inFlight : List StreamFrame
  acked : List StreamFrame
deriving DecidableEq, Repr

/-- What happens to the stream next. -/
inductive Event where
  /-- `Write(p)` starts. -/
  | write (p : List UInt8)
  /-- The waiting `Write` takes the value of `writeChan`. -/
  | writeWake
  /-- The framer pops a frame of at most `maxBytes` bytes. -/
  | pop (maxBytes : Nat)
  | ack (f : StreamFrame)
  | lose (f : StreamFrame)
  | close
  | cancelWrite (errorCode : Nat)
  | stopSending (frame : StopSendingFrame)
  | maxStreamData (limit : Nat)
  /-- A MAX_DATA frame raises the connection's limit. -/
  | maxData (limit : Nat)
  /-- Another stream sends `n` bytes on the connection. -/
  | otherStreamSent (n : Nat)
  | closeForShutdown (err : String)
deriving DecidableEq, Repr

namespace System

/-- A stream just opened, on a connection that has sent nothing. -/
def initial (streamID : Nat) (fecProtected : Bool) (initialSendWindow initialMaxData : Nat) : System where
  stream := newSendStreamWithFEC streamID (SendFlowController.init initialSendWindow) fecProtected
  connection := SendFlowController.init initialMaxData
  writer := none
  written := []
  inFlight := []
  acked := []

/-- A call on the stream alone. -/
def onStream (f : SendStream → SendStream) : Call System Unit := fun sys =>
  .ok () { sys with stream := f sys.stream }

/-- What an event does. -/
def step : Event → Call System Unit
  | .write p => fun sys =>
    let (outcome, s) := sys.stream.write p
    -- `Write` takes `p` once its checks pass
    let written := if sys.stream.writeChecks p = none then sys.written ++ p else sys.written
    .ok () { sys with stream := s, written, writer := if outcome = .blocked then some p.length else none }
  | .writeWake => fun sys =>
    match sys.writer with
    | none => .ok () sys
    | some len =>
      let (outcome, s) := sys.stream.writeWake len
      .ok () { sys with stream := s, writer := if outcome = .blocked then some len else none }
  | .pop maxBytes => fun sys =>
    match popStreamFrame maxBytes (sys.stream, sys.connection) with
    | .ok (f?, _) (s, conn) => .ok () { sys with stream := s, connection := conn, inFlight := sys.inFlight ++ f?.toList }
    | .error e (s, conn) => .error e { sys with stream := s, connection := conn }
    | .panic m => .panic m
  | .ack f => fun sys =>
    match onAcked sys.stream with
    | .ok () s => .ok () { sys with stream := s, inFlight := sys.inFlight.erase f, acked := sys.acked ++ [f] }
    | .error e s => .error e { sys with stream := s }
    | .panic m => .panic m
  | .lose f => fun sys =>
    match onLost f sys.stream with
    | .ok () s => .ok () { sys with stream := s, inFlight := sys.inFlight.erase f }
    | .error e s => .error e { sys with stream := s }
    | .panic m => .panic m
  | .close => onStream fun s => s.close.2
  | .cancelWrite errorCode => onStream (cancelWrite errorCode)
  | .stopSending frame => onStream (handleStopSendingFrame frame)
  | .maxStreamData limit => onStream (updateSendWindow limit)
  | .maxData limit => fun sys => .ok () { sys with connection := (sys.connection.updateSendWindow limit).2 }
  | .otherStreamSent n => fun sys => .ok () { sys with connection := sys.connection.addBytesSent n }
  | .closeForShutdown err => onStream (closeForShutdown err)

/-- When an event can happen: one `Write` runs at a time, a waiting one wakes
on a value of `writeChan`, the framer pops within its budget, the ack handler
reports frames in flight, and the other streams send what the connection's
window allows. -/
def Enabled (sys : System) : Event → Prop
  | .write _ => sys.writer = none
  | .writeWake => sys.writer.isSome ∧ sys.stream.writeChan = true
  | .pop maxBytes => FramerBudget maxBytes
  | .ack f => f ∈ sys.inFlight
  | .lose f => f ∈ sys.inFlight
  | .otherStreamSent n => n ≤ sys.connection.sendWindowSize
  | _ => True

/-- The states a run of enabled steps reaches. -/
abbrev Reaches : System → System → Prop := Go.Reaches step Enabled

end System

/-! ## What the stream sent and told the sender -/

/-- The frames sent that the stream and the ack handler know of: in flight,
waiting for retransmission, or acknowledged. -/
def System.sentFrames (sys : System) : List StreamFrame :=
  sys.inFlight ++ sys.stream.retransmissionQueue ++ sys.acked

/-- `f` carries, at its offset, the bytes written there. -/
def Carries (written : List UInt8) (f : StreamFrame) : Prop := f.data <+: written.drop f.offset

/-- `f` carries the byte at offset `o`. -/
def Covers (f : StreamFrame) (o : Nat) : Prop := f.offset ≤ o ∧ o < f.offset + f.data.length

theorem Carries.take {written : List UInt8} {f : StreamFrame} (carries : Carries written f) (n : Nat) (fin : Bool) :
    Carries written { f with fin, data := f.data.take n } :=
  (List.take_prefix n f.data).trans carries

theorem Carries.drop {written : List UInt8} {f : StreamFrame} (carries : Carries written f) {n : Nat}
    (within : n ≤ f.data.length) : Carries written { f with offset := f.offset + n, data := f.data.drop n } := by
  obtain ⟨tail, whole⟩ := carries
  refine ⟨tail, ?_⟩
  show f.data.drop n ++ tail = written.drop (f.offset + n)
  rw [← List.drop_append_of_le_length within, whole, List.drop_drop, Nat.add_comm]

/-- The streams the sender was told completed, in order. -/
def completedStreams (calls : List SenderCall) : List Nat :=
  calls.filterMap fun
    | .onStreamCompleted streamID => some streamID
    | _ => none

/-- The RESET_STREAM frames queued, in order. -/
def resetFrames (calls : List SenderCall) : List ResetStreamFrame :=
  calls.filterMap fun
    | .queueControlFrame (.resetStream f) => some f
    | _ => none

/-- The STREAM_DATA_BLOCKED frames queued, in order. -/
def blockedFrames (calls : List SenderCall) : List StreamDataBlockedFrame :=
  calls.filterMap fun
    | .queueControlFrame (.streamDataBlocked f) => some f
    | _ => none

@[simp] theorem completedStreams_append (calls calls' : List SenderCall) :
    completedStreams (calls ++ calls') = completedStreams calls ++ completedStreams calls' :=
  List.filterMap_append

@[simp] theorem resetFrames_append (calls calls' : List SenderCall) :
    resetFrames (calls ++ calls') = resetFrames calls ++ resetFrames calls' :=
  List.filterMap_append

@[simp] theorem blockedFrames_append (calls calls' : List SenderCall) :
    blockedFrames (calls ++ calls') = blockedFrames calls ++ blockedFrames calls' :=
  List.filterMap_append

@[simp] theorem completedStreams_nil : completedStreams [] = [] := rfl

@[simp] theorem resetFrames_nil : resetFrames [] = [] := rfl

@[simp] theorem blockedFrames_nil : blockedFrames [] = [] := rfl

@[simp] theorem completedStreams_onHasStreamData (streamID : Nat) :
    completedStreams [.onHasStreamData streamID] = [] := rfl

@[simp] theorem resetFrames_onHasStreamData (streamID : Nat) :
    resetFrames [.onHasStreamData streamID] = [] := rfl

@[simp] theorem blockedFrames_onHasStreamData (streamID : Nat) :
    blockedFrames [.onHasStreamData streamID] = [] := rfl

@[simp] theorem completedStreams_onStreamCompleted (streamID : Nat) :
    completedStreams [.onStreamCompleted streamID] = [streamID] := rfl

@[simp] theorem resetFrames_onStreamCompleted (streamID : Nat) :
    resetFrames [.onStreamCompleted streamID] = [] := rfl

@[simp] theorem blockedFrames_onStreamCompleted (streamID : Nat) :
    blockedFrames [.onStreamCompleted streamID] = [] := rfl

@[simp] theorem completedStreams_streamDataBlocked (f : StreamDataBlockedFrame) :
    completedStreams [.queueControlFrame (.streamDataBlocked f)] = [] := rfl

@[simp] theorem resetFrames_streamDataBlocked (f : StreamDataBlockedFrame) :
    resetFrames [.queueControlFrame (.streamDataBlocked f)] = [] := rfl

@[simp] theorem blockedFrames_streamDataBlocked (f : StreamDataBlockedFrame) :
    blockedFrames [.queueControlFrame (.streamDataBlocked f)] = [f] := rfl

/-- What holds of every state a run reaches: the bytes and frames, flow
control, the ack handler's count, completion, and the calls on the sender. -/
structure Inv (sys : System) : Prop where
  unsentWritten : sys.written.drop sys.stream.writeOffset = sys.stream.unsent
  offsetWritten : sys.stream.writeOffset ≤ sys.written.length
  buffered : BufferedAt sys.stream.streamID sys.stream.writeOffset sys.stream.nextFrame
  framesCarry : ∀ f ∈ sys.sentFrames,
    f.streamID = sys.stream.streamID ∧ Carries sys.written f ∧ f.offset + f.data.length ≤ sys.stream.writeOffset
  finAtEnd : ∀ f ∈ sys.sentFrames, f.fin = true →
    sys.stream.finSent = true ∧ f.offset + f.data.length = sys.stream.writeOffset
  nonempty : ∀ f ∈ sys.sentFrames, f.data ≠ [] ∨ f.fin = true
  sentCounted : sys.stream.flowController.bytesSent = sys.stream.writeOffset
  streamWithin : sys.stream.flowController.Within
  connWithin : sys.connection.Within
  outstanding : sys.stream.cancelWriteErr = none → sys.stream.numOutstandingFrames = sys.inFlight.length
  cancelled : sys.stream.cancelWriteErr ≠ none →
    sys.stream.numOutstandingFrames = 0 ∧ sys.stream.retransmissionQueue = []
  finished : sys.stream.finSent = true → sys.stream.finishedWriting = true ∧ sys.stream.unsent = []
  finCovered : sys.stream.finSent = true → sys.stream.cancelWriteErr = none → ∃ f ∈ sys.sentFrames, f.fin = true
  covered : sys.stream.cancelWriteErr = none → ∀ o < sys.stream.writeOffset, ∃ f ∈ sys.sentFrames, Covers f o
  completedDone : sys.stream.completed = true → sys.stream.doneSending = true
  idle : sys.writer = none → sys.stream.cancelWriteErr = none → sys.stream.closeForShutdownErr = none →
    sys.stream.dataForWriting = []
  completions : completedStreams sys.stream.sender = if sys.stream.completed then [sys.stream.streamID] else []
  resets : resetFrames sys.stream.sender =
    (sys.stream.cancelWriteErr.map fun e => ⟨sys.stream.streamID, e.errorCode, sys.stream.writeOffset⟩).toList
  blockedIncreasing : ((blockedFrames sys.stream.sender).map (·.maximumStreamData)).Pairwise (· < ·)
  blockedAt : ∀ f ∈ blockedFrames sys.stream.sender,
    f.streamID = sys.stream.streamID ∧ f.maximumStreamData ≤ sys.stream.flowController.lastBlockedAt
  lastBlockedSent : sys.stream.flowController.lastBlockedAt ≤ sys.stream.writeOffset

theorem inv_initial (streamID : Nat) (fecProtected : Bool) (initialSendWindow initialMaxData : Nat) :
    Inv (System.initial streamID fecProtected initialSendWindow initialMaxData) where
  unsentWritten := rfl
  offsetWritten := Nat.le_refl 0
  buffered := trivial
  framesCarry := by simp [System.sentFrames, System.initial, newSendStreamWithFEC]
  finAtEnd := by simp [System.sentFrames, System.initial, newSendStreamWithFEC]
  nonempty := by simp [System.sentFrames, System.initial, newSendStreamWithFEC]
  sentCounted := rfl
  streamWithin := SendFlowController.within_init initialSendWindow
  connWithin := SendFlowController.within_init initialMaxData
  outstanding := fun _ => rfl
  cancelled := fun live => absurd rfl live
  finished := fun sent => absurd sent Bool.false_ne_true
  finCovered := fun sent => absurd sent Bool.false_ne_true
  covered := fun _ o below => absurd below (Nat.not_lt_zero o)
  completedDone := fun completed => absurd completed Bool.false_ne_true
  idle := fun _ _ _ => rfl
  completions := rfl
  resets := rfl
  blockedIncreasing := List.Pairwise.nil
  blockedAt := fun _ member => absurd member List.not_mem_nil
  lastBlockedSent := Nat.le_refl 0

/-! ## What each step keeps -/

section Steps

variable {sys : System}

theorem Inv.maxData (inv : Inv sys) (limit : Nat) :
    Inv { sys with connection := (sys.connection.updateSendWindow limit).2 } :=
  { inv with connWithin := inv.connWithin.updateSendWindow limit }

theorem Inv.otherStreamSent (inv : Inv sys) {n : Nat} (allowed : n ≤ sys.connection.sendWindowSize) :
    Inv { sys with connection := sys.connection.addBytesSent n } :=
  { inv with connWithin := inv.connWithin.addBytesSent allowed }

theorem Inv.notify (inv : Inv sys) :
    Inv { sys with stream := sys.stream.call (.onHasStreamData sys.stream.streamID) } :=
  { inv with
    completions := by
      show completedStreams (sys.stream.sender ++ [.onHasStreamData sys.stream.streamID]) = _
      rw [completedStreams_append, completedStreams_onHasStreamData, List.append_nil]
      exact inv.completions
    resets := by
      show resetFrames (sys.stream.sender ++ [.onHasStreamData sys.stream.streamID]) = _
      rw [resetFrames_append, resetFrames_onHasStreamData, List.append_nil]
      exact inv.resets
    blockedIncreasing := by
      show ((blockedFrames (sys.stream.sender ++ [.onHasStreamData sys.stream.streamID])).map _).Pairwise _
      rw [blockedFrames_append, blockedFrames_onHasStreamData, List.append_nil]
      exact inv.blockedIncreasing
    blockedAt := by
      show ∀ f ∈ blockedFrames (sys.stream.sender ++ [.onHasStreamData sys.stream.streamID]), _
      rw [blockedFrames_append, blockedFrames_onHasStreamData, List.append_nil]
      exact inv.blockedAt }

theorem Inv.close (inv : Inv sys) : Inv { sys with stream := sys.stream.close.2 } := by
  unfold SendStream.close
  split_ifs
  · exact inv
  · exact inv
  · -- the FIN is still to be sent
    have closed : Inv { sys with stream := { sys.stream with finishedWriting := true } } :=
      { inv with finished := fun sent => ⟨rfl, (inv.finished sent).2⟩ }
    exact closed.notify

theorem Inv.closeForShutdown (inv : Inv sys) (err : String) :
    Inv { sys with stream := sys.stream.closeForShutdown err } :=
  { inv with idle := fun _ _ shutdown => absurd shutdown (by simp [SendStream.closeForShutdown, signalWrite]) }

theorem Inv.updateSendWindow (inv : Inv sys) (limit : Nat) :
    Inv { sys with stream := sys.stream.updateSendWindow limit } := by
  obtain ⟨raisedEq, -⟩ := SendFlowController.updateSendWindow_spec limit sys.stream.flowController
  have raised : Inv { sys with stream :=
      { sys.stream with flowController := (sys.stream.flowController.updateSendWindow limit).2 } } :=
    { inv with
      sentCounted := by simpa [raisedEq] using inv.sentCounted
      streamWithin := inv.streamWithin.updateSendWindow limit
      blockedAt := by simpa [raisedEq] using inv.blockedAt
      lastBlockedSent := by simpa [raisedEq] using inv.lastBlockedSent }
  unfold SendStream.updateSendWindow
  cases updated : sys.stream.flowController.updateSendWindow limit with
  | mk updated fc =>
    rw [updated] at raised
    dsimp only
    split_ifs
    · exact raised
    · exact raised.notify
    · exact raised

theorem cancelWriteImpl_of_live {s : SendStream} (live : s.cancelWriteErr = none) (errorCode : Nat) (remote : Bool) :
    s.cancelWriteImpl errorCode remote =
      { s with cancelWriteErr := some ⟨s.streamID, errorCode, remote⟩, numOutstandingFrames := 0,
               retransmissionQueue := [], completed := true, writeChan := true,
               sender := s.sender ++ [.queueControlFrame (.resetStream ⟨s.streamID, errorCode, s.writeOffset⟩)] ++
                 (if s.completed then [] else [.onStreamCompleted s.streamID]) } := by
  unfold cancelWriteImpl
  rw [if_neg (by simp [live])]
  dsimp only
  rw [isNewlyCompleted_eq]
  cases s.completed <;> simp [doneSending, call, signalWrite]

theorem Inv.cancelWriteImpl (inv : Inv sys) (errorCode : Nat) (remote : Bool) :
    Inv { sys with stream := sys.stream.cancelWriteImpl errorCode remote } := by
  cases live : sys.stream.cancelWriteErr with
  | some e =>
    have same : sys.stream.cancelWriteImpl errorCode remote = sys.stream := by
      simp [SendStream.cancelWriteImpl, live]
    rw [same]
    exact inv
  | none =>
    rw [cancelWriteImpl_of_live live]
    have kept : ∀ f ∈ sys.inFlight ++ [] ++ sys.acked, f ∈ sys.sentFrames := by
      intro f member
      simp only [List.append_nil, List.mem_append] at member
      simp only [System.sentFrames, List.mem_append]
      tauto
    have resetNow : (some (⟨sys.stream.streamID, errorCode, remote⟩ : StreamError)) ≠ none := by simp
    exact {
      unsentWritten := inv.unsentWritten
      offsetWritten := inv.offsetWritten
      buffered := inv.buffered
      framesCarry := fun f member => inv.framesCarry f (kept f member)
      finAtEnd := fun f member => inv.finAtEnd f (kept f member)
      nonempty := fun f member => inv.nonempty f (kept f member)
      sentCounted := inv.sentCounted
      streamWithin := inv.streamWithin
      connWithin := inv.connWithin
      outstanding := fun cancelled => absurd cancelled resetNow
      cancelled := fun _ => ⟨rfl, rfl⟩
      finished := inv.finished
      finCovered := fun _ cancelled => absurd cancelled resetNow
      covered := fun cancelled => absurd cancelled resetNow
      completedDone := fun _ => by simp [doneSending]
      idle := fun _ cancelled => absurd cancelled resetNow
      completions := by
        show completedStreams (sys.stream.sender ++ _ ++ _) = _
        rw [completedStreams_append, completedStreams_append, inv.completions]
        cases sys.stream.completed <;> rfl
      resets := by
        show resetFrames (sys.stream.sender ++ _ ++ _) = _
        rw [resetFrames_append, resetFrames_append, inv.resets, live]
        cases sys.stream.completed <;> rfl
      blockedIncreasing := by
        show ((blockedFrames (sys.stream.sender ++ _ ++ _)).map _).Pairwise _
        rw [blockedFrames_append, blockedFrames_append]
        cases sys.stream.completed <;> simpa [blockedFrames] using inv.blockedIncreasing
      blockedAt := by
        show ∀ f ∈ blockedFrames (sys.stream.sender ++ _ ++ _), _
        rw [blockedFrames_append, blockedFrames_append]
        cases sys.stream.completed <;> simpa [blockedFrames] using inv.blockedAt
      lastBlockedSent := inv.lastBlockedSent }

theorem onAcked_of_live {s : SendStream} (live : s.cancelWriteErr = none) (outstanding : 0 < s.numOutstandingFrames) :
    onAcked s = .ok ()
      { s with numOutstandingFrames := s.numOutstandingFrames - 1,
               completed := s.completed || { s with numOutstandingFrames := s.numOutstandingFrames - 1 }.doneSending,
               sender := s.sender ++
                 (if { s with numOutstandingFrames := s.numOutstandingFrames - 1 }.doneSending && !s.completed then
                   [.onStreamCompleted s.streamID] else []) } := by
  unfold onAcked
  rw [if_neg (by simp [live])]
  dsimp only
  rw [if_neg (by omega), isNewlyCompleted_eq]
  dsimp only
  split_ifs <;> simp [call]

theorem onLost_of_live {s : SendStream} (live : s.cancelWriteErr = none) (outstanding : 0 < s.numOutstandingFrames)
    (f : StreamFrame) :
    onLost f s = .ok ()
      (({ s with retransmissionQueue := s.retransmissionQueue ++ [{ f with dataLenPresent := true }],
                 numOutstandingFrames := s.numOutstandingFrames - 1 }).call (.onHasStreamData s.streamID)) := by
  unfold onLost
  rw [if_neg (by simp [live])]
  dsimp only
  rw [if_neg (by omega)]

theorem mem_sentFrames_ack {f : StreamFrame} (member : f ∈ sys.inFlight) (s : SendStream)
    (sameQueue : s.retransmissionQueue = sys.stream.retransmissionQueue) (g : StreamFrame) :
    g ∈ System.sentFrames { sys with stream := s, inFlight := sys.inFlight.erase f, acked := sys.acked ++ [f] } ↔
      g ∈ sys.sentFrames := by
  simp only [System.sentFrames, sameQueue, List.mem_append, List.mem_singleton]
  by_cases same : g = f
  · subst same
    simp [member]
  · rw [List.mem_erase_of_ne same]
    tauto

theorem Inv.ack (inv : Inv sys) {f : StreamFrame} (member : f ∈ sys.inFlight) :
    ∃ s', onAcked sys.stream = .ok () s' ∧
      Inv { sys with stream := s', inFlight := sys.inFlight.erase f, acked := sys.acked ++ [f] } := by
  cases live : sys.stream.cancelWriteErr with
  | some e =>
    refine ⟨sys.stream, by simp [onAcked, live], ?_⟩
    have kept := mem_sentFrames_ack member sys.stream rfl
    have canceled : sys.stream.cancelWriteErr ≠ none := by simp [live]
    exact { inv with
      framesCarry := fun g inSent => inv.framesCarry g ((kept g).mp inSent)
      finAtEnd := fun g inSent => inv.finAtEnd g ((kept g).mp inSent)
      nonempty := fun g inSent => inv.nonempty g ((kept g).mp inSent)
      outstanding := fun live' => absurd live' canceled
      finCovered := fun _ live' => absurd live' canceled
      covered := fun live' => absurd live' canceled }
  | none =>
    have counted := inv.outstanding live
    have positive : 0 < sys.stream.numOutstandingFrames := by
      rw [counted]
      exact_mod_cast List.length_pos_of_mem member
    have notCompleted : sys.stream.completed = false := by
      by_contra completed
      have done := inv.completedDone (by simpa using completed)
      simp only [doneSending, Bool.and_eq_true, beq_iff_eq] at done
      omega
    refine ⟨_, onAcked_of_live live positive, ?_⟩
    have kept := mem_sentFrames_ack member
      { sys.stream with numOutstandingFrames := sys.stream.numOutstandingFrames - 1 } rfl
    have fewer := List.length_erase_of_mem member
    exact {
      unsentWritten := inv.unsentWritten
      offsetWritten := inv.offsetWritten
      buffered := inv.buffered
      framesCarry := fun g inSent => inv.framesCarry g ((kept g).mp inSent)
      finAtEnd := fun g inSent => inv.finAtEnd g ((kept g).mp inSent)
      nonempty := fun g inSent => inv.nonempty g ((kept g).mp inSent)
      sentCounted := inv.sentCounted
      streamWithin := inv.streamWithin
      connWithin := inv.connWithin
      outstanding := fun _ => by
        show sys.stream.numOutstandingFrames - 1 = ((sys.inFlight.erase f).length : Int)
        omega
      cancelled := fun canceled => absurd live canceled
      finished := inv.finished
      finCovered := fun sent _ => by
        obtain ⟨g, inSent, fin⟩ := inv.finCovered sent live
        exact ⟨g, (kept g).mpr inSent, fin⟩
      covered := fun _ o below => by
        obtain ⟨g, inSent, covers⟩ := inv.covered live o below
        exact ⟨g, (kept g).mpr inSent, covers⟩
      completedDone := fun completed => by
        rw [notCompleted, Bool.false_or] at completed
        exact completed
      idle := inv.idle
      completions := by
        show completedStreams (sys.stream.sender ++ _) = _
        rw [completedStreams_append, inv.completions]
        simp only [doneSending, notCompleted, Bool.not_false, Bool.and_true, Bool.false_or, Bool.false_eq_true,
          ↓reduceIte, List.nil_append]
        split_ifs <;> rfl
      resets := by
        show resetFrames (sys.stream.sender ++ _) = _
        rw [resetFrames_append, inv.resets]
        split_ifs <;> simp
      blockedIncreasing := by
        show ((blockedFrames (sys.stream.sender ++ _)).map _).Pairwise _
        rw [blockedFrames_append]
        split_ifs <;> simpa using inv.blockedIncreasing
      blockedAt := by
        show ∀ g ∈ blockedFrames (sys.stream.sender ++ _), _
        rw [blockedFrames_append]
        split_ifs <;> simpa using inv.blockedAt
      lastBlockedSent := inv.lastBlockedSent }

theorem mem_sentFrames_lose {f : StreamFrame} (member : f ∈ sys.inFlight) (s : SendStream)
    (queued : s.retransmissionQueue = sys.stream.retransmissionQueue ++ [{ f with dataLenPresent := true }])
    (g : StreamFrame) :
    (g ∈ System.sentFrames { sys with stream := s, inFlight := sys.inFlight.erase f } →
        g ∈ sys.sentFrames ∨ g = { f with dataLenPresent := true }) ∧
      (g ∈ sys.sentFrames → g ∈ System.sentFrames { sys with stream := s, inFlight := sys.inFlight.erase f } ∨ g = f) := by
  simp only [System.sentFrames, queued, List.mem_append, List.mem_singleton]
  by_cases same : g = f
  · exact ⟨fun _ => .inl (.inl (.inl (same ▸ member))), fun _ => .inr same⟩
  · rw [List.mem_erase_of_ne same]
    tauto

theorem Inv.lose (inv : Inv sys) {f : StreamFrame} (member : f ∈ sys.inFlight) :
    ∃ s', onLost f sys.stream = .ok () s' ∧ Inv { sys with stream := s', inFlight := sys.inFlight.erase f } := by
  cases live : sys.stream.cancelWriteErr with
  | some e =>
    refine ⟨sys.stream, by simp [onLost, live], ?_⟩
    have kept : ∀ g ∈ System.sentFrames { sys with inFlight := sys.inFlight.erase f }, g ∈ sys.sentFrames := by
      intro g inSent
      simp only [System.sentFrames, List.mem_append] at inSent ⊢
      rcases inSent with (inFlight | queued) | acked
      · exact .inl (.inl (List.mem_of_mem_erase inFlight))
      · exact .inl (.inr queued)
      · exact .inr acked
    have canceled : sys.stream.cancelWriteErr ≠ none := by simp [live]
    exact { inv with
      framesCarry := fun g inSent => inv.framesCarry g (kept g inSent)
      finAtEnd := fun g inSent => inv.finAtEnd g (kept g inSent)
      nonempty := fun g inSent => inv.nonempty g (kept g inSent)
      outstanding := fun live' => absurd live' canceled
      finCovered := fun _ live' => absurd live' canceled
      covered := fun live' => absurd live' canceled }
  | none =>
    have counted := inv.outstanding live
    have positive : 0 < sys.stream.numOutstandingFrames := by
      rw [counted]
      exact_mod_cast List.length_pos_of_mem member
    refine ⟨_, onLost_of_live live positive f, ?_⟩
    have moved := mem_sentFrames_lose member
      { sys.stream with retransmissionQueue := sys.stream.retransmissionQueue ++ [{ f with dataLenPresent := true }],
                        numOutstandingFrames := sys.stream.numOutstandingFrames - 1 } rfl
    have fewer := List.length_erase_of_mem member
    have queued : Inv { sys with
        stream := { sys.stream with
          retransmissionQueue := sys.stream.retransmissionQueue ++ [{ f with dataLenPresent := true }],
          numOutstandingFrames := sys.stream.numOutstandingFrames - 1 },
        inFlight := sys.inFlight.erase f } := {
      unsentWritten := inv.unsentWritten
      offsetWritten := inv.offsetWritten
      buffered := inv.buffered
      framesCarry := fun g inSent => by
        rcases (moved g).1 inSent with old | rfl
        · exact inv.framesCarry g old
        · exact inv.framesCarry f (List.mem_append_left _ (List.mem_append_left _ member))
      finAtEnd := fun g inSent => by
        rcases (moved g).1 inSent with old | rfl
        · exact inv.finAtEnd g old
        · exact inv.finAtEnd f (List.mem_append_left _ (List.mem_append_left _ member))
      nonempty := fun g inSent => by
        rcases (moved g).1 inSent with old | rfl
        · exact inv.nonempty g old
        · exact inv.nonempty f (List.mem_append_left _ (List.mem_append_left _ member))
      sentCounted := inv.sentCounted
      streamWithin := inv.streamWithin
      connWithin := inv.connWithin
      outstanding := fun _ => by
        show sys.stream.numOutstandingFrames - 1 = ((sys.inFlight.erase f).length : Int)
        omega
      cancelled := fun canceled => absurd live canceled
      finished := inv.finished
      finCovered := fun sent _ => by
        obtain ⟨g, inSent, fin⟩ := inv.finCovered sent live
        rcases (moved g).2 inSent with kept | rfl
        · exact ⟨g, kept, fin⟩
        · exact ⟨{ g with dataLenPresent := true }, by simp [System.sentFrames], fin⟩
      covered := fun _ o below => by
        obtain ⟨g, inSent, covers⟩ := inv.covered live o below
        rcases (moved g).2 inSent with kept | rfl
        · exact ⟨g, kept, covers⟩
        · exact ⟨{ g with dataLenPresent := true }, by simp [System.sentFrames], covers⟩
      completedDone := fun completed => by
        have done := inv.completedDone completed
        simp only [doneSending, Bool.and_eq_true, beq_iff_eq] at done
        omega
      idle := inv.idle
      completions := inv.completions
      resets := inv.resets
      blockedIncreasing := inv.blockedIncreasing
      blockedAt := inv.blockedAt
      lastBlockedSent := inv.lastBlockedSent }
    exact queued.notify

theorem log_of_notify {calls : List SenderCall} {streamID : Nat}
    (notify : calls = [] ∨ calls = [.onHasStreamData streamID]) :
    completedStreams calls = [] ∧ resetFrames calls = [] ∧ blockedFrames calls = [] := by
  rcases notify with rfl | rfl <;> exact ⟨rfl, rfl, rfl⟩

theorem Inv.writeTurn (inv : Inv sys) (len : Nat) (notifiedSender : Bool) :
    Inv { sys with stream := (sys.stream.writeLoop len notifiedSender).2,
                   writer := if (sys.stream.writeLoop len notifiedSender).1 = .blocked then some len else none } := by
  obtain ⟨nextFrame, dataForWriting, calls, turned, notify, same, buffered, done, -⟩ :=
    writeLoop_spec len notifiedSender inv.buffered
  obtain ⟨noCompletion, noReset, noBlocked⟩ := log_of_notify notify
  rw [turned]
  exact {
    unsentWritten := by rw [inv.unsentWritten, ← same]; rfl
    offsetWritten := inv.offsetWritten
    buffered := buffered
    framesCarry := inv.framesCarry
    finAtEnd := inv.finAtEnd
    nonempty := inv.nonempty
    sentCounted := inv.sentCounted
    streamWithin := inv.streamWithin
    connWithin := inv.connWithin
    outstanding := inv.outstanding
    cancelled := inv.cancelled
    finished := fun sent => ⟨(inv.finished sent).1, by rw [← (inv.finished sent).2, ← same]; rfl⟩
    finCovered := inv.finCovered
    covered := inv.covered
    completedDone := inv.completedDone
    idle := fun returned live running => by
      rw [← turned] at returned
      rcases done (by simpa using returned) with empty | stopped | stopped
      · exact empty
      · exact absurd (show sys.stream.cancelWriteErr = none from live) (Option.isSome_iff_ne_none.mp stopped)
      · exact absurd (show sys.stream.closeForShutdownErr = none from running) (Option.isSome_iff_ne_none.mp stopped)
    completions := by
      show completedStreams (sys.stream.sender ++ calls) = _
      rw [completedStreams_append, noCompletion, List.append_nil]
      exact inv.completions
    resets := by
      show resetFrames (sys.stream.sender ++ calls) = _
      rw [resetFrames_append, noReset, List.append_nil]
      exact inv.resets
    blockedIncreasing := by
      show ((blockedFrames (sys.stream.sender ++ calls)).map _).Pairwise _
      rw [blockedFrames_append, noBlocked, List.append_nil]
      exact inv.blockedIncreasing
    blockedAt := by
      show ∀ f ∈ blockedFrames (sys.stream.sender ++ calls), _
      rw [blockedFrames_append, noBlocked, List.append_nil]
      exact inv.blockedAt
    lastBlockedSent := inv.lastBlockedSent }

theorem Inv.take (inv : Inv sys) (noWriter : sys.writer = none) {p : List UInt8}
    (checks : sys.stream.writeChecks p = none) :
    Inv { sys with stream := { sys.stream with dataForWriting := p }, written := sys.written ++ p,
                   writer := some p.length } := by
  obtain ⟨open_, live, running, -⟩ := writeChecks_eq_none.mp checks
  have empty := inv.idle noWriter live running
  have extends_ : ∀ g ∈ sys.sentFrames, Carries (sys.written ++ p) g := by
    intro g inSent
    obtain ⟨-, carries, below⟩ := inv.framesCarry g inSent
    have within : g.offset ≤ sys.written.length := by have := inv.offsetWritten; omega
    unfold Carries at carries ⊢
    rw [List.drop_append_of_le_length within]
    exact carries.trans (List.prefix_append _ _)
  exact { inv with
    unsentWritten := by
      show (sys.written ++ p).drop sys.stream.writeOffset = bufferedData sys.stream.nextFrame ++ p
      rw [List.drop_append_of_le_length inv.offsetWritten, inv.unsentWritten, unsent, empty, List.append_nil]
    offsetWritten := Nat.le_trans inv.offsetWritten (by simp)
    framesCarry := fun g inSent => ⟨(inv.framesCarry g inSent).1, extends_ g inSent, (inv.framesCarry g inSent).2.2⟩
    finished := fun sent => by
      rw [(inv.finished sent).1] at open_
      exact absurd open_ (by simp)
    idle := fun writing => absurd writing (by simp) }

/-! ### Popping a frame -/

/-- The system after the framer popped `f?`, the stream and the connection's
flow controller left as `s` and `conn`: a frame popped is counted out, goes in
flight and carries the stream's FEC flag. -/
def System.popped (sys : System) (f? : Option StreamFrame) (s : SendStream) (conn : SendFlowController) : System :=
  match f? with
  | some f => { sys with stream := { s with numOutstandingFrames := s.numOutstandingFrames + 1 }, connection := conn,
                         inFlight := sys.inFlight ++ [{ f with fecProtected := s.fecProtected }] }
  | none => { sys with stream := s, connection := conn }

theorem step_pop {maxBytes : Nat} {f? : Option StreamFrame} {hasMore : Bool} {s : SendStream}
    {conn : SendFlowController}
    (run : popNewOrRetransmittedStreamFrame maxBytes (sys.stream, sys.connection) = .ok (f?, hasMore) (s, conn)) :
    System.step (.pop maxBytes) sys = .ok () (sys.popped f? s conn) := by
  cases f? <;> simp [System.step, popStreamFrame, run, System.popped]

theorem Inv.popBlocked (inv : Inv sys)
    (sentAll : sys.stream.flowController.bytesSent = sys.stream.flowController.sendWindow)
    (newLimit : sys.stream.flowController.lastBlockedAt < sys.stream.flowController.sendWindow) :
    Inv (sys.popped none
      (({ sys.stream with flowController :=
          { sys.stream.flowController with lastBlockedAt := sys.stream.flowController.sendWindow } }).call
        (.queueControlFrame (.streamDataBlocked ⟨sys.stream.streamID, sys.stream.flowController.sendWindow⟩)))
      sys.connection) := by
  have blockedAt := inv.blockedAt
  have sent := inv.sentCounted
  exact { inv with
    streamWithin := ⟨inv.streamWithin.sentWithin, le_rfl⟩
    completions := by
      show completedStreams (sys.stream.sender ++ _) = _
      rw [completedStreams_append, completedStreams_streamDataBlocked, List.append_nil]
      exact inv.completions
    resets := by
      show resetFrames (sys.stream.sender ++ _) = _
      rw [resetFrames_append, resetFrames_streamDataBlocked, List.append_nil]
      exact inv.resets
    blockedIncreasing := by
      show ((blockedFrames (sys.stream.sender ++ _)).map _).Pairwise _
      rw [blockedFrames_append, blockedFrames_streamDataBlocked, List.map_append, List.pairwise_append]
      refine ⟨inv.blockedIncreasing, List.pairwise_singleton _ _, ?_⟩
      intro a before b now
      obtain ⟨g, member, rfl⟩ := List.mem_map.mp before
      rw [List.map_singleton, List.mem_singleton] at now
      rw [now]
      exact Nat.lt_of_le_of_lt (blockedAt g member).2 newLimit
    blockedAt := by
      show ∀ g ∈ blockedFrames (sys.stream.sender ++ _), _
      rw [blockedFrames_append, blockedFrames_streamDataBlocked]
      intro g member
      rcases List.mem_append.mp member with old | now
      · exact ⟨(blockedAt g old).1, Nat.le_trans (blockedAt g old).2 (Nat.le_of_lt newLimit)⟩
      · rw [List.mem_singleton.mp now]
        exact ⟨rfl, le_rfl⟩
    lastBlockedSent := by
      show sys.stream.flowController.sendWindow ≤ sys.stream.writeOffset
      omega }

theorem mem_sentFrames_popped {g h : StreamFrame} {s : SendStream} {conn : SendFlowController} :
    h ∈ (sys.popped (some g) s conn).sentFrames ↔
      h ∈ sys.inFlight ∨ h = { g with fecProtected := s.fecProtected } ∨ h ∈ s.retransmissionQueue ∨ h ∈ sys.acked := by
  simp only [System.popped, System.sentFrames, List.mem_append, List.mem_singleton, or_assoc]

theorem Inv.popSplit (inv : Inv sys) {maxBytes : Nat} (f : StreamFrame) (rest : List StreamFrame)
    (live : sys.stream.cancelWriteErr = none) (queued : sys.stream.retransmissionQueue = f :: rest)
    (pos : 0 < f.maxDataLen maxBytes) (shorter : f.maxDataLen maxBytes < f.data.length) :
    Inv (sys.popped (some { f with fin := false, fecProtected := false, data := f.data.take (f.maxDataLen maxBytes) })
      { sys.stream with retransmissionQueue :=
        { f with offset := f.offset + f.maxDataLen maxBytes, data := f.data.drop (f.maxDataLen maxBytes) } :: rest }
      sys.connection) := by
  generalize f.maxDataLen maxBytes = n at pos shorter ⊢
  have lost : f ∈ sys.sentFrames := by simp [System.sentFrames, queued]
  have old : ∀ h ∈ rest, h ∈ sys.sentFrames := fun h member => by simp [System.sentFrames, queued, member]
  have taken : (f.data.take n).length = n := List.length_take_of_le (Nat.le_of_lt shorter)
  have left : (f.data.drop n).length = f.data.length - n := List.length_drop
  obtain ⟨sameStream, carries, below⟩ := inv.framesCarry f lost
  have now : ∀ h ∈ (sys.popped (some { f with fin := false, fecProtected := false, data := f.data.take n })
      { sys.stream with retransmissionQueue := { f with offset := f.offset + n, data := f.data.drop n } :: rest }
      sys.connection).sentFrames,
      h ∈ sys.sentFrames ∨ h = { f with fin := false, data := f.data.take n, fecProtected := sys.stream.fecProtected } ∨
        h = { f with offset := f.offset + n, data := f.data.drop n } := by
    intro h member
    rcases mem_sentFrames_popped.mp member with inFlight | first | queue | acked
    · exact .inl (by simp [System.sentFrames, inFlight])
    · exact .inr (.inl first)
    · rcases List.mem_cons.mp queue with second | later
      · exact .inr (.inr second)
      · exact .inl (old h later)
    · exact .inl (by simp [System.sentFrames, acked])
  have kept : ∀ h ∈ sys.sentFrames, h ≠ f → h ∈ (sys.popped (some { f with fin := false, fecProtected := false, data := f.data.take n })
      { sys.stream with retransmissionQueue := { f with offset := f.offset + n, data := f.data.drop n } :: rest }
      sys.connection).sentFrames := by
    intro h member other
    simp only [System.sentFrames, queued, List.mem_append, List.mem_cons] at member
    apply mem_sentFrames_popped.mpr
    rcases member with (inFlight | first | later) | acked
    · exact .inl inFlight
    · exact absurd first other
    · exact .inr (.inr (.inl (List.mem_cons_of_mem _ later)))
    · exact .inr (.inr (.inr acked))
  have firstPart : { f with fin := false, data := f.data.take n, fecProtected := sys.stream.fecProtected } ∈
      (sys.popped (some { f with fin := false, fecProtected := false, data := f.data.take n })
        { sys.stream with retransmissionQueue := { f with offset := f.offset + n, data := f.data.drop n } :: rest }
        sys.connection).sentFrames := mem_sentFrames_popped.mpr (.inr (.inl rfl))
  have secondPart : { f with offset := f.offset + n, data := f.data.drop n } ∈
      (sys.popped (some { f with fin := false, fecProtected := false, data := f.data.take n })
        { sys.stream with retransmissionQueue := { f with offset := f.offset + n, data := f.data.drop n } :: rest }
        sys.connection).sentFrames := mem_sentFrames_popped.mpr (.inr (.inr (.inl (List.mem_cons_self ..))))
  exact {
    unsentWritten := inv.unsentWritten
    offsetWritten := inv.offsetWritten
    buffered := inv.buffered
    framesCarry := fun h member => by
      rcases now h member with before | rfl | rfl
      · exact inv.framesCarry h before
      · exact ⟨sameStream, carries.take n false, by simp only [System.popped]; omega⟩
      · exact ⟨sameStream, carries.drop (Nat.le_of_lt shorter), by simp only [System.popped]; omega⟩
    finAtEnd := fun h member fin => by
      rcases now h member with before | rfl | rfl
      · exact inv.finAtEnd h before fin
      · exact absurd fin Bool.false_ne_true
      · obtain ⟨sent, atEnd⟩ := inv.finAtEnd f lost fin
        exact ⟨sent, by simp only [System.popped]; omega⟩
    nonempty := fun h member => by
      rcases now h member with before | rfl | rfl
      · exact inv.nonempty h before
      · exact .inl (List.ne_nil_of_length_pos (by dsimp only; omega))
      · exact .inl (List.ne_nil_of_length_pos (by dsimp only; omega))
    sentCounted := inv.sentCounted
    streamWithin := inv.streamWithin
    connWithin := inv.connWithin
    outstanding := fun _ => by
      show sys.stream.numOutstandingFrames + 1 = ((sys.inFlight ++ [_]).length : Int)
      rw [inv.outstanding live, List.length_append, List.length_singleton]
      push_cast
      rfl
    cancelled := fun canceled => absurd live canceled
    finished := inv.finished
    finCovered := fun sent _ => by
      obtain ⟨h, member, fin⟩ := inv.finCovered sent live
      by_cases same : h = f
      · subst same
        exact ⟨_, secondPart, fin⟩
      · exact ⟨h, kept h member same, fin⟩
    covered := fun _ o below => by
      obtain ⟨h, member, covers⟩ := inv.covered live o below
      by_cases same : h = f
      · subst same
        by_cases inFirst : o < h.offset + n
        · exact ⟨_, firstPart, covers.1, by dsimp only; omega⟩
        · exact ⟨_, secondPart, by dsimp only; omega, by dsimp only; have := covers.2; omega⟩
      · exact ⟨h, kept h member same, covers⟩
    completedDone := fun completed => by
      have done := inv.completedDone completed
      simp [doneSending, queued] at done
    idle := inv.idle
    completions := inv.completions
    resets := inv.resets
    blockedIncreasing := inv.blockedIncreasing
    blockedAt := inv.blockedAt
    lastBlockedSent := inv.lastBlockedSent }

theorem Inv.popWhole (inv : Inv sys) (f : StreamFrame) (rest : List StreamFrame)
    (live : sys.stream.cancelWriteErr = none) (queued : sys.stream.retransmissionQueue = f :: rest) :
    Inv (sys.popped (some f) { sys.stream with retransmissionQueue := rest } sys.connection) := by
  have lost : f ∈ sys.sentFrames := by simp [System.sentFrames, queued]
  have now : ∀ h ∈ (sys.popped (some f) { sys.stream with retransmissionQueue := rest } sys.connection).sentFrames,
      h ∈ sys.sentFrames ∨ h = { f with fecProtected := sys.stream.fecProtected } := by
    intro h member
    rcases mem_sentFrames_popped.mp member with inFlight | first | later | acked
    · exact .inl (by simp [System.sentFrames, inFlight])
    · exact .inr first
    · exact .inl (by simp [System.sentFrames, queued, later])
    · exact .inl (by simp [System.sentFrames, acked])
  have kept : ∀ h ∈ sys.sentFrames, ∃ h' ∈
      (sys.popped (some f) { sys.stream with retransmissionQueue := rest } sys.connection).sentFrames,
      h'.offset = h.offset ∧ h'.data = h.data ∧ h'.fin = h.fin := by
    intro h member
    simp only [System.sentFrames, queued, List.mem_append, List.mem_cons] at member
    rcases member with (inFlight | rfl | later) | acked
    · exact ⟨h, mem_sentFrames_popped.mpr (.inl inFlight), rfl, rfl, rfl⟩
    · exact ⟨_, mem_sentFrames_popped.mpr (.inr (.inl rfl)), rfl, rfl, rfl⟩
    · exact ⟨h, mem_sentFrames_popped.mpr (.inr (.inr (.inl later))), rfl, rfl, rfl⟩
    · exact ⟨h, mem_sentFrames_popped.mpr (.inr (.inr (.inr acked))), rfl, rfl, rfl⟩
  exact {
    unsentWritten := inv.unsentWritten
    offsetWritten := inv.offsetWritten
    buffered := inv.buffered
    framesCarry := fun h member => by
      rcases now h member with before | rfl
      · exact inv.framesCarry h before
      · exact inv.framesCarry f lost
    finAtEnd := fun h member => by
      rcases now h member with before | rfl
      · exact inv.finAtEnd h before
      · exact inv.finAtEnd f lost
    nonempty := fun h member => by
      rcases now h member with before | rfl
      · exact inv.nonempty h before
      · exact inv.nonempty f lost
    sentCounted := inv.sentCounted
    streamWithin := inv.streamWithin
    connWithin := inv.connWithin
    outstanding := fun _ => by
      show sys.stream.numOutstandingFrames + 1 = ((sys.inFlight ++ [_]).length : Int)
      rw [inv.outstanding live, List.length_append, List.length_singleton]
      push_cast
      rfl
    cancelled := fun canceled => absurd live canceled
    finished := inv.finished
    finCovered := fun sent _ => by
      obtain ⟨h, member, fin⟩ := inv.finCovered sent live
      obtain ⟨h', member', -, -, sameFin⟩ := kept h member
      exact ⟨h', member', sameFin.trans fin⟩
    covered := fun _ o below => by
      obtain ⟨h, member, covers⟩ := inv.covered live o below
      obtain ⟨h', member', sameOffset, sameData, -⟩ := kept h member
      exact ⟨h', member', by rw [Covers, sameOffset, sameData]; exact covers⟩
    completedDone := fun completed => by
      have done := inv.completedDone completed
      simp [doneSending, queued] at done
    idle := inv.idle
    completions := inv.completions
    resets := inv.resets
    blockedIncreasing := inv.blockedIncreasing
    blockedAt := inv.blockedAt
    lastBlockedSent := inv.lastBlockedSent }

theorem Inv.popFin (inv : Inv sys) (live : sys.stream.cancelWriteErr = none) (empty : sys.stream.unsent = [])
    (closed : sys.stream.finishedWriting = true) (notSent : sys.stream.finSent = false) :
    Inv (sys.popped (some ⟨sys.stream.streamID, sys.stream.writeOffset, [], true, true, false⟩)
      { sys.stream with finSent := true } sys.connection) := by
  have noFin : ∀ h ∈ sys.sentFrames, h.fin = false := fun h member => by
    by_contra fin
    have sent := (inv.finAtEnd h member (by simpa using fin)).1
    rw [notSent] at sent
    exact Bool.false_ne_true sent
  have now : ∀ h ∈ (sys.popped (some ⟨sys.stream.streamID, sys.stream.writeOffset, [], true, true, false⟩)
      { sys.stream with finSent := true } sys.connection).sentFrames,
      h ∈ sys.sentFrames ∨ h = ⟨sys.stream.streamID, sys.stream.writeOffset, [], true, true, sys.stream.fecProtected⟩ := by
    intro h member
    rcases mem_sentFrames_popped.mp member with inFlight | first | queue | acked
    · exact .inl (by simp [System.sentFrames, inFlight])
    · exact .inr first
    · exact .inl (by simp [System.sentFrames, queue])
    · exact .inl (by simp [System.sentFrames, acked])
  have kept : ∀ h ∈ sys.sentFrames, h ∈ (sys.popped (some ⟨sys.stream.streamID, sys.stream.writeOffset, [], true,
      true, false⟩) { sys.stream with finSent := true } sys.connection).sentFrames := by
    intro h member
    simp only [System.sentFrames, List.mem_append] at member
    apply mem_sentFrames_popped.mpr
    rcases member with (inFlight | queue) | acked
    · exact .inl inFlight
    · exact .inr (.inr (.inl queue))
    · exact .inr (.inr (.inr acked))
  have finFrame : (⟨sys.stream.streamID, sys.stream.writeOffset, [], true, true, sys.stream.fecProtected⟩ :
      StreamFrame) ∈ (sys.popped (some ⟨sys.stream.streamID, sys.stream.writeOffset, [], true, true, false⟩)
        { sys.stream with finSent := true } sys.connection).sentFrames :=
    mem_sentFrames_popped.mpr (.inr (.inl rfl))
  exact {
    unsentWritten := inv.unsentWritten
    offsetWritten := inv.offsetWritten
    buffered := inv.buffered
    framesCarry := fun h member => by
      rcases now h member with before | rfl
      · exact inv.framesCarry h before
      · exact ⟨rfl, List.nil_prefix, by simp only [System.popped, List.length_nil, Nat.add_zero, le_refl]⟩
    finAtEnd := fun h member fin => by
      rcases now h member with before | rfl
      · rw [noFin h before] at fin
        exact absurd fin Bool.false_ne_true
      · exact ⟨rfl, by simp only [System.popped, List.length_nil, Nat.add_zero]⟩
    nonempty := fun h member => by
      rcases now h member with before | rfl
      · exact inv.nonempty h before
      · exact .inr rfl
    sentCounted := inv.sentCounted
    streamWithin := inv.streamWithin
    connWithin := inv.connWithin
    outstanding := fun _ => by
      show sys.stream.numOutstandingFrames + 1 = ((sys.inFlight ++ [_]).length : Int)
      rw [inv.outstanding live, List.length_append, List.length_singleton]
      push_cast
      rfl
    cancelled := fun canceled => absurd live canceled
    finished := fun _ => ⟨closed, empty⟩
    finCovered := fun _ _ => ⟨_, finFrame, rfl⟩
    covered := fun _ o below => by
      obtain ⟨h, member, covers⟩ := inv.covered live o below
      exact ⟨h, kept h member, covers⟩
    completedDone := fun completed => by
      have done := inv.completedDone completed
      simp [doneSending, notSent, live] at done
    idle := inv.idle
    completions := inv.completions
    resets := inv.resets
    blockedIncreasing := inv.blockedIncreasing
    blockedAt := inv.blockedAt
    lastBlockedSent := inv.lastBlockedSent }

theorem Inv.popData (inv : Inv sys) (f : StreamFrame) (nextFrame : Option StreamFrame)
    (dataForWriting : List UInt8) (writeChan : Bool) (live : sys.stream.cancelWriteErr = none)
    (pending : sys.stream.unsent ≠ []) (atOffset : f.offset = sys.stream.writeOffset)
    (sameStream : f.streamID = sys.stream.streamID) (nonempty : f.data ≠ [])
    (allowed : f.data.length ≤ StreamFlowController.sendWindowSize sys.stream.flowController sys.connection)
    (taken : f.data ++ (bufferedData nextFrame ++ dataForWriting) = sys.stream.unsent)
    (restAt : BufferedAt sys.stream.streamID (sys.stream.writeOffset + f.data.length) nextFrame)
    (drops : ∃ k, dataForWriting = sys.stream.dataForWriting.drop k) :
    Inv (sys.popped
      (some { f with fin := sys.stream.finishedWriting && dataForWriting.isEmpty && nextFrame.isNone &&
        !sys.stream.finSent })
      { sys.stream with nextFrame, dataForWriting, writeChan, writeOffset := sys.stream.writeOffset + f.data.length,
                        flowController := sys.stream.flowController.addBytesSent f.data.length,
                        finSent := (sys.stream.finishedWriting && dataForWriting.isEmpty && nextFrame.isNone &&
                          !sys.stream.finSent) || sys.stream.finSent }
      (sys.connection.addBytesSent f.data.length)) := by
  have notSent : sys.stream.finSent = false := by
    by_contra sent
    exact pending (inv.finished (by simpa using sent)).2
  have noFin : ∀ h ∈ sys.sentFrames, h.fin = false := fun h member => by
    by_contra fin
    have sent := (inv.finAtEnd h member (by simpa using fin)).1
    rw [notSent] at sent
    exact Bool.false_ne_true sent
  have lastOut : ∀ fin, (sys.stream.finishedWriting && dataForWriting.isEmpty && nextFrame.isNone &&
      !sys.stream.finSent) = fin → fin = true → sys.stream.finishedWriting = true ∧
        bufferedData nextFrame ++ dataForWriting = [] := by
    rintro fin finEq rfl
    simp only [Bool.and_eq_true, List.isEmpty_iff, Option.isNone_iff_eq_none] at finEq
    obtain ⟨⟨⟨closed, empty⟩, noNext⟩, -⟩ := finEq
    rw [empty, noNext]
    exact ⟨closed, rfl⟩
  have writtenAt : sys.written.drop sys.stream.writeOffset = f.data ++ (bufferedData nextFrame ++ dataForWriting) := by
    rw [inv.unsentWritten, taken]
  have lengths := congrArg List.length writtenAt
  rw [List.length_drop, List.length_append] at lengths
  have offsetWritten := inv.offsetWritten
  generalize (sys.stream.finishedWriting && dataForWriting.isEmpty && nextFrame.isNone && !sys.stream.finSent) = fin
    at lastOut ⊢
  have newFrame : { f with fin, fecProtected := sys.stream.fecProtected } ∈ (sys.popped (some { f with fin })
      { sys.stream with nextFrame, dataForWriting, writeChan, writeOffset := sys.stream.writeOffset + f.data.length,
                        flowController := sys.stream.flowController.addBytesSent f.data.length,
                        finSent := fin || sys.stream.finSent }
      (sys.connection.addBytesSent f.data.length)).sentFrames := mem_sentFrames_popped.mpr (.inr (.inl rfl))
  have now : ∀ h ∈ (sys.popped (some { f with fin })
      { sys.stream with nextFrame, dataForWriting, writeChan, writeOffset := sys.stream.writeOffset + f.data.length,
                        flowController := sys.stream.flowController.addBytesSent f.data.length,
                        finSent := fin || sys.stream.finSent }
      (sys.connection.addBytesSent f.data.length)).sentFrames,
      h ∈ sys.sentFrames ∨ h = { f with fin, fecProtected := sys.stream.fecProtected } := by
    intro h member
    rcases mem_sentFrames_popped.mp member with inFlight | first | queue | acked
    · exact .inl (by simp [System.sentFrames, inFlight])
    · exact .inr first
    · exact .inl (by simp [System.sentFrames, queue])
    · exact .inl (by simp [System.sentFrames, acked])
  have kept : ∀ h ∈ sys.sentFrames, h ∈ (sys.popped (some { f with fin })
      { sys.stream with nextFrame, dataForWriting, writeChan, writeOffset := sys.stream.writeOffset + f.data.length,
                        flowController := sys.stream.flowController.addBytesSent f.data.length,
                        finSent := fin || sys.stream.finSent }
      (sys.connection.addBytesSent f.data.length)).sentFrames := by
    intro h member
    simp only [System.sentFrames, List.mem_append] at member
    apply mem_sentFrames_popped.mpr
    rcases member with (inFlight | queue) | acked
    · exact .inl inFlight
    · exact .inr (.inr (.inl queue))
    · exact .inr (.inr (.inr acked))
  obtain ⟨streamWithin, connWithin⟩ :=
    StreamFlowController.within_addBytesSent inv.streamWithin inv.connWithin allowed
  exact {
    unsentWritten := by
      show sys.written.drop (sys.stream.writeOffset + f.data.length) = bufferedData nextFrame ++ dataForWriting
      rw [← List.drop_drop, writtenAt, List.drop_left]
    offsetWritten := by
      show sys.stream.writeOffset + f.data.length ≤ sys.written.length
      omega
    buffered := restAt
    framesCarry := fun h member => by
      rcases now h member with before | rfl
      · obtain ⟨sameId, carries, below⟩ := inv.framesCarry h before
        exact ⟨sameId, carries, by simp only [System.popped]; omega⟩
      · refine ⟨sameStream, ?_, by simp only [System.popped, atOffset, le_refl]⟩
        show f.data <+: sys.written.drop f.offset
        rw [atOffset, writtenAt]
        exact List.prefix_append _ _
    finAtEnd := fun h member finNow => by
      rcases now h member with before | rfl
      · rw [noFin h before] at finNow
        exact absurd finNow Bool.false_ne_true
      · have finTrue : fin = true := finNow
        refine ⟨by simp only [System.popped, finTrue, Bool.true_or], ?_⟩
        simp only [System.popped, atOffset]
    nonempty := fun h member => by
      rcases now h member with before | rfl
      · exact inv.nonempty h before
      · exact .inl nonempty
    sentCounted := by
      show sys.stream.flowController.bytesSent + f.data.length = sys.stream.writeOffset + f.data.length
      rw [inv.sentCounted]
    streamWithin := streamWithin
    connWithin := connWithin
    outstanding := fun _ => by
      show sys.stream.numOutstandingFrames + 1 = ((sys.inFlight ++ [_]).length : Int)
      rw [inv.outstanding live, List.length_append, List.length_singleton]
      push_cast
      rfl
    cancelled := fun canceled => absurd live canceled
    finished := fun sent => by
      simp only [System.popped, notSent, Bool.or_false] at sent
      exact lastOut fin rfl sent
    finCovered := fun sent _ => by
      simp only [System.popped, notSent, Bool.or_false] at sent
      exact ⟨_, newFrame, sent⟩
    covered := fun _ o below => by
      by_cases old : o < sys.stream.writeOffset
      · obtain ⟨h, member, covers⟩ := inv.covered live o old
        exact ⟨h, kept h member, covers⟩
      · simp only [System.popped] at below
        exact ⟨_, newFrame, by simp only [atOffset]; omega, by simp only [atOffset]; omega⟩
    completedDone := fun completed => by
      have done := inv.completedDone completed
      simp [doneSending, notSent, live] at done
    idle := fun noWriter _ _ => by
      obtain ⟨k, dropped⟩ := drops
      simp only [System.popped]
      rw [dropped, inv.idle noWriter live (by assumption), List.drop_nil]
    completions := inv.completions
    resets := by
      show resetFrames sys.stream.sender = _
      rw [inv.resets]
      simp [System.popped, live]
    blockedIncreasing := inv.blockedIncreasing
    blockedAt := inv.blockedAt
    lastBlockedSent := by
      have := inv.lastBlockedSent
      simp only [System.popped, SendFlowController.lastBlockedAt_addBytesSent]
      omega }

theorem Inv.pops (inv : Inv sys) {maxBytes : Nat} {f? : Option StreamFrame} {s : SendStream}
    {conn : SendFlowController} (pops : Pops maxBytes sys.stream sys.connection f? s conn) :
    Inv (sys.popped f? s conn) := by
  cases pops with
  | nothing => exact inv
  | blocked _ _ sentAll newLimit => exact inv.popBlocked sentAll newLimit
  | split f rest live queued pos shorter => exact inv.popSplit f rest live queued pos shorter
  | whole f rest live queued _ => exact inv.popWhole f rest live queued
  | fin live empty closed notSent => exact inv.popFin live empty closed notSent
  | data f nextFrame dataForWriting writeChan live pending atOffset sameStream nonempty allowed _ _ taken restAt drops _ =>
    exact inv.popData f nextFrame dataForWriting writeChan live pending atOffset sameStream nonempty allowed taken
      restAt drops

theorem writeChecks_ne_blocked {p : List UInt8} {s : SendStream} {outcome : WriteOutcome}
    (checks : s.writeChecks p = some outcome) : outcome ≠ .blocked := by
  rintro rfl
  unfold writeChecks at checks
  split at checks
  · cases checks
  · split at checks
    · cases checks
    · cases checks
    · split at checks <;> cases checks

theorem Inv.step (inv : Inv sys) {e : Event} (enabled : System.Enabled sys e) :
    ∃ sys', System.step e sys = .ok () sys' ∧ Inv sys' := by
  cases e with
  | write p =>
    have noWriter : sys.writer = none := enabled
    cases checks : sys.stream.writeChecks p with
    | none =>
      refine ⟨_, rfl, ?_⟩
      have turned := (inv.take noWriter checks).writeTurn p.length false
      simp only [checks] at turned ⊢
      exact turned
    | some outcome =>
      refine ⟨_, rfl, ?_⟩
      have returned : (if outcome = .blocked then some p.length else none) = sys.writer := by
        rw [if_neg (writeChecks_ne_blocked checks), noWriter]
      simp only [checks, returned]
      exact inv
  | writeWake =>
    obtain ⟨len, waiting⟩ := Option.isSome_iff_exists.mp enabled.1
    refine ⟨_, by simp only [System.step, waiting]; rfl, ?_⟩
    have woken : Inv { sys with stream := { sys.stream with writeChan := false } } := { inv with }
    exact woken.writeTurn len true
  | pop maxBytes =>
    obtain ⟨f?, hasMore, s, conn, run, pops⟩ :=
      popNewOrRetransmittedStreamFrame_pops enabled inv.buffered inv.streamWithin
    exact ⟨_, step_pop run, inv.pops pops⟩
  | ack f =>
    obtain ⟨s, acked, inv'⟩ := inv.ack enabled
    exact ⟨_, by simp only [System.step, acked], inv'⟩
  | lose f =>
    obtain ⟨s, lost, inv'⟩ := inv.lose enabled
    exact ⟨_, by simp only [System.step, lost], inv'⟩
  | close => exact ⟨_, rfl, inv.close⟩
  | cancelWrite errorCode => exact ⟨_, rfl, inv.cancelWriteImpl errorCode false⟩
  | stopSending frame => exact ⟨_, rfl, inv.cancelWriteImpl frame.errorCode true⟩
  | maxStreamData limit => exact ⟨_, rfl, inv.updateSendWindow limit⟩
  | maxData limit => exact ⟨_, rfl, inv.maxData limit⟩
  | otherStreamSent n => exact ⟨_, rfl, inv.otherStreamSent enabled⟩
  | closeForShutdown err => exact ⟨_, rfl, inv.closeForShutdown err⟩

theorem Inv.reaches {sys' : System} (inv : Inv sys) (run : System.Reaches sys sys') : Inv sys' := by
  refine Go.Reaches.invariant (fun {s s' e} inv enabled returns => ?_) run inv
  obtain ⟨s'', stepped, inv''⟩ := inv.step enabled
  rw [stepped] at returns
  cases returns
  exact inv''

end Steps

/-! ## A waiting `Write` is woken

`Write` waits on `writeChan` while bytes of its `p` wait to be taken on a
stream neither canceled nor shut down.  Whatever ends that wait also sends on
`writeChan`: `getDataForWriting` once it took the last byte, `popNewStreamFrame`
once `nextFrame` went out whole, `cancelWriteImpl` and `closeForShutdown`.  So
a waiting `Write` whose loop would end has a value waiting (`Wakeable`), and
no wake-up is lost. -/

section Wake

variable {sys : System}

/-- A `Write` waiting in its loop whose next turn would end the call has a
value waiting on `writeChan`. -/
def Wakeable (sys : System) : Prop :=
  sys.writer.isSome →
    (sys.stream.dataForWriting = [] ∨ sys.stream.cancelWriteErr.isSome ∨ sys.stream.closeForShutdownErr.isSome) →
    sys.stream.writeChan = true

/-- `s'` leaves what a waiting `Write` looks at as `s` had it. -/
structure KeepsWrite (s s' : SendStream) : Prop where
  dataForWriting : s'.dataForWriting = s.dataForWriting
  cancelWriteErr : s'.cancelWriteErr = s.cancelWriteErr
  closeForShutdownErr : s'.closeForShutdownErr = s.closeForShutdownErr
  writeChan : s'.writeChan = s.writeChan

theorem wakeable_initial (streamID : Nat) (fecProtected : Bool) (initialSendWindow initialMaxData : Nat) :
    Wakeable (System.initial streamID fecProtected initialSendWindow initialMaxData) :=
  fun waiting => nomatch waiting

theorem Wakeable.of_keepsWrite {sys' : System} (wake : Wakeable sys) (writer : sys'.writer = sys.writer)
    (keeps : KeepsWrite sys.stream sys'.stream) : Wakeable sys' := by
  intro waiting ready
  rw [writer] at waiting
  rw [keeps.dataForWriting, keeps.cancelWriteErr, keeps.closeForShutdownErr] at ready
  rw [keeps.writeChan]
  exact wake waiting ready

theorem wakeable_writeTurn (len : Nat) (notifiedSender : Bool) (s : SendStream)
    (buffered : BufferedAt s.streamID s.writeOffset s.nextFrame) (sys : System) :
    Wakeable { sys with stream := (s.writeLoop len notifiedSender).2,
                        writer := if (s.writeLoop len notifiedSender).1 = .blocked then some len else none } := by
  intro waiting ready
  have blocked : (s.writeLoop len notifiedSender).1 = .blocked := by
    by_contra notBlocked
    simp only [if_neg notBlocked, Option.isSome_none, Bool.false_eq_true] at waiting
  obtain ⟨nextFrame, dataForWriting, calls, turned, -, -, -, -, waits⟩ := writeLoop_spec len notifiedSender buffered
  obtain ⟨same, pending, live, running⟩ := waits blocked
  simp only [turned, same, live, running, Option.isSome_none, Bool.false_eq_true, or_false] at ready
  exact absurd ready pending

theorem onAcked_keepsWrite {s s' : SendStream} (acked : onAcked s = .ok () s') : KeepsWrite s s' := by
  unfold onAcked at acked
  split_ifs at acked
  · cases acked
    exact ⟨rfl, rfl, rfl, rfl⟩
  · dsimp only at acked
    split_ifs at acked <;> cases acked <;> exact ⟨by simp [isNewlyCompleted_eq, call], by simp [isNewlyCompleted_eq, call],
      by simp [isNewlyCompleted_eq, call], by simp [isNewlyCompleted_eq, call]⟩

theorem onLost_keepsWrite {f : StreamFrame} {s s' : SendStream} (lost : onLost f s = .ok () s') : KeepsWrite s s' := by
  unfold onLost at lost
  split_ifs at lost
  · cases lost
    exact ⟨rfl, rfl, rfl, rfl⟩
  · dsimp only at lost
    split_ifs at lost
    cases lost
    exact ⟨rfl, rfl, rfl, rfl⟩

theorem close_keepsWrite (s : SendStream) : KeepsWrite s s.close.2 := by
  unfold SendStream.close
  split_ifs <;> exact ⟨rfl, rfl, rfl, rfl⟩

theorem updateSendWindow_keepsWrite (limit : Nat) (s : SendStream) : KeepsWrite s (s.updateSendWindow limit) := by
  unfold SendStream.updateSendWindow
  dsimp only
  split_ifs <;> exact ⟨rfl, rfl, rfl, rfl⟩

theorem Wakeable.cancelWriteImpl (wake : Wakeable sys) (errorCode : Nat) (remote : Bool) :
    Wakeable { sys with stream := sys.stream.cancelWriteImpl errorCode remote } := by
  cases live : sys.stream.cancelWriteErr with
  | some e =>
    have same : sys.stream.cancelWriteImpl errorCode remote = sys.stream := by
      simp [SendStream.cancelWriteImpl, live]
    rw [same]
    exact wake
  | none =>
    rw [cancelWriteImpl_of_live live]
    exact fun _ _ => rfl

theorem Wakeable.pops (wake : Wakeable sys) {maxBytes : Nat} {f? : Option StreamFrame} {s : SendStream}
    {conn : SendFlowController} (pops : Pops maxBytes sys.stream sys.connection f? s conn) :
    Wakeable (sys.popped f? s conn) := by
  cases pops with
  | data f nextFrame dataForWriting writeChan live pending atOffset sameStream nonempty allowed fits lengthField taken
      restAt drops woken =>
    intro waiting ready
    rcases woken with signaled | ⟨unchanged, emptied⟩
    · exact signaled
    · show writeChan = true
      rw [unchanged]
      exact wake waiting (ready.imp_left emptied)
  | _ => exact wake.of_keepsWrite rfl ⟨rfl, rfl, rfl, rfl⟩

theorem Wakeable.step (wake : Wakeable sys) (inv : Inv sys) {e : Event} (enabled : System.Enabled sys e) :
    ∃ sys', System.step e sys = .ok () sys' ∧ Wakeable sys' := by
  cases e with
  | write p =>
    cases checks : sys.stream.writeChecks p with
    | none =>
      refine ⟨_, rfl, ?_⟩
      have turned := wakeable_writeTurn p.length false { sys.stream with dataForWriting := p } inv.buffered
        { sys with written := sys.written ++ p }
      simp only [checks] at turned ⊢
      exact turned
    | some outcome =>
      refine ⟨_, rfl, fun waiting => ?_⟩
      simp only [checks, if_neg (writeChecks_ne_blocked checks), Option.isSome_none, Bool.false_eq_true] at waiting
  | writeWake =>
    obtain ⟨len, waiting⟩ := Option.isSome_iff_exists.mp enabled.1
    exact ⟨_, by simp only [System.step, waiting]; rfl,
      wakeable_writeTurn len true { sys.stream with writeChan := false } inv.buffered sys⟩
  | pop maxBytes =>
    obtain ⟨f?, hasMore, s, conn, run, pops⟩ :=
      popNewOrRetransmittedStreamFrame_pops enabled inv.buffered inv.streamWithin
    exact ⟨_, step_pop run, wake.pops pops⟩
  | ack f =>
    obtain ⟨s, acked, -⟩ := inv.ack enabled
    refine ⟨_, by simp only [System.step, acked]; rfl, ?_⟩
    exact wake.of_keepsWrite rfl (onAcked_keepsWrite acked)
  | lose f =>
    obtain ⟨s, lost, -⟩ := inv.lose enabled
    refine ⟨_, by simp only [System.step, lost]; rfl, ?_⟩
    exact wake.of_keepsWrite rfl (onLost_keepsWrite lost)
  | close => exact ⟨_, rfl, wake.of_keepsWrite rfl (close_keepsWrite sys.stream)⟩
  | cancelWrite errorCode => exact ⟨_, rfl, wake.cancelWriteImpl errorCode false⟩
  | stopSending frame => exact ⟨_, rfl, wake.cancelWriteImpl frame.errorCode true⟩
  | maxStreamData limit => exact ⟨_, rfl, wake.of_keepsWrite rfl (updateSendWindow_keepsWrite limit sys.stream)⟩
  | maxData limit => exact ⟨_, rfl, wake⟩
  | otherStreamSent n => exact ⟨_, rfl, wake⟩
  | closeForShutdown err => exact ⟨_, rfl, fun _ _ => rfl⟩

theorem Wakeable.reaches {sys' : System} (wake : Wakeable sys) (inv : Inv sys) (run : System.Reaches sys sys') :
    Wakeable sys' := by
  -- the invariant carries the buffered frame each turn of `Write` needs
  have both : Inv sys' ∧ Wakeable sys' := by
    refine @Go.Reaches.invariant _ _ _ _ (fun s => Inv s ∧ Wakeable s) (fun {s s' e} holds enabled returns => ?_) _ _
      run ⟨inv, wake⟩
    obtain ⟨s₁, stepped, inv₁⟩ := holds.1.step enabled
    obtain ⟨s₂, stepped₂, wake₂⟩ := holds.2.step holds.1 enabled
    rw [stepped] at returns stepped₂
    cases returns
    cases stepped₂
    exact ⟨inv₁, wake₂⟩
  exact both.2

end Wake

/-! ## Along every run -/

section Runs

variable {streamID : Nat} {fecProtected : Bool} {initialSendWindow initialMaxData : Nat} {sys : System}

theorem Inv.written_eq (inv : Inv sys) (sent : sys.stream.finSent = true) :
    sys.written.length = sys.stream.writeOffset := by
  have nothingLeft := inv.unsentWritten
  rw [(inv.finished sent).2, List.drop_eq_nil_iff] at nothingLeft
  exact Nat.le_antisymm nothingLeft inv.offsetWritten

/-- Two runs of a stream on a connection with windows of 100 bytes.  In the
first, `Write` hands over three bytes, which it buffers; `Close` follows; the
framer pops them in one frame with the FIN, and the peer acknowledges it. -/
def threeBytesAcked : System where
  stream := {
    numOutstandingFrames := 0
    retransmissionQueue := []
    streamID := 0
    sender := [.onHasStreamData 0, .onHasStreamData 0, .onStreamCompleted 0]
    writeOffset := 3
    cancelWriteErr := none
    closeForShutdownErr := none
    finishedWriting := true
    finSent := true
    completed := true
    dataForWriting := []
    nextFrame := none
    writeChan := true
    flowController := ⟨3, 100, 0⟩
    fecProtected := false }
  connection := ⟨3, 100, 0⟩
  writer := none
  written := [1, 2, 3]
  inFlight := []
  acked := [⟨0, 0, [1, 2, 3], true, true, false⟩]

theorem reaches_threeBytesAcked : System.Reaches (System.initial 0 false 100 100) threeBytesAcked :=
  .step (.write [1, 2, 3]) rfl rfl <|
    .step .close trivial rfl <|
      .step (.pop 200) ⟨by decide, by decide⟩ rfl <|
        .step (.ack ⟨0, 0, [1, 2, 3], true, true, false⟩) (List.mem_singleton.mpr rfl) rfl (.refl _)

/-- In the second, `Write` gets more bytes than a packet holds and waits, and
the application cancels the stream. -/
def canceledWhileWriting : System where
  stream := {
    numOutstandingFrames := 0
    retransmissionQueue := []
    streamID := 0
    sender := [.onHasStreamData 0, .queueControlFrame (.resetStream ⟨0, 7, 0⟩), .onStreamCompleted 0]
    writeOffset := 0
    cancelWriteErr := some ⟨0, 7, false⟩
    closeForShutdownErr := none
    finishedWriting := false
    finSent := false
    completed := true
    dataForWriting := List.replicate 1453 0
    nextFrame := none
    writeChan := true
    flowController := ⟨0, 100, 0⟩
    fecProtected := false }
  connection := ⟨0, 100, 0⟩
  writer := some 1453
  written := List.replicate 1453 0
  inFlight := []
  acked := []

set_option maxRecDepth 8192 in
theorem reaches_canceledWhileWriting : System.Reaches (System.initial 0 false 100 100) canceledWhileWriting :=
  .step (.write (List.replicate 1453 0)) rfl rfl <|
    .step (.cancelWrite 7) trivial rfl (.refl _)

/-- Every run of a new stream: each STREAM frame it sent, in flight, waiting
for retransmission or acknowledged, carries at its offset the bytes `Write`
took there, and lies below what the stream sent; the stream never sent more
than its flow control window, nor the connection more than its own; a frame
with the FIN ends at the end of what was written, and the stream was closed
first; and no frame is empty without a FIN. -/
theorem sendStream_run
    (run : System.Reaches (System.initial streamID fecProtected initialSendWindow initialMaxData) sys) :
    (∀ f ∈ sys.sentFrames, f.streamID = sys.stream.streamID ∧ f.data <+: sys.written.drop f.offset ∧
      f.offset + f.data.length ≤ sys.stream.writeOffset) ∧
    sys.stream.writeOffset ≤ sys.stream.flowController.sendWindow ∧
    sys.connection.bytesSent ≤ sys.connection.sendWindow ∧
    (∀ f ∈ sys.sentFrames, f.fin = true →
      sys.stream.finishedWriting = true ∧ f.offset + f.data.length = sys.written.length) ∧
    (∀ f ∈ sys.sentFrames, f.data ≠ [] ∨ f.fin = true) := by
  have inv := (inv_initial streamID fecProtected initialSendWindow initialMaxData).reaches run
  refine ⟨inv.framesCarry, ?_, inv.connWithin.sentWithin, fun f member fin => ?_, inv.nonempty⟩
  · rw [← inv.sentCounted]
    exact inv.streamWithin.sentWithin
  · obtain ⟨sent, atEnd⟩ := inv.finAtEnd f member fin
    exact ⟨(inv.finished sent).1, by rw [inv.written_eq sent, atEnd]⟩

theorem sendStream_run_threeBytes :
    (∀ f ∈ threeBytesAcked.sentFrames, f.streamID = threeBytesAcked.stream.streamID ∧
      f.data <+: threeBytesAcked.written.drop f.offset ∧
      f.offset + f.data.length ≤ threeBytesAcked.stream.writeOffset) ∧
    threeBytesAcked.stream.writeOffset ≤ threeBytesAcked.stream.flowController.sendWindow ∧
    threeBytesAcked.connection.bytesSent ≤ threeBytesAcked.connection.sendWindow ∧
    (∀ f ∈ threeBytesAcked.sentFrames, f.fin = true →
      threeBytesAcked.stream.finishedWriting = true ∧ f.offset + f.data.length = threeBytesAcked.written.length) ∧
    (∀ f ∈ threeBytesAcked.sentFrames, f.data ≠ [] ∨ f.fin = true) :=
  sendStream_run reaches_threeBytesAcked

/-- Every run of a new stream: the sender hears that the stream completed at
most once, when it did; a RESET_STREAM frame is queued once, when the stream
is canceled, with the bytes sent as its final size; and the
STREAM_DATA_BLOCKED frames announce rising limits, each the offset the stream
had reached. -/
theorem sendStream_senderCalls
    (run : System.Reaches (System.initial streamID fecProtected initialSendWindow initialMaxData) sys) :
    completedStreams sys.stream.sender = (if sys.stream.completed then [sys.stream.streamID] else []) ∧
    resetFrames sys.stream.sender =
      (sys.stream.cancelWriteErr.map fun e => ⟨sys.stream.streamID, e.errorCode, sys.stream.writeOffset⟩).toList ∧
    ((blockedFrames sys.stream.sender).map (·.maximumStreamData)).Pairwise (· < ·) ∧
    (∀ f ∈ blockedFrames sys.stream.sender,
      f.streamID = sys.stream.streamID ∧ f.maximumStreamData ≤ sys.stream.writeOffset) := by
  have inv := (inv_initial streamID fecProtected initialSendWindow initialMaxData).reaches run
  refine ⟨inv.completions, inv.resets, inv.blockedIncreasing, fun f member => ?_⟩
  obtain ⟨sameStream, below⟩ := inv.blockedAt f member
  exact ⟨sameStream, Nat.le_trans below inv.lastBlockedSent⟩

theorem sendStream_senderCalls_threeBytes :
    completedStreams threeBytesAcked.stream.sender =
      (if threeBytesAcked.stream.completed then [threeBytesAcked.stream.streamID] else []) ∧
    resetFrames threeBytesAcked.stream.sender =
      (threeBytesAcked.stream.cancelWriteErr.map fun e =>
        ⟨threeBytesAcked.stream.streamID, e.errorCode, threeBytesAcked.stream.writeOffset⟩).toList ∧
    ((blockedFrames threeBytesAcked.stream.sender).map (·.maximumStreamData)).Pairwise (· < ·) ∧
    (∀ f ∈ blockedFrames threeBytesAcked.stream.sender,
      f.streamID = threeBytesAcked.stream.streamID ∧ f.maximumStreamData ≤ threeBytesAcked.stream.writeOffset) :=
  sendStream_senderCalls reaches_threeBytesAcked

/-- A stream that completed without being canceled had every byte written
and its FIN acknowledged by the peer. -/
theorem sendStream_completed_acked
    (run : System.Reaches (System.initial streamID fecProtected initialSendWindow initialMaxData) sys)
    (completed : sys.stream.completed = true) (live : sys.stream.cancelWriteErr = none) :
    (∀ o < sys.written.length, ∃ f ∈ sys.acked, f.offset ≤ o ∧ o < f.offset + f.data.length ∧
      f.data <+: sys.written.drop f.offset) ∧
    ∃ f ∈ sys.acked, f.fin = true := by
  have inv := (inv_initial streamID fecProtected initialSendWindow initialMaxData).reaches run
  have done := inv.completedDone completed
  simp only [doneSending, live, Option.isSome_none, Bool.or_false, Bool.and_eq_true, beq_iff_eq,
    List.isEmpty_iff] at done
  obtain ⟨⟨sent, none⟩, noRetransmission⟩ := done
  have noInFlight : sys.inFlight = [] := by
    have counted := inv.outstanding live
    rw [none] at counted
    exact List.eq_nil_of_length_eq_zero (by exact_mod_cast counted.symm)
  have onlyAcked : ∀ f ∈ sys.sentFrames, f ∈ sys.acked := by
    intro f member
    simpa [System.sentFrames, noInFlight, noRetransmission] using member
  refine ⟨fun o below => ?_, ?_⟩
  · rw [inv.written_eq sent] at below
    obtain ⟨f, member, covers⟩ := inv.covered live o below
    exact ⟨f, onlyAcked f member, covers.1, covers.2, (inv.framesCarry f member).2.1⟩
  · obtain ⟨f, member, fin⟩ := inv.finCovered sent live
    exact ⟨f, onlyAcked f member, fin⟩

theorem sendStream_completed_acked_threeBytes :
    threeBytesAcked.stream.completed = true ∧ threeBytesAcked.stream.cancelWriteErr = none ∧
    (∀ o < threeBytesAcked.written.length, ∃ f ∈ threeBytesAcked.acked, f.offset ≤ o ∧
      o < f.offset + f.data.length ∧ f.data <+: threeBytesAcked.written.drop f.offset) ∧
    ∃ f ∈ threeBytesAcked.acked, f.fin = true :=
  ⟨rfl, rfl, sendStream_completed_acked reaches_threeBytesAcked rfl rfl⟩

/-- No enabled step of a run panics or fails: under the framer's budget
`popStreamFrame` never reaches the nil frame, and the ack handler never
drives the count of outstanding frames below zero. -/
theorem sendStream_no_panic
    (run : System.Reaches (System.initial streamID fecProtected initialSendWindow initialMaxData) sys)
    {e : Event} (enabled : System.Enabled sys e) :
    ∃ sys', System.step e sys = .ok () sys' := by
  obtain ⟨sys', stepped, -⟩ := ((inv_initial streamID fecProtected initialSendWindow initialMaxData).reaches run).step enabled
  exact ⟨sys', stepped⟩

/-- The framer pops again after the stream completed. -/
theorem sendStream_no_panic_threeBytes :
    System.Enabled threeBytesAcked (.pop 200) ∧ ∃ sys', System.step (.pop 200) threeBytesAcked = .ok () sys' :=
  ⟨⟨by decide, by decide⟩, sendStream_no_panic reaches_threeBytesAcked ⟨by decide, by decide⟩⟩

/-- A `Write` waiting in its loop is woken, and returns, once its bytes were
all taken or the stream was canceled or shut down: no wake-up is lost, and no
`Write` waits for good on a stream that holds nothing more of it. -/
theorem sendStream_write_returns
    (run : System.Reaches (System.initial streamID fecProtected initialSendWindow initialMaxData) sys)
    (waiting : sys.writer.isSome)
    (ready : sys.stream.dataForWriting = [] ∨ sys.stream.cancelWriteErr.isSome ∨
      sys.stream.closeForShutdownErr.isSome) :
    System.Enabled sys .writeWake ∧ ∃ sys', System.step .writeWake sys = .ok () sys' ∧ sys'.writer = none := by
  have inv := (inv_initial streamID fecProtected initialSendWindow initialMaxData).reaches run
  have wake := (wakeable_initial streamID fecProtected initialSendWindow initialMaxData).reaches
    (inv_initial streamID fecProtected initialSendWindow initialMaxData) run
  obtain ⟨len, waitingLen⟩ := Option.isSome_iff_exists.mp waiting
  refine ⟨⟨waiting, wake waiting ready⟩, _, by simp only [System.step, waitingLen]; rfl, ?_⟩
  obtain ⟨_, _, _, -, -, -, -, -, waits⟩ :=
    @writeLoop_spec len true { sys.stream with writeChan := false } inv.buffered
  show (if (writeLoop len true { sys.stream with writeChan := false }).1 = .blocked then some len else none) = none
  rw [if_neg]
  intro blocked
  obtain ⟨-, pending, live, running⟩ := waits blocked
  rcases ready with empty | stopped | stopped
  · exact pending empty
  · exact absurd live (Option.isSome_iff_ne_none.mp stopped)
  · exact absurd running (Option.isSome_iff_ne_none.mp stopped)

theorem sendStream_write_returns_canceled :
    System.Enabled canceledWhileWriting .writeWake ∧
      ∃ sys', System.step .writeWake canceledWhileWriting = .ok () sys' ∧ sys'.writer = none :=
  sendStream_write_returns reaches_canceledWhileWriting rfl (.inr (.inl rfl))

end Runs

end SendStream

end QuicFec
