import QuicFec.Stream.Accounting

/-! # The receive side of a connection

`connection.handleStreamFrame` and `handleResetStreamFrame` hand each frame to
the receive stream it names, the application calls `Read` and `CancelRead` on
its streams, and the `windowUpdateQueue` asks the flow controllers for their
window updates and queues MAX_STREAM_DATA and MAX_DATA frames with them.
`ReceiveSide` is the state these share: the receive streams, each with the
`onStreamCompleted` calls it made, the connection flow controller, and the
window update frames queued so far.

A stream is named by its place among the connection's streams.  A stream that
is not there is one `GetOrOpenReceiveStream` returns nil for, a closed one, and
the frame is ignored.  The streams are those a bidirectional stream keeps after
its receive half completed: frames and calls still reach them.

A run is a sequence of events; it ends at the first error a handler returns,
with which the connection closes.  `Moves` says what one event can do to a
consistent receive side, and the invariant `Consistent` follows from it: every
stream is consistent, the connection flow controller counts the sum of what the
streams received and read, and every controller's queued window updates rise.
From it follow the errors the next frame gets, at every state a run reaches. -/
set_option autoImplicit false

namespace QuicFec

open Go QuicFec.Protocol QuicFec.Wire QuicFec.Flowcontrol

/-- A receive stream of the connection, with the `onStreamCompleted` calls it made. -/
structure StreamEntry (γ : Type) where
  stream : ReceiveStream γ
  completedCalls : Nat

/-- The frames the `windowUpdateQueue` queues. -/
inductive WindowUpdateFrame where
  | maxData (maximumData : Nat)
  | maxStreamData (stream maximumStreamData : Nat)
deriving DecidableEq, Repr

/-- The receive side of a connection. -/
structure ReceiveSide (γ : Type) where
  streams : List (StreamEntry γ)
  connFlowController : ConnectionFlowController
  windowUpdates : List WindowUpdateFrame

/-- A frame from the peer, a call of the application, or the `windowUpdateQueue`
asking a flow controller for its window update. -/
inductive Event (γ : Type) where
  | streamFrame (stream : Nat) (frame : StreamFrame) (putBack : γ)
  | resetStreamFrame (stream : Nat) (frame : ResetStreamFrame)
  | read (stream p : Nat)
  | cancelRead (stream errorCode : Nat)
  | queueStreamWindowUpdate (stream : Nat) (timing : EpochTiming) (allowConnectionIncrease : Nat → Bool)
  | queueConnectionWindowUpdate (timing : EpochTiming) (allowWindowIncrease : Nat → Bool)

/-- The frame ends below `MaxByteCount`, which `receiveStream` uses for "no
final offset yet". -/
def Event.EndsBelowMax {γ : Type} : Event γ → Prop
  | .streamFrame _ frame _ => frame.offset + frame.dataLen < maxByteCount
  | .resetStreamFrame _ frame => frame.finalSize < maxByteCount
  | _ => True

instance {γ : Type} : (e : Event γ) → Decidable e.EndsBelowMax
  | .streamFrame _ frame _ => inferInstanceAs (Decidable (frame.offset + frame.dataLen < maxByteCount))
  | .resetStreamFrame _ frame => inferInstanceAs (Decidable (frame.finalSize < maxByteCount))
  | .read .. => isTrue trivial
  | .cancelRead .. => isTrue trivial
  | .queueStreamWindowUpdate .. => isTrue trivial
  | .queueConnectionWindowUpdate .. => isTrue trivial

namespace ReceiveSide

variable {γ : Type}

/-! ## The model -/

/-- The receive side before any frame: the streams and the connection with
fresh flow controllers, as `newConnection` and `newReceiveStream` create them. -/
def initial (streamIDs : List Nat) (streamWindow maxStreamWindow connWindow maxConnWindow : Nat) :
    ReceiveSide γ where
  streams := streamIDs.map fun streamID =>
    ⟨ReceiveStream.newReceiveStream streamID
      (StreamFlowController.newStreamFlowController streamID streamWindow maxStreamWindow), 0⟩
  connFlowController := ConnectionFlowController.newConnectionFlowController connWindow maxConnWindow
  windowUpdates := []

/-- Stream `i` replaced by `entry`, and the connection flow controller by `conn`. -/
def setStream (side : ReceiveSide γ) (i : Nat) (entry : StreamEntry γ) (conn : ConnectionFlowController) :
    ReceiveSide γ :=
  { side with streams := side.streams.set i entry, connFlowController := conn }

/-- A call on stream `i`, with the connection flow controller; the stream's
sender counts the completion it reports. -/
def onStream (i : Nat) (x : Call (ReceiveStream γ × ConnectionFlowController) (Bool × Option HandlerError)) :
    Call (ReceiveSide γ) (Option HandlerError) := fun side =>
  match side.streams[i]? with
  | none => .ok none side
  | some entry =>
      match x (entry.stream, side.connFlowController) with
      | .ok (completed, err) (s, conn) =>
          .ok err (side.setStream i ⟨s, entry.completedCalls + completions completed⟩ conn)
      | .error e (s, conn) => .error e (side.setStream i ⟨s, entry.completedCalls⟩ conn)
      | .panic m => .panic m

/-- One event.  `QueueAll` skips a stream whose `getWindowUpdate` returns 0, and
queues the connection's MAX_DATA frame with whatever `GetWindowUpdate` returns. -/
def step : Event γ → Call (ReceiveSide γ) (Option HandlerError)
  | .streamFrame i frame putBack => onStream i (ReceiveStream.handleStreamFrame frame putBack)
  | .resetStreamFrame i frame => onStream i (ReceiveStream.handleResetStreamFrame frame)
  | .read i p => onStream i do
      let outcome ← ReceiveStream.readImpl p
      pure (outcome.completed, none)
  | .cancelRead i errorCode => onStream i fun sc =>
      let (completed, sc) := ReceiveStream.cancelRead errorCode sc
      .ok (completed, none) sc
  | .queueStreamWindowUpdate i timing allowConnectionIncrease => fun side =>
      match side.streams[i]? with
      | none => .ok none side
      | some entry =>
          let (offset, s, conn) :=
            ReceiveStream.getWindowUpdate timing allowConnectionIncrease (entry.stream, side.connFlowController)
          .ok none { side.setStream i ⟨s, entry.completedCalls⟩ conn with
            windowUpdates :=
              if offset = 0 then side.windowUpdates else side.windowUpdates ++ [.maxStreamData i offset] }
  | .queueConnectionWindowUpdate timing allowWindowIncrease => fun side =>
      let (offset, conn) := side.connFlowController.getWindowUpdate timing allowWindowIncrease
      .ok none { side with connFlowController := conn, windowUpdates := side.windowUpdates ++ [.maxData offset] }

/-- The events one after another, up to the first error a handler returns. -/
def run : List (Event γ) → Call (ReceiveSide γ) (Option HandlerError)
  | [] => pure none
  | e :: events => do
      match ← step e with
      | none => run events
      | some err => pure (some err)

/-- The code of the transport error a call on the receive side returns, if any. -/
def errorCode? {α : Type} (r : Result α (Option HandlerError)) : Option TransportErrorCode :=
  r.value?.bind fun err => err.bind ReceiveStream.HandlerError.code?

/-! ## The invariant -/

/-- The highest offsets the streams received, added up. -/
def highestReceivedSum (streams : List (StreamEntry γ)) : Nat :=
  (streams.map fun entry => entry.stream.flowController.highestReceived).sum

/-- What the streams count as read for the connection, added up. -/
def creditSum (streams : List (StreamEntry γ)) : Nat :=
  (streams.map fun entry => entry.stream.credit entry.completedCalls).sum

/-- The non-zero offsets of the MAX_DATA frames queued. -/
def maxDataOffsets (frames : List WindowUpdateFrame) : List Nat :=
  frames.filterMap fun
    | .maxData offset => if offset = 0 then none else some offset
    | .maxStreamData _ _ => none

/-- The offsets of the MAX_STREAM_DATA frames queued for stream `i`. -/
def maxStreamDataOffsets (i : Nat) (frames : List WindowUpdateFrame) : List Nat :=
  frames.filterMap fun
    | .maxData _ => none
    | .maxStreamData j offset => if j = i then some offset else none

@[simp] theorem maxDataOffsets_append (frames frames' : List WindowUpdateFrame) :
    maxDataOffsets (frames ++ frames') = maxDataOffsets frames ++ maxDataOffsets frames' :=
  List.filterMap_append

@[simp] theorem maxDataOffsets_maxData (offset : Nat) :
    maxDataOffsets [.maxData offset] = if offset = 0 then [] else [offset] := by
  by_cases zero : offset = 0 <;> simp [maxDataOffsets, zero]

@[simp] theorem maxDataOffsets_maxStreamData (j offset : Nat) :
    maxDataOffsets [.maxStreamData j offset] = [] := rfl

@[simp] theorem maxStreamDataOffsets_append (i : Nat) (frames frames' : List WindowUpdateFrame) :
    maxStreamDataOffsets i (frames ++ frames') = maxStreamDataOffsets i frames ++ maxStreamDataOffsets i frames' :=
  List.filterMap_append

@[simp] theorem maxStreamDataOffsets_maxData (i offset : Nat) :
    maxStreamDataOffsets i [.maxData offset] = [] := rfl

@[simp] theorem maxStreamDataOffsets_maxStreamData (i j offset : Nat) :
    maxStreamDataOffsets i [.maxStreamData j offset] = if j = i then [offset] else [] := by
  by_cases same : j = i <;> simp [maxStreamDataOffsets, same]

/-- What the receive side keeps true between events. -/
structure Consistent (side : ReceiveSide γ) : Prop where
  streams : ∀ entry ∈ side.streams, entry.stream.Consistent entry.completedCalls
  connection : ReceiveStream.ConnectionConsistent side.connFlowController
  highestReceived_sum : side.connFlowController.highestReceived = highestReceivedSum side.streams
  bytesRead_sum : side.connFlowController.bytesRead = creditSum side.streams
  maxData_increasing : (maxDataOffsets side.windowUpdates).Pairwise (· < ·)
  maxData_le : ∀ offset ∈ maxDataOffsets side.windowUpdates, offset ≤ side.connFlowController.receiveWindow
  maxStreamData_increasing : ∀ i, (maxStreamDataOffsets i side.windowUpdates).Pairwise (· < ·)
  maxStreamData_le : ∀ i entry, side.streams[i]? = some entry →
    ∀ offset ∈ maxStreamDataOffsets i side.windowUpdates, offset ≤ entry.stream.flowController.receiveWindow

/-- Every final size known in `side` is known in `side'`, and the same. -/
def FinalSizesKept (side side' : ReceiveSide γ) : Prop :=
  ∀ (i : Nat) (entry : StreamEntry γ), side.streams[i]? = some entry →
    entry.stream.flowController.receivedFinalOffset = true →
    ∃ entry' : StreamEntry γ, side'.streams[i]? = some entry' ∧ entry'.stream.flowController.receivedFinalOffset = true ∧
      entry'.stream.flowController.highestReceived = entry.stream.flowController.highestReceived ∧
      entry'.stream.finalOffset = entry.stream.finalOffset

theorem FinalSizesKept.refl (side : ReceiveSide γ) : FinalSizesKept side side :=
  fun _ entry found known => ⟨entry, found, known, rfl, rfl⟩

theorem FinalSizesKept.trans {side₁ side₂ side₃ : ReceiveSide γ} (first : FinalSizesKept side₁ side₂)
    (second : FinalSizesKept side₂ side₃) : FinalSizesKept side₁ side₃ := by
  intro i entry found known
  obtain ⟨entry₂, found₂, known₂, sameHighest₂, sameFinal₂⟩ := first i entry found known
  obtain ⟨entry₃, found₃, known₃, sameHighest₃, sameFinal₃⟩ := second i entry₂ found₂ known₂
  exact ⟨entry₃, found₃, known₃, sameHighest₃.trans sameHighest₂, sameFinal₃.trans sameFinal₂⟩

/-! ## What one event does -/

/-- What one event without error can do to a consistent receive side. -/
inductive Moves (side : ReceiveSide γ) : ReceiveSide γ → Prop where
  /-- The stream is closed, or the call changes nothing. -/
  | unchanged : Moves side side
  /-- A call on stream `i` keeps it and the connection consistent. -/
  | onStream {i : Nat} {entry : StreamEntry γ} {completed : Bool} {s : ReceiveStream γ}
      {conn : ConnectionFlowController} (found : side.streams[i]? = some entry)
      (kept : entry.stream.Keeps entry.completedCalls side.connFlowController completed s conn) :
      Moves side (side.setStream i ⟨s, entry.completedCalls + completions completed⟩ conn)
  /-- A stream's window update: the stream's window moves up to the offset queued. -/
  | streamWindowUpdate {i : Nat} {entry : StreamEntry γ} {offset : Nat} {s : ReceiveStream γ}
      {conn : ConnectionFlowController} (found : side.streams[i]? = some entry)
      (kept : entry.stream.Keeps entry.completedCalls side.connFlowController false s conn)
      (moved : offset = 0 ∨
        entry.stream.flowController.receiveWindow < offset ∧ s.flowController.receiveWindow = offset) :
      Moves side { side.setStream i ⟨s, entry.completedCalls⟩ conn with
        windowUpdates := if offset = 0 then side.windowUpdates else side.windowUpdates ++ [.maxStreamData i offset] }
  /-- The connection's window update: its window moves up to the offset queued. -/
  | connectionWindowUpdate {offset : Nat} {conn : ConnectionFlowController}
      (grows : side.connFlowController.toBaseFlowController.Grows conn.toBaseFlowController)
      (moved : offset = 0 ∨ side.connFlowController.receiveWindow < offset ∧ conn.receiveWindow = offset) :
      Moves side { side with connFlowController := conn, windowUpdates := side.windowUpdates ++ [.maxData offset] }

section Step

variable {side side' : ReceiveSide γ}

theorem onStream_moves {i : Nat}
    {x : Call (ReceiveStream γ × ConnectionFlowController) (Bool × Option HandlerError)}
    (keeps : ∀ entry completed (t : ReceiveStream γ × ConnectionFlowController), side.streams[i]? = some entry →
      x (entry.stream, side.connFlowController) = .ok (completed, none) t →
      entry.stream.Keeps entry.completedCalls side.connFlowController completed t.1 t.2)
    (run : onStream i x side = .ok none side') : Moves side side' := by
  unfold onStream at run
  cases found : side.streams[i]? with
  | none =>
      rw [found] at run
      cases run
      exact .unchanged
  | some entry =>
      rw [found] at run
      dsimp only at run
      cases result : x (entry.stream, side.connFlowController) with
      | ok v t =>
          obtain ⟨completed, err⟩ := v
          rw [result] at run
          cases run
          exact .onStream found (keeps entry completed t found result)
      | error e t => rw [result] at run; cases run
      | panic m => rw [result] at run; cases run

theorem read_moves {i p : Nat} (valid : Consistent side) (run : step (.read i p) side = .ok none side') :
    Moves side side' := by
  refine onStream_moves (fun entry completed t found readOk => ?_) run
  obtain ⟨outcome, t₀, impl, rest⟩ := Call.bind_eq_ok.mp readOk
  simp only [Call.pure_apply, Result.ok.injEq, Prod.mk.injEq] at rest
  obtain ⟨⟨rfl, -⟩, rfl⟩ := rest
  exact ReceiveStream.readImpl_keeps (valid.streams entry (List.mem_of_getElem? found)) valid.connection impl

theorem cancelRead_moves {i errorCode : Nat} (valid : Consistent side)
    (run : step (.cancelRead i errorCode) side = .ok none side') : Moves side side' := by
  rw [step] at run
  refine onStream_moves (fun entry completed t found cancelOk => ?_) run
  generalize cancelled : ReceiveStream.cancelRead errorCode (entry.stream, side.connFlowController) = r at cancelOk
  obtain ⟨completed', s, conn⟩ := r
  simp only [Result.ok.injEq, Prod.mk.injEq] at cancelOk
  obtain ⟨⟨rfl, -⟩, rfl⟩ := cancelOk
  exact ReceiveStream.cancelRead_keeps (valid.streams entry (List.mem_of_getElem? found)) valid.connection cancelled

theorem streamWindowUpdate_moves {i : Nat} {timing : EpochTiming} {allowConnectionIncrease : Nat → Bool}
    (valid : Consistent side) (run : step (.queueStreamWindowUpdate i timing allowConnectionIncrease) side = .ok none side') :
    Moves side side' := by
  rw [step] at run
  dsimp only at run
  cases found : side.streams[i]? with
  | none =>
      rw [found] at run
      cases run
      exact .unchanged
  | some entry =>
      rw [found] at run
      dsimp only at run
      generalize update :
        ReceiveStream.getWindowUpdate timing allowConnectionIncrease (entry.stream, side.connFlowController) = r at run
      obtain ⟨offset, s, conn⟩ := r
      cases run
      obtain ⟨kept, moved⟩ :=
        ReceiveStream.getWindowUpdate_keeps (valid.streams entry (List.mem_of_getElem? found)) valid.connection update
      exact .streamWindowUpdate found kept moved

theorem connectionWindowUpdate_moves {timing : EpochTiming} {allowWindowIncrease : Nat → Bool}
    (valid : Consistent side) (run : step (.queueConnectionWindowUpdate timing allowWindowIncrease) side = .ok none side') :
    Moves side side' := by
  rw [step] at run
  dsimp only at run
  cases run
  obtain ⟨offsetEq, baseEq⟩ :=
    ConnectionFlowController.getWindowUpdate_toBaseFlowController timing allowWindowIncrease side.connFlowController
  obtain ⟨grows, unchanged | moved⟩ :=
    BaseFlowController.getWindowUpdate_spec timing allowWindowIncrease side.connFlowController.toBaseFlowController
  · refine .connectionWindowUpdate (baseEq ▸ grows) (.inl ?_)
    rw [offsetEq]
    exact unchanged.1
  · refine .connectionWindowUpdate (baseEq ▸ grows) (.inr ⟨?_, ?_⟩)
    · rw [offsetEq]
      exact moved.1 valid.connection.windowSize_pos
    · show (side.connFlowController.getWindowUpdate timing allowWindowIncrease).2.toBaseFlowController.receiveWindow = _
      rw [offsetEq, baseEq]
      exact moved.2

theorem step_moves {e : Event γ} (valid : Consistent side) (belowMax : e.EndsBelowMax)
    (run : step e side = .ok none side') : Moves side side' := by
  cases e with
  | streamFrame i frame putBack =>
      exact onStream_moves (fun entry completed t found handled =>
        ReceiveStream.handleStreamFrame_keeps (valid.streams entry (List.mem_of_getElem? found)) valid.connection
          belowMax handled) run
  | resetStreamFrame i frame =>
      exact onStream_moves (fun entry completed t found handled =>
        ReceiveStream.handleResetStreamFrame_keeps (valid.streams entry (List.mem_of_getElem? found)) valid.connection
          belowMax handled) run
  | read i p => exact read_moves valid run
  | cancelRead i errorCode => exact cancelRead_moves valid run
  | queueStreamWindowUpdate i timing allowConnectionIncrease => exact streamWindowUpdate_moves valid run
  | queueConnectionWindowUpdate timing allowWindowIncrease => exact connectionWindowUpdate_moves valid run

end Step

/-! ## The invariant is kept -/

theorem sum_map_set_add {α : Type} (f : α → Nat) {l : List α} {i : Nat} {a b : α} (found : l[i]? = some a) :
    ((l.set i b).map f).sum + f a = (l.map f).sum + f b := by
  induction l generalizing i with
  | nil => cases found
  | cons x xs ih =>
      cases i with
      | zero =>
          obtain rfl : x = a := by simpa using found
          simp only [List.set_cons_zero, List.map_cons, List.sum_cons]
          omega
      | succ i =>
          have rest := ih (by simpa using found)
          simp only [List.set_cons_succ, List.map_cons, List.sum_cons]
          omega

theorem pairwise_append_above {offsets : List Nat} {bound offset : Nat} (increasing : offsets.Pairwise (· < ·))
    (bounded : ∀ queued ∈ offsets, queued ≤ bound) (above : bound < offset) :
    (offsets ++ [offset]).Pairwise (· < ·) := by
  refine List.pairwise_append.mpr ⟨increasing, List.pairwise_singleton _ _, ?_⟩
  intro queued member last isLast
  rw [List.mem_singleton] at isLast
  subst isLast
  exact Nat.lt_of_le_of_lt (bounded queued member) above

section Invariant

variable {side side' : ReceiveSide γ}

@[simp] theorem setStream_streams (i : Nat) (entry : StreamEntry γ) (conn : ConnectionFlowController) :
    (side.setStream i entry conn).streams = side.streams.set i entry := rfl

@[simp] theorem setStream_connFlowController (i : Nat) (entry : StreamEntry γ) (conn : ConnectionFlowController) :
    (side.setStream i entry conn).connFlowController = conn := rfl

@[simp] theorem setStream_windowUpdates (i : Nat) (entry : StreamEntry γ) (conn : ConnectionFlowController) :
    (side.setStream i entry conn).windowUpdates = side.windowUpdates := rfl

theorem Consistent.setStream {i : Nat} {entry : StreamEntry γ} {completed : Bool} {s : ReceiveStream γ}
    {conn : ConnectionFlowController} (valid : Consistent side) (found : side.streams[i]? = some entry)
    (kept : entry.stream.Keeps entry.completedCalls side.connFlowController completed s conn) :
    Consistent (side.setStream i ⟨s, entry.completedCalls + completions completed⟩ conn) := by
  obtain ⟨consistent, connOk, advance⟩ := kept
  have inRange : i < side.streams.length := (List.getElem?_eq_some_iff.mp found).1
  refine ⟨?streams, connOk, ?highest, ?read, valid.maxData_increasing, ?maxData,
    valid.maxStreamData_increasing, ?maxStreamData⟩
  case streams =>
    intro e member
    rcases List.mem_or_eq_of_mem_set member with old | rfl
    · exact valid.streams e old
    · exact consistent
  case highest =>
    have moved : highestReceivedSum (side.streams.set i ⟨s, entry.completedCalls + completions completed⟩) +
        entry.stream.flowController.highestReceived =
        highestReceivedSum side.streams + s.flowController.highestReceived := sum_map_set_add _ found
    have counted := valid.highestReceived_sum
    have added := advance.highestReceived_add
    rw [setStream_connFlowController, setStream_streams]
    omega
  case read =>
    have moved : creditSum (side.streams.set i ⟨s, entry.completedCalls + completions completed⟩) +
        entry.stream.credit entry.completedCalls =
        creditSum side.streams + s.credit (entry.completedCalls + completions completed) := sum_map_set_add _ found
    have counted := valid.bytesRead_sum
    have added := advance.bytesRead_add
    rw [setStream_connFlowController, setStream_streams]
    omega
  case maxData =>
    intro offset queued
    exact Nat.le_trans (valid.maxData_le offset queued) advance.connReceiveWindow_le
  case maxStreamData =>
    intro j e found' offset queued
    by_cases same : i = j
    · subst same
      rw [setStream_streams, List.getElem?_set_self inRange] at found'
      obtain rfl := Option.some.inj found'
      exact Nat.le_trans (valid.maxStreamData_le i entry found offset queued) advance.receiveWindow_le
    · rw [setStream_streams, List.getElem?_set_ne same] at found'
      exact valid.maxStreamData_le j e found' offset queued

theorem Consistent.streamWindowUpdate {i : Nat} {entry : StreamEntry γ} {offset : Nat} {s : ReceiveStream γ}
    {conn : ConnectionFlowController} (valid : Consistent side) (found : side.streams[i]? = some entry)
    (kept : entry.stream.Keeps entry.completedCalls side.connFlowController false s conn)
    (moved : offset = 0 ∨
      entry.stream.flowController.receiveWindow < offset ∧ s.flowController.receiveWindow = offset) :
    Consistent { side.setStream i ⟨s, entry.completedCalls⟩ conn with
      windowUpdates := if offset = 0 then side.windowUpdates else side.windowUpdates ++ [.maxStreamData i offset] } := by
  have base : Consistent (side.setStream i ⟨s, entry.completedCalls⟩ conn) := by
    simpa using valid.setStream found kept
  by_cases zero : offset = 0
  · simp only [zero, if_true]
    exact base
  obtain ⟨above, newWindow⟩ := moved.resolve_left zero
  have inRange : i < side.streams.length := (List.getElem?_eq_some_iff.mp found).1
  simp only [zero, if_false]
  refine ⟨base.streams, base.connection, base.highestReceived_sum, base.bytesRead_sum, ?_, ?_, ?_, ?_⟩
  · simpa using valid.maxData_increasing
  · simpa using base.maxData_le
  · -- only stream `i`'s offsets grow, by one above its old window
    intro j
    simp only [maxStreamDataOffsets_append, maxStreamDataOffsets_maxStreamData]
    by_cases same : i = j
    · subst same
      rw [if_pos rfl]
      exact pairwise_append_above (valid.maxStreamData_increasing i) (valid.maxStreamData_le i entry found) above
    · rw [if_neg same, List.append_nil]
      exact valid.maxStreamData_increasing j
  · intro j e found' queued member
    simp only [maxStreamDataOffsets_append, maxStreamDataOffsets_maxStreamData, List.mem_append] at member
    by_cases same : i = j
    · subst same
      rw [if_pos rfl, List.mem_singleton] at member
      rcases member with old | rfl
      · exact base.maxStreamData_le i e found' queued old
      · have atI : (side.setStream i ⟨s, entry.completedCalls⟩ conn).streams[i]? = some ⟨s, entry.completedCalls⟩ := by
          simp [inRange]
        have isNew : e = ⟨s, entry.completedCalls⟩ := Option.some.inj (found'.symm.trans atI)
        rw [isNew]
        exact newWindow.ge
    · rw [if_neg same] at member
      simp only [List.not_mem_nil, or_false] at member
      exact base.maxStreamData_le j e found' queued member

theorem Consistent.connectionWindowUpdate {offset : Nat} {conn : ConnectionFlowController} (valid : Consistent side)
    (grows : side.connFlowController.toBaseFlowController.Grows conn.toBaseFlowController)
    (moved : offset = 0 ∨ side.connFlowController.receiveWindow < offset ∧ conn.receiveWindow = offset) :
    Consistent { side with connFlowController := conn, windowUpdates := side.windowUpdates ++ [.maxData offset] } := by
  have bounded : ∀ queued ∈ maxDataOffsets side.windowUpdates, queued ≤ conn.receiveWindow :=
    fun queued member => Nat.le_trans (valid.maxData_le queued member) grows.receiveWindow_le
  refine ⟨valid.streams, valid.connection.of_grows grows, grows.highestReceived_eq ▸ valid.highestReceived_sum,
    grows.bytesRead_eq ▸ valid.bytesRead_sum, ?_, ?_, ?_, ?_⟩
  · simp only [maxDataOffsets_append, maxDataOffsets_maxData]
    by_cases zero : offset = 0
    · rw [if_pos zero, List.append_nil]
      exact valid.maxData_increasing
    · rw [if_neg zero]
      obtain ⟨above, -⟩ := moved.resolve_left zero
      exact pairwise_append_above valid.maxData_increasing valid.maxData_le above
  · intro queued member
    simp only [maxDataOffsets_append, maxDataOffsets_maxData, List.mem_append] at member
    by_cases zero : offset = 0
    · rw [if_pos zero] at member
      simp only [List.not_mem_nil, or_false] at member
      exact bounded queued member
    · rw [if_neg zero, List.mem_singleton] at member
      rcases member with old | rfl
      · exact bounded queued old
      · exact (moved.resolve_left zero).2.ge
  · simpa using valid.maxStreamData_increasing
  · simpa using valid.maxStreamData_le

theorem Moves.consistent (valid : Consistent side) (moves : Moves side side') : Consistent side' := by
  cases moves with
  | unchanged => exact valid
  | onStream found kept => exact valid.setStream found kept
  | streamWindowUpdate found kept moved => exact valid.streamWindowUpdate found kept moved
  | connectionWindowUpdate grows moved => exact valid.connectionWindowUpdate grows moved

theorem finalSizesKept_setStream {i : Nat} {entry : StreamEntry γ} {calls : Nat} {s : ReceiveStream γ}
    {conn : ConnectionFlowController} (valid : Consistent side) (found : side.streams[i]? = some entry)
    (consistent : s.Consistent calls)
    (advance : entry.stream.Advance entry.completedCalls side.connFlowController s calls conn) :
    FinalSizesKept side (side.setStream i ⟨s, calls⟩ conn) := by
  intro j e found' known
  by_cases same : i = j
  · subst same
    obtain rfl : entry = e := Option.some.inj (found.symm.trans found')
    have inRange : i < side.streams.length := (List.getElem?_eq_some_iff.mp found).1
    obtain ⟨known', sameHighest⟩ := advance.finalSize_kept known
    refine ⟨⟨s, calls⟩, by simp [inRange], known', sameHighest, ?_⟩
    show s.finalOffset = entry.stream.finalOffset
    rw [consistent.finalOffset_of_known known', sameHighest,
      (valid.streams entry (List.mem_of_getElem? found)).finalOffset_of_known known]
  · refine ⟨e, ?_, known, rfl, rfl⟩
    rw [setStream_streams, List.getElem?_set_ne same]
    exact found'

theorem Moves.finalSizesKept (valid : Consistent side) (moves : Moves side side') : FinalSizesKept side side' := by
  cases moves with
  | unchanged => exact .refl side
  | onStream found kept => exact finalSizesKept_setStream valid found kept.1 kept.2.2
  | streamWindowUpdate found kept moved =>
      exact finalSizesKept_setStream valid found (by simpa using kept.1) (by simpa using kept.2.2)
  | connectionWindowUpdate grows moved => exact .refl side

end Invariant

/-! ## Runs -/

section Runs

variable {side side' : ReceiveSide γ}

theorem run_reaches {events : List (Event γ)} (valid : Consistent side) (belowMax : ∀ e ∈ events, e.EndsBelowMax)
    (ran : run events side = .ok none side') : Relation.ReflTransGen Moves side side' := by
  induction events generalizing side with
  | nil =>
      rw [run, Call.pure_apply] at ran
      cases ran
      exact .refl
  | cons e events ih =>
      rw [run] at ran
      obtain ⟨err, side₁, stepped, rest⟩ := Call.bind_eq_ok.mp ran
      cases err with
      | none =>
          have moves := step_moves valid (belowMax e List.mem_cons_self) stepped
          exact .head moves (ih (moves.consistent valid)
            (fun e' member => belowMax e' (List.mem_cons_of_mem e member)) rest)
      | some err => cases rest

theorem Reaches.consistent (valid : Consistent side) (reach : Relation.ReflTransGen Moves side side') :
    Consistent side' := by
  induction reach with
  | refl => exact valid
  | tail _ moves consistent => exact moves.consistent consistent

theorem Reaches.finalSizesKept (valid : Consistent side) (reach : Relation.ReflTransGen Moves side side') :
    FinalSizesKept side side' := by
  induction reach with
  | refl => exact .refl side
  | tail reach₁ moves kept => exact kept.trans (moves.finalSizesKept (Reaches.consistent valid reach₁))

theorem consistent_initial (streamIDs : List Nat) (streamWindow maxStreamWindow connWindow maxConnWindow : Nat)
    (streamWindowPos : 0 < streamWindow) (connWindowPos : 0 < connWindow) :
    Consistent (initial streamIDs streamWindow maxStreamWindow connWindow maxConnWindow : ReceiveSide γ) where
  streams entry member := by
    obtain ⟨streamID, -, rfl⟩ := List.mem_map.mp member
    exact ReceiveStream.consistent_newReceiveStream streamID streamWindow maxStreamWindow streamWindowPos
  connection := ⟨Nat.zero_le _, connWindowPos⟩
  highestReceived_sum := by
    rw [eq_comm, highestReceivedSum]
    apply List.sum_eq_zero
    intro received member
    obtain ⟨_, entryMember, rfl⟩ := List.mem_map.mp member
    obtain ⟨streamID, -, rfl⟩ := List.mem_map.mp entryMember
    rfl
  bytesRead_sum := by
    rw [eq_comm, creditSum]
    apply List.sum_eq_zero
    intro read member
    obtain ⟨_, entryMember, rfl⟩ := List.mem_map.mp member
    obtain ⟨streamID, -, rfl⟩ := List.mem_map.mp entryMember
    rfl
  maxData_increasing := List.Pairwise.nil
  maxData_le _ member := by cases member
  maxStreamData_increasing _ := List.Pairwise.nil
  maxStreamData_le _ _ _ _ member := by cases member

end Runs

/-! ## The errors of the next frame -/

section Errors

variable {side : ReceiveSide γ}

/-- The error a frame with data up to `endOffset` should get: a final-size error
if it contradicts a known final size or states a final size below the data
received; otherwise a flow-control error exactly when its end is past the
stream's window or its new data takes the connection past its window. -/
def frameError (fc : StreamFlowController) (conn : ConnectionFlowController) (endOffset : Nat) (final : Bool) :
    Option TransportErrorCode :=
  if StreamFlowController.FinalSizeViolation fc endOffset final then some .finalSizeError
  else if fc.receiveWindow < endOffset ∨
      conn.receiveWindow < conn.highestReceived + (endOffset - fc.highestReceived) then some .flowControlError
  else none

theorem expectedError_eq_frameError {fc : StreamFlowController} {conn : ConnectionFlowController}
    {endOffset : Nat} {final : Bool} (withinWindow : fc.highestReceived ≤ fc.receiveWindow)
    (connWithinWindow : conn.highestReceived ≤ conn.receiveWindow) :
    StreamFlowController.expectedError fc conn endOffset final = frameError fc conn endOffset final := by
  have flowControl : StreamFlowController.FlowControlViolation fc conn endOffset ↔
      fc.receiveWindow < endOffset ∨ conn.receiveWindow < conn.highestReceived + (endOffset - fc.highestReceived) := by
    refine ⟨fun violation => violation.2, fun excess => ⟨?_, excess⟩⟩
    omega
  simp only [StreamFlowController.expectedError, frameError, flowControl]

theorem errorCode?_onStream {i : Nat}
    {x : Call (ReceiveStream γ × ConnectionFlowController) (Bool × Option HandlerError)} {entry : StreamEntry γ}
    (found : side.streams[i]? = some entry) :
    errorCode? (onStream i x side) = ReceiveStream.transportErrorCode? (x (entry.stream, side.connFlowController)) := by
  unfold onStream
  rw [found]
  dsimp only
  cases x (entry.stream, side.connFlowController) with
  | ok v t =>
      obtain ⟨completed, err⟩ := v
      obtain ⟨s, conn⟩ := t
      rfl
  | error e t =>
      obtain ⟨s, conn⟩ := t
      rfl
  | panic m => rfl

theorem streamFrame_errorCode {i : Nat} {entry : StreamEntry γ} (frame : StreamFrame) (putBack : γ)
    (valid : Consistent side) (found : side.streams[i]? = some entry) :
    errorCode? (step (.streamFrame i frame putBack) side) =
      frameError entry.stream.flowController side.connFlowController (frame.offset + frame.dataLen) frame.fin := by
  have consistent := valid.streams entry (List.mem_of_getElem? found)
  rw [step, errorCode?_onStream found, ReceiveStream.handleStreamFrame,
    ReceiveStream.transportErrorCode?_abandonIfCompleted, ReceiveStream.handleStreamFrameImpl_errorCode]
  exact expectedError_eq_frameError consistent.highestReceived_le valid.connection.highestReceived_le

theorem resetStreamFrame_errorCode {i : Nat} {entry : StreamEntry γ} (frame : ResetStreamFrame)
    (valid : Consistent side) (found : side.streams[i]? = some entry) :
    errorCode? (step (.resetStreamFrame i frame) side) =
      frameError entry.stream.flowController side.connFlowController frame.finalSize true := by
  have consistent := valid.streams entry (List.mem_of_getElem? found)
  rw [step, errorCode?_onStream found, ReceiveStream.handleResetStreamFrame,
    ReceiveStream.transportErrorCode?_abandonIfCompleted,
    ReceiveStream.handleResetStreamFrameImpl_errorCode _ _ _ consistent.noShutdown]
  exact expectedError_eq_frameError consistent.highestReceived_le valid.connection.highestReceived_le

theorem Consistent.bytesRead_le (valid : Consistent side) :
    side.connFlowController.bytesRead ≤ side.connFlowController.highestReceived := by
  rw [valid.bytesRead_sum, valid.highestReceived_sum]
  exact List.sum_le_sum fun entry member => (valid.streams entry member).credit_le

end Errors

/-! ## The guarantees -/

/-- What the receive side guarantees at a state a run reaches without error. -/
structure Guarantees (side : ReceiveSide γ) : Prop where
  /-- The next STREAM frame gets the error `frameError` names for its end. -/
  streamFrame_errorCode : ∀ (i : Nat) (entry : StreamEntry γ) (frame : StreamFrame) (putBack : γ),
    side.streams[i]? = some entry →
    errorCode? (step (.streamFrame i frame putBack) side) =
      frameError entry.stream.flowController side.connFlowController (frame.offset + frame.dataLen) frame.fin
  /-- The next RESET_STREAM frame gets the error `frameError` names for its final size. -/
  resetStreamFrame_errorCode : ∀ (i : Nat) (entry : StreamEntry γ) (frame : ResetStreamFrame),
    side.streams[i]? = some entry →
    errorCode? (step (.resetStreamFrame i frame) side) =
      frameError entry.stream.flowController side.connFlowController frame.finalSize true
  highestReceived_sum : side.connFlowController.highestReceived = highestReceivedSum side.streams
  stream_le : ∀ entry ∈ side.streams,
    entry.stream.flowController.bytesRead ≤ entry.stream.flowController.highestReceived ∧
      entry.stream.flowController.highestReceived ≤ entry.stream.flowController.receiveWindow
  connection_le : side.connFlowController.bytesRead ≤ side.connFlowController.highestReceived ∧
    side.connFlowController.highestReceived ≤ side.connFlowController.receiveWindow
  /-- Every run on from here keeps the final sizes known. -/
  finalSizes_kept : ∀ (events : List (Event γ)) (side' : ReceiveSide γ), (∀ e ∈ events, e.EndsBelowMax) →
    run events side = .ok none side' → FinalSizesKept side side'
  maxData_increasing : (maxDataOffsets side.windowUpdates).Pairwise (· < ·)
  maxStreamData_increasing : ∀ i, (maxStreamDataOffsets i side.windowUpdates).Pairwise (· < ·)

theorem Consistent.guarantees {side : ReceiveSide γ} (valid : Consistent side) : Guarantees side where
  streamFrame_errorCode _ _ frame putBack found := streamFrame_errorCode frame putBack valid found
  resetStreamFrame_errorCode _ _ frame found := resetStreamFrame_errorCode frame valid found
  highestReceived_sum := valid.highestReceived_sum
  stream_le entry member :=
    ⟨(valid.streams entry member).bytesRead_le, (valid.streams entry member).highestReceived_le⟩
  connection_le := ⟨valid.bytesRead_le, valid.connection.highestReceived_le⟩
  finalSizes_kept _ _ belowMax ran := Reaches.finalSizesKept valid (run_reaches valid belowMax ran)
  maxData_increasing := valid.maxData_increasing
  maxStreamData_increasing := valid.maxStreamData_increasing

/-- Receive-side flow control: at every state a run of STREAM and RESET_STREAM
frames, `Read`, `CancelRead` and window updates reaches without error, from
positive windows and with frames ending below `MaxByteCount`. -/
theorem receiveSide_flowControl (streamIDs : List Nat) (streamWindow maxStreamWindow connWindow maxConnWindow : Nat)
    (streamWindowPos : 0 < streamWindow) (connWindowPos : 0 < connWindow) (events : List (Event γ))
    (belowMax : ∀ e ∈ events, e.EndsBelowMax) (side : ReceiveSide γ)
    (reached : run events (initial streamIDs streamWindow maxStreamWindow connWindow maxConnWindow) = .ok none side) :
    Guarantees side := by
  have start : Consistent (initial streamIDs streamWindow maxStreamWindow connWindow maxConnWindow : ReceiveSide γ) :=
    consistent_initial streamIDs streamWindow maxStreamWindow connWindow maxConnWindow streamWindowPos connWindowPos
  exact (Reaches.consistent start (run_reaches start belowMax reached)).guarantees

theorem receiveSide_flowControl_cancelledStream :
    ∃ side : ReceiveSide Unit,
      run [.cancelRead 0 0, .streamFrame 0 ⟨0, 0, List.replicate 10 0, false, true, false⟩ ()]
        (initial [0] 100 100 100 100) = .ok none side ∧ Guarantees side :=
  ⟨_, rfl, receiveSide_flowControl [0] 100 100 100 100 (by decide) (by decide)
    [.cancelRead 0 0, .streamFrame 0 ⟨0, 0, List.replicate 10 0, false, true, false⟩ ()] (by decide) _ rfl⟩

/-- A FIN below the data received is a final-size error while no final size is
known: a cancelled stream takes ten bytes, and then a FIN at five. -/
theorem finalSizeError_without_known_finalSize :
    (run [.cancelRead 0 0, .streamFrame 0 ⟨0, 0, List.replicate 10 0, false, true, false⟩ ()]
        (initial [0] 100 100 100 100 : ReceiveSide Unit)).state?.map
        (fun side => side.streams.map fun entry => entry.stream.flowController.receivedFinalOffset) = some [false] ∧
      errorCode? (run [.cancelRead 0 0, .streamFrame 0 ⟨0, 0, List.replicate 10 0, false, true, false⟩ (),
        .streamFrame 0 ⟨0, 0, List.replicate 5 0, true, true, false⟩ ()]
        (initial [0] 100 100 100 100 : ReceiveSide Unit)) = some .finalSizeError := by
  decide

end ReceiveSide

end QuicFec
