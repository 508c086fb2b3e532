import QuicFec.Stream.ReceiveStream

/-! # What a receive stream owes the connection

Between the calls that reach it, a receive stream keeps its flow controller in
step with its frame sorter: the bytes read and the bytes popped but not yet
copied out add up to the sorter's read position, which is at most the highest
offset received, which is at most the window.  Its final offset is the highest
offset received once the flow controller has seen a final size, and
`MaxByteCount` before.  `Consistent` collects these facts together with
`completedCalls`, how often the stream reported completion: at most once, and
only with the final size known and the stream read to its end, cancelled or
reset.

The connection flow controller counts what the streams received, and as read
what they read; a completed stream counts all it received, since `Abandon` adds
what was never read.  `Advance` says how one call on a stream moves the
connection's counters: by as much as the stream's own.  Each call is a chain of
small changes (the flow-control check, a push, a copy, a completion), and each
change has its lemma here.

Offsets below `MaxByteCount` are assumed for the frames: `receiveStream` uses
`MaxByteCount` for "no final offset yet". -/
set_option autoImplicit false

namespace QuicFec

open Go QuicFec.Protocol QuicFec.Wire QuicFec.Flowcontrol

namespace ReceiveStream

variable {γ : Type}

/-- The bytes of the current frame not copied out yet. -/
def unread (s : ReceiveStream γ) : Nat := s.frameLen - s.readPosInFrame

/-- What the stream counts as read for the connection: the bytes read, and
everything received once it completed. -/
def credit (s : ReceiveStream γ) (completedCalls : Nat) : Nat :=
  if completedCalls = 0 then s.flowController.bytesRead else s.flowController.highestReceived

/-- What a receive stream keeps true between calls, having reported completion
`completedCalls` times. -/
structure Consistent (s : ReceiveStream γ) (completedCalls : Nat) : Prop where
  readPosInFrame_le : s.finRead = false → s.readPosInFrame ≤ s.frameLen
  bytesRead_add_unread : s.flowController.bytesRead + s.unread = s.frameQueue.readPos
  below : FrameSorter.Below s.flowController.highestReceived s.frameQueue
  highestReceived_le : s.flowController.highestReceived ≤ s.flowController.receiveWindow
  highestReceived_lt : s.flowController.highestReceived < maxByteCount
  windowSize_pos : 0 < s.flowController.receiveWindowSize
  finalOffset_eq : (s.flowController.receivedFinalOffset = false ∧ s.finalOffset = maxByteCount) ∨
    (s.flowController.receivedFinalOffset = true ∧ s.finalOffset = s.flowController.highestReceived)
  last : s.currentFrameIsLast = true →
    s.flowController.receivedFinalOffset = true ∧ s.flowController.highestReceived ≤ s.frameQueue.readPos
  finRead : s.finRead = true →
    s.flowController.receivedFinalOffset = true ∧ s.flowController.bytesRead = s.flowController.highestReceived
  noShutdown : s.closeForShutdownErr = none
  completedCalls_le : completedCalls ≤ 1
  completed : completedCalls = 1 → s.flowController.receivedFinalOffset = true ∧
    (s.finRead = true ∨ s.cancelReadErr.isSome = true ∨ s.resetRemotelyErr.isSome = true)

/-- What the connection flow controller keeps true. -/
structure ConnectionConsistent (conn : ConnectionFlowController) : Prop where
  highestReceived_le : conn.highestReceived ≤ conn.receiveWindow
  windowSize_pos : 0 < conn.receiveWindowSize

/-- How a call on one stream moves the connection's counters: by as much as
the stream's highest offset and credit; windows only grow, and a known final
size stays. -/
structure Advance (s : ReceiveStream γ) (calls : Nat) (conn : ConnectionFlowController)
    (s' : ReceiveStream γ) (calls' : Nat) (conn' : ConnectionFlowController) : Prop where
  highestReceived_add : conn'.highestReceived + s.flowController.highestReceived =
    conn.highestReceived + s'.flowController.highestReceived
  bytesRead_add : conn'.bytesRead + s.credit calls = conn.bytesRead + s'.credit calls'
  receiveWindow_le : s.flowController.receiveWindow ≤ s'.flowController.receiveWindow
  connReceiveWindow_le : conn.receiveWindow ≤ conn'.receiveWindow
  finalSize_kept : s.flowController.receivedFinalOffset = true →
    s'.flowController.receivedFinalOffset = true ∧
      s'.flowController.highestReceived = s.flowController.highestReceived

namespace Advance

variable {s s₁ s₂ : ReceiveStream γ} {c c₁ c₂ : Nat} {conn conn₁ conn₂ : ConnectionFlowController}

theorem refl (s : ReceiveStream γ) (c : Nat) (conn : ConnectionFlowController) : Advance s c conn s c conn :=
  ⟨rfl, rfl, le_rfl, le_rfl, fun known => ⟨known, rfl⟩⟩

theorem trans (first : Advance s c conn s₁ c₁ conn₁) (second : Advance s₁ c₁ conn₁ s₂ c₂ conn₂) :
    Advance s c conn s₂ c₂ conn₂ where
  highestReceived_add := by
    have := first.highestReceived_add
    have := second.highestReceived_add
    omega
  bytesRead_add := by
    have := first.bytesRead_add
    have := second.bytesRead_add
    omega
  receiveWindow_le := Nat.le_trans first.receiveWindow_le second.receiveWindow_le
  connReceiveWindow_le := Nat.le_trans first.connReceiveWindow_le second.connReceiveWindow_le
  finalSize_kept known := by
    obtain ⟨known₁, same₁⟩ := first.finalSize_kept known
    obtain ⟨known₂, same₂⟩ := second.finalSize_kept known₁
    exact ⟨known₂, same₂.trans same₁⟩

theorem of_same {s' : ReceiveStream γ} (sameFlow : s'.flowController = s.flowController) :
    Advance s c conn s' c conn := by
  refine ⟨?_, ?_, ?_, le_rfl, ?_⟩
  · rw [sameFlow]
  · simp [credit, sameFlow]
  · rw [sameFlow]
  · intro known
    rw [sameFlow]
    exact ⟨known, rfl⟩

end Advance

section Consistent

variable {s : ReceiveStream γ} {calls : Nat}

theorem Consistent.bytesRead_le_readPos (cons : Consistent s calls) :
    s.flowController.bytesRead ≤ s.frameQueue.readPos := by
  have := cons.bytesRead_add_unread
  omega

theorem Consistent.bytesRead_le (cons : Consistent s calls) :
    s.flowController.bytesRead ≤ s.flowController.highestReceived :=
  Nat.le_trans cons.bytesRead_le_readPos cons.below.readPos_le

theorem Consistent.credit_le (cons : Consistent s calls) :
    s.credit calls ≤ s.flowController.highestReceived := by
  unfold credit
  split_ifs
  · exact cons.bytesRead_le
  · exact le_rfl

theorem Consistent.calls_eq_zero (cons : Consistent s calls)
    (running : ¬ (s.finRead = true ∨ s.cancelReadErr.isSome = true ∨ s.resetRemotelyErr.isSome = true)) :
    calls = 0 := by
  have := cons.completedCalls_le
  by_contra notZero
  exact running (cons.completed (by omega)).2

theorem Consistent.known_of_finalOffset_ne (cons : Consistent s calls) (known : s.finalOffset ≠ maxByteCount) :
    s.flowController.receivedFinalOffset = true := by
  rcases cons.finalOffset_eq with ⟨-, unset⟩ | ⟨known, -⟩
  · exact absurd unset known
  · exact known

theorem Consistent.unset_finalOffset (cons : Consistent s calls) (unset : s.finalOffset = maxByteCount) :
    s.flowController.receivedFinalOffset = false ∧ calls = 0 := by
  have unknown : s.flowController.receivedFinalOffset = false := by
    rcases cons.finalOffset_eq with ⟨unknown, -⟩ | ⟨-, isHighest⟩
    · exact unknown
    · have := cons.highestReceived_lt
      omega
  refine ⟨unknown, ?_⟩
  have := cons.completedCalls_le
  by_contra notZero
  rw [(cons.completed (by omega)).1] at unknown
  cases unknown

theorem Consistent.finalOffset_of_known (cons : Consistent s calls)
    (known : s.flowController.receivedFinalOffset = true) :
    s.finalOffset = s.flowController.highestReceived := by
  rcases cons.finalOffset_eq with ⟨unknown, -⟩ | ⟨-, isHighest⟩
  · rw [known] at unknown
    cases unknown
  · exact isHighest

theorem ConnectionConsistent.of_grows {conn conn' : ConnectionFlowController} (connOk : ConnectionConsistent conn)
    (grows : conn.toBaseFlowController.Grows conn'.toBaseFlowController) : ConnectionConsistent conn' :=
  ⟨grows.highestReceived_eq ▸ Nat.le_trans connOk.highestReceived_le grows.receiveWindow_le,
    Nat.lt_of_lt_of_le connOk.windowSize_pos grows.receiveWindowSize_le⟩

theorem consistent_newReceiveStream (streamID receiveWindow maxReceiveWindow : Nat)
    (positive : 0 < receiveWindow) :
    Consistent (newReceiveStream streamID
      (StreamFlowController.newStreamFlowController streamID receiveWindow maxReceiveWindow) : ReceiveStream γ) 0 where
  readPosInFrame_le := fun _ => le_rfl
  bytesRead_add_unread := rfl
  below := FrameSorter.below_newFrameSorter 0
  highestReceived_le := Nat.zero_le _
  highestReceived_lt := show 0 < maxByteCount by decide
  windowSize_pos := positive
  finalOffset_eq := .inl ⟨rfl, rfl⟩
  last := fun last => by cases last
  finRead := fun finished => by cases finished
  noShutdown := rfl
  completedCalls_le := Nat.zero_le _
  completed := fun one => by cases one

end Consistent

/-! ## The flow-control check -/

section Received

variable {s : ReceiveStream γ} {calls : Nat} {conn conn' : ConnectionFlowController}
  {fc : StreamFlowController} {offset : Nat} {final : Bool}

theorem highestReceived_of_known (known : s.flowController.receivedFinalOffset = true)
    (consistent : ¬ StreamFlowController.FinalSizeViolation s.flowController offset final) :
    max s.flowController.highestReceived offset = s.flowController.highestReceived := by
  have notPast : ¬ s.flowController.highestReceived < offset := fun past =>
    consistent (.inl ⟨known, .inr past⟩)
  omega

theorem known_of_final {offset : Nat} {final : Bool} {fc : StreamFlowController} {conn' : ConnectionFlowController}
    (update : s.flowController.updateHighestReceived offset final conn = (none, fc, conn')) (isFinal : final = true) :
    fc.receivedFinalOffset = true := by
  have changed := StreamFlowController.updateHighestReceived_of_none offset final s.flowController conn (by rw [update])
  rw [update] at changed
  simp only [Prod.mk.injEq] at changed
  rw [changed.1]
  simp [isFinal]

theorem received_consistent (cons : Consistent s calls) (connOk : ConnectionConsistent conn)
    (update : s.flowController.updateHighestReceived offset final conn = (none, fc, conn'))
    (belowMax : offset < maxByteCount) :
    Consistent { s with flowController := fc, finalOffset := if final then offset else s.finalOffset } calls ∧
      ConnectionConsistent conn' ∧
      Advance s calls conn
        { s with flowController := fc, finalOffset := if final then offset else s.finalOffset } calls conn' ∧
      offset ≤ fc.highestReceived := by
  have noError := StreamFlowController.updateHighestReceived_errorCode offset final s.flowController conn
  rw [update] at noError
  unfold StreamFlowController.expectedError at noError
  have noFinalSize : ¬ StreamFlowController.FinalSizeViolation s.flowController offset final := by
    intro violation
    rw [if_pos violation] at noError
    cases noError
  have noFlow : ¬ StreamFlowController.FlowControlViolation s.flowController conn offset := by
    intro violation
    rw [if_neg noFinalSize, if_pos violation] at noError
    cases noError
  have changed := StreamFlowController.updateHighestReceived_of_none offset final s.flowController conn
    (by rw [update])
  rw [update] at changed
  simp only [Prod.mk.injEq] at changed
  obtain ⟨fcEq, connEq⟩ := changed
  have fcHighest : fc.highestReceived = max s.flowController.highestReceived offset := by rw [fcEq]
  have fcKnown : fc.receivedFinalOffset = (s.flowController.receivedFinalOffset || final) := by rw [fcEq]
  have fcRead : fc.bytesRead = s.flowController.bytesRead := by rw [fcEq]
  have fcWindow : fc.receiveWindow = s.flowController.receiveWindow := by rw [fcEq]
  have fcSize : fc.receiveWindowSize = s.flowController.receiveWindowSize := by rw [fcEq]
  have connHighest : conn'.highestReceived = conn.highestReceived + (offset - s.flowController.highestReceived) := by
    rw [connEq]
  have connRead : conn'.bytesRead = conn.bytesRead := by rw [connEq]
  have connWindowEq : conn'.receiveWindow = conn.receiveWindow := by rw [connEq]
  have connSize : conn'.receiveWindowSize = conn.receiveWindowSize := by rw [connEq]
  have keptIfKnown : s.flowController.receivedFinalOffset = true → fc.highestReceived = s.flowController.highestReceived :=
    fun known => fcHighest.trans (highestReceived_of_known known noFinalSize)
  have knownStays : s.flowController.receivedFinalOffset = true → fc.receivedFinalOffset = true := by
    intro known
    simp [fcKnown, known]
  have window : fc.highestReceived ≤ fc.receiveWindow := by
    have := cons.highestReceived_le
    rw [fcHighest, fcWindow]
    by_cases above : s.flowController.highestReceived < offset
    · have inWindow : ¬ s.flowController.receiveWindow < offset := fun past => noFlow ⟨above, .inl past⟩
      omega
    · omega
  have connWindow : conn'.highestReceived ≤ conn'.receiveWindow := by
    have := connOk.highestReceived_le
    rw [connHighest, connWindowEq]
    by_cases above : s.flowController.highestReceived < offset
    · have inWindow : ¬ conn.receiveWindow < conn.highestReceived + (offset - s.flowController.highestReceived) :=
        fun past => noFlow ⟨above, .inr past⟩
      omega
    · omega
  have creditEq : credit { s with flowController := fc, finalOffset := if final then offset else s.finalOffset } calls =
      s.credit calls := by
    unfold credit
    by_cases zero : calls = 0
    · simp [zero, fcRead]
    · -- a completed stream knows its final size, which keeps its highest offset
      have known := (cons.completed (by have := cons.completedCalls_le; omega)).1
      simp [zero, keptIfKnown known]
  refine ⟨⟨cons.readPosInFrame_le, fcRead ▸ cons.bytesRead_add_unread,
    cons.below.mono (fcHighest ▸ Nat.le_max_left _ _), window,
    fcHighest ▸ Nat.max_lt.mpr ⟨cons.highestReceived_lt, belowMax⟩, fcSize ▸ cons.windowSize_pos, ?_, ?_, ?_,
    cons.noShutdown, cons.completedCalls_le, ?_⟩,
    ⟨connWindow, connSize ▸ connOk.windowSize_pos⟩,
    ⟨by simp only; omega, by simp only [creditEq, connRead], fcWindow ▸ le_rfl, connWindowEq ▸ le_rfl,
      fun known => ⟨knownStays known, keptIfKnown known⟩⟩,
    fcHighest ▸ Nat.le_max_right _ _⟩
  · -- the final offset: set by a final frame, kept otherwise
    cases final with
    | true =>
        have notBelow : ¬ offset < s.flowController.highestReceived := fun below =>
          noFinalSize (.inr ⟨rfl, below⟩)
        refine .inr ⟨by simp [fcKnown], ?_⟩
        simp only [if_true, fcHighest]
        omega
    | false =>
        rcases cons.finalOffset_eq with ⟨unknown, unset⟩ | ⟨known, isHighest⟩
        · exact .inl ⟨by simpa [fcKnown] using unknown, unset⟩
        · exact .inr ⟨knownStays known, by simpa [keptIfKnown known] using isHighest⟩
  · intro last
    obtain ⟨known, below⟩ := cons.last last
    exact ⟨knownStays known, by simpa [keptIfKnown known] using below⟩
  · intro finished
    obtain ⟨known, allRead⟩ := cons.finRead finished
    exact ⟨knownStays known, by simpa [keptIfKnown known, fcRead] using allRead⟩
  · intro one
    obtain ⟨known, stopped⟩ := cons.completed one
    exact ⟨knownStays known, stopped⟩

end Received

/-! ## Pushing, cancelling, resetting and completing -/

section Local

variable {s : ReceiveStream γ} {calls : Nat} {conn : ConnectionFlowController}

theorem pushed_consistent {data : List UInt8} {offset : Nat} {doneCb : Option γ}
    {q : FrameSorter UInt8 γ} (cons : Consistent s calls)
    (run : FrameSorter.Push data offset doneCb s.frameQueue = .ok () q)
    (fits : offset + data.length ≤ s.flowController.highestReceived) :
    Consistent { s with frameQueue := q } calls := by
  have leaves := FrameSorter.Push_leaves (by rw [run]; rfl : (FrameSorter.Push data offset doneCb s.frameQueue).state? = some q)
  have samePos := leaves.readPos_eq
  exact ⟨cons.readPosInFrame_le, samePos ▸ cons.bytesRead_add_unread, leaves.below cons.below fits,
    cons.highestReceived_le, cons.highestReceived_lt, cons.windowSize_pos, cons.finalOffset_eq,
    fun last => samePos ▸ cons.last last, cons.finRead, cons.noShutdown, cons.completedCalls_le,
    cons.completed⟩

theorem cancelled_consistent (cons : Consistent s calls) (err : StreamError) :
    Consistent { s with cancelReadErr := some err } calls :=
  ⟨cons.readPosInFrame_le, cons.bytesRead_add_unread, cons.below, cons.highestReceived_le,
    cons.highestReceived_lt, cons.windowSize_pos, cons.finalOffset_eq, cons.last, cons.finRead,
    cons.noShutdown, cons.completedCalls_le,
    fun one => ⟨(cons.completed one).1, .inr (.inl rfl)⟩⟩

theorem reset_consistent (cons : Consistent s calls) (err : StreamError) :
    Consistent { s with resetRemotelyErr := some err } calls :=
  ⟨cons.readPosInFrame_le, cons.bytesRead_add_unread, cons.below, cons.highestReceived_le,
    cons.highestReceived_lt, cons.windowSize_pos, cons.finalOffset_eq, cons.last, cons.finRead,
    cons.noShutdown, cons.completedCalls_le,
    fun one => ⟨(cons.completed one).1, .inr (.inr rfl)⟩⟩

theorem abandoned_consistent (cons : Consistent s 0) (connOk : ConnectionConsistent conn)
    (known : s.flowController.receivedFinalOffset = true)
    (stopped : s.cancelReadErr.isSome = true ∨ s.resetRemotelyErr.isSome = true) :
    Consistent s 1 ∧ ConnectionConsistent (s.flowController.abandon conn) ∧
      Advance s 0 conn s 1 (s.flowController.abandon conn) := by
  obtain ⟨sameHighest, sameWindow, sameSize⟩ := StreamFlowController.abandon_counters s.flowController conn
  have abandonedRead := StreamFlowController.bytesRead_abandon s.flowController conn
  have readLe := cons.bytesRead_le
  refine ⟨⟨cons.readPosInFrame_le, cons.bytesRead_add_unread, cons.below, cons.highestReceived_le,
      cons.highestReceived_lt, cons.windowSize_pos, cons.finalOffset_eq, cons.last, cons.finRead,
      cons.noShutdown, le_rfl, fun _ => ⟨known, .inr stopped⟩⟩,
    ⟨sameHighest ▸ sameWindow ▸ connOk.highestReceived_le, sameSize ▸ connOk.windowSize_pos⟩,
    ⟨by rw [sameHighest], ?_, le_rfl, sameWindow ▸ le_rfl, fun known => ⟨known, rfl⟩⟩⟩
  have creditZero : s.credit 0 = s.flowController.bytesRead := rfl
  have creditOne : s.credit 1 = s.flowController.highestReceived := rfl
  rw [creditZero, creditOne, abandonedRead]
  omega

end Local

/-! ## Reading -/

section Reading

variable {s : ReceiveStream γ} {conn : ConnectionFlowController}

theorem dequeued_consistent {s' : ReceiveStream γ} (cons : Consistent s 0) (usedUp : s.unread = 0)
    (run : dequeueNextFrame s = .ok () s') :
    Consistent s' 0 ∧ s'.flowController = s.flowController ∧ s'.finRead = s.finRead := by
  obtain ⟨offset, data, done, popped, sEq⟩ := dequeueNextFrame_ok run
  have sameFlow : s'.flowController = s.flowController := by rw [sEq]
  have sameFinal : s'.finalOffset = s.finalOffset := by rw [sEq]
  have sameFin : s'.finRead = s.finRead := by rw [sEq]
  have frameEq : s'.currentFrame = data := by rw [sEq]
  have posZero : s'.readPosInFrame = 0 := by rw [sEq]
  have lastEq : s'.currentFrameIsLast = decide (s.finalOffset ≤ offset + (data.getD []).length) := by rw [sEq]
  have readPosEq : s'.frameQueue.readPos = offset + (data.getD []).length := by
    obtain ⟨rfl, ⟨rfl, same⟩ | ⟨entry, -, rfl, queueEq⟩⟩ := FrameSorter.pop_ok popped
    · simp [same]
    · simp [queueEq]
  have offsetEq : offset = s.frameQueue.readPos := (FrameSorter.pop_ok popped).1
  have below := FrameSorter.pop_below cons.below popped
  have readLe : s.flowController.bytesRead = s.frameQueue.readPos := by
    have := cons.bytesRead_add_unread
    omega
  refine ⟨⟨fun _ => by simp [posZero], ?_, sameFlow ▸ below, sameFlow ▸ cons.highestReceived_le,
    sameFlow ▸ cons.highestReceived_lt, sameFlow ▸ cons.windowSize_pos, sameFlow ▸ sameFinal ▸ cons.finalOffset_eq,
    ?_, fun finished => sameFlow ▸ cons.finRead (sameFin ▸ finished), sEq ▸ cons.noShutdown, Nat.zero_le _,
    fun one => by cases one⟩, sameFlow, sameFin⟩
  · simp only [unread, frameLen, frameEq, posZero, sameFlow, readPosEq, readLe, offsetEq, Nat.sub_zero]
  · -- a last frame ends at the final offset, which is then known
    intro last
    rw [lastEq, decide_eq_true_iff] at last
    have reached : s.finalOffset ≤ s.frameQueue.readPos + (data.getD []).length := offsetEq ▸ last
    have held := below.readPos_le
    rw [readPosEq, offsetEq] at held
    have known := cons.known_of_finalOffset_ne (by have := cons.highestReceived_lt; omega)
    rcases cons.finalOffset_eq with ⟨unknown, -⟩ | ⟨-, isHighest⟩
    · rw [known] at unknown
      cases unknown
    · rw [sameFlow, readPosEq, offsetEq]
      exact ⟨known, isHighest ▸ reached⟩

theorem copied_consistent {m : Nat} (cons : Consistent s 0) (connOk : ConnectionConsistent conn)
    (notFinished : s.finRead = false) (fits : m ≤ s.unread) :
    Consistent (afterCopy m s conn) 0 ∧ ConnectionConsistent (conn.addBytesRead m) ∧
      Advance s 0 conn (afterCopy m s conn) 0 (conn.addBytesRead m) := by
  unfold unread frameLen at fits
  have posLe := cons.readPosInFrame_le notFinished
  unfold frameLen at posLe
  refine ⟨⟨fun _ => by simp [frameLen]; omega, ?_, by simpa using cons.below, by simpa using cons.highestReceived_le,
      by simpa using cons.highestReceived_lt, by simpa using cons.windowSize_pos,
      by simpa using cons.finalOffset_eq, fun last => by simpa using cons.last last,
      fun finished => by simp [notFinished] at finished, cons.noShutdown, Nat.zero_le _,
      fun one => by cases one⟩,
    ⟨by simpa using connOk.highestReceived_le, by simpa using connOk.windowSize_pos⟩,
    ⟨by simp, ?_, by simp, by simp, fun known => ⟨by simpa using known, by simp⟩⟩⟩
  · have := cons.bytesRead_add_unread
    simp only [unread, frameLen] at this
    simp only [afterCopy, unread, frameLen, StreamFlowController.addBytesRead_fst,
      BaseFlowController.bytesRead_addBytesRead]
    omega
  · simp only [credit, if_true, afterCopy, StreamFlowController.addBytesRead_fst,
      BaseFlowController.bytesRead_addBytesRead, ConnectionFlowController.addBytesRead,
      BaseFlowController.bytesRead_addBytesRead]
    omega

theorem finished_consistent (conn : ConnectionFlowController) (cons : Consistent s 0) (usedUp : s.frameLen ≤ s.readPosInFrame)
    (last : s.currentFrameIsLast = true) (released : List γ) :
    Consistent { s with finRead := true, currentFrame := none, released := released } 1 ∧
      Advance s 0 conn { s with finRead := true, currentFrame := none, released := released } 1 conn := by
  obtain ⟨known, reached⟩ := cons.last last
  have allRead : s.flowController.bytesRead = s.flowController.highestReceived := by
    have := cons.bytesRead_add_unread
    have := cons.below.readPos_le
    unfold unread at *
    omega
  refine ⟨⟨fun notFinished => (by cases notFinished), (by have sum := cons.bytesRead_add_unread; unfold unread at sum; simp [unread, frameLen]; omega),
      cons.below, cons.highestReceived_le, cons.highestReceived_lt, cons.windowSize_pos, cons.finalOffset_eq,
      cons.last, fun _ => ⟨known, allRead⟩, cons.noShutdown, le_rfl, fun _ => ⟨known, .inl rfl⟩⟩,
    ⟨rfl, ?_, le_rfl, le_rfl, fun known => ⟨known, rfl⟩⟩⟩
  show conn.bytesRead + s.flowController.bytesRead = conn.bytesRead + s.flowController.highestReceived
  rw [allRead]

/-- Whether a pass of the copy loop completed the stream. -/
def ReadStep.completed : ReadStep → Bool
  | .stop outcome => outcome.completed
  | .next _ => false

theorem readStep_consistent {p bytesRead : Nat} {r : ReadStep} {t : ReceiveStream γ × ConnectionFlowController}
    (cons : Consistent s 0) (connOk : ConnectionConsistent conn) (notFinished : s.finRead = false)
    (run : readStep p bytesRead (s, conn) = .ok r t) :
    Consistent t.1 (completions r.completed) ∧ ConnectionConsistent t.2 ∧
      Advance s 0 conn t.1 (completions r.completed) t.2 ∧ (r.completed = false → t.1.finRead = false) := by
  obtain ⟨s₁, dequeued, rest⟩ := readStep_ok run
  change dequeueIfDone s = .ok () s₁ at dequeued
  obtain ⟨cons₁, sameFlow, sameFin⟩ : Consistent s₁ 0 ∧ s₁.flowController = s.flowController ∧
      s₁.finRead = s.finRead := by
    rcases dequeueIfDone_ok dequeued with ⟨needed, popped⟩ | ⟨-, rfl⟩
    · refine dequeued_consistent cons ?_ popped
      unfold unread
      rcases needed with noFrame | usedUp
      · simp [frameLen, Option.isNone_iff_eq_none.mp noFrame]
      · omega
    · exact ⟨cons, rfl, rfl⟩
  rcases rest with stopped | ⟨passed, copied⟩
  · -- a return before the copy: only the pop happened
    obtain ⟨outcome, checks, rfl, rfl⟩ := stopped
    have notCompleted : (ReadStep.stop outcome).completed = false := readChecks_completed checks
    rw [notCompleted]
    exact ⟨cons₁, connOk, Advance.of_same sameFlow, fun _ => sameFin.trans notFinished⟩
  · obtain ⟨-, -, noReset, -, -, -⟩ := readChecks_eq_none passed
    have notFinished₁ : s₁.finRead = false := sameFin.trans notFinished
    have fits : copyLen p bytesRead s₁ ≤ s₁.unread := Nat.min_le_right _ _
    obtain ⟨consCopied, connCopied, advanceCopied⟩ := copied_consistent cons₁ connOk notFinished₁ fits
    have advance₁ : Advance s 0 conn s₁ 0 conn := Advance.of_same sameFlow
    rcases copyFromFrame_ok noReset copied with ⟨usedUp, last, rfl, rfl⟩ | ⟨-, rfl, rfl⟩
    · -- the copy reached the end of the last frame
      obtain ⟨consDone, advanceDone⟩ := finished_consistent (conn.addBytesRead (copyLen p bytesRead s₁))
        consCopied (by simpa [frameLen] using usedUp) (by simpa using last) (s₁.released ++ s₁.currentFrameDone.toList)
      exact ⟨consDone, connCopied, advance₁.trans (advanceCopied.trans advanceDone), fun notDone => by cases notDone⟩
    · exact ⟨consCopied, connCopied, advance₁.trans advanceCopied, fun _ => by simpa using notFinished₁⟩

theorem readLoop_consistent {p bytesRead : Nat} {sc t : ReceiveStream γ × ConnectionFlowController}
    {outcome : ReadOutcome} (cons : Consistent sc.1 0) (connOk : ConnectionConsistent sc.2)
    (notFinished : sc.1.finRead = false) (run : readLoop p bytesRead sc = .ok outcome t) :
    Consistent t.1 (completions outcome.completed) ∧ ConnectionConsistent t.2 ∧
      Advance sc.1 0 sc.2 t.1 (completions outcome.completed) t.2 := by
  induction bytesRead, sc using readLoop.induct p with
  | case1 bytesRead sc more outcome' t' step =>
      rw [readLoop_of_stop more step] at run
      cases run
      obtain ⟨consT, connT, advance, -⟩ := readStep_consistent cons connOk notFinished step
      exact ⟨consT, connT, advance⟩
  | case2 bytesRead sc more b t' step ih =>
      rw [readLoop_of_next more step] at run
      obtain ⟨consT, connT, advance, stillReading⟩ := readStep_consistent cons connOk notFinished step
      obtain ⟨consU, connU, advanceU⟩ := ih consT connT (stillReading rfl) run
      exact ⟨consU, connU, advance.trans advanceU⟩
  | case3 bytesRead sc more e t' step =>
      rw [readLoop_of_error more step] at run
      cases run
  | case4 bytesRead sc more m step =>
      rw [readLoop_of_panic more step] at run
      cases run
  | case5 bytesRead sc done =>
      rw [readLoop_of_done done] at run
      cases run
      exact ⟨cons, connOk, .refl _ _ _⟩

end Reading

/-! ## Every call on a stream -/

section Calls

variable {s : ReceiveStream γ} {calls : Nat} {conn : ConnectionFlowController}

/-- What a call on a stream keeps, with the completions it reports. -/
def Keeps (s : ReceiveStream γ) (calls : Nat) (conn : ConnectionFlowController) (completed : Bool)
    (s' : ReceiveStream γ) (conn' : ConnectionFlowController) : Prop :=
  Consistent s' (calls + completions completed) ∧ ConnectionConsistent conn' ∧
    Advance s calls conn s' (calls + completions completed) conn'

theorem keeps_refl (cons : Consistent s calls) (connOk : ConnectionConsistent conn) :
    Keeps s calls conn false s conn :=
  ⟨cons, connOk, .refl _ _ _⟩

theorem readImpl_keeps {p : Nat} {outcome : ReadOutcome} {t : ReceiveStream γ × ConnectionFlowController}
    (cons : Consistent s calls) (connOk : ConnectionConsistent conn) (run : readImpl p (s, conn) = .ok outcome t) :
    Keeps s calls conn outcome.completed t.1 t.2 := by
  rcases readImpl_ok run with ⟨rfl, err, rfl⟩ | ⟨notFinished, noCancel, noReset, -, loop⟩
  · exact keeps_refl cons connOk
  have zero : calls = 0 := cons.calls_eq_zero (by simp [notFinished, noCancel, noReset])
  subst zero
  obtain ⟨consT, connT, advance⟩ := @readLoop_consistent _ _ _ (s, conn) _ _ cons connOk notFinished loop
  exact ⟨by simpa using consT, connT, by simpa using advance⟩

theorem cancelRead_keeps {errorCode : Nat} {completed : Bool} {s' : ReceiveStream γ}
    {conn' : ConnectionFlowController} (cons : Consistent s calls) (connOk : ConnectionConsistent conn)
    (run : cancelRead errorCode (s, conn) = (completed, s', conn')) : Keeps s calls conn completed s' conn' := by
  unfold cancelRead cancelReadImpl at run
  by_cases stopped : s.finRead = true ∨ s.cancelReadErr.isSome = true ∨ s.resetRemotelyErr.isSome = true
  · rw [if_pos stopped] at run
    simp only [Prod.mk.injEq, Bool.false_eq_true, if_false] at run
    obtain ⟨rfl, rfl, rfl⟩ := run
    exact keeps_refl cons connOk
  rw [if_neg stopped] at run
  dsimp only at run
  have zero : calls = 0 := cons.calls_eq_zero stopped
  subst zero
  have cancelled := cancelled_consistent cons ⟨s.streamID, errorCode, false⟩
  have advanceCancel : Advance s 0 conn { s with cancelReadErr := some ⟨s.streamID, errorCode, false⟩ } 0 conn :=
    .of_same rfl
  by_cases known : s.finalOffset = maxByteCount
  · have notCompleted : decide (s.finalOffset ≠ maxByteCount) = false := by simp [known]
    rw [notCompleted] at run
    simp only [Prod.mk.injEq, Bool.false_eq_true, if_false] at run
    obtain ⟨rfl, rfl, rfl⟩ := run
    exact ⟨cancelled, connOk, advanceCancel⟩
  · -- the final size is known: the stream is complete and abandoned
    have isCompleted : decide (s.finalOffset ≠ maxByteCount) = true := by simp [known]
    rw [isCompleted] at run
    simp only [Prod.mk.injEq, if_true] at run
    obtain ⟨rfl, rfl, rfl⟩ := run
    obtain ⟨consDone, connDone, advanceDone⟩ := abandoned_consistent cancelled connOk
      (cons.known_of_finalOffset_ne known) (.inl rfl)
    exact ⟨consDone, connDone, advanceCancel.trans advanceDone⟩

theorem keeps_abandonIfCompleted {completed : Bool} {s₁ : ReceiveStream γ} {conn₁ : ConnectionFlowController}
    (kept : Keeps s calls conn false s₁ conn₁)
    (completes : completed = true → calls = 0 ∧ s₁.flowController.receivedFinalOffset = true ∧
      (s₁.cancelReadErr.isSome = true ∨ s₁.resetRemotelyErr.isSome = true)) :
    Keeps s calls conn completed s₁ (if completed then s₁.flowController.abandon conn₁ else conn₁) := by
  obtain ⟨cons₁, conn₁Ok, advance₁⟩ := kept
  cases completed with
  | false => exact ⟨cons₁, conn₁Ok, advance₁⟩
  | true =>
      obtain ⟨rfl, known, stopped⟩ := completes rfl
      obtain ⟨consDone, connDone, advanceDone⟩ := abandoned_consistent cons₁ conn₁Ok known stopped
      exact ⟨consDone, connDone, advance₁.trans advanceDone⟩

theorem handleStreamFrame_keeps {frame : StreamFrame} {putBack : γ} {completed : Bool}
    {t : ReceiveStream γ × ConnectionFlowController} (cons : Consistent s calls) (connOk : ConnectionConsistent conn)
    (belowMax : frame.offset + frame.dataLen < maxByteCount)
    (run : handleStreamFrame frame putBack (s, conn) = .ok (completed, none) t) :
    Keeps s calls conn completed t.1 t.2 := by
  obtain ⟨t₀, impl, rfl⟩ := abandonIfCompleted_ok run
  obtain ⟨fc, conn', update, connEq, dropped | pushed⟩ := handleStreamFrameImpl_ok impl
  all_goals
    obtain ⟨consR, connR, advanceR, covered⟩ := received_consistent cons connOk update belowMax
  · -- a cancelled stream drops the data; a new final size completes it
    obtain ⟨cancelled, completedEq, sEq⟩ := dropped
    rw [sEq, connEq]
    refine keeps_abandonIfCompleted ⟨consR, connR, advanceR⟩ fun isCompleted => ?_
    rw [isCompleted, eq_comm] at completedEq
    simp only [Bool.and_eq_true, beq_iff_eq] at completedEq
    obtain ⟨isFinal, unset⟩ := completedEq
    exact ⟨(cons.unset_finalOffset unset).2, known_of_final update isFinal, .inl cancelled⟩
  · -- a pushed frame ends below the highest offset received
    obtain ⟨-, rfl, q, push, sEq⟩ := pushed
    rw [sEq, connEq]
    have consP := pushed_consistent consR push covered
    exact ⟨consP, connR, advanceR.trans (.of_same rfl)⟩

theorem handleResetStreamFrame_keeps {frame : ResetStreamFrame} {completed : Bool}
    {t : ReceiveStream γ × ConnectionFlowController} (cons : Consistent s calls) (connOk : ConnectionConsistent conn)
    (belowMax : frame.finalSize < maxByteCount)
    (run : handleResetStreamFrame frame (s, conn) = .ok (completed, none) t) :
    Keeps s calls conn completed t.1 t.2 := by
  obtain ⟨t₀, impl, rfl⟩ := abandonIfCompleted_ok run
  obtain ⟨fc, conn', update, connEq, duplicate | first⟩ := handleResetStreamFrameImpl_ok cons.noShutdown impl
  all_goals
    obtain ⟨consR, connR, advanceR, -⟩ := received_consistent cons connOk update belowMax
  · obtain ⟨-, rfl, sEq⟩ := duplicate
    rw [sEq, connEq]
    exact ⟨consR, connR, advanceR⟩
  · -- the first RESET_STREAM: the stream is reset, and complete if the final size is new
    obtain ⟨-, completedEq, sEq⟩ := first
    rw [sEq, connEq]
    have consReset := reset_consistent consR ⟨s.streamID, frame.errorCode, true⟩
    refine keeps_abandonIfCompleted ⟨consReset, connR, advanceR.trans (.of_same rfl)⟩ fun isCompleted => ?_
    rw [isCompleted, eq_comm, beq_iff_eq] at completedEq
    exact ⟨(cons.unset_finalOffset completedEq).2, known_of_final update rfl, .inr rfl⟩

theorem getWindowUpdate_keeps {timing : EpochTiming} {allowConnectionIncrease : Nat → Bool} {offset : Nat}
    {s' : ReceiveStream γ} {conn' : ConnectionFlowController} (cons : Consistent s calls)
    (connOk : ConnectionConsistent conn)
    (run : getWindowUpdate timing allowConnectionIncrease (s, conn) = (offset, s', conn')) :
    Keeps s calls conn false s' conn' ∧
      (offset = 0 ∨ s.flowController.receiveWindow < offset ∧ s'.flowController.receiveWindow = offset) := by
  unfold getWindowUpdate at run
  generalize update : s.flowController.getWindowUpdate timing allowConnectionIncrease conn = r at run
  obtain ⟨offset', fc, conn''⟩ := r
  simp only [Prod.mk.injEq] at run
  obtain ⟨rfl, rfl, rfl⟩ := run
  obtain ⟨-, sameKnown, grows, connGrows, unchanged | moved⟩ :=
    StreamFlowController.getWindowUpdate_spec s.flowController conn timing allowConnectionIncrease update
  all_goals
    have consW : Consistent { s with flowController := fc } calls :=
      ⟨cons.readPosInFrame_le, grows.bytesRead_eq ▸ cons.bytesRead_add_unread,
        grows.highestReceived_eq ▸ cons.below,
        grows.highestReceived_eq ▸ Nat.le_trans cons.highestReceived_le grows.receiveWindow_le,
        grows.highestReceived_eq ▸ cons.highestReceived_lt,
        Nat.lt_of_lt_of_le cons.windowSize_pos grows.receiveWindowSize_le,
        sameKnown ▸ grows.highestReceived_eq ▸ cons.finalOffset_eq,
        fun last => sameKnown ▸ grows.highestReceived_eq ▸ cons.last last,
        fun finished => sameKnown ▸ grows.highestReceived_eq ▸ grows.bytesRead_eq ▸ cons.finRead finished,
        cons.noShutdown, cons.completedCalls_le,
        fun one => sameKnown ▸ cons.completed one⟩
    have connW : ConnectionConsistent conn'' := connOk.of_grows connGrows
    have advanceW : Advance s calls conn { s with flowController := fc } calls conn'' :=
      ⟨by simp [connGrows.highestReceived_eq, grows.highestReceived_eq],
        by simp [credit, connGrows.bytesRead_eq, grows.bytesRead_eq, grows.highestReceived_eq],
        grows.receiveWindow_le, connGrows.receiveWindow_le,
        fun known => ⟨sameKnown ▸ known, grows.highestReceived_eq⟩⟩
  · exact ⟨⟨consW, connW, advanceW⟩, .inl unchanged.1⟩
  · exact ⟨⟨consW, connW, advanceW⟩, .inr ⟨moved.1 cons.windowSize_pos, moved.2⟩⟩

end Calls

end ReceiveStream

end QuicFec
