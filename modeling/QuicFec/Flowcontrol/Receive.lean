import QuicFec.Protocol

/-! # Receive-side flow control

`internal/flowcontrol`: the receive half of `baseFlowController`, of the
stream flow controller and of the connection flow controller it reports to.
A controller counts the bytes the application has read (`bytesRead`) and the
highest offset the peer has sent (`highestReceived`), and advertises a
`receiveWindow` the peer must stay below; `GetWindowUpdate` moves the window
up once most of it is consumed, growing its size when the application reads
fast (auto-tuning).

Go returns errors as values and keeps the changes a call made before it
failed; the functions here return the error next to the new controllers.

Auto-tuning compares the time an epoch took with the smoothed RTT.  Neither
the clock nor the RTT estimator is modeled: each `GetWindowUpdate` is told what
`maybeAdjustWindowSize` would find (`EpochTiming`), and what the connection's
`allowWindowIncrease` callback answers.  The float products of the Go code
(`size * (1 - WindowUpdateThreshold)` with `WindowUpdateThreshold = 0.25`, and
`size * ConnectionFlowControlMultiplier` with `1.5`) are exact for windows
below `2^51` bytes and are taken as `3 * size / 4` and `3 * size / 2`. -/
set_option autoImplicit false

namespace QuicFec.Flowcontrol

/-- The `qerr.TransportErrorCode`s flow control returns. -/
inductive TransportErrorCode where
  | flowControlError
  | finalSizeError
deriving DecidableEq, Repr

structure TransportError where
  errorCode : TransportErrorCode
  errorMessage : String
deriving DecidableEq, Repr

/-- What `maybeAdjustWindowSize` finds when it looks at the clock. -/
inductive EpochTiming where
  /-- `rttStats.SmoothedRTT()` is zero. -/
  | noRTT
  /-- The epoch took at least `4 * fraction * rtt`. -/
  | slow
  /-- The epoch took less: the application reads fast. -/
  | fast
deriving DecidableEq, Repr

/-- The receive side of `baseFlowController`. -/
structure BaseFlowController where
  bytesRead : Nat
  highestReceived : Nat
  receiveWindow : Nat
  receiveWindowSize : Nat
  maxReceiveWindowSize : Nat
  epochStartOffset : Nat
deriving DecidableEq, Repr

namespace BaseFlowController

def startNewAutoTuningEpoch (c : BaseFlowController) : BaseFlowController :=
  { c with epochStartOffset := c.bytesRead }

def addBytesRead (n : Nat) (c : BaseFlowController) : BaseFlowController :=
  let c := if c.bytesRead = 0 then c.startNewAutoTuningEpoch else c
  { c with bytesRead := c.bytesRead + n }

@[simp] theorem bytesRead_addBytesRead (n : Nat) (c : BaseFlowController) :
    (c.addBytesRead n).bytesRead = c.bytesRead + n := by
  unfold addBytesRead
  split_ifs <;> rfl

@[simp] theorem highestReceived_addBytesRead (n : Nat) (c : BaseFlowController) :
    (c.addBytesRead n).highestReceived = c.highestReceived := by
  unfold addBytesRead
  split_ifs <;> rfl

@[simp] theorem receiveWindow_addBytesRead (n : Nat) (c : BaseFlowController) :
    (c.addBytesRead n).receiveWindow = c.receiveWindow := by
  unfold addBytesRead
  split_ifs <;> rfl

@[simp] theorem receiveWindowSize_addBytesRead (n : Nat) (c : BaseFlowController) :
    (c.addBytesRead n).receiveWindowSize = c.receiveWindowSize := by
  unfold addBytesRead
  split_ifs <;> rfl

/-- `hasWindowUpdate`: at most three quarters of the window size are left. -/
def hasWindowUpdate (c : BaseFlowController) : Bool :=
  decide (c.receiveWindow - c.bytesRead ≤ c.receiveWindowSize * 3 / 4)

/-- `maybeAdjustWindowSize`: double the window size, up to its maximum, when
more than half of it was read in an epoch that took less than four RTTs per
window. -/
def maybeAdjustWindowSize (timing : EpochTiming) (allowWindowIncrease : Nat → Bool)
    (c : BaseFlowController) : BaseFlowController :=
  let bytesReadInEpoch := c.bytesRead - c.epochStartOffset
  if bytesReadInEpoch ≤ c.receiveWindowSize / 2 then c
  else
    match timing with
    | .noRTT => c
    | .slow => c.startNewAutoTuningEpoch
    | .fast =>
        let newSize := min (2 * c.receiveWindowSize) c.maxReceiveWindowSize
        let c :=
          if newSize > c.receiveWindowSize ∧ allowWindowIncrease (newSize - c.receiveWindowSize) = true then
            { c with receiveWindowSize := newSize }
          else c
        c.startNewAutoTuningEpoch

/-- `getWindowUpdate`: the new window, or 0 when none is due. -/
def getWindowUpdate (timing : EpochTiming) (allowWindowIncrease : Nat → Bool)
    (c : BaseFlowController) : Nat × BaseFlowController :=
  if !c.hasWindowUpdate then (0, c)
  else
    let c := c.maybeAdjustWindowSize timing allowWindowIncrease
    let c := { c with receiveWindow := c.bytesRead + c.receiveWindowSize }
    (c.receiveWindow, c)

def checkFlowControlViolation (c : BaseFlowController) : Bool :=
  decide (c.highestReceived > c.receiveWindow)

/-! ### Window updates only move the window up -/

/-- What window updates and auto-tuning do to a controller: the counters stay,
the window and its size only grow. -/
structure Grows (c c' : BaseFlowController) : Prop where
  bytesRead_eq : c'.bytesRead = c.bytesRead
  highestReceived_eq : c'.highestReceived = c.highestReceived
  receiveWindow_le : c.receiveWindow ≤ c'.receiveWindow
  receiveWindowSize_le : c.receiveWindowSize ≤ c'.receiveWindowSize

@[refl] theorem Grows.refl (c : BaseFlowController) : Grows c c := ⟨rfl, rfl, le_rfl, le_rfl⟩

@[trans] theorem Grows.trans {c₁ c₂ c₃ : BaseFlowController} (first : Grows c₁ c₂) (second : Grows c₂ c₃) :
    Grows c₁ c₃ :=
  ⟨second.bytesRead_eq.trans first.bytesRead_eq, second.highestReceived_eq.trans first.highestReceived_eq,
    Nat.le_trans first.receiveWindow_le second.receiveWindow_le,
    Nat.le_trans first.receiveWindowSize_le second.receiveWindowSize_le⟩

theorem grows_startNewAutoTuningEpoch (c : BaseFlowController) : Grows c c.startNewAutoTuningEpoch :=
  ⟨rfl, rfl, le_rfl, le_rfl⟩

theorem grows_maybeAdjustWindowSize (timing : EpochTiming) (allowWindowIncrease : Nat → Bool)
    (c : BaseFlowController) :
    Grows c (c.maybeAdjustWindowSize timing allowWindowIncrease) ∧
      (c.maybeAdjustWindowSize timing allowWindowIncrease).receiveWindow = c.receiveWindow := by
  simp only [maybeAdjustWindowSize]
  by_cases slow : c.bytesRead - c.epochStartOffset ≤ c.receiveWindowSize / 2
  · rw [if_pos slow]
    exact ⟨.refl c, rfl⟩
  rw [if_neg slow]
  cases timing with
  | noRTT => exact ⟨.refl c, rfl⟩
  | slow => exact ⟨grows_startNewAutoTuningEpoch c, rfl⟩
  | fast =>
      simp only
      split_ifs with increase
      · exact ⟨⟨rfl, rfl, le_rfl, Nat.le_of_lt increase.1⟩, rfl⟩
      · exact ⟨grows_startNewAutoTuningEpoch c, rfl⟩

theorem getWindowUpdate_spec (timing : EpochTiming) (allowWindowIncrease : Nat → Bool)
    (c : BaseFlowController) :
    Grows c (c.getWindowUpdate timing allowWindowIncrease).2 ∧
      ((c.getWindowUpdate timing allowWindowIncrease).1 = 0 ∧
          (c.getWindowUpdate timing allowWindowIncrease).2 = c ∨
        (0 < c.receiveWindowSize → c.receiveWindow < (c.getWindowUpdate timing allowWindowIncrease).1) ∧
          (c.getWindowUpdate timing allowWindowIncrease).2.receiveWindow =
            (c.getWindowUpdate timing allowWindowIncrease).1) := by
  unfold getWindowUpdate
  by_cases due : c.hasWindowUpdate = true
  · -- at most three quarters of the window size are left: the new window is a
    obtain ⟨grows, sameWindow⟩ := grows_maybeAdjustWindowSize timing allowWindowIncrease c
    have left : c.receiveWindow - c.bytesRead ≤ c.receiveWindowSize * 3 / 4 := by
      simpa [hasWindowUpdate] using due
    have larger := grows.receiveWindowSize_le
    have sameRead := grows.bytesRead_eq
    rw [if_neg (by simp [due])]
    refine ⟨⟨grows.bytesRead_eq, grows.highestReceived_eq, ?_, larger⟩, .inr ⟨fun positive => ?_, rfl⟩⟩
    · show c.receiveWindow ≤ _ + _
      omega
    · show c.receiveWindow < _ + _
      omega
  · rw [if_pos (by simpa using due)]
    exact ⟨.refl c, .inl ⟨rfl, rfl⟩⟩

end BaseFlowController

structure ConnectionFlowController extends BaseFlowController
deriving DecidableEq, Repr

namespace ConnectionFlowController

/-- `NewConnectionFlowController`: nothing read or received yet, the window one
window size. -/
def newConnectionFlowController (receiveWindow maxReceiveWindow : Nat) : ConnectionFlowController where
  bytesRead := 0
  highestReceived := 0
  receiveWindow := receiveWindow
  receiveWindowSize := receiveWindow
  maxReceiveWindowSize := maxReceiveWindow
  epochStartOffset := 0

def incrementHighestReceived (increment : Nat) (c : ConnectionFlowController) :
    Option TransportError × ConnectionFlowController :=
  let c := { c with highestReceived := c.highestReceived + increment }
  if c.checkFlowControlViolation then
    let received := c.highestReceived
    let allowed := c.receiveWindow
    (some ⟨.flowControlError, s!"received {received} bytes for the connection, allowed {allowed} bytes"⟩, c)
  else (none, c)

def addBytesRead (n : Nat) (c : ConnectionFlowController) : ConnectionFlowController :=
  { c with toBaseFlowController := c.toBaseFlowController.addBytesRead n }

def getWindowUpdate (timing : EpochTiming) (allowWindowIncrease : Nat → Bool)
    (c : ConnectionFlowController) : Nat × ConnectionFlowController :=
  let (offset, base) := c.toBaseFlowController.getWindowUpdate timing allowWindowIncrease
  (offset, { c with toBaseFlowController := base })

def ensureMinimumWindowSize (inc : Nat) (allowWindowIncrease : Nat → Bool)
    (c : ConnectionFlowController) : ConnectionFlowController :=
  if inc > c.receiveWindowSize then
    let newSize := min inc c.maxReceiveWindowSize
    let c :=
      if newSize - c.receiveWindowSize > 0 ∧ allowWindowIncrease (newSize - c.receiveWindowSize) = true then
        { c with receiveWindowSize := newSize }
      else c
    { c with toBaseFlowController := c.toBaseFlowController.startNewAutoTuningEpoch }
  else c

theorem getWindowUpdate_toBaseFlowController (timing : EpochTiming) (allowWindowIncrease : Nat → Bool)
    (c : ConnectionFlowController) :
    (c.getWindowUpdate timing allowWindowIncrease).1 =
        (c.toBaseFlowController.getWindowUpdate timing allowWindowIncrease).1 ∧
      (c.getWindowUpdate timing allowWindowIncrease).2.toBaseFlowController =
        (c.toBaseFlowController.getWindowUpdate timing allowWindowIncrease).2 :=
  ⟨rfl, rfl⟩

theorem grows_ensureMinimumWindowSize (inc : Nat) (allowWindowIncrease : Nat → Bool)
    (c : ConnectionFlowController) :
    c.toBaseFlowController.Grows (c.ensureMinimumWindowSize inc allowWindowIncrease).toBaseFlowController := by
  simp only [ensureMinimumWindowSize]
  split_ifs with below allowed
  · have larger : c.receiveWindowSize ≤ min inc c.maxReceiveWindowSize := by omega
    exact ⟨rfl, rfl, Nat.le_refl _, larger⟩
  · exact BaseFlowController.grows_startNewAutoTuningEpoch _
  · exact .refl _

@[simp] theorem toBaseFlowController_addBytesRead (n : Nat) (c : ConnectionFlowController) :
    (c.addBytesRead n).toBaseFlowController = c.toBaseFlowController.addBytesRead n := rfl

end ConnectionFlowController

/-- `streamFlowController`; its `connection` is passed to each call. -/
structure StreamFlowController extends BaseFlowController where
  streamID : Nat
  receivedFinalOffset : Bool
deriving DecidableEq, Repr

namespace StreamFlowController

def newStreamFlowController (streamID receiveWindow maxReceiveWindow : Nat) : StreamFlowController where
  bytesRead := 0
  highestReceived := 0
  receiveWindow := receiveWindow
  receiveWindowSize := receiveWindow
  maxReceiveWindowSize := maxReceiveWindow
  epochStartOffset := 0
  streamID := streamID
  receivedFinalOffset := false

/-- `UpdateHighestReceived`: a final size differing from a known one, data past
a known final size, or a final size below data already received is a
FINAL_SIZE_ERROR; new data past the stream's window, or past the connection's,
is a FLOW_CONTROL_ERROR. -/
def updateHighestReceived (offset : Nat) (final : Bool) (c : StreamFlowController)
    (conn : ConnectionFlowController) :
    Option TransportError × StreamFlowController × ConnectionFlowController :=
  let streamID := c.streamID
  let old := c.highestReceived
  if c.receivedFinalOffset ∧ final ∧ offset ≠ c.highestReceived then
    (some ⟨.finalSizeError,
      s!"received inconsistent final offset for stream {streamID} (old: {old}, new: {offset} bytes)"⟩,
      c, conn)
  else if c.receivedFinalOffset ∧ offset > c.highestReceived then
    (some ⟨.finalSizeError,
      s!"received offset {offset} for stream {streamID}, but final offset was already received at {old}"⟩,
      c, conn)
  else
    let c := if final then { c with receivedFinalOffset := true } else c
    if offset = c.highestReceived then (none, c, conn)
    else if offset ≤ c.highestReceived then
      if final then
        (some ⟨.finalSizeError,
          s!"received final offset {offset} for stream {streamID}, but already received offset {old} before"⟩,
          c, conn)
      else (none, c, conn)
    else
      let increment := offset - c.highestReceived
      let c := { c with highestReceived := offset }
      if c.checkFlowControlViolation then
        let allowed := c.receiveWindow
        (some ⟨.flowControlError, s!"received {offset} bytes on stream {streamID}, allowed {allowed} bytes"⟩,
          c, conn)
      else
        let (err, conn) := conn.incrementHighestReceived increment
        (err, c, conn)

def addBytesRead (n : Nat) (c : StreamFlowController) (conn : ConnectionFlowController) :
    StreamFlowController × ConnectionFlowController :=
  ({ c with toBaseFlowController := c.toBaseFlowController.addBytesRead n }, conn.addBytesRead n)

/-- `Abandon`: the bytes received and never read count as read for the
connection. -/
def abandon (c : StreamFlowController) (conn : ConnectionFlowController) : ConnectionFlowController :=
  let unread := c.highestReceived - c.bytesRead
  if unread > 0 then conn.addBytesRead unread else conn

/-- `GetWindowUpdate`: none once the final size is known.  A stream window that
auto-tuning enlarged makes the connection window at least one and a half times
as large. -/
def getWindowUpdate (timing : EpochTiming) (allowConnectionIncrease : Nat → Bool)
    (c : StreamFlowController) (conn : ConnectionFlowController) :
    Nat × StreamFlowController × ConnectionFlowController :=
  if c.receivedFinalOffset then (0, c, conn)
  else
    let oldWindowSize := c.receiveWindowSize
    -- a stream flow controller has no `allowWindowIncrease` callback
    let (offset, base) := c.toBaseFlowController.getWindowUpdate timing fun _ => true
    let c := { c with toBaseFlowController := base }
    let conn :=
      if c.receiveWindowSize > oldWindowSize then
        conn.ensureMinimumWindowSize (c.receiveWindowSize * 3 / 2) allowConnectionIncrease
      else conn
    (offset, c, conn)

/-! ## What `UpdateHighestReceived` rejects and changes -/

/-- The final-size errors: the final size is known and the frame states another
one or carries data past it, or the frame's final size is below data already
received. -/
def FinalSizeViolation (c : StreamFlowController) (offset : Nat) (final : Bool) : Prop :=
  (c.receivedFinalOffset = true ∧ (final = true ∧ offset ≠ c.highestReceived ∨ c.highestReceived < offset)) ∨
    (final = true ∧ offset < c.highestReceived)

instance (c : StreamFlowController) (offset : Nat) (final : Bool) :
    Decidable (FinalSizeViolation c offset final) :=
  inferInstanceAs (Decidable (_ ∨ _))

/-- The flow-control errors: new data past the stream's window, or an
increment that takes the connection past its window. -/
def FlowControlViolation (c : StreamFlowController) (conn : ConnectionFlowController) (offset : Nat) :
    Prop :=
  c.highestReceived < offset ∧
    (c.receiveWindow < offset ∨ conn.receiveWindow < conn.highestReceived + (offset - c.highestReceived))

instance (c : StreamFlowController) (conn : ConnectionFlowController) (offset : Nat) :
    Decidable (FlowControlViolation c conn offset) :=
  inferInstanceAs (Decidable (_ ∧ _))

/-- The error `UpdateHighestReceived` should return: final-size errors first. -/
def expectedError (c : StreamFlowController) (conn : ConnectionFlowController) (offset : Nat)
    (final : Bool) : Option TransportErrorCode :=
  if FinalSizeViolation c offset final then some .finalSizeError
  else if FlowControlViolation c conn offset then some .flowControlError
  else none

variable (offset : Nat) (final : Bool) (c : StreamFlowController) (conn : ConnectionFlowController)

theorem updateHighestReceived_errorCode :
    (c.updateHighestReceived offset final conn).1.map TransportError.errorCode =
      expectedError c conn offset final := by
  unfold expectedError
  simp only [updateHighestReceived]
  by_cases inconsistent : c.receivedFinalOffset = true ∧ final = true ∧ offset ≠ c.highestReceived
  · -- a second final size, different from the first
    have violation : FinalSizeViolation c offset final := .inl ⟨inconsistent.1, .inl inconsistent.2⟩
    rw [if_pos inconsistent, if_pos violation]
    rfl
  rw [if_neg inconsistent]
  by_cases pastFinal : c.receivedFinalOffset = true ∧ offset > c.highestReceived
  · -- data past the final size
    have violation : FinalSizeViolation c offset final := .inl ⟨pastFinal.1, .inr pastFinal.2⟩
    rw [if_pos pastFinal, if_pos violation]
    rfl
  rw [if_neg pastFinal]
  have sameHighest : (if final = true then { c with receivedFinalOffset := true } else c).highestReceived =
      c.highestReceived := by split_ifs <;> rfl
  have sameWindow : (if final = true then { c with receivedFinalOffset := true } else c).receiveWindow =
      c.receiveWindow := by split_ifs <;> rfl
  simp only [sameHighest, sameWindow, BaseFlowController.checkFlowControlViolation]
  by_cases above : c.highestReceived < offset
  · have unknown : c.receivedFinalOffset = false := by simpa [above] using pastFinal
    have noViolation : ¬ FinalSizeViolation c offset final := by
      simp [FinalSizeViolation, unknown]
      omega
    rw [if_neg (by omega), if_neg (by omega), if_neg noViolation]
    by_cases streamWindow : c.receiveWindow < offset
    · have flow : FlowControlViolation c conn offset := ⟨above, .inl streamWindow⟩
      rw [if_pos (by simpa using streamWindow), if_pos flow]
      rfl
    · have exceeds : FlowControlViolation c conn offset ↔
          conn.receiveWindow < conn.highestReceived + (offset - c.highestReceived) := by
        simp [FlowControlViolation, above, streamWindow]
      rw [if_neg (by simpa using streamWindow)]
      simp only [ConnectionFlowController.incrementHighestReceived,
        BaseFlowController.checkFlowControlViolation, exceeds]
      by_cases connWindow : conn.receiveWindow < conn.highestReceived + (offset - c.highestReceived) <;>
        simp [connWindow]
  · have noFlow : ¬ FlowControlViolation c conn offset := fun flow => above flow.1
    rw [if_neg noFlow]
    by_cases same : offset = c.highestReceived
    · have noViolation : ¬ FinalSizeViolation c offset final := by
        simp [FinalSizeViolation, same]
      rw [if_pos same, if_neg noViolation]
      rfl
    rw [if_neg same, if_pos (by omega)]
    have below : offset < c.highestReceived := by omega
    cases final with
    | true =>
        have violation : FinalSizeViolation c offset true := .inr ⟨rfl, below⟩
        rw [if_pos rfl, if_pos violation]
        rfl
    | false =>
        have noViolation : ¬ FinalSizeViolation c offset false := by
          simp [FinalSizeViolation]
          omega
        rw [if_neg (by simp), if_neg noViolation]
        rfl

theorem updateHighestReceived_of_none (ok : (c.updateHighestReceived offset final conn).1 = none) :
    (c.updateHighestReceived offset final conn).2 =
      ({ c with highestReceived := max c.highestReceived offset,
                receivedFinalOffset := c.receivedFinalOffset || final },
       { conn with highestReceived := conn.highestReceived + (offset - c.highestReceived) }) := by
  have noError := updateHighestReceived_errorCode offset final c conn
  rw [ok] at noError
  unfold expectedError at noError
  by_cases finalSize : FinalSizeViolation c offset final
  · rw [if_pos finalSize] at noError
    cases noError
  by_cases flow : FlowControlViolation c conn offset
  · rw [if_neg finalSize, if_pos flow] at noError
    cases noError
  simp only [updateHighestReceived]
  rw [if_neg fun h => finalSize (.inl ⟨h.1, .inl h.2⟩), if_neg fun h => finalSize (.inl ⟨h.1, .inr h.2⟩)]
  by_cases above : c.highestReceived < offset
  · -- new data, within both windows
    have inStream : ¬ c.receiveWindow < offset := fun past => flow ⟨above, .inl past⟩
    have inConnection : ¬ conn.receiveWindow < conn.highestReceived + (offset - c.highestReceived) :=
      fun past => flow ⟨above, .inr past⟩
    have unknown : c.receivedFinalOffset = false := by
      by_contra known
      exact finalSize (.inl ⟨by simpa using known, .inr above⟩)
    have newMax : max c.highestReceived offset = offset := by omega
    cases final <;>
      simp [unknown, Nat.ne_of_gt above, Nat.not_le_of_gt above, newMax, inStream,
        BaseFlowController.checkFlowControlViolation, ConnectionFlowController.incrementHighestReceived,
        inConnection]
  · -- nothing new: the connection's increment is zero
    have notAbove : offset ≤ c.highestReceived := by omega
    have noIncrement : offset - c.highestReceived = 0 := by omega
    by_cases same : offset = c.highestReceived
    · cases final <;> simp [same]
    · have notFinal : final = false := by
        by_contra isFinal
        exact finalSize (.inr ⟨by simpa using isFinal, by omega⟩)
      simp [notFinal, same, notAbove, noIncrement]

theorem abandon_counters :
    (c.abandon conn).highestReceived = conn.highestReceived ∧
      (c.abandon conn).receiveWindow = conn.receiveWindow ∧
      (c.abandon conn).receiveWindowSize = conn.receiveWindowSize := by
  simp only [abandon]
  split_ifs <;> simp [ConnectionFlowController.addBytesRead]

theorem bytesRead_abandon :
    (c.abandon conn).bytesRead = conn.bytesRead + (c.highestReceived - c.bytesRead) := by
  simp only [abandon]
  split_ifs with unread
  · simp [ConnectionFlowController.addBytesRead]
  · omega

@[simp] theorem addBytesRead_fst (n : Nat) (c : StreamFlowController) (conn : ConnectionFlowController) :
    (c.addBytesRead n conn).1 = { c with toBaseFlowController := c.toBaseFlowController.addBytesRead n } :=
  rfl

@[simp] theorem addBytesRead_snd (n : Nat) (c : StreamFlowController) (conn : ConnectionFlowController) :
    (c.addBytesRead n conn).2 = conn.addBytesRead n := rfl

theorem getWindowUpdate_spec (timing : EpochTiming) (allowConnectionIncrease : Nat → Bool)
    {offset : Nat} {c' : StreamFlowController} {conn' : ConnectionFlowController}
    (update : c.getWindowUpdate timing allowConnectionIncrease conn = (offset, c', conn')) :
    c'.streamID = c.streamID ∧ c'.receivedFinalOffset = c.receivedFinalOffset ∧
      c.toBaseFlowController.Grows c'.toBaseFlowController ∧
      conn.toBaseFlowController.Grows conn'.toBaseFlowController ∧
      (offset = 0 ∧ c' = c ∨ (0 < c.receiveWindowSize → c.receiveWindow < offset) ∧ c'.receiveWindow = offset) := by
  unfold getWindowUpdate at update
  split_ifs at update with known
  · cases update
    exact ⟨rfl, rfl, .refl _, .refl _, .inl ⟨rfl, rfl⟩⟩
  have spec := c.toBaseFlowController.getWindowUpdate_spec timing fun _ => true
  generalize c.toBaseFlowController.getWindowUpdate timing (fun _ => true) = base at update spec
  obtain ⟨n, base⟩ := base
  obtain ⟨grows, ⟨rfl, rfl⟩ | moved⟩ := spec
  · -- no update is due: nothing changes, not even the connection
    simp only [gt_iff_lt, Nat.lt_irrefl, if_false, Prod.mk.injEq] at update
    obtain ⟨rfl, rfl, rfl⟩ := update
    exact ⟨rfl, rfl, .refl _, .refl _, .inl ⟨rfl, rfl⟩⟩
  · simp only [Prod.mk.injEq] at update
    obtain ⟨rfl, rfl, rfl⟩ := update
    refine ⟨rfl, rfl, grows, ?_, .inr moved⟩
    split_ifs
    · exact ConnectionFlowController.grows_ensureMinimumWindowSize _ _ _
    · exact .refl _

end StreamFlowController

end QuicFec.Flowcontrol
