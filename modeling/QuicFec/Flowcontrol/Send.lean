import QuicFec.Protocol

/-! # Send-side flow control

`internal/flowcontrol`: the send half of `baseFlowController`, and how a
stream's flow controller combines it with its connection's.  A controller
counts the bytes sent (`bytesSent`) against the limit the peer's
MAX_STREAM_DATA or MAX_DATA frames set (`sendWindow`), and remembers the limit
it last reported as blocking (`lastBlockedAt`), so that each limit is reported
once.  A stream may send what both its own window and the connection's allow,
and every byte it sends is charged to both.

`Within` is the state every controller keeps when its owners send no more
than `SendWindowSize`: nothing beyond the window, and no blocked report above
it.  `sendWindowSize` then never takes the branch the Go code keeps for data
sent above the window. -/
set_option autoImplicit false

namespace QuicFec.Flowcontrol

/-- The send side of `baseFlowController`. -/
structure SendFlowController where
  bytesSent : Nat
  sendWindow : Nat
  lastBlockedAt : Nat
deriving DecidableEq, Repr

namespace SendFlowController

/-- A controller created with the window of the peer's transport parameters. -/
def init (initialSendWindow : Nat) : SendFlowController := ⟨0, initialSendWindow, 0⟩

/-- `sendWindowSize`: zero when more was sent than allowed. -/
def sendWindowSize (c : SendFlowController) : Nat :=
  if c.bytesSent > c.sendWindow then 0 else c.sendWindow - c.bytesSent

/-- `IsNewlyBlocked`: blocked at the limit, reported once per limit. -/
def isNewlyBlocked (c : SendFlowController) : (Bool × Nat) × SendFlowController :=
  if c.sendWindowSize ≠ 0 ∨ c.sendWindow = c.lastBlockedAt then ((false, 0), c)
  else ((true, c.sendWindow), { c with lastBlockedAt := c.sendWindow })

def addBytesSent (n : Nat) (c : SendFlowController) : SendFlowController :=
  { c with bytesSent := c.bytesSent + n }

/-- `UpdateSendWindow`, for a MAX_DATA or MAX_STREAM_DATA frame: reordered
and duplicate frames never lower the limit. -/
def updateSendWindow (offset : Nat) (c : SendFlowController) : Bool × SendFlowController :=
  if offset > c.sendWindow then (true, { c with sendWindow := offset }) else (false, c)

end SendFlowController

/-- `streamFlowController.SendWindowSize`: what both the stream's window and
the connection's allow. -/
def StreamFlowController.sendWindowSize (c conn : SendFlowController) : Nat :=
  min c.sendWindowSize conn.sendWindowSize

/-- `streamFlowController.AddBytesSent`: the bytes count for the stream and
for the connection. -/
def StreamFlowController.addBytesSent (n : Nat) (c conn : SendFlowController) :
    SendFlowController × SendFlowController :=
  (c.addBytesSent n, conn.addBytesSent n)

namespace SendFlowController

/-! ## Staying within the window -/

/-- Nothing was sent beyond the window, and no limit above it was reported
blocked. -/
structure Within (c : SendFlowController) : Prop where
  sentWithin : c.bytesSent ≤ c.sendWindow
  blockedWithin : c.lastBlockedAt ≤ c.sendWindow

theorem within_init (initialSendWindow : Nat) : (init initialSendWindow).Within :=
  ⟨Nat.zero_le _, Nat.zero_le _⟩

theorem Within.sendWindowSize_eq {c : SendFlowController} (within : c.Within) :
    c.sendWindowSize = c.sendWindow - c.bytesSent := by
  unfold sendWindowSize
  rw [if_neg (Nat.not_lt.mpr within.sentWithin)]

@[simp] theorem bytesSent_addBytesSent (n : Nat) (c : SendFlowController) :
    (c.addBytesSent n).bytesSent = c.bytesSent + n := rfl

@[simp] theorem sendWindow_addBytesSent (n : Nat) (c : SendFlowController) :
    (c.addBytesSent n).sendWindow = c.sendWindow := rfl

@[simp] theorem lastBlockedAt_addBytesSent (n : Nat) (c : SendFlowController) :
    (c.addBytesSent n).lastBlockedAt = c.lastBlockedAt := rfl

theorem Within.addBytesSent {c : SendFlowController} (within : c.Within) {n : Nat}
    (allowed : n ≤ c.sendWindowSize) : (c.addBytesSent n).Within := by
  rw [within.sendWindowSize_eq] at allowed
  have sent := within.sentWithin
  have blocked := within.blockedWithin
  exact ⟨by simp only [bytesSent_addBytesSent, sendWindow_addBytesSent]; omega,
    by simpa using blocked⟩

theorem updateSendWindow_spec (offset : Nat) (c : SendFlowController) :
    (c.updateSendWindow offset).2 = { c with sendWindow := max c.sendWindow offset } ∧
      ((c.updateSendWindow offset).1 = true ↔ c.sendWindow < offset) := by
  unfold updateSendWindow
  split_ifs with higher
  · exact ⟨by rw [Nat.max_eq_right higher.le], by simpa using higher⟩
  · exact ⟨by rw [Nat.max_eq_left (Nat.le_of_not_lt higher)], by simpa using higher⟩

theorem Within.updateSendWindow {c : SendFlowController} (within : c.Within) (offset : Nat) :
    (c.updateSendWindow offset).2.Within := by
  rw [(updateSendWindow_spec offset c).1]
  exact ⟨le_max_of_le_left within.sentWithin, le_max_of_le_left within.blockedWithin⟩

theorem isNewlyBlocked_spec {c : SendFlowController} (within : c.Within) :
    c.isNewlyBlocked = ((false, 0), c) ∨
      (c.isNewlyBlocked = ((true, c.sendWindow), { c with lastBlockedAt := c.sendWindow }) ∧
        c.bytesSent = c.sendWindow ∧ c.lastBlockedAt < c.sendWindow) := by
  unfold isNewlyBlocked
  split_ifs with notBlocked
  · exact .inl rfl
  · -- the window size is zero and the limit was not reported: the bytes sent
    have usedUp : c.sendWindowSize = 0 := by
      by_contra unused
      exact notBlocked (.inl unused)
    have newLimit : c.sendWindow ≠ c.lastBlockedAt := fun same => notBlocked (.inr same)
    rw [within.sendWindowSize_eq] at usedUp
    have sent := within.sentWithin
    have blocked := within.blockedWithin
    exact .inr ⟨rfl, by omega, by omega⟩

end SendFlowController

theorem StreamFlowController.within_addBytesSent {c conn : SendFlowController} (within : c.Within)
    (connWithin : conn.Within) {n : Nat} (allowed : n ≤ StreamFlowController.sendWindowSize c conn) :
    (StreamFlowController.addBytesSent n c conn).1.Within ∧ (StreamFlowController.addBytesSent n c conn).2.Within :=
  ⟨within.addBytesSent (le_trans allowed (min_le_left _ _)),
    connWithin.addBytesSent (le_trans allowed (min_le_right _ _))⟩

end QuicFec.Flowcontrol
