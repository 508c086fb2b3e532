import QuicFec.Lib.Go
import QuicFec.Protocol

/-! # The peer's connection IDs

`conn_id_manager.go`: the connection IDs the peer issues in NEW_CONNECTION_ID
frames, queued by sequence number, the one in use (the active one), and the
RETIRE_CONNECTION_ID frames for the ones given up.  The callbacks the manager
is made with are logs here: `queuedFrames` holds the frames handed to
`queueControlFrame`, `resetTokenChanges` the calls of `addStatelessResetToken`
and `removeStatelessResetToken`.  The random draw `updateConnectionID` makes
for the next change is an argument of the calls that may change the active ID.

The queue is a list, front to back.  Sequence numbers are `uint64`s that are
only compared, so they are `Nat`s.

Along every run of frames the parser accepts, interleaved with `Get`,
`SentPacket` and `SetHandshakeComplete`, the queue stays ordered above the
active ID, no retired sequence number is in use, the active ID is past every
`RetirePriorTo` received, `updateConnectionID` never meets an empty queue, and
every ID given up gets exactly one RETIRE_CONNECTION_ID frame
(`connIDManager_run`). -/
set_option autoImplicit false

namespace QuicFec

open Go QuicFec.Protocol

abbrev StatelessResetToken := Vector UInt8 16

structure NewConnID where
  sequenceNumber : Nat
  connectionID : List UInt8
  statelessResetToken : StatelessResetToken
deriving DecidableEq, Repr

structure NewConnectionIDFrame where
  sequenceNumber : Nat
  retirePriorTo : Nat
  connectionID : List UInt8
  statelessResetToken : StatelessResetToken
deriving DecidableEq, Repr

structure RetireConnectionIDFrame where
  sequenceNumber : Nat
deriving DecidableEq, Repr

/-- A call of `addStatelessResetToken` or of `removeStatelessResetToken`. -/
inductive ResetTokenChange where
  | added (token : StatelessResetToken)
  | removed (token : StatelessResetToken)
deriving DecidableEq, Repr

/-- `connIDManager`, with what it handed to its callbacks so far. -/
structure ConnIDManager where
  queue : List NewConnID
  handshakeComplete : Bool
  activeSequenceNumber : Nat
  highestRetired : Nat
  activeConnectionID : List UInt8
  activeStatelessResetToken : Option StatelessResetToken
  packetsSinceLastChange : UInt32
  packetsPerConnectionID : UInt32
  queuedFrames : List RetireConnectionIDFrame
  resetTokenChanges : List ResetTokenChange
deriving DecidableEq, Repr

namespace ConnIDManager

def newConnIDManager (initialDestConnID : List UInt8) : ConnIDManager where
  queue := []
  handshakeComplete := false
  activeSequenceNumber := 0
  highestRetired := 0
  activeConnectionID := initialDestConnID
  activeStatelessResetToken := none
  packetsSinceLastChange := 0
  packetsPerConnectionID := 0
  queuedFrames := []
  resetTokenChanges := []

/-- `queueControlFrame(&wire.RetireConnectionIDFrame{SequenceNumber: seq})`. -/
def queueRetire (h : ConnIDManager) (seq : Nat) : ConnIDManager :=
  { h with queuedFrames := h.queuedFrames ++ [⟨seq⟩] }

/-- The loop of `add` that retires the queued IDs below `retirePriorTo`, from
the front, followed by `highestRetired = RetirePriorTo`. -/
def retireQueued (h : ConnIDManager) (retirePriorTo : Nat) : ConnIDManager :=
  { h with
    queuedFrames := h.queuedFrames ++
      (h.queue.takeWhile fun el => el.sequenceNumber < retirePriorTo).map fun el => ⟨el.sequenceNumber⟩
    queue := h.queue.dropWhile fun el => el.sequenceNumber < retirePriorTo
    highestRetired := retirePriorTo }

/-- The loop of `addConnectionID` that inserts in the middle, from the front. -/
def insertFrom (seq : Nat) (connID : List UInt8) (resetToken : StatelessResetToken) :
    List NewConnID → Except String (List NewConnID)
  | [] => .ok []
  | el :: rest =>
      if el.sequenceNumber = seq then
        if el.connectionID ≠ connID then
          .error s!"received conflicting connection IDs for sequence number {seq}"
        else if el.statelessResetToken ≠ resetToken then
          .error s!"received conflicting stateless reset tokens for sequence number {seq}"
        else .ok (el :: rest)
      else if el.sequenceNumber > seq then .ok (⟨seq, connID, resetToken⟩ :: el :: rest)
      else (insertFrom seq connID resetToken rest).map (el :: ·)

def addConnectionID (seq : Nat) (connID : List UInt8) (resetToken : StatelessResetToken) :
    Call ConnIDManager Unit := fun h =>
  match h.queue.getLast? with
  | some back =>
      if back.sequenceNumber < seq then .ok () { h with queue := h.queue ++ [⟨seq, connID, resetToken⟩] }
      else
        match insertFrom seq connID resetToken h.queue with
        | .ok queue => .ok () { h with queue := queue }
        | .error e => .error e h
  | none => .ok () { h with queue := h.queue ++ [⟨seq, connID, resetToken⟩] }

/-- `updateConnectionID`, with `draw` for `rand.Int31n`. -/
def updateConnectionID (draw : Nat) : Call ConnIDManager Unit := fun h =>
  let h := { h.queueRetire h.activeSequenceNumber with
    highestRetired := max h.highestRetired h.activeSequenceNumber
    resetTokenChanges :=
      h.resetTokenChanges ++ (h.activeStatelessResetToken.map ResetTokenChange.removed).toList }
  match h.queue with
  -- `h.queue.Remove(h.queue.Front())` of an empty queue dereferences nil
  | [] => .panic nilDereferenceMessage
  | front :: rest =>
      .ok () { h with
        queue := rest
        activeSequenceNumber := front.sequenceNumber
        activeConnectionID := front.connectionID
        activeStatelessResetToken := some front.statelessResetToken
        packetsSinceLastChange := 0
        packetsPerConnectionID :=
          UInt32.ofNat (Protocol.packetsPerConnectionID / 2) +
            UInt32.ofNat (draw % Protocol.packetsPerConnectionID)
        resetTokenChanges := h.resetTokenChanges ++ [ResetTokenChange.added front.statelessResetToken] }

def add (f : NewConnectionIDFrame) (draw : Nat) : Call ConnIDManager Unit := fun h =>
  -- a reordered frame, below the active or the retired IDs, is retired at once
  if f.sequenceNumber < h.activeSequenceNumber || f.sequenceNumber < h.highestRetired then
    .ok () (h.queueRetire f.sequenceNumber)
  else
    let h := if f.retirePriorTo > h.highestRetired then h.retireQueued f.retirePriorTo else h
    if f.sequenceNumber = h.activeSequenceNumber then .ok () h
    else
      (addConnectionID f.sequenceNumber f.connectionID f.statelessResetToken >>= fun _ h =>
        if h.activeSequenceNumber < f.retirePriorTo then updateConnectionID draw h else .ok () h) h

/-- `connIDManager.Add`. -/
def addFrame (f : NewConnectionIDFrame) (draw : Nat) : Call ConnIDManager Unit :=
  add f draw >>= fun _ h =>
    if h.queue.length ≥ maxActiveConnectionIDs then .error "CONNECTION_ID_LIMIT_ERROR (local)" h
    else .ok () h

def sentPacket (h : ConnIDManager) : ConnIDManager :=
  { h with packetsSinceLastChange := h.packetsSinceLastChange + 1 }

def shouldUpdateConnID (h : ConnIDManager) : Bool :=
  if !h.handshakeComplete then false
  else if h.queue.length > 0 && h.activeSequenceNumber = 0 then true
  else decide (2 * h.queue.length ≥ maxActiveConnectionIDs) &&
    decide (h.packetsSinceLastChange ≥ h.packetsPerConnectionID)

/-- `Get`, with `draw` for a change of the active ID. -/
def get (draw : Nat) : Call ConnIDManager (List UInt8) := fun h =>
  if h.shouldUpdateConnID then (updateConnectionID draw >>= fun _ h => .ok h.activeConnectionID h) h
  else .ok h.activeConnectionID h

def setHandshakeComplete (h : ConnIDManager) : ConnIDManager := { h with handshakeComplete := true }

/-! ## The queue stays ordered -/

/-- The queue in increasing order above the active ID and at or above
`highestRetired`: what `addConnectionID` and `updateConnectionID` rely on. -/
structure QueueOrdered (h : ConnIDManager) : Prop where
  increasing : h.queue.Pairwise fun a b => a.sequenceNumber < b.sequenceNumber
  aboveActive : ∀ c ∈ h.queue, h.activeSequenceNumber < c.sequenceNumber
  atLeastRetired : ∀ c ∈ h.queue, h.highestRetired ≤ c.sequenceNumber

/-- The invariant of a manager between calls: every RETIRE_CONNECTION_ID frame
queued so far is for a sequence number below the active one. -/
structure Wellformed (h : ConnIDManager) : Prop extends QueueOrdered h where
  retiredUpToActive : h.highestRetired ≤ h.activeSequenceNumber
  framesBelowActive : ∀ r ∈ h.queuedFrames, r.sequenceNumber < h.activeSequenceNumber

theorem wellformed_newConnIDManager (initialDestConnID : List UInt8) :
    Wellformed (newConnIDManager initialDestConnID) where
  increasing := List.Pairwise.nil
  aboveActive := by simp [newConnIDManager]
  atLeastRetired := by simp [newConnIDManager]
  retiredUpToActive := Nat.le_refl 0
  framesBelowActive := by simp [newConnIDManager]

/-- The sequence numbers in use: the active one and the queued ones. -/
def ids (h : ConnIDManager) : List Nat :=
  h.activeSequenceNumber :: h.queue.map (·.sequenceNumber)

@[simp] theorem mem_ids {h : ConnIDManager} {s : Nat} :
    s ∈ ids h ↔ s = h.activeSequenceNumber ∨ ∃ c ∈ h.queue, c.sequenceNumber = s := by
  simp [ids]

theorem Wellformed.retired_not_mem_ids {h : ConnIDManager} (wf : Wellformed h)
    {r : RetireConnectionIDFrame} (retired : r ∈ h.queuedFrames) : r.sequenceNumber ∉ ids h := by
  have below := wf.framesBelowActive r retired
  rw [mem_ids]
  rintro (active | ⟨c, queued, same⟩)
  · omega
  · have := wf.aboveActive c queued
    omega

/-- `h'` queued one RETIRE_CONNECTION_ID frame for each sequence number that it
no longer uses, and every frame it queued is for one it does not use. -/
def Accounts (h h' : ConnIDManager) : Prop :=
  ∃ new : List RetireConnectionIDFrame, h'.queuedFrames = h.queuedFrames ++ new ∧
    (∀ s ∈ ids h, s ∉ ids h' → (new.map (·.sequenceNumber)).count s = 1) ∧
    ∀ r ∈ new, r.sequenceNumber ∉ ids h'

theorem accounts_of_covers {h h' : ConnIDManager} (new : List RetireConnectionIDFrame)
    (frames : h'.queuedFrames = h.queuedFrames ++ new) (nodup : (new.map (·.sequenceNumber)).Nodup)
    (covers : ∀ s ∈ ids h, s ∉ ids h' → s ∈ new.map (·.sequenceNumber))
    (fresh : ∀ r ∈ new, r.sequenceNumber ∉ ids h') : Accounts h h' :=
  ⟨new, frames, fun s used dropped => List.count_eq_one_of_mem nodup (covers s used dropped), fresh⟩

theorem accounts_of_frames_eq {h h' : ConnIDManager} (frames : h'.queuedFrames = h.queuedFrames)
    (same : ids h' = ids h) : Accounts h h' := by
  refine accounts_of_covers [] (by simp [frames]) List.nodup_nil ?_ (by simp)
  intro s used dropped
  rw [same] at dropped
  exact absurd used dropped

/-! ## Retirement below `RetirePriorTo` -/

section Retire

variable {q : List NewConnID} {r : Nat}

theorem le_of_mem_dropWhile (sorted : q.Pairwise fun a b => a.sequenceNumber < b.sequenceNumber)
    {c : NewConnID} (member : c ∈ q.dropWhile fun el => el.sequenceNumber < r) :
    r ≤ c.sequenceNumber := by
  induction q with
  | nil => simp at member
  | cons el rest ih =>
      obtain ⟨below, sortedRest⟩ := List.pairwise_cons.mp sorted
      rw [List.dropWhile_cons] at member
      split_ifs at member with dropped
      · exact ih sortedRest member
      · -- the walk stops at `el`, and everything after it is larger
        have kept : r ≤ el.sequenceNumber := by simpa using dropped
        rcases List.mem_cons.mp member with same | later
        · rw [same]
          exact kept
        · exact Nat.le_of_lt (Nat.lt_of_le_of_lt kept (below c later))

theorem lt_of_mem_takeWhile {c : NewConnID} (member : c ∈ q.takeWhile fun el => el.sequenceNumber < r) :
    c.sequenceNumber < r := by
  simpa using List.mem_takeWhile_imp member

theorem takeWhile_eq_nil_of_le (above : ∀ c ∈ q, r ≤ c.sequenceNumber) :
    q.takeWhile (fun el => el.sequenceNumber < r) = [] ∧
      q.dropWhile (fun el => el.sequenceNumber < r) = q := by
  cases q with
  | nil => simp
  | cons c rest =>
      have kept : ¬ c.sequenceNumber < r := Nat.not_lt.mpr (above c List.mem_cons_self)
      simp [kept]

end Retire

/-- The manager after the retirement step of `add`, with the `highestRetired`
it leaves in both of its branches. -/
def retirePrior (h : ConnIDManager) (retirePriorTo : Nat) : ConnIDManager :=
  { h.retireQueued retirePriorTo with highestRetired := max h.highestRetired retirePriorTo }

@[simp] theorem retirePrior_queue (h : ConnIDManager) (retirePriorTo : Nat) :
    (h.retirePrior retirePriorTo).queue =
      h.queue.dropWhile fun el => el.sequenceNumber < retirePriorTo := rfl

@[simp] theorem retirePrior_activeSequenceNumber (h : ConnIDManager) (retirePriorTo : Nat) :
    (h.retirePrior retirePriorTo).activeSequenceNumber = h.activeSequenceNumber := rfl

@[simp] theorem retirePrior_highestRetired (h : ConnIDManager) (retirePriorTo : Nat) :
    (h.retirePrior retirePriorTo).highestRetired = max h.highestRetired retirePriorTo := rfl

@[simp] theorem retirePrior_queuedFrames (h : ConnIDManager) (retirePriorTo : Nat) :
    (h.retirePrior retirePriorTo).queuedFrames = h.queuedFrames ++
      (h.queue.takeWhile fun el => el.sequenceNumber < retirePriorTo).map fun el => ⟨el.sequenceNumber⟩ :=
  rfl

theorem retireStep_eq {h : ConnIDManager} (ordered : QueueOrdered h) (retirePriorTo : Nat) :
    (if retirePriorTo > h.highestRetired then h.retireQueued retirePriorTo else h) =
      h.retirePrior retirePriorTo := by
  split_ifs with raised
  · simp only [retirePrior, retireQueued, Nat.max_eq_right (Nat.le_of_lt raised)]
  · have above : ∀ c ∈ h.queue, retirePriorTo ≤ c.sequenceNumber := fun c queued =>
      Nat.le_trans (Nat.not_lt.mp raised) (ordered.atLeastRetired c queued)
    obtain ⟨none, all⟩ := takeWhile_eq_nil_of_le above
    simp only [retirePrior, retireQueued, none, all, List.map_nil, List.append_nil,
      Nat.max_eq_left (Nat.not_lt.mp raised)]

theorem QueueOrdered.retirePrior {h : ConnIDManager} (ordered : QueueOrdered h) (retirePriorTo : Nat) :
    QueueOrdered (h.retirePrior retirePriorTo) where
  increasing := ordered.increasing.sublist (List.dropWhile_sublist _)
  aboveActive c kept := ordered.aboveActive c ((List.dropWhile_sublist _).subset kept)
  atLeastRetired c kept := Nat.max_le.mpr
    ⟨ordered.atLeastRetired c ((List.dropWhile_sublist _).subset kept),
      le_of_mem_dropWhile ordered.increasing kept⟩

/-! ## Insertion -/

/-- `q'` is the increasing queue `q` with an entry for `seq` added, unless it had one. -/
structure Inserted (seq : Nat) (q q' : List NewConnID) : Prop where
  increasing : q'.Pairwise fun a b => a.sequenceNumber < b.sequenceNumber
  kept : ∀ c ∈ q, c ∈ q'
  only : ∀ c ∈ q', c ∈ q ∨ c.sequenceNumber = seq
  found : ∃ c ∈ q', c.sequenceNumber = seq

theorem insertFrom_inserted (seq : Nat) (connID : List UInt8) (resetToken : StatelessResetToken) :
    ∀ {q q' : List NewConnID}, (q.Pairwise fun a b => a.sequenceNumber < b.sequenceNumber) →
      (∃ c ∈ q, seq ≤ c.sequenceNumber) → insertFrom seq connID resetToken q = .ok q' →
      Inserted seq q q'
  | [], _, _, reaches, _ => by simp at reaches
  | el :: rest, q', sorted, reaches, run => by
      obtain ⟨below, sortedRest⟩ := List.pairwise_cons.mp sorted
      simp only [insertFrom] at run
      -- the two conflicts are errors, which `split_ifs` discards
      split_ifs at run with same conflictingID conflictingToken larger
      · -- a duplicate: the queue stays as it is
        cases run
        exact ⟨sorted, fun c member => member, fun c member => .inl member, ⟨el, List.mem_cons_self, same⟩⟩
      · -- `InsertBefore` the first larger entry
        cases run
        refine ⟨List.pairwise_cons.mpr ⟨fun c member => ?_, sorted⟩,
          fun c member => List.mem_cons_of_mem _ member, fun c member => ?_, ⟨_, List.mem_cons_self, rfl⟩⟩
        · rcases List.mem_cons.mp member with first | later
          · rw [first]
            exact larger
          · exact Nat.lt_trans larger (below c later)
        · rcases List.mem_cons.mp member with new | old
          · exact .inr (by rw [new])
          · exact .inl old
      · -- `el` is smaller: the walk goes on
        have smaller : el.sequenceNumber < seq := by omega
        cases inner : insertFrom seq connID resetToken rest with
        | error e =>
            rw [inner] at run
            cases run
        | ok rest' =>
            rw [inner] at run
            cases run
            have reachesRest : ∃ c ∈ rest, seq ≤ c.sequenceNumber := by
              obtain ⟨c, member, reached⟩ := reaches
              rcases List.mem_cons.mp member with first | later
              · rw [first] at reached
                omega
              · exact ⟨c, later, reached⟩
            have ins := insertFrom_inserted seq connID resetToken sortedRest reachesRest inner
            refine ⟨List.pairwise_cons.mpr ⟨fun c member => ?_, ins.increasing⟩, fun c member => ?_,
              fun c member => ?_, ?_⟩
            · rcases ins.only c member with old | new
              · exact below c old
              · omega
            · rcases List.mem_cons.mp member with first | later
              · rw [first]
                exact List.mem_cons_self
              · exact List.mem_cons_of_mem _ (ins.kept c later)
            · rcases List.mem_cons.mp member with first | later
              · exact .inl (by rw [first]; exact List.mem_cons_self)
              · exact (ins.only c later).imp (List.mem_cons_of_mem _) id
            · obtain ⟨c, member, found⟩ := ins.found
              exact ⟨c, List.mem_cons_of_mem _ member, found⟩

theorem inserted_append {q : List NewConnID} {seq : Nat}
    (sorted : q.Pairwise fun a b => a.sequenceNumber < b.sequenceNumber)
    (below : ∀ c ∈ q, c.sequenceNumber < seq) (connID : List UInt8) (resetToken : StatelessResetToken) :
    Inserted seq q (q ++ [⟨seq, connID, resetToken⟩]) where
  increasing := List.pairwise_append.mpr
    ⟨sorted, List.pairwise_singleton _ _, fun c member d new => by
      rw [List.mem_singleton.mp new]
      exact below c member⟩
  kept c member := List.mem_append_left _ member
  only c member := (List.mem_append.mp member).imp id fun new => by rw [List.mem_singleton.mp new]
  found := ⟨_, List.mem_append_right _ List.mem_cons_self, rfl⟩

theorem addConnectionID_inserted {h h' : ConnIDManager} {seq : Nat} {connID : List UInt8}
    {resetToken : StatelessResetToken}
    (sorted : h.queue.Pairwise fun a b => a.sequenceNumber < b.sequenceNumber)
    (run : addConnectionID seq connID resetToken h = .ok () h') :
    ∃ q', h' = { h with queue := q' } ∧ Inserted seq h.queue q' := by
  cases last : h.queue.getLast? with
  | none =>
      simp only [addConnectionID, last] at run
      cases run
      have empty : h.queue = [] := List.getLast?_eq_none_iff.mp last
      exact ⟨_, rfl, inserted_append sorted (by simp [empty]) connID resetToken⟩
  | some back =>
      simp only [addConnectionID, last] at run
      obtain ⟨front, queue⟩ := List.getLast?_eq_some_iff.mp last
      have upToBack : ∀ c ∈ h.queue, c.sequenceNumber ≤ back.sequenceNumber := by
        rw [queue] at sorted ⊢
        intro c member
        rcases List.mem_append.mp member with earlier | isBack
        · exact Nat.le_of_lt ((List.pairwise_append.mp sorted).2.2 c earlier back List.mem_cons_self)
        · rw [List.mem_singleton.mp isBack]
      split_ifs at run with larger
      · cases run
        exact ⟨_, rfl, inserted_append sorted (fun c member => Nat.lt_of_le_of_lt (upToBack c member) larger)
          connID resetToken⟩
      · have reaches : ∃ c ∈ h.queue, seq ≤ c.sequenceNumber :=
          ⟨back, by rw [queue]; exact List.mem_append_right _ List.mem_cons_self, Nat.not_lt.mp larger⟩
        cases inserted : insertFrom seq connID resetToken h.queue with
        | error e =>
            rw [inserted] at run
            cases run
        | ok q' =>
            rw [inserted] at run
            cases run
            exact ⟨q', rfl, insertFrom_inserted seq connID resetToken sorted reaches inserted⟩

theorem addConnectionID_returned (seq : Nat) (connID : List UInt8) (resetToken : StatelessResetToken)
    (h : ConnIDManager) : (addConnectionID seq connID resetToken h).Returned := by
  cases last : h.queue.getLast? with
  | none => simp only [addConnectionID, last]; trivial
  | some back =>
      simp only [addConnectionID, last]
      split_ifs
      · trivial
      · cases insertFrom seq connID resetToken h.queue <;> trivial

theorem QueueOrdered.insert {h : ConnIDManager} (ordered : QueueOrdered h) {seq : Nat}
    {q' : List NewConnID} (ins : Inserted seq h.queue q') (above : h.activeSequenceNumber < seq)
    (atLeast : h.highestRetired ≤ seq) : QueueOrdered { h with queue := q' } where
  increasing := ins.increasing
  aboveActive c member := by
    rcases ins.only c member with old | new
    · exact ordered.aboveActive c old
    · exact new ▸ above
  atLeastRetired c member := by
    rcases ins.only c member with old | new
    · exact ordered.atLeastRetired c old
    · exact new ▸ atLeast

/-! ## Changing the active connection ID -/

theorem updateConnectionID_wellformed {h : ConnIDManager} (ordered : QueueOrdered h)
    (frames : ∀ r ∈ h.queuedFrames,
      r.sequenceNumber < h.activeSequenceNumber ∨ r.sequenceNumber < h.highestRetired)
    {front : NewConnID} {rest : List NewConnID} (queue : h.queue = front :: rest) (draw : Nat) :
    ∃ h', updateConnectionID draw h = .ok () h' ∧ Wellformed h' ∧
      h'.activeSequenceNumber = front.sequenceNumber ∧
      h'.queuedFrames = h.queuedFrames ++ [⟨h.activeSequenceNumber⟩] ∧
      ids h' = h.queue.map (·.sequenceNumber) := by
  have frontAbove := ordered.aboveActive front (by rw [queue]; exact List.mem_cons_self)
  have frontAtLeast := ordered.atLeastRetired front (by rw [queue]; exact List.mem_cons_self)
  have sorted := ordered.increasing
  rw [queue] at sorted
  obtain ⟨beyondFront, sortedRest⟩ := List.pairwise_cons.mp sorted
  simp only [updateConnectionID, queueRetire, queue]
  refine ⟨_, rfl, ?_, rfl, rfl, by simp [ids]⟩
  refine ⟨⟨sortedRest, beyondFront, fun c later => ?_⟩, Nat.max_le.mpr ⟨frontAtLeast, Nat.le_of_lt frontAbove⟩,
    fun r queued => ?_⟩
  · have := ordered.aboveActive c (by rw [queue]; exact List.mem_cons_of_mem _ later)
    exact Nat.max_le.mpr ⟨ordered.atLeastRetired c (by rw [queue]; exact List.mem_cons_of_mem _ later),
      Nat.le_of_lt this⟩
  · show r.sequenceNumber < front.sequenceNumber
    rcases List.mem_append.mp queued with old | retired
    · rcases frames r old with belowActive | belowRetired <;> omega
    · rw [List.mem_singleton.mp retired]
      exact frontAbove

theorem accounts_updateConnectionID {h h' : ConnIDManager} (ordered : QueueOrdered h)
    (frames : h'.queuedFrames = h.queuedFrames ++ [⟨h.activeSequenceNumber⟩])
    (inUse : ids h' = h.queue.map (·.sequenceNumber)) : Accounts h h' := by
  refine accounts_of_covers _ frames (List.nodup_singleton _) ?_ ?_
  · intro s used dropped
    rw [inUse] at dropped
    rcases mem_ids.mp used with active | ⟨c, queued, same⟩
    · simp [active]
    · exact absurd (same ▸ List.mem_map_of_mem queued) dropped
  · intro r retired
    rw [List.mem_singleton.mp retired, inUse]
    intro queued
    obtain ⟨c, member, same⟩ := List.mem_map.mp queued
    have above := ordered.aboveActive c member
    exact Nat.ne_of_gt above same

/-! ## `add` -/

/-- What a successful `add` leaves: the invariant, an active ID past the frame's
`RetirePriorTo` and not below the old one, and one frame for each ID given up. -/
structure Added (h : ConnIDManager) (retirePriorTo : Nat) (h' : ConnIDManager) : Prop where
  wellformed : Wellformed h'
  pastRetirePriorTo : retirePriorTo ≤ h'.activeSequenceNumber
  activeMonotone : h.activeSequenceNumber ≤ h'.activeSequenceNumber
  accounts : Accounts h h'

section Add

variable {h : ConnIDManager} {seq rpt : Nat}

theorem mem_retirePrior_or (ordered : QueueOrdered h) (c : NewConnID) (queued : c ∈ h.queue) :
    (c ∈ (h.retirePrior rpt).queue ∧ rpt ≤ c.sequenceNumber) ∨
      (c ∈ h.queue.takeWhile (fun el => el.sequenceNumber < rpt) ∧ c.sequenceNumber < rpt) := by
  have split : h.queue = h.queue.takeWhile (fun el => el.sequenceNumber < rpt) ++
      h.queue.dropWhile (fun el => el.sequenceNumber < rpt) := List.takeWhile_append_dropWhile.symm
  rw [split] at queued
  rcases List.mem_append.mp queued with retired | kept
  · exact .inr ⟨retired, lt_of_mem_takeWhile retired⟩
  · exact .inl ⟨kept, le_of_mem_dropWhile ordered.increasing kept⟩

theorem nodup_retired (ordered : QueueOrdered h) :
    ((h.queue.takeWhile fun el => el.sequenceNumber < rpt).map (·.sequenceNumber)).Nodup := by
  have sorted := ordered.increasing.sublist
    (List.takeWhile_sublist fun el => decide (el.sequenceNumber < rpt))
  exact (List.pairwise_map.mpr sorted).nodup

theorem retired_between (ordered : QueueOrdered h) {c : NewConnID}
    (retired : c ∈ h.queue.takeWhile fun el => el.sequenceNumber < rpt) :
    h.activeSequenceNumber < c.sequenceNumber ∧ c.sequenceNumber < rpt :=
  ⟨ordered.aboveActive c ((List.takeWhile_sublist _).subset retired), lt_of_mem_takeWhile retired⟩

theorem seqs_retired :
    (((h.queue.takeWhile fun el => el.sequenceNumber < rpt).map
        fun el => (⟨el.sequenceNumber⟩ : RetireConnectionIDFrame)).map (·.sequenceNumber)) =
      (h.queue.takeWhile fun el => el.sequenceNumber < rpt).map (·.sequenceNumber) := by
  simp [Function.comp_def]

theorem accounts_keepActive (ordered : QueueOrdered h) {q' : List NewConnID}
    (kept : ∀ c ∈ (h.retirePrior rpt).queue, c ∈ q') (atLeast : ∀ c ∈ q', rpt ≤ c.sequenceNumber) :
    Accounts h { h.retirePrior rpt with queue := q' } := by
  refine accounts_of_covers _ rfl (by rw [seqs_retired]; exact nodup_retired ordered) ?_ ?_
  · intro s used dropped
    rw [seqs_retired]
    rcases mem_ids.mp used with active | ⟨c, queued, same⟩
    · exact (dropped (mem_ids.mpr (.inl active))).elim
    · rcases mem_retirePrior_or ordered c queued with ⟨stays, -⟩ | ⟨retired, -⟩
      · exact (dropped (mem_ids.mpr (.inr ⟨c, kept c stays, same⟩))).elim
      · exact List.mem_map.mpr ⟨c, retired, same⟩
  · intro r new
    obtain ⟨c, retired, rfl⟩ := List.mem_map.mp new
    obtain ⟨above, below⟩ := retired_between ordered retired
    rw [mem_ids]
    rintro (active | ⟨d, queued, same⟩)
    · exact Nat.ne_of_gt above active
    · have := atLeast d queued
      dsimp only at same
      omega

theorem accounts_replaceActive (ordered : QueueOrdered h) {q' : List NewConnID} {h' : ConnIDManager}
    (frames : h'.queuedFrames = (h.retirePrior rpt).queuedFrames ++ [⟨h.activeSequenceNumber⟩])
    (inUse : ids h' = q'.map (·.sequenceNumber))
    (kept : ∀ c ∈ (h.retirePrior rpt).queue, c ∈ q') (atLeast : ∀ c ∈ q', rpt ≤ c.sequenceNumber)
    (above : ∀ c ∈ q', h.activeSequenceNumber < c.sequenceNumber) : Accounts h h' := by
  refine accounts_of_covers _ (by rw [frames, retirePrior_queuedFrames, List.append_assoc]) ?_ ?_ ?_
  · rw [List.map_append, seqs_retired, List.nodup_append]
    refine ⟨nodup_retired ordered, List.nodup_singleton _, ?_⟩
    intro s retired t active
    obtain ⟨c, member, rfl⟩ := List.mem_map.mp retired
    rw [List.mem_singleton.mp active]
    exact Nat.ne_of_gt (retired_between ordered member).1
  · intro s used dropped
    rw [inUse] at dropped
    rw [List.map_append, seqs_retired]
    rcases mem_ids.mp used with active | ⟨c, queued, same⟩
    · simp [active]
    · rcases mem_retirePrior_or ordered c queued with ⟨stays, -⟩ | ⟨retired, -⟩
      · exact absurd (List.mem_map.mpr ⟨c, kept c stays, same⟩) dropped
      · exact List.mem_append_left _ (List.mem_map.mpr ⟨c, retired, same⟩)
  · intro r new
    rw [inUse]
    intro queued
    obtain ⟨d, member, same⟩ := List.mem_map.mp queued
    rcases List.mem_append.mp new with retired | active
    · obtain ⟨c, taken, rfl⟩ := List.mem_map.mp retired
      have := (retired_between ordered taken).2
      have := atLeast d member
      dsimp only at same
      omega
    · rw [List.mem_singleton.mp active] at same
      exact Nat.ne_of_gt (above d member) same

theorem added_queueRetire (wf : Wellformed h) (stale : seq < h.activeSequenceNumber ∨ seq < h.highestRetired)
    (parsed : rpt ≤ seq) : Added h rpt (h.queueRetire seq) := by
  have belowActive : seq < h.activeSequenceNumber := by
    have := wf.retiredUpToActive
    omega
  refine ⟨⟨⟨wf.increasing, wf.aboveActive, wf.atLeastRetired⟩, wf.retiredUpToActive, fun r queued => ?_⟩,
    Nat.le_of_lt (Nat.lt_of_le_of_lt parsed belowActive), Nat.le_refl _, ?_⟩
  · rcases List.mem_append.mp queued with old | new
    · exact wf.framesBelowActive r old
    · rw [List.mem_singleton.mp new]
      exact belowActive
  · -- the IDs in use stay as they are, and `seq` is not one of them
    refine accounts_of_covers [⟨seq⟩] rfl (List.nodup_singleton _) (fun s used dropped => (dropped used).elim) ?_
    intro r new
    rw [List.mem_singleton.mp new, mem_ids]
    rintro (active | ⟨c, queued, same⟩)
    · exact Nat.ne_of_lt belowActive active
    · have := wf.aboveActive c queued
      dsimp only at same
      omega

theorem atLeast_of_inserted (ordered : QueueOrdered h) {q' : List NewConnID}
    (ins : Inserted seq (h.retirePrior rpt).queue q') (parsed : rpt ≤ seq) :
    ∀ c ∈ q', rpt ≤ c.sequenceNumber := by
  intro c member
  rcases ins.only c member with kept | new
  · exact le_of_mem_dropWhile ordered.increasing kept
  · exact new ▸ parsed

theorem added_keepActive (wf : Wellformed h) (reached : rpt ≤ h.activeSequenceNumber) {q' : List NewConnID}
    (ordered' : QueueOrdered { h.retirePrior rpt with queue := q' })
    (kept : ∀ c ∈ (h.retirePrior rpt).queue, c ∈ q') (atLeast : ∀ c ∈ q', rpt ≤ c.sequenceNumber) :
    Added h rpt { h.retirePrior rpt with queue := q' } := by
  refine ⟨⟨ordered', Nat.max_le.mpr ⟨wf.retiredUpToActive, reached⟩, fun r queued => ?_⟩, reached,
    Nat.le_refl _, accounts_keepActive wf.toQueueOrdered kept atLeast⟩
  rcases List.mem_append.mp queued with old | retired
  · exact wf.framesBelowActive r old
  · obtain ⟨c, taken, rfl⟩ := List.mem_map.mp retired
    exact Nat.lt_of_lt_of_le (retired_between wf.toQueueOrdered taken).2 reached

theorem added_replaceActive (wf : Wellformed h) (above : h.activeSequenceNumber < seq)
    (atLeast : h.highestRetired ≤ seq) (parsed : rpt ≤ seq) {q' : List NewConnID}
    (ins : Inserted seq (h.retirePrior rpt).queue q') (draw : Nat) :
    ∃ h', updateConnectionID draw { h.retirePrior rpt with queue := q' } = .ok () h' ∧ Added h rpt h' := by
  have ordered := (wf.toQueueOrdered.retirePrior rpt).insert ins above (Nat.max_le.mpr ⟨atLeast, parsed⟩)
  have pastRetirePriorTo := atLeast_of_inserted wf.toQueueOrdered ins parsed
  have frames : ∀ r ∈ (h.retirePrior rpt).queuedFrames,
      r.sequenceNumber < h.activeSequenceNumber ∨ r.sequenceNumber < max h.highestRetired rpt := by
    intro r queued
    rcases List.mem_append.mp queued with old | retired
    · exact .inl (wf.framesBelowActive r old)
    · obtain ⟨c, taken, rfl⟩ := List.mem_map.mp retired
      exact .inr (Nat.lt_of_lt_of_le (retired_between wf.toQueueOrdered taken).2 (Nat.le_max_right _ _))
  cases q' with
  | nil =>
      obtain ⟨c, member, -⟩ := ins.found
      cases member
  | cons front rest =>
      obtain ⟨h', run, wf', active', frames', inUse⟩ := updateConnectionID_wellformed ordered frames rfl draw
      refine ⟨h', run, wf', active' ▸ pastRetirePriorTo front List.mem_cons_self,
        active' ▸ Nat.le_of_lt (ordered.aboveActive front List.mem_cons_self), ?_⟩
      exact accounts_replaceActive wf.toQueueOrdered frames' inUse ins.kept pastRetirePriorTo ordered.aboveActive

end Add

theorem add_of_stale {h : ConnIDManager} (f : NewConnectionIDFrame) (draw : Nat)
    (stale : f.sequenceNumber < h.activeSequenceNumber ∨ f.sequenceNumber < h.highestRetired) :
    add f draw h = .ok () (h.queueRetire f.sequenceNumber) := by
  simp [add, stale]

theorem add_of_fresh {h : ConnIDManager} (ordered : QueueOrdered h) (f : NewConnectionIDFrame) (draw : Nat)
    (fresh : ¬ (f.sequenceNumber < h.activeSequenceNumber ∨ f.sequenceNumber < h.highestRetired)) :
    add f draw h =
      if f.sequenceNumber = h.activeSequenceNumber then .ok () (h.retirePrior f.retirePriorTo)
      else (addConnectionID f.sequenceNumber f.connectionID f.statelessResetToken >>= fun _ h =>
        if h.activeSequenceNumber < f.retirePriorTo then updateConnectionID draw h else .ok () h)
          (h.retirePrior f.retirePriorTo) := by
  unfold add
  rw [if_neg (by simpa using fresh), retireStep_eq ordered]
  rfl

theorem add_spec {h : ConnIDManager} (wf : Wellformed h) (f : NewConnectionIDFrame)
    (parsed : f.retirePriorTo ≤ f.sequenceNumber) (draw : Nat) :
    Call.Spec (· = h) (add f draw) fun _ h' => Added h f.retirePriorTo h' := by
  rintro s rfl
  by_cases stale : f.sequenceNumber < s.activeSequenceNumber ∨ f.sequenceNumber < s.highestRetired
  · rw [add_of_stale f draw stale]
    exact ⟨trivial, fun _ h' done => by cases done; exact added_queueRetire wf stale parsed⟩
  have fresh : s.activeSequenceNumber ≤ f.sequenceNumber ∧ s.highestRetired ≤ f.sequenceNumber := by
    omega
  rw [add_of_fresh wf.toQueueOrdered f draw stale]
  split_ifs with current
  · -- the frame repeats the active ID: only the retirement step happens
    refine ⟨trivial, fun _ h' done => ?_⟩
    cases done
    exact added_keepActive wf (current ▸ parsed) (wf.toQueueOrdered.retirePrior _) (fun c kept => kept)
      (fun c kept => le_of_mem_dropWhile wf.increasing kept)
  have above : s.activeSequenceNumber < f.sequenceNumber := by omega
  have first : Call.Spec (· = s.retirePrior f.retirePriorTo)
      (addConnectionID f.sequenceNumber f.connectionID f.statelessResetToken) fun _ h₂ =>
        ∃ q', h₂ = { s.retirePrior f.retirePriorTo with queue := q' } ∧
          Inserted f.sequenceNumber (s.retirePrior f.retirePriorTo).queue q' := by
    rintro _ rfl
    exact ⟨addConnectionID_returned _ _ _ _,
      fun _ _ run => addConnectionID_inserted (wf.toQueueOrdered.retirePrior _).increasing run⟩
  have rest : ∀ u : Unit, Call.Spec
      (fun h₂ => ∃ q', h₂ = { s.retirePrior f.retirePriorTo with queue := q' } ∧
        Inserted f.sequenceNumber (s.retirePrior f.retirePriorTo).queue q')
      (fun h₂ => if h₂.activeSequenceNumber < f.retirePriorTo then updateConnectionID draw h₂ else .ok () h₂)
      fun _ h' => Added s f.retirePriorTo h' := by
    intro _
    apply Call.Spec.ite
    · rintro _ ⟨⟨q', rfl, ins⟩, -⟩
      obtain ⟨h', run, added⟩ := added_replaceActive wf above fresh.2 parsed ins draw
      rw [run]
      exact ⟨trivial, fun _ h'' done => by cases done; exact added⟩
    · apply Call.spec_ok fun _ => ()
      rintro _ ⟨⟨q', rfl, ins⟩, kept⟩
      exact added_keepActive wf (Nat.not_lt.mp kept)
        ((wf.toQueueOrdered.retirePrior _).insert ins above (Nat.max_le.mpr ⟨fresh.2, parsed⟩))
        ins.kept (atLeast_of_inserted wf.toQueueOrdered ins parsed)
  exact Call.Spec.bind first rest _ rfl

/-! ## The other calls -/

/-- What one call of a run keeps: the invariant, an active ID that does not go
back, and one frame for each ID given up. -/
structure Stepped (h h' : ConnIDManager) : Prop where
  wellformed : Wellformed h'
  activeMonotone : h.activeSequenceNumber ≤ h'.activeSequenceNumber
  accounts : Accounts h h'

theorem Added.stepped {h h' : ConnIDManager} {rpt : Nat} (added : Added h rpt h') : Stepped h h' :=
  ⟨added.wellformed, added.activeMonotone, added.accounts⟩

theorem stepped_of_same {h h' : ConnIDManager} (wf : Wellformed h) (queue : h'.queue = h.queue)
    (active : h'.activeSequenceNumber = h.activeSequenceNumber)
    (retired : h'.highestRetired = h.highestRetired) (frames : h'.queuedFrames = h.queuedFrames) :
    Stepped h h' := by
  obtain ⟨⟨increasing, aboveActive, atLeastRetired⟩, retiredUpToActive, framesBelowActive⟩ := wf
  refine ⟨⟨⟨?_, ?_, ?_⟩, ?_, ?_⟩, Nat.le_of_eq active.symm, accounts_of_frames_eq frames ?_⟩
  · rw [queue]
    exact increasing
  · rw [queue, active]
    exact aboveActive
  · rw [queue, retired]
    exact atLeastRetired
  · rw [retired, active]
    exact retiredUpToActive
  · rw [frames, active]
    exact framesBelowActive
  · simp only [ids, queue, active]

theorem queue_ne_nil_of_shouldUpdateConnID {h : ConnIDManager} (update : h.shouldUpdateConnID = true) :
    h.queue ≠ [] := by
  intro empty
  simp [shouldUpdateConnID, empty, maxActiveConnectionIDs] at update

theorem addFrame_spec {h : ConnIDManager} (wf : Wellformed h) (f : NewConnectionIDFrame)
    (parsed : f.retirePriorTo ≤ f.sequenceNumber) (draw : Nat) :
    Call.Spec (· = h) (addFrame f draw) fun _ h' => Added h f.retirePriorTo h' := by
  unfold addFrame
  exact Call.Spec.bind (add_spec wf f parsed draw) fun _ =>
    Call.Spec.ite (Call.spec_error _) (Call.spec_ok (fun _ => ()) fun _ start => start.1)

theorem get_spec {h : ConnIDManager} (wf : Wellformed h) (draw : Nat) :
    Call.Spec (· = h) (get draw) fun _ h' => Stepped h h' := by
  rintro s rfl
  unfold get
  split_ifs with update
  · have first : Call.Spec (· = s) (updateConnectionID draw) fun _ h' => Stepped s h' := by
      rintro _ rfl
      obtain ⟨front, rest, queue⟩ := List.exists_cons_of_ne_nil (queue_ne_nil_of_shouldUpdateConnID update)
      obtain ⟨h', run, wf', active', frames', inUse⟩ := updateConnectionID_wellformed wf.toQueueOrdered
        (fun r queued => .inl (wf.framesBelowActive r queued)) queue draw
      have above := wf.aboveActive front (by rw [queue]; exact List.mem_cons_self)
      rw [run]
      exact ⟨trivial, fun _ h'' done => by
        cases done
        exact ⟨wf', active' ▸ Nat.le_of_lt above, accounts_updateConnectionID wf.toQueueOrdered frames' inUse⟩⟩
    have rest : ∀ _ : Unit, Call.Spec (Stepped s) (fun h => .ok h.activeConnectionID h) fun _ h' =>
        Stepped s h' := fun _ => Call.spec_ok _ fun _ stepped => stepped
    exact Call.Spec.bind first rest s rfl
  · exact ⟨trivial, fun _ h' done => by cases done; exact stepped_of_same wf rfl rfl rfl rfl⟩

/-! ## Runs -/

/-- The calls of the manager in a run of the connection. -/
inductive Op where
  | addFrame (f : NewConnectionIDFrame) (draw : Nat)
  | get (draw : Nat)
  | sentPacket
  | setHandshakeComplete
deriving DecidableEq, Repr

/-- A frame `parseNewConnectionIDFrame` accepts: it does not retire its own ID. -/
def Op.Accepted : Op → Prop
  | .addFrame f _ => f.retirePriorTo ≤ f.sequenceNumber
  | _ => True

instance : DecidablePred Op.Accepted := fun op =>
  match op with
  | .addFrame f _ => inferInstanceAs (Decidable (f.retirePriorTo ≤ f.sequenceNumber))
  | .get _ => isTrue trivial
  | .sentPacket => isTrue trivial
  | .setHandshakeComplete => isTrue trivial

/-- One call; the connection ID `Get` returns is not used by the manager. -/
def call : Op → Call ConnIDManager Unit
  | .addFrame f draw => addFrame f draw
  | .get draw => get draw >>= fun _ => pure ()
  | .sentPacket => Call.modify sentPacket
  | .setHandshakeComplete => Call.modify setHandshakeComplete

theorem call_spec {h : ConnIDManager} (wf : Wellformed h) (op : Op) (accepted : op.Accepted) :
    Call.Spec (· = h) (call op) fun _ h' =>
      Stepped h h' ∧ ∀ f draw, op = .addFrame f draw → f.retirePriorTo ≤ h'.activeSequenceNumber := by
  cases op with
  | addFrame f draw =>
      refine (addFrame_spec wf f accepted draw).weaken fun _ h' added => ⟨added.stepped, ?_⟩
      rintro f' draw' ⟨⟩
      exact added.pastRetirePriorTo
  | get draw =>
      exact Call.Spec.bind (get_spec wf draw) fun _ =>
        Call.spec_pure () fun _ stepped => ⟨stepped, fun _ _ done => by cases done⟩
  | sentPacket =>
      exact Call.spec_modify _ fun _ same => by
        subst same
        exact ⟨stepped_of_same wf rfl rfl rfl rfl, fun _ _ done => by cases done⟩
  | setHandshakeComplete =>
      exact Call.spec_modify _ fun _ same => by
        subst same
        exact ⟨stepped_of_same wf rfl rfl rfl rfl, fun _ _ done => by cases done⟩

/-- The invariant of a run over the calls `done`. -/
def Reached (done : List Op) (h : ConnIDManager) : Prop :=
  Wellformed h ∧ ∀ f draw, Op.addFrame f draw ∈ done → f.retirePriorTo ≤ h.activeSequenceNumber

theorem run_reached (ops : List Op) (accepted : ∀ op ∈ ops, op.Accepted) :
    Call.Spec (Reached []) (Call.forEach call ops) fun _ => Reached ops := by
  refine Call.forEach_spec Reached ops fun i inside => ?_
  rintro s ⟨wf, past⟩
  obtain ⟨returns, kept⟩ := call_spec wf ops[i] (accepted _ (List.getElem_mem inside)) s rfl
  refine ⟨returns, fun _ h' run => ?_⟩
  obtain ⟨stepped, new⟩ := kept _ h' run
  refine ⟨stepped.wellformed, fun f draw member => ?_⟩
  rw [List.take_succ_eq_append_getElem inside] at member
  rcases List.mem_append.mp member with old | now
  · exact Nat.le_trans (past f draw old) stepped.activeMonotone
  · exact new f draw (List.mem_singleton.mp now).symm

theorem reached_newConnIDManager (initialDestConnID : List UInt8) :
    Reached [] (newConnIDManager initialDestConnID) :=
  ⟨wellformed_newConnIDManager initialDestConnID, by simp⟩

/-- Every run of accepted NEW_CONNECTION_ID frames, `Get`, `SentPacket` and
`SetHandshakeComplete` returns without a panic, so `updateConnectionID` never
meets an empty queue; when it returns without an error the queue is increasing
above the active ID and at or above `highestRetired`, the active ID is past every
`RetirePriorTo` received, no retired sequence number is in use, and each further
accepted call queues exactly one RETIRE_CONNECTION_ID frame for each ID it gives up
and none for an ID in use. -/
theorem connIDManager_run (initialDestConnID : List UInt8) (ops : List Op)
    (accepted : ∀ op ∈ ops, op.Accepted) :
    (Call.forEach call ops (newConnIDManager initialDestConnID)).Returned ∧
    ∀ h, Call.forEach call ops (newConnIDManager initialDestConnID) = .ok () h →
      (h.queue.map (·.sequenceNumber)).Pairwise (· < ·) ∧
      (∀ c ∈ h.queue,
        h.activeSequenceNumber < c.sequenceNumber ∧ h.highestRetired ≤ c.sequenceNumber) ∧
      (∀ f draw, Op.addFrame f draw ∈ ops → f.retirePriorTo ≤ h.activeSequenceNumber) ∧
      (∀ r ∈ h.queuedFrames, r.sequenceNumber ∉ ids h) ∧
      ∀ op h', op.Accepted → call op h = .ok () h' → Accounts h h' := by
  obtain ⟨returns, kept⟩ :=
    run_reached ops accepted _ (reached_newConnIDManager initialDestConnID)
  refine ⟨returns, fun h run => ?_⟩
  obtain ⟨wf, past⟩ := kept () h run
  refine ⟨List.pairwise_map.mpr wf.increasing,
    fun c queued => ⟨wf.aboveActive c queued, wf.atLeastRetired c queued⟩, past,
    fun r queued => wf.retired_not_mem_ids queued, fun op h' acc next => ?_⟩
  exact ((call_spec wf op acc h rfl).2 () h' next).1.accounts

/-- A run with a reordered frame, a frame that retires the active ID and a
duplicate of a retired one. -/
theorem connIDManager_run_reordered :
    (∀ op ∈ [Op.addFrame ⟨2, 0, [2], Vector.replicate 16 0⟩ 7, Op.addFrame ⟨1, 0, [1], Vector.replicate 16 0⟩ 7,
        Op.addFrame ⟨3, 2, [3], Vector.replicate 16 0⟩ 7, Op.addFrame ⟨1, 0, [1], Vector.replicate 16 0⟩ 7,
        Op.setHandshakeComplete, Op.get 7, Op.sentPacket], op.Accepted) ∧
    ∀ h, Call.forEach call [Op.addFrame ⟨2, 0, [2], Vector.replicate 16 0⟩ 7,
        Op.addFrame ⟨1, 0, [1], Vector.replicate 16 0⟩ 7, Op.addFrame ⟨3, 2, [3], Vector.replicate 16 0⟩ 7,
        Op.addFrame ⟨1, 0, [1], Vector.replicate 16 0⟩ 7, Op.setHandshakeComplete, Op.get 7, Op.sentPacket]
      (newConnIDManager [0]) = .ok () h → ∀ r ∈ h.queuedFrames, r.sequenceNumber ∉ ids h :=
  ⟨by decide, fun h run => ((connIDManager_run [0] _ (by decide)).2 h run).2.2.2.1⟩

end ConnIDManager

end QuicFec
