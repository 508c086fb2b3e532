import QuicFec.Stream.StreamsMap

/-! # Streams we open

`streams_map_outgoing.go`: the streams of one type that we open, the limit the
peer's MAX_STREAMS frames set on how far we may open them, and the
`OpenStreamSync` calls that wait for the limit to rise.  A waiting call holds
a place in `openQueue`, whose channel `unblockOpenSync` signals and
`CloseWithError` closes; woken, the call opens a stream if the limit allows,
and otherwise waits again.

The calls blocked in their `select` are part of the state (`System`); each
step of a goroutine is an `Event`: a call of a method, a blocked call woken by
its channel, or a blocked call whose context ends.  `newStream` is the
constructor the map is made with, and the frames handed to
`queueStreamIDBlocked` are kept in `queued`.  What `UpdateSendWindow` and
`CloseWithError` do to the streams themselves is not modeled.

Along every run the map never opens a stream above the peer's limit, its
STREAMS_BLOCKED frames announce increasing limits, and a woken call never
opens before one that queued earlier (`outgoingStreamsMap_run`).  A woken call
whose context ends before it runs takes the wake-up with it: the calls queued
after it then wait although the limit allows a stream, until the limit rises
again (`cancel_loses_wakeUp`). -/
set_option autoImplicit false

namespace QuicFec

open Go QuicFec.Protocol

structure StreamsBlockedFrame where
  type : StreamType
  streamLimit : Int
deriving DecidableEq, Repr

/-- The channel of a waiting `OpenStreamSync` call: its buffer of one wake-up,
and whether `CloseWithError` closed it. -/
structure WaitChan where
  signaled : Bool
  closed : Bool
deriving DecidableEq, Repr

def errTooManyOpenStreams : String := "too many open streams"

/-- `outgoingStreamsMap`: the fields `GetStream` reads and the rest. -/
structure OutgoingStreamsMap.Full (T : Type) extends OutgoingStreamsMap T where
  streamType : StreamType
  openQueue : AList fun _ : Nat => WaitChan
  lowestInQueue : Nat
  highestInQueue : Nat
  maxStream : Int
  blockedSent : Bool
  closeErr : Option String
  queued : List StreamsBlockedFrame

/-- Close every channel, as `CloseWithError` does; the keys stay. -/
def closeAll (q : AList fun _ : Nat => WaitChan) : AList fun _ : Nat => WaitChan :=
  ⟨q.entries.map fun e => ⟨e.1, { e.2 with closed := true }⟩, by
    simpa [List.NodupKeys, List.keys, Function.comp_def] using q.nodupKeys⟩

/-- The first place in the queue from `qp` on that a call holds, among `count` places. -/
def firstInQueue (q : AList fun _ : Nat => WaitChan) : Nat → Nat → Option (Nat × WaitChan)
  | _, 0 => none
  | qp, count + 1 =>
    match q.lookup qp with
    | some c => some (qp, c)
    | none => firstInQueue q (qp + 1) count

namespace OutgoingStreamsMap.Full

variable {T : Type} (newStream : Int → Bool → T)

def newOutgoingStreamsMap (streamType : StreamType) : OutgoingStreamsMap.Full T where
  streams := ∅
  nextStream := 1
  streamType := streamType
  openQueue := ∅
  lowestInQueue := 0
  highestInQueue := 0
  maxStream := invalidStreamNum
  blockedSent := false
  closeErr := none
  queued := []

def openStream (fecProtected : Bool) : Call (OutgoingStreamsMap.Full T) T := fun m =>
  let s := newStream m.nextStream fecProtected
  .ok s { m with streams := m.streams.insert m.nextStream s, nextStream := m.nextStream + 1 }

/-- `maybeSendBlockedFrame`: a STREAMS_BLOCKED frame for the current limit,
unless one was sent for it. -/
def maybeSendBlockedFrame : Call (OutgoingStreamsMap.Full T) Unit := fun m =>
  if m.blockedSent then .ok () m
  else
    let streamNum := if m.maxStream ≠ invalidStreamNum then m.maxStream else 0
    .ok () { m with queued := m.queued ++ [⟨m.streamType, streamNum⟩], blockedSent := true }

/-- `unblockOpenSync`: a wake-up for the call that queued first.  Its
channel's buffer may hold one already; sending on a closed channel panics. -/
def unblockOpenSync : Call (OutgoingStreamsMap.Full T) Unit := fun m =>
  if m.openQueue.entries = [] then .ok () m
  else
    match firstInQueue m.openQueue m.lowestInQueue (m.highestInQueue + 1 - m.lowestInQueue) with
    | none => .ok () m
    | some (qp, c) =>
      if c.closed then .panic "send on closed channel"
      else .ok () { m with openQueue := m.openQueue.insert qp { c with signaled := true } }

/-- `openStreamInternal`, for `OpenStream` and `OpenStreamWithFEC`. -/
def openStreamInternal (fecProtected : Bool) : Call (OutgoingStreamsMap.Full T) T := fun m =>
  match m.closeErr with
  | some e => .error e m
  | none =>
    -- a call that waits in `OpenStreamSync` goes first
    if m.openQueue.entries ≠ [] ∨ m.nextStream > m.maxStream then
      (maybeSendBlockedFrame >>= fun _ => Call.fail errTooManyOpenStreams) m
    else openStream newStream fecProtected m

/-- `openStreamSyncInternal` up to its `select`: the stream, or `none` when
the call now waits at place `highestInQueue` of the queue.  `ctxErr` is what
the context's `Err` returns. -/
def openStreamSyncInternal (fecProtected : Bool) (ctxErr : Option String) :
    Call (OutgoingStreamsMap.Full T) (Option T) := fun m =>
  match m.closeErr, ctxErr with
  | some e, _ => .error e m
  | none, some e => .error e m
  | none, none =>
    if m.openQueue.entries = [] ∧ m.nextStream ≤ m.maxStream then
      (openStream newStream fecProtected >>= fun s => pure (some s)) m
    else
      let queuePos := m.highestInQueue
      let m := { m with
        highestInQueue := m.highestInQueue + 1
        lowestInQueue := if m.openQueue.entries = [] then queuePos else m.lowestInQueue
        openQueue := m.openQueue.insert queuePos ⟨false, false⟩ }
      (maybeSendBlockedFrame >>= fun _ => pure none) m

/-- The loop of `openStreamSyncInternal` after its `select` took the wake-up
of the call at `queuePos`: the stream, or `none` when it waits again. -/
def wakeUp (fecProtected : Bool) (queuePos : Nat) : Call (OutgoingStreamsMap.Full T) (Option T) := fun m =>
  let m := { m with openQueue :=
    match m.openQueue.lookup queuePos with
    | some c => m.openQueue.insert queuePos { c with signaled := false }
    | none => m.openQueue }
  match m.closeErr with
  | some e => .error e m
  | none =>
    if m.nextStream > m.maxStream then .ok none m
    else
      (do
        let str ← openStream newStream fecProtected
        Call.modify fun m => { m with openQueue := m.openQueue.erase queuePos, lowestInQueue := queuePos + 1 }
        unblockOpenSync
        pure (some str)) m

/-- The `ctx.Done()` case of the `select` of the call at `queuePos`. -/
def cancelOpenSync (queuePos : Nat) (ctxErr : String) : Call (OutgoingStreamsMap.Full T) (Option T) :=
  fun m => .error ctxErr { m with openQueue := m.openQueue.erase queuePos }

/-- `DeleteStream`: nil, or the `streamError` it returns. -/
def deleteStream (num : Int) : Call (OutgoingStreamsMap.Full T) (Option StreamsMap.StreamError) := fun m =>
  match m.streams.lookup num with
  | none => .ok (some ⟨"tried to delete unknown outgoing stream %d", [num]⟩) m
  | some _ => .ok none { m with streams := m.streams.erase num }

/-- `SetMaxStream`, for a MAX_STREAMS frame of the peer. -/
def setMaxStream (num : Int) : Call (OutgoingStreamsMap.Full T) Unit := fun m =>
  if num ≤ m.maxStream then .ok () m
  else
    let m := { m with maxStream := num, blockedSent := false }
    let blocked : Call (OutgoingStreamsMap.Full T) Unit :=
      if m.maxStream < m.nextStream - 1 + (m.openQueue.entries.length : Int) then maybeSendBlockedFrame
      else pure ()
    (blocked >>= fun _ => unblockOpenSync) m

/-- `CloseWithError`: closing a channel twice panics. -/
def closeWithError (err : String) : Call (OutgoingStreamsMap.Full T) Unit := fun m =>
  if m.openQueue.entries.any (·.2.closed) then .panic "close of closed channel"
  else .ok () { m with closeErr := some err, openQueue := closeAll m.openQueue }

end OutgoingStreamsMap.Full

/-! ## The map and the calls waiting on it -/

/-- An `OpenStreamSync` call blocked in its `select`: its place in the queue
and the FEC flag it opens its stream with. -/
structure OpenSyncCall where
  queuePos : Nat
  fecProtected : Bool
deriving DecidableEq, Repr

/-- The map and the `OpenStreamSync` calls blocked on it. -/
structure OutgoingStreamsMap.System (T : Type) where
  map : OutgoingStreamsMap.Full T
  waiting : List OpenSyncCall

/-- One step of a goroutine on the map. -/
inductive OutgoingEvent where
  | openStream (fecProtected : Bool)
  | openStreamSync (fecProtected : Bool) (ctxErr : Option String)
  /-- The `select` of the call at `queuePos` receives from its channel. -/
  | wake (queuePos : Nat)
  /-- The `select` of the call at `queuePos` takes `ctx.Done()`. -/
  | cancel (queuePos : Nat) (ctxErr : String)
  | setMaxStream (num : Int)
  | deleteStream (num : Int)
  | closeWithError (err : String)
deriving DecidableEq, Repr

namespace OutgoingStreamsMap.System

open OutgoingStreamsMap.Full

variable {T : Type} (newStream : Int → Bool → T)

/-- A new map, with no call waiting on it. -/
def initial (streamType : StreamType) : OutgoingStreamsMap.System T :=
  ⟨newOutgoingStreamsMap streamType, []⟩

/-- A call of the map's methods; the waiting calls stay as they are. -/
def onMap {α : Type} (x : Call (OutgoingStreamsMap.Full T) α) : Call (OutgoingStreamsMap.System T) α :=
  Call.focus OutgoingStreamsMap.System.map (fun m sys => { sys with map := m }) x

/-- The value a step returns to its goroutine: a stream, or `none` from a
method that returns none or a call that now waits. -/
def step : OutgoingEvent → Call (OutgoingStreamsMap.System T) (Option T)
  | .openStream fecProtected => onMap (openStreamInternal newStream fecProtected >>= fun s => pure (some s))
  | .openStreamSync fecProtected ctxErr => fun sys =>
    match openStreamSyncInternal newStream fecProtected ctxErr sys.map with
    | .ok none m => .ok none ⟨m, sys.waiting ++ [⟨sys.map.highestInQueue, fecProtected⟩]⟩
    | .ok (some s) m => .ok (some s) { sys with map := m }
    | .error e m => .error e { sys with map := m }
    | .panic msg => .panic msg
  | .wake queuePos => fun sys =>
    match sys.waiting.find? (·.queuePos = queuePos) with
    | none => .ok none sys
    | some call =>
      match wakeUp newStream call.fecProtected queuePos sys.map with
      -- woken without a stream, the call waits again
      | .ok none m => .ok none { sys with map := m }
      | .ok (some s) m => .ok (some s) ⟨m, sys.waiting.erase call⟩
      | .error e m => .error e ⟨m, sys.waiting.erase call⟩
      | .panic msg => .panic msg
  | .cancel queuePos ctxErr => fun sys =>
    match sys.waiting.find? (·.queuePos = queuePos) with
    | none => .ok none sys
    | some call =>
      match cancelOpenSync queuePos ctxErr sys.map with
      | .ok r m => .ok r ⟨m, sys.waiting.erase call⟩
      | .error e m => .error e ⟨m, sys.waiting.erase call⟩
      | .panic msg => .panic msg
  | .setMaxStream num => onMap (setMaxStream num >>= fun _ => pure none)
  | .deleteStream num => onMap do
    match ← deleteStream num with
    | none => pure none
    | some err => Call.fail err.error
  | .closeWithError err => onMap (closeWithError err >>= fun _ => pure none)

/-- The events a scheduler may take: a `select` receives only from a channel
with a wake-up or closed, and only a waiting call is woken or cancelled. -/
def Enabled (sys : OutgoingStreamsMap.System T) : OutgoingEvent → Prop
  | .wake queuePos => (∃ call ∈ sys.waiting, call.queuePos = queuePos) ∧
      ∃ c, sys.map.openQueue.lookup queuePos = some c ∧ (c.signaled = true ∨ c.closed = true)
  | .cancel queuePos _ => ∃ call ∈ sys.waiting, call.queuePos = queuePos
  | _ => True

/-- The states a run of enabled steps that `allowed` admits reaches; a step
that panics ends the program. -/
inductive ReachesWhile (allowed : OutgoingStreamsMap.System T → OutgoingEvent → Prop) :
    OutgoingStreamsMap.System T → OutgoingStreamsMap.System T → Prop
  | refl (sys : OutgoingStreamsMap.System T) : ReachesWhile allowed sys sys
  | step {sys sys' sys'' : OutgoingStreamsMap.System T} (e : OutgoingEvent) (admitted : allowed sys e)
      (enabled : Enabled sys e) (returns : (step newStream e sys).state? = some sys')
      (rest : ReachesWhile allowed sys' sys'') : ReachesWhile allowed sys sys''

/-- The states any run of enabled steps reaches. -/
abbrev Reaches : OutgoingStreamsMap.System T → OutgoingStreamsMap.System T → Prop :=
  ReachesWhile newStream fun _ _ => True

end OutgoingStreamsMap.System

/-! ## The queue of waiting calls -/

section Queue

variable {q : AList fun _ : Nat => WaitChan}

@[simp] theorem lookup_closeAll (p : Nat) :
    (closeAll q).lookup p = (q.lookup p).map fun c => { c with closed := true } := by
  show (q.entries.map (Sigma.map id fun _ c => { c with closed := true } :
    (Σ _ : Nat, WaitChan) → Σ _ : Nat, WaitChan)).dlookup p = _
  exact List.dlookup_map₂ p

@[simp] theorem mem_closeAll (p : Nat) : p ∈ closeAll q ↔ p ∈ q := by
  rw [← AList.lookup_isSome, ← AList.lookup_isSome, lookup_closeAll, Option.isSome_map]

end Queue

theorem firstInQueue_eq_some {q : AList fun _ : Nat => WaitChan} :
    ∀ {qp count p : Nat} {c : WaitChan}, firstInQueue q qp count = some (p, c) →
      q.lookup p = some c ∧ qp ≤ p ∧ p < qp + count ∧ ∀ r, qp ≤ r → r < p → q.lookup r = none := by
  intro qp count
  induction count generalizing qp with
  | zero => intro p c found; cases found
  | succ count ih =>
    intro p c found
    unfold firstInQueue at found
    cases here : q.lookup qp with
    | some c' =>
      rw [here] at found
      cases found
      exact ⟨here, le_rfl, by omega, fun r low high => by omega⟩
    | none =>
      rw [here] at found
      obtain ⟨lookup, low, high, before⟩ := ih found
      refine ⟨lookup, by omega, by omega, fun r rLow rHigh => ?_⟩
      by_cases first : r = qp
      · rw [first, here]
      · exact before r (by omega) rHigh

/-! ## The limit and the STREAMS_BLOCKED frames -/

namespace OutgoingStreamsMap.Full

variable {T : Type}

/-- The limit `maybeSendBlockedFrame` announces. -/
def announced (m : OutgoingStreamsMap.Full T) : Int :=
  if m.maxStream ≠ invalidStreamNum then m.maxStream else 0

/-- No stream above the peer's limit, and each STREAMS_BLOCKED frame for a
higher limit than the one before it, but for a first frame before any limit
was known. -/
structure LimitOk (m : OutgoingStreamsMap.Full T) : Prop where
  nextPos : 1 ≤ m.nextStream
  opened : ∀ k ∈ m.streams, 1 ≤ k ∧ k < m.nextStream
  limitValid : invalidStreamNum ≤ m.maxStream
  withinLimit : m.nextStream ≤ m.announced + 1
  blockedAnnounced : ∀ f ∈ m.queued, f.streamLimit ≤ m.announced
  blockedLater : ∀ f ∈ m.queued.tail, f.streamLimit ≤ m.maxStream
  blockedOnce : m.blockedSent = false → ∀ f ∈ m.queued.tail, f.streamLimit < m.maxStream
  blockedFirst : m.maxStream = invalidStreamNum → m.queued.tail = [] ∧ (m.queued ≠ [] → m.blockedSent = true)
  blockedSorted : (m.queued.map (·.streamLimit)).Pairwise (· ≤ ·)
  blockedIncreasing : (m.queued.tail.map (·.streamLimit)).Pairwise (· < ·)

theorem limitOk_newOutgoingStreamsMap (streamType : StreamType) :
    LimitOk (newOutgoingStreamsMap streamType : OutgoingStreamsMap.Full T) where
  nextPos := le_rfl
  opened := by simp [newOutgoingStreamsMap, AList.notMem_empty]
  limitValid := le_rfl
  withinLimit := by simp [newOutgoingStreamsMap, announced]
  blockedAnnounced := by simp [newOutgoingStreamsMap]
  blockedLater := by simp [newOutgoingStreamsMap]
  blockedOnce := by simp [newOutgoingStreamsMap]
  blockedFirst := by simp [newOutgoingStreamsMap]
  blockedSorted := by simp [newOutgoingStreamsMap]
  blockedIncreasing := by simp [newOutgoingStreamsMap]

/-- `m'` has the streams, the limit and the STREAMS_BLOCKED state of `m`. -/
structure SameLimits (m m' : OutgoingStreamsMap.Full T) : Prop where
  streams : m'.streams = m.streams
  nextStream : m'.nextStream = m.nextStream
  maxStream : m'.maxStream = m.maxStream
  blockedSent : m'.blockedSent = m.blockedSent
  queued : m'.queued = m.queued

theorem LimitOk.of_same {m m' : OutgoingStreamsMap.Full T} (lim : LimitOk m) (same : SameLimits m m') :
    LimitOk m' := by
  have announced : m'.announced = m.announced := by
    rw [Full.announced, Full.announced, same.maxStream]
  obtain ⟨streams, next, max, sent, queued⟩ := same
  exact {
    nextPos := next ▸ lim.nextPos
    opened := by rw [streams, next]; exact lim.opened
    limitValid := max ▸ lim.limitValid
    withinLimit := by rw [next, announced]; exact lim.withinLimit
    blockedAnnounced := by rw [queued, announced]; exact lim.blockedAnnounced
    blockedLater := by rw [queued, max]; exact lim.blockedLater
    blockedOnce := by rw [queued, max, sent]; exact lim.blockedOnce
    blockedFirst := by rw [queued, max, sent]; exact lim.blockedFirst
    blockedSorted := by rw [queued]; exact lim.blockedSorted
    blockedIncreasing := by rw [queued]; exact lim.blockedIncreasing }

theorem announced_of_valid {m : OutgoingStreamsMap.Full T} (valid : m.maxStream ≠ invalidStreamNum) :
    m.announced = m.maxStream := if_pos valid

theorem announced_of_invalid {m : OutgoingStreamsMap.Full T} (invalid : m.maxStream = invalidStreamNum) :
    m.announced = 0 := if_neg (not_not.mpr invalid)

theorem LimitOk.announced_eq {m : OutgoingStreamsMap.Full T} (lim : LimitOk m) :
    m.announced = max m.maxStream 0 := by
  by_cases valid : m.maxStream = invalidStreamNum
  · rw [announced_of_invalid valid, valid]; rfl
  · have atLeast : (-1 : Int) ≤ m.maxStream := lim.limitValid
    have notInvalid : m.maxStream ≠ -1 := valid
    have nonneg : 0 ≤ m.maxStream := by omega
    rw [announced_of_valid valid, max_eq_left nonneg]

theorem LimitOk.le_maxStream {m : OutgoingStreamsMap.Full T} (lim : LimitOk m) {k : Int}
    (member : k ∈ m.streams) : 1 ≤ k ∧ k ≤ m.maxStream := by
  have := lim.opened k member
  have := lim.withinLimit
  rw [lim.announced_eq] at this
  omega

variable (newStream : Int → Bool → T)

theorem limitOk_openStream {m m' : OutgoingStreamsMap.Full T} {fecProtected : Bool} {s : T}
    (lim : LimitOk m) (room : m.nextStream ≤ m.maxStream)
    (run : openStream newStream fecProtected m = .ok s m') : LimitOk m' := by
  unfold openStream at run
  cases run
  have pos := lim.nextPos
  have within := lim.withinLimit
  rw [lim.announced_eq] at within
  exact {
    nextPos := by dsimp only; omega
    opened := by
      intro k member
      rcases (AList.mem_insert _).mp member with rfl | old
      · exact ⟨pos, by dsimp only; omega⟩
      · have := lim.opened k old
        dsimp only; omega
    limitValid := lim.limitValid
    withinLimit := by
      show m.nextStream + 1 ≤ m.announced + 1
      rw [lim.announced_eq]; omega
    blockedAnnounced := lim.blockedAnnounced
    blockedLater := lim.blockedLater
    blockedOnce := lim.blockedOnce
    blockedFirst := lim.blockedFirst
    blockedSorted := lim.blockedSorted
    blockedIncreasing := lim.blockedIncreasing }

theorem LimitOk.valid_of_queued {m : OutgoingStreamsMap.Full T} (lim : LimitOk m)
    (notSent : m.blockedSent = false) (nonempty : m.queued ≠ []) : m.maxStream ≠ invalidStreamNum := by
  intro invalid
  have sent := (lim.blockedFirst invalid).2 nonempty
  rw [notSent] at sent
  cases sent

theorem limitOk_maybeSendBlockedFrame {m m' : OutgoingStreamsMap.Full T} (lim : LimitOk m)
    (run : maybeSendBlockedFrame m = .ok () m') : LimitOk m' := by
  unfold maybeSendBlockedFrame at run
  by_cases sent : m.blockedSent
  · rw [if_pos sent] at run
    cases run
    exact lim
  rw [if_neg sent] at run
  have notSent : m.blockedSent = false := by simpa using sent
  have queued : m'.queued = m.queued ++ [⟨m.streamType, m.announced⟩] := by cases run; rfl
  have sentNow : m'.blockedSent = true := by cases run; rfl
  have streams : m'.streams = m.streams := by cases run; rfl
  have next : m'.nextStream = m.nextStream := by cases run; rfl
  have max : m'.maxStream = m.maxStream := by cases run; rfl
  have announced : m'.announced = m.announced := by rw [Full.announced, Full.announced, max]
  have frame : ∀ f ∈ m'.queued, f ∈ m.queued ∨ f.streamLimit = m.announced := by
    intro f member
    rw [queued] at member
    rcases List.mem_append.mp member with old | new
    · exact .inl old
    · rw [List.mem_singleton.mp new]; exact .inr rfl
  have tail : ∀ nonempty : m.queued ≠ [], m'.queued.tail = m.queued.tail ++ [⟨m.streamType, m.announced⟩] :=
    fun nonempty => by rw [queued, List.tail_append_of_ne_nil nonempty]
  exact {
    nextPos := next ▸ lim.nextPos
    opened := by rw [streams, next]; exact lim.opened
    limitValid := max ▸ lim.limitValid
    withinLimit := by rw [next, announced]; exact lim.withinLimit
    blockedAnnounced := by
      intro f member
      rw [announced]
      rcases frame f member with old | new
      · exact lim.blockedAnnounced f old
      · exact new.le
    blockedLater := by
      by_cases empty : m.queued = []
      · simp [queued, empty]
      intro f member
      rw [tail empty] at member
      rw [max]
      rcases List.mem_append.mp member with old | new
      · exact lim.blockedLater f old
      · rw [List.mem_singleton.mp new]
        exact (announced_of_valid (lim.valid_of_queued notSent empty)).le
    blockedOnce := by
      intro notSentNow
      rw [sentNow] at notSentNow
      cases notSentNow
    blockedFirst := by
      intro invalid
      rw [max] at invalid
      have empty : m.queued = [] := by
        by_contra nonempty
        exact lim.valid_of_queued notSent nonempty invalid
      exact ⟨by simp [queued, empty], fun _ => sentNow⟩
    blockedSorted := by
      rw [queued, List.map_append, List.map_singleton, List.pairwise_append]
      refine ⟨lim.blockedSorted, List.pairwise_singleton _ _, ?_⟩
      intro a old b new
      obtain ⟨f, member, rfl⟩ := List.mem_map.mp old
      rw [List.mem_singleton.mp new]
      exact lim.blockedAnnounced f member
    blockedIncreasing := by
      by_cases empty : m.queued = []
      · simp [queued, empty]
      rw [tail empty, List.map_append, List.map_singleton, List.pairwise_append]
      refine ⟨lim.blockedIncreasing, List.pairwise_singleton _ _, ?_⟩
      intro a old b new
      obtain ⟨f, member, rfl⟩ := List.mem_map.mp old
      rw [List.mem_singleton.mp new, announced_of_valid (lim.valid_of_queued notSent empty)]
      exact lim.blockedOnce notSent f member }

theorem limitOk_raise {m : OutgoingStreamsMap.Full T} (lim : LimitOk m) {num : Int}
    (higher : m.maxStream < num) : LimitOk { m with maxStream := num, blockedSent := false } := by
  have atLeast : (-1 : Int) ≤ m.maxStream := lim.limitValid
  have valid : num ≠ invalidStreamNum := show num ≠ -1 by omega
  have announced : ({ m with maxStream := num, blockedSent := false } : OutgoingStreamsMap.Full T).announced = num :=
    announced_of_valid valid
  have within := lim.withinLimit
  rw [lim.announced_eq] at within
  exact {
    nextPos := lim.nextPos
    opened := lim.opened
    limitValid := show (-1 : Int) ≤ num by omega
    withinLimit := by rw [announced]; show m.nextStream ≤ num + 1; omega
    blockedAnnounced := by
      intro f member
      have below := lim.blockedAnnounced f member
      rw [lim.announced_eq] at below
      rw [announced]; omega
    blockedLater := fun f member => (lim.blockedLater f member).trans higher.le
    blockedOnce := fun _ f member => (lim.blockedLater f member).trans_lt higher
    blockedFirst := fun invalid => absurd invalid valid
    blockedSorted := lim.blockedSorted
    blockedIncreasing := lim.blockedIncreasing }

theorem limitOk_deleteStream {m m' : OutgoingStreamsMap.Full T} (lim : LimitOk m) {num : Int}
    (run : (deleteStream num m).state? = some m') : LimitOk m' := by
  unfold deleteStream at run
  cases found : m.streams.lookup num with
  | none =>
    rw [found] at run
    cases run
    exact lim
  | some str =>
    rw [found] at run
    cases run
    exact {
      nextPos := lim.nextPos
      opened := fun k member => lim.opened k (AList.mem_erase.mp member).2
      limitValid := lim.limitValid
      withinLimit := lim.withinLimit
      blockedAnnounced := lim.blockedAnnounced
      blockedLater := lim.blockedLater
      blockedOnce := lim.blockedOnce
      blockedFirst := lim.blockedFirst
      blockedSorted := lim.blockedSorted
      blockedIncreasing := lim.blockedIncreasing }

/-! ## The queue and the waiting calls -/

/-- `m'` has the queue of `m`. -/
structure SameQueue (m m' : OutgoingStreamsMap.Full T) : Prop where
  openQueue : m'.openQueue = m.openQueue
  lowestInQueue : m'.lowestInQueue = m.lowestInQueue
  highestInQueue : m'.highestInQueue = m.highestInQueue
  closeErr : m'.closeErr = m.closeErr

/-- The places of the queue are those of the waiting calls, in the order the
calls queued, between `lowestInQueue` and `highestInQueue`; until the map is
closed no channel is, and a wake-up is only ever held for the call that
queued first.  Once closed, every channel is. -/
structure QueueOk (m : OutgoingStreamsMap.Full T) (waiting : List OpenSyncCall) : Prop where
  ordered : (waiting.map (·.queuePos)).Pairwise (· < ·)
  waitingQueued : ∀ call ∈ waiting, call.queuePos ∈ m.openQueue
  queuedInRange : ∀ p ∈ m.openQueue, m.lowestInQueue ≤ p ∧ p < m.highestInQueue
  queuedWaiting : m.closeErr = none → ∀ p ∈ m.openQueue, ∃ call ∈ waiting, call.queuePos = p
  openChans : m.closeErr = none → ∀ p c, m.openQueue.lookup p = some c → c.closed = false
  closedChans : m.closeErr ≠ none → ∀ p c, m.openQueue.lookup p = some c → c.closed = true
  signaledFirst : m.closeErr = none → ∀ p c, m.openQueue.lookup p = some c → c.signaled = true →
    ∀ call ∈ waiting, p ≤ call.queuePos

theorem queueOk_newOutgoingStreamsMap (streamType : StreamType) :
    QueueOk (newOutgoingStreamsMap streamType : OutgoingStreamsMap.Full T) [] where
  ordered := List.Pairwise.nil
  waitingQueued := by simp
  queuedInRange := by simp [newOutgoingStreamsMap, AList.notMem_empty]
  queuedWaiting := by simp [newOutgoingStreamsMap, AList.notMem_empty]
  openChans := by simp [newOutgoingStreamsMap, AList.lookup_empty]
  closedChans := by simp [newOutgoingStreamsMap]
  signaledFirst := by simp [newOutgoingStreamsMap, AList.lookup_empty]

section QueueOk

variable {m : OutgoingStreamsMap.Full T} {waiting : List OpenSyncCall}

theorem QueueOk.of_same {m' : OutgoingStreamsMap.Full T} (q : QueueOk m waiting) (same : SameQueue m m') :
    QueueOk m' waiting := by
  obtain ⟨openQueue, lowest, highest, closeErr⟩ := same
  exact {
    ordered := q.ordered
    waitingQueued := by rw [openQueue]; exact q.waitingQueued
    queuedInRange := by rw [openQueue, lowest, highest]; exact q.queuedInRange
    queuedWaiting := by rw [openQueue, closeErr]; exact q.queuedWaiting
    openChans := by rw [openQueue, closeErr]; exact q.openChans
    closedChans := by rw [openQueue, closeErr]; exact q.closedChans
    signaledFirst := by rw [openQueue, closeErr]; exact q.signaledFirst }

theorem QueueOk.eq_of_queuePos (q : QueueOk m waiting) {call call' : OpenSyncCall} (member : call ∈ waiting)
    (member' : call' ∈ waiting) (same : call.queuePos = call'.queuePos) : call = call' :=
  List.inj_on_of_nodup_map q.ordered.nodup member member' same

theorem QueueOk.nodup (q : QueueOk m waiting) : waiting.Nodup :=
  List.Nodup.of_map _ q.ordered.nodup

theorem QueueOk.mem_erase (q : QueueOk m waiting) {call call' : OpenSyncCall} (member : call ∈ waiting) :
    call' ∈ waiting.erase call ↔ call' ∈ waiting ∧ call'.queuePos ≠ call.queuePos := by
  rw [q.nodup.mem_erase_iff]
  constructor
  · rintro ⟨other, member'⟩
    exact ⟨member', fun same => other (q.eq_of_queuePos member' member same)⟩
  · rintro ⟨member', other⟩
    exact ⟨fun same => other (congrArg (·.queuePos) same), member'⟩

theorem QueueOk.ordered_erase (q : QueueOk m waiting) (call : OpenSyncCall) :
    ((waiting.erase call).map (·.queuePos)).Pairwise (· < ·) :=
  q.ordered.sublist ((List.erase_sublist).map _)

theorem QueueOk.lt_highest (q : QueueOk m waiting) {call : OpenSyncCall} (member : call ∈ waiting) :
    call.queuePos < m.highestInQueue :=
  (q.queuedInRange _ (q.waitingQueued call member)).2

theorem QueueOk.signaled_eq (q : QueueOk m waiting) (live : m.closeErr = none) {p k : Nat} {c c' : WaitChan}
    (found : m.openQueue.lookup p = some c) (signaled : c.signaled = true)
    (found' : m.openQueue.lookup k = some c') (signaled' : c'.signaled = true) : k = p := by
  obtain ⟨callP, waitsP, rfl⟩ := q.queuedWaiting live p (Map.mem_of_lookup found)
  obtain ⟨callK, waitsK, rfl⟩ := q.queuedWaiting live k (Map.mem_of_lookup found')
  exact le_antisymm (q.signaledFirst live _ c' found' signaled' callP waitsP)
    (q.signaledFirst live _ c found signaled callK waitsK)

theorem QueueOk.find?_eq (q : QueueOk m waiting) {call : OpenSyncCall} (member : call ∈ waiting) :
    waiting.find? (·.queuePos = call.queuePos) = some call := by
  cases found : waiting.find? (·.queuePos = call.queuePos) with
  | none => exact absurd (by simp) (List.find?_eq_none.mp found call member)
  | some call' =>
    have same : call'.queuePos = call.queuePos := by simpa using List.find?_some found
    rw [q.eq_of_queuePos (List.mem_of_find?_eq_some found) member same]

theorem queueOk_unblockOpenSync {m' : OutgoingStreamsMap.Full T} (q : QueueOk m waiting)
    (run : unblockOpenSync m = .ok () m') : QueueOk m' waiting ∧ SameLimits m m' := by
  unfold unblockOpenSync at run
  by_cases empty : m.openQueue.entries = []
  · rw [if_pos empty] at run
    cases run
    exact ⟨q, ⟨rfl, rfl, rfl, rfl, rfl⟩⟩
  rw [if_neg empty] at run
  cases found : firstInQueue m.openQueue m.lowestInQueue (m.highestInQueue + 1 - m.lowestInQueue) with
  | none =>
    rw [found] at run
    cases run
    exact ⟨q, ⟨rfl, rfl, rfl, rfl, rfl⟩⟩
  | some first =>
    obtain ⟨qp, c⟩ := first
    rw [found] at run
    dsimp only at run
    obtain ⟨lookup, -, -, before⟩ := firstInQueue_eq_some found
    by_cases closed : c.closed
    · rw [if_pos closed] at run
      cases run
    rw [if_neg closed] at run
    cases run
    refine ⟨?_, ⟨rfl, rfl, rfl, rfl, rfl⟩⟩
    have keys := Map.mem_insert_of_lookup { c with signaled := true } lookup
    have firstCall : ∀ call ∈ waiting, qp ≤ call.queuePos := by
      intro call member
      by_contra below
      have atLeast := (q.queuedInRange _ (q.waitingQueued call member)).1
      have none := before call.queuePos atLeast (by omega)
      exact AList.lookup_eq_none.mp none (q.waitingQueued call member)
    exact {
      ordered := q.ordered
      waitingQueued := fun call member => (keys _).mpr (q.waitingQueued call member)
      queuedInRange := fun p member => q.queuedInRange p ((keys p).mp member)
      queuedWaiting := fun live p member => q.queuedWaiting live p ((keys p).mp member)
      openChans := by
        intro live p c' found'
        by_cases here : p = qp
        · rw [here, AList.lookup_insert] at found'
          cases found'
          simpa using closed
        · rw [AList.lookup_insert_ne here] at found'
          exact q.openChans live p c' found'
      closedChans := by
        intro notOpen p c' found'
        by_cases here : p = qp
        · exact absurd (q.closedChans notOpen qp c lookup) closed
        · rw [AList.lookup_insert_ne here] at found'
          exact q.closedChans notOpen p c' found'
      signaledFirst := by
        intro live p c' found' signaled
        by_cases here : p = qp
        · rw [here]; exact firstCall
        · rw [AList.lookup_insert_ne here] at found'
          exact q.signaledFirst live p c' found' signaled }

/-- The state once `openStreamSyncInternal` has queued its call at `highestInQueue`. -/
def enqueued (m : OutgoingStreamsMap.Full T) : OutgoingStreamsMap.Full T :=
  { m with
    highestInQueue := m.highestInQueue + 1
    lowestInQueue := if m.openQueue.entries = [] then m.highestInQueue else m.lowestInQueue
    openQueue := m.openQueue.insert m.highestInQueue ⟨false, false⟩ }

theorem queueOk_enqueue (q : QueueOk m waiting) (live : m.closeErr = none) (fecProtected : Bool) :
    QueueOk m.enqueued (waiting ++ [⟨m.highestInQueue, fecProtected⟩]) := by
  unfold enqueued
  have lowest : ∀ p ∈ m.openQueue, m.lowestInQueue ≤ m.highestInQueue := fun p member =>
    ((q.queuedInRange p member).1.trans (q.queuedInRange p member).2.le)
  have calls : ∀ call ∈ waiting ++ [⟨m.highestInQueue, fecProtected⟩],
      call ∈ waiting ∨ call.queuePos = m.highestInQueue := by
    intro call member
    rcases List.mem_append.mp member with old | new
    · exact .inl old
    · rw [List.mem_singleton.mp new]; exact .inr rfl
  exact {
    ordered := by
      rw [List.map_append, List.map_singleton, List.pairwise_append]
      refine ⟨q.ordered, List.pairwise_singleton _ _, ?_⟩
      intro a old b new
      obtain ⟨call, member, rfl⟩ := List.mem_map.mp old
      rw [List.mem_singleton.mp new]
      exact q.lt_highest member
    waitingQueued := by
      intro call member
      rcases calls call member with old | new
      · exact (AList.mem_insert _).mpr (.inr (q.waitingQueued call old))
      · exact (AList.mem_insert _).mpr (.inl new)
    queuedInRange := by
      intro p member
      dsimp only
      by_cases empty : m.openQueue.entries = []
      · rw [if_pos empty]
        rcases (AList.mem_insert _).mp member with rfl | old
        · omega
        · exact absurd old (Map.entries_eq_nil_iff.mp empty p)
      · rw [if_neg empty]
        obtain ⟨k, held⟩ : ∃ k, k ∈ m.openQueue := by
          by_contra none
          exact empty (Map.entries_eq_nil_iff.mpr fun k held => none ⟨k, held⟩)
        rcases (AList.mem_insert _).mp member with rfl | old
        · exact ⟨lowest k held, by omega⟩
        · have := q.queuedInRange p old
          omega
    queuedWaiting := by
      intro _ p member
      rcases (AList.mem_insert _).mp member with rfl | old
      · exact ⟨_, List.mem_append_right _ (List.mem_singleton_self _), rfl⟩
      · obtain ⟨call, waits, rfl⟩ := q.queuedWaiting live p old
        exact ⟨call, List.mem_append_left _ waits, rfl⟩
    openChans := by
      intro _ p c found
      by_cases here : p = m.highestInQueue
      · rw [here, AList.lookup_insert] at found
        cases found
        rfl
      · rw [AList.lookup_insert_ne here] at found
        exact q.openChans live p c found
    closedChans := fun notLive => absurd live notLive
    signaledFirst := by
      intro _ p c found signaled call member
      by_cases here : p = m.highestInQueue
      · rw [here, AList.lookup_insert] at found
        cases found
        cases signaled
      · rw [AList.lookup_insert_ne here] at found
        rcases calls call member with old | new
        · exact q.signaledFirst live p c found signaled call old
        · rw [new]
          exact (q.queuedInRange p (Map.mem_of_lookup found)).2.le }

theorem queueOk_consume (q : QueueOk m waiting) {p : Nat} {c : WaitChan} (found : m.openQueue.lookup p = some c) :
    QueueOk { m with openQueue := m.openQueue.insert p { c with signaled := false } } waiting := by
  have keys := Map.mem_insert_of_lookup { c with signaled := false } found
  exact {
    ordered := q.ordered
    waitingQueued := fun call member => (keys _).mpr (q.waitingQueued call member)
    queuedInRange := fun r member => q.queuedInRange r ((keys r).mp member)
    queuedWaiting := fun live r member => q.queuedWaiting live r ((keys r).mp member)
    openChans := by
      intro live r c' found'
      by_cases here : r = p
      · rw [here, AList.lookup_insert] at found'
        cases found'
        exact q.openChans live p c found
      · rw [AList.lookup_insert_ne here] at found'
        exact q.openChans live r c' found'
    closedChans := by
      intro notLive r c' found'
      by_cases here : r = p
      · rw [here, AList.lookup_insert] at found'
        cases found'
        exact q.closedChans notLive p c found
      · rw [AList.lookup_insert_ne here] at found'
        exact q.closedChans notLive r c' found'
    signaledFirst := by
      intro live r c' found' signaled
      by_cases here : r = p
      · rw [here, AList.lookup_insert] at found'
        cases found'
        cases signaled
      · rw [AList.lookup_insert_ne here] at found'
        exact q.signaledFirst live r c' found' signaled }

theorem QueueOk.waitingQueued_erase (q : QueueOk m waiting) {call : OpenSyncCall} (member : call ∈ waiting) :
    ∀ call' ∈ waiting.erase call, call'.queuePos ∈ m.openQueue.erase call.queuePos := by
  intro call' member'
  obtain ⟨waits, other⟩ := (q.mem_erase member).mp member'
  exact AList.mem_erase.mpr ⟨other, q.waitingQueued call' waits⟩

theorem QueueOk.queuedWaiting_erase (q : QueueOk m waiting) {call : OpenSyncCall} (member : call ∈ waiting)
    (live : m.closeErr = none) :
    ∀ p ∈ m.openQueue.erase call.queuePos, ∃ call' ∈ waiting.erase call, call'.queuePos = p := by
  intro p held
  obtain ⟨other, held⟩ := AList.mem_erase.mp held
  obtain ⟨call', waits, rfl⟩ := q.queuedWaiting live p held
  exact ⟨call', (q.mem_erase member).mpr ⟨waits, other⟩, rfl⟩

theorem queueOk_leave (q : QueueOk m waiting) (live : m.closeErr = none) {call : OpenSyncCall}
    (member : call ∈ waiting) (first : ∀ call' ∈ waiting, call.queuePos ≤ call'.queuePos) :
    QueueOk { m with
      openQueue := m.openQueue.erase call.queuePos
      lowestInQueue := call.queuePos + 1 } (waiting.erase call) := by
  have above : ∀ p ∈ m.openQueue, p ≠ call.queuePos → call.queuePos < p := by
    intro p held other
    obtain ⟨call', waits, rfl⟩ := q.queuedWaiting live p held
    exact lt_of_le_of_ne (first call' waits) (Ne.symm other)
  exact {
    ordered := q.ordered_erase call
    waitingQueued := q.waitingQueued_erase member
    queuedInRange := by
      intro p held
      obtain ⟨other, held⟩ := AList.mem_erase.mp held
      exact ⟨above p held other, (q.queuedInRange p held).2⟩
    queuedWaiting := fun _ => q.queuedWaiting_erase member live
    openChans := by
      intro _ p c found
      exact q.openChans live p c (Map.lookup_of_lookup_erase found).2
    closedChans := fun notLive => absurd live notLive
    signaledFirst := by
      intro _ p c found signaled
      obtain ⟨other, found⟩ := Map.lookup_of_lookup_erase found
      have below := q.signaledFirst live p c found signaled call member
      have := above p (Map.mem_of_lookup found) other
      omega }

theorem queueOk_cancel (q : QueueOk m waiting) {call : OpenSyncCall} (member : call ∈ waiting) :
    QueueOk { m with openQueue := m.openQueue.erase call.queuePos } (waiting.erase call) where
  ordered := q.ordered_erase call
  waitingQueued := q.waitingQueued_erase member
  queuedInRange := fun p held => q.queuedInRange p (AList.mem_erase.mp held).2
  queuedWaiting := fun live => q.queuedWaiting_erase member live
  openChans := fun live p c found => q.openChans live p c (Map.lookup_of_lookup_erase found).2
  closedChans := fun notLive p c found => q.closedChans notLive p c (Map.lookup_of_lookup_erase found).2
  signaledFirst := by
    intro live p c found signaled call' member'
    exact q.signaledFirst live p c (Map.lookup_of_lookup_erase found).2 signaled call' ((q.mem_erase member).mp member').1

theorem QueueOk.erase_of_closed (q : QueueOk m waiting) (closed : m.closeErr ≠ none) (call : OpenSyncCall) :
    QueueOk m (waiting.erase call) where
  ordered := q.ordered_erase call
  waitingQueued := fun call' member => q.waitingQueued call' ((List.erase_sublist).subset member)
  queuedInRange := q.queuedInRange
  queuedWaiting := fun live => absurd live closed
  openChans := fun live => absurd live closed
  closedChans := q.closedChans
  signaledFirst := fun live => absurd live closed

theorem queueOk_closeWithError (q : QueueOk m waiting) (err : String) :
    QueueOk { m with closeErr := some err, openQueue := closeAll m.openQueue } waiting where
  ordered := q.ordered
  waitingQueued := fun call member => (mem_closeAll _).mpr (q.waitingQueued call member)
  queuedInRange := fun p held => q.queuedInRange p ((mem_closeAll p).mp held)
  queuedWaiting := fun live => by cases live
  openChans := fun live => by cases live
  closedChans := by
    intro _ p c found
    rw [lookup_closeAll] at found
    obtain ⟨c', _, rfl⟩ := Option.map_eq_some_iff.mp found
    rfl
  signaledFirst := fun live => by cases live

end QueueOk

/-! ## What each method does to the invariant -/

section Methods

variable {m m' : OutgoingStreamsMap.Full T} {waiting : List OpenSyncCall}

theorem maybeSendBlockedFrame_returns (m : OutgoingStreamsMap.Full T) :
    ∃ m', maybeSendBlockedFrame m = .ok () m' := by
  unfold maybeSendBlockedFrame
  by_cases sent : m.blockedSent
  · rw [if_pos sent]; exact ⟨m, rfl⟩
  · rw [if_neg sent]; exact ⟨_, rfl⟩

theorem maybeSendBlockedFrame_frame (run : maybeSendBlockedFrame m = .ok () m') :
    SameQueue m m' ∧ m'.nextStream = m.nextStream ∧ m'.maxStream = m.maxStream := by
  unfold maybeSendBlockedFrame at run
  split at run <;> cases run <;> exact ⟨⟨rfl, rfl, rfl, rfl⟩, rfl, rfl⟩

theorem unblockOpenSync_ne_error (m : OutgoingStreamsMap.Full T) {e : String} :
    unblockOpenSync m ≠ .error e m' := by
  unfold unblockOpenSync
  split
  · exact fun returned => by cases returned
  · split
    · exact fun returned => by cases returned
    · split <;> exact fun returned => by cases returned

theorem openStream_sameQueue {fecProtected : Bool} {s : T} (run : openStream newStream fecProtected m = .ok s m') :
    SameQueue m m' := by
  cases run
  exact ⟨rfl, rfl, rfl, rfl⟩

theorem openStreamInternal_cases (fecProtected : Bool) (m : OutgoingStreamsMap.Full T) :
    (∃ e, m.closeErr = some e ∧ openStreamInternal newStream fecProtected m = .error e m) ∨
    (m.closeErr = none ∧ (m.openQueue.entries ≠ [] ∨ m.nextStream > m.maxStream) ∧
      ∃ m', maybeSendBlockedFrame m = .ok () m' ∧
        openStreamInternal newStream fecProtected m = .error errTooManyOpenStreams m') ∨
    (m.closeErr = none ∧ m.openQueue.entries = [] ∧ m.nextStream ≤ m.maxStream ∧
      openStreamInternal newStream fecProtected m = openStream newStream fecProtected m) := by
  unfold openStreamInternal
  cases closed : m.closeErr with
  | some e => exact .inl ⟨e, rfl, rfl⟩
  | none =>
    dsimp only
    by_cases blocked : m.openQueue.entries ≠ [] ∨ m.nextStream > m.maxStream
    · obtain ⟨m1, sent⟩ := maybeSendBlockedFrame_returns m
      refine .inr (.inl ⟨rfl, blocked, m1, sent, ?_⟩)
      rw [if_pos blocked, Call.bind_of_ok sent]
      rfl
    · refine .inr (.inr ⟨rfl, ?_, ?_, if_neg blocked⟩)
      · rw [not_or, not_not] at blocked
        exact blocked.1
      · rw [not_or, not_lt] at blocked
        exact blocked.2

theorem openStreamInternal_wellformed {fecProtected : Bool} (lim : LimitOk m) (q : QueueOk m waiting)
    (returns : (openStreamInternal newStream fecProtected m).state? = some m') :
    LimitOk m' ∧ QueueOk m' waiting := by
  rcases openStreamInternal_cases newStream fecProtected m with
    ⟨e, -, run⟩ | ⟨-, -, m1, sent, run⟩ | ⟨-, -, room, run⟩ <;> rw [run] at returns
  · cases returns
    exact ⟨lim, q⟩
  · cases returns
    exact ⟨limitOk_maybeSendBlockedFrame lim sent, q.of_same (maybeSendBlockedFrame_frame sent).1⟩
  · cases returns
    exact ⟨limitOk_openStream newStream lim room rfl, q.of_same (openStream_sameQueue newStream rfl)⟩

theorem QueueOk.waiting_eq_nil (q : QueueOk m waiting) (empty : m.openQueue.entries = []) : waiting = [] :=
  List.eq_nil_iff_forall_not_mem.mpr fun call member =>
    Map.entries_eq_nil_iff.mp empty _ (q.waitingQueued call member)

theorem openStreamInternal_opens {fecProtected : Bool} {s : T} (q : QueueOk m waiting)
    (run : openStreamInternal newStream fecProtected m = .ok s m') :
    waiting = [] ∧ m.nextStream ≤ m.maxStream ∧ s = newStream m.nextStream fecProtected ∧
      m'.nextStream = m.nextStream + 1 := by
  rcases openStreamInternal_cases newStream fecProtected m with
    ⟨e, -, run'⟩ | ⟨-, -, m1, -, run'⟩ | ⟨-, empty, room, run'⟩ <;> rw [run'] at run
  · cases run
  · cases run
  · cases run
    exact ⟨q.waiting_eq_nil empty, room, rfl, rfl⟩

theorem openStreamInternal_of_waiting {fecProtected : Bool} (nonempty : m.openQueue.entries ≠ [])
    (returns : (openStreamInternal newStream fecProtected m).state? = some m') :
    SameQueue m m' ∧ m'.nextStream = m.nextStream ∧ m'.maxStream = m.maxStream := by
  rcases openStreamInternal_cases newStream fecProtected m with
    ⟨e, -, run⟩ | ⟨-, -, m1, sent, run⟩ | ⟨-, empty, -, -⟩
  · rw [run] at returns
    cases returns
    exact ⟨⟨rfl, rfl, rfl, rfl⟩, rfl, rfl⟩
  · rw [run] at returns
    cases returns
    exact maybeSendBlockedFrame_frame sent
  · exact absurd empty nonempty

theorem openStreamSyncInternal_cases (fecProtected : Bool) (ctxErr : Option String)
    (m : OutgoingStreamsMap.Full T) :
    (∃ e, openStreamSyncInternal newStream fecProtected ctxErr m = .error e m) ∨
    (m.closeErr = none ∧ m.openQueue.entries = [] ∧ m.nextStream ≤ m.maxStream ∧
      ∃ s m', openStream newStream fecProtected m = .ok s m' ∧
        openStreamSyncInternal newStream fecProtected ctxErr m = .ok (some s) m') ∨
    (m.closeErr = none ∧ ¬ (m.openQueue.entries = [] ∧ m.nextStream ≤ m.maxStream) ∧
      ∃ m', maybeSendBlockedFrame m.enqueued = .ok () m' ∧
        openStreamSyncInternal newStream fecProtected ctxErr m = .ok none m') := by
  unfold openStreamSyncInternal
  split
  · exact .inl ⟨_, rfl⟩
  · exact .inl ⟨_, rfl⟩
  · rename_i live
    dsimp only
    by_cases fast : m.openQueue.entries = [] ∧ m.nextStream ≤ m.maxStream
    · refine .inr (.inl ⟨live, fast.1, fast.2, _, _, rfl, ?_⟩)
      rw [if_pos fast]
      rfl
    · obtain ⟨m1, sent⟩ := maybeSendBlockedFrame_returns m.enqueued
      refine .inr (.inr ⟨live, fast, m1, sent, ?_⟩)
      rw [if_neg fast]
      exact Call.bind_of_ok sent

theorem openStreamSyncInternal_error {fecProtected : Bool} {ctxErr : Option String} {e : String}
    (run : openStreamSyncInternal newStream fecProtected ctxErr m = .error e m') : m' = m := by
  rcases openStreamSyncInternal_cases newStream fecProtected ctxErr m with
    ⟨e', run'⟩ | ⟨-, -, -, s, m1, -, run'⟩ | ⟨-, -, m1, -, run'⟩ <;> rw [run'] at run <;> cases run
  rfl

theorem openStreamSyncInternal_opens {fecProtected : Bool} {ctxErr : Option String} {s : T}
    (lim : LimitOk m) (q : QueueOk m waiting)
    (run : openStreamSyncInternal newStream fecProtected ctxErr m = .ok (some s) m') :
    LimitOk m' ∧ QueueOk m' waiting ∧ waiting = [] ∧ m.nextStream ≤ m.maxStream ∧
      s = newStream m.nextStream fecProtected ∧ m'.nextStream = m.nextStream + 1 := by
  rcases openStreamSyncInternal_cases newStream fecProtected ctxErr m with
    ⟨e, run'⟩ | ⟨-, empty, room, s', m1, opened, run'⟩ | ⟨-, -, m1, -, run'⟩ <;> rw [run'] at run
  · cases run
  · cases run
    cases opened
    exact ⟨limitOk_openStream newStream lim room rfl, q.of_same (openStream_sameQueue newStream rfl),
      q.waiting_eq_nil empty, room, rfl, rfl⟩
  · cases run

theorem openStreamSyncInternal_waits {fecProtected : Bool} {ctxErr : Option String}
    (lim : LimitOk m) (q : QueueOk m waiting)
    (run : openStreamSyncInternal newStream fecProtected ctxErr m = .ok none m') :
    LimitOk m' ∧ QueueOk m' (waiting ++ [⟨m.highestInQueue, fecProtected⟩]) ∧ SameQueue m.enqueued m' ∧
      m'.nextStream = m.nextStream ∧ m'.maxStream = m.maxStream := by
  rcases openStreamSyncInternal_cases newStream fecProtected ctxErr m with
    ⟨e, run'⟩ | ⟨-, -, -, s, m1, -, run'⟩ | ⟨live, -, m1, sent, run'⟩ <;> rw [run'] at run
  · cases run
  · cases run
  · cases run
    obtain ⟨same, next, max⟩ := maybeSendBlockedFrame_frame sent
    exact ⟨limitOk_maybeSendBlockedFrame (by exact lim.of_same ⟨rfl, rfl, rfl, rfl, rfl⟩) sent,
      (queueOk_enqueue q live fecProtected).of_same same, same, next, max⟩

/-- The state once the `select` of the call at `p` has received from its channel `c`. -/
def received (m : OutgoingStreamsMap.Full T) (p : Nat) (c : WaitChan) : OutgoingStreamsMap.Full T :=
  { m with openQueue := m.openQueue.insert p { c with signaled := false } }

theorem wakeUp_cases (fecProtected : Bool) {p : Nat} {c : WaitChan} (found : m.openQueue.lookup p = some c) :
    (∃ e, m.closeErr = some e ∧ wakeUp newStream fecProtected p m = .error e (m.received p c)) ∨
    (m.closeErr = none ∧ m.maxStream < m.nextStream ∧
      wakeUp newStream fecProtected p m = .ok none (m.received p c)) ∨
    (m.closeErr = none ∧ m.nextStream ≤ m.maxStream ∧ ∃ m1,
      openStream newStream fecProtected (m.received p c) = .ok (newStream m.nextStream fecProtected) m1 ∧
      wakeUp newStream fecProtected p m = (unblockOpenSync >>= fun _ => pure (some (newStream m.nextStream fecProtected)))
        { m1 with openQueue := m1.openQueue.erase p, lowestInQueue := p + 1 }) := by
  unfold wakeUp
  rw [found]
  dsimp only
  split
  · exact .inl ⟨_, by assumption, rfl⟩
  · rename_i live
    by_cases full : m.nextStream > m.maxStream
    · exact .inr (.inl ⟨live, full, if_pos full⟩)
    · refine .inr (.inr ⟨live, not_lt.mp full, _, rfl, ?_⟩)
      rw [if_neg full]
      rfl

theorem wakeUp_waits {fecProtected : Bool} {p : Nat} {c : WaitChan} (lim : LimitOk m) (q : QueueOk m waiting)
    (found : m.openQueue.lookup p = some c) (run : wakeUp newStream fecProtected p m = .ok none m') :
    LimitOk m' ∧ QueueOk m' waiting := by
  rcases wakeUp_cases newStream fecProtected found with
    ⟨e, -, run'⟩ | ⟨-, -, run'⟩ | ⟨-, -, m1, -, run'⟩ <;> rw [run'] at run
  · cases run
  · cases run
    exact ⟨lim.of_same ⟨rfl, rfl, rfl, rfl, rfl⟩, queueOk_consume q found⟩
  · obtain ⟨u, m2, -, opened⟩ := Call.bind_eq_ok.mp run
    cases opened

theorem wakeUp_error {fecProtected : Bool} {p : Nat} {c : WaitChan} {e : String} (lim : LimitOk m)
    (q : QueueOk m waiting) (found : m.openQueue.lookup p = some c)
    (run : wakeUp newStream fecProtected p m = .error e m') (call : OpenSyncCall) :
    LimitOk m' ∧ QueueOk m' (waiting.erase call) := by
  rcases wakeUp_cases newStream fecProtected found with
    ⟨e', closed, run'⟩ | ⟨-, -, run'⟩ | ⟨-, -, m1, -, run'⟩ <;> rw [run'] at run
  · cases run
    refine ⟨lim.of_same ⟨rfl, rfl, rfl, rfl, rfl⟩, (queueOk_consume q found).erase_of_closed ?_ call⟩
    show m.closeErr ≠ none
    rw [closed]
    exact Option.some_ne_none e
  · cases run
  · rcases Call.bind_eq_error.mp run with unblocked | ⟨u, m2, -, opened⟩
    · exact absurd unblocked (unblockOpenSync_ne_error _)
    · cases opened

theorem wakeUp_opens {fecProtected : Bool} {call : OpenSyncCall} {c : WaitChan} {s : T}
    (lim : LimitOk m) (q : QueueOk m waiting) (member : call ∈ waiting)
    (found : m.openQueue.lookup call.queuePos = some c) (ready : c.signaled = true ∨ c.closed = true)
    (run : wakeUp newStream fecProtected call.queuePos m = .ok (some s) m') :
    LimitOk m' ∧ QueueOk m' (waiting.erase call) ∧ m.nextStream ≤ m.maxStream ∧
      s = newStream m.nextStream fecProtected ∧ m'.nextStream = m.nextStream + 1 ∧
      ∀ call' ∈ waiting, call.queuePos ≤ call'.queuePos := by
  rcases wakeUp_cases newStream fecProtected found with
    ⟨e, -, run'⟩ | ⟨-, -, run'⟩ | ⟨live, room, m1, opened, run'⟩ <;> rw [run'] at run
  · cases run
  · cases run
  obtain ⟨u, m2, unblocked, returned⟩ := Call.bind_eq_ok.mp run
  cases returned
  cases opened
  have signaled : c.signaled = true := by
    have notClosed := q.openChans live _ c found
    rcases ready with signaled | closed
    · exact signaled
    · rw [notClosed] at closed; cases closed
  have first := q.signaledFirst live _ c found signaled
  obtain ⟨queueNow, same⟩ := queueOk_unblockOpenSync
    (by exact (queueOk_leave (queueOk_consume q found) live member first).of_same ⟨rfl, rfl, rfl, rfl⟩) unblocked
  refine ⟨LimitOk.of_same ?_ same, queueNow, room, rfl, same.nextStream, first⟩
  exact (limitOk_openStream newStream lim room rfl).of_same ⟨rfl, rfl, rfl, rfl, rfl⟩

theorem setMaxStream_cases (num : Int) (m : OutgoingStreamsMap.Full T) :
    (num ≤ m.maxStream ∧ setMaxStream num m = .ok () m) ∨
    (m.maxStream < num ∧ ∃ m1, (m1 = { m with maxStream := num, blockedSent := false } ∨
        maybeSendBlockedFrame { m with maxStream := num, blockedSent := false } = .ok () m1) ∧
      setMaxStream num m = unblockOpenSync m1) := by
  unfold setMaxStream
  by_cases low : num ≤ m.maxStream
  · exact .inl ⟨low, if_pos low⟩
  refine .inr ⟨not_le.mp low, ?_⟩
  rw [if_neg low]
  dsimp only
  split
  · obtain ⟨m1, sent⟩ := maybeSendBlockedFrame_returns { m with maxStream := num, blockedSent := false }
    exact ⟨m1, .inr sent, Call.bind_of_ok sent⟩
  · exact ⟨_, .inl rfl, Call.bind_of_ok (Call.pure_apply () _)⟩

theorem setMaxStream_ok {num : Int} (returns : (setMaxStream num m).state? = some m') :
    setMaxStream num m = .ok () m' := by
  rcases setMaxStream_cases num m with ⟨-, run⟩ | ⟨-, m1, -, run⟩ <;> rw [run] at returns ⊢
  · cases returns
    rfl
  · cases woken : unblockOpenSync m1 with
    | ok u m'' => rw [woken] at returns; cases returns; rfl
    | error e m'' => exact absurd woken (unblockOpenSync_ne_error m1)
    | panic msg => rw [woken] at returns; cases returns

theorem setMaxStream_wellformed {num : Int} (lim : LimitOk m) (q : QueueOk m waiting)
    (returns : (setMaxStream num m).state? = some m') : LimitOk m' ∧ QueueOk m' waiting := by
  have run := setMaxStream_ok returns
  rcases setMaxStream_cases num m with ⟨-, run'⟩ | ⟨higher, m1, raised, run'⟩ <;> rw [run'] at run
  · cases run
    exact ⟨lim, q⟩
  have ready : LimitOk m1 ∧ QueueOk m1 waiting := by
    have limRaised := limitOk_raise lim higher
    have queueRaised : QueueOk { m with maxStream := num, blockedSent := false } waiting :=
      q.of_same ⟨rfl, rfl, rfl, rfl⟩
    rcases raised with rfl | sent
    · exact ⟨limRaised, queueRaised⟩
    · exact ⟨limitOk_maybeSendBlockedFrame limRaised sent,
        queueRaised.of_same (maybeSendBlockedFrame_frame sent).1⟩
  obtain ⟨woken, same⟩ := queueOk_unblockOpenSync ready.2 run
  exact ⟨ready.1.of_same same, woken⟩

theorem closeWithError_wellformed {err : String} (lim : LimitOk m) (q : QueueOk m waiting)
    (run : (closeWithError err m).state? = some m') : LimitOk m' ∧ QueueOk m' waiting := by
  unfold closeWithError at run
  split at run
  · cases run
  · cases run
    exact ⟨lim.of_same ⟨rfl, rfl, rfl, rfl, rfl⟩, queueOk_closeWithError q err⟩

theorem deleteStream_frame {num : Int} (run : (deleteStream num m).state? = some m') :
    SameQueue m m' ∧ m'.nextStream = m.nextStream ∧ m'.maxStream = m.maxStream := by
  unfold deleteStream at run
  split at run <;> cases run <;> exact ⟨⟨rfl, rfl, rfl, rfl⟩, rfl, rfl⟩

theorem deleteStream_wellformed {num : Int} (lim : LimitOk m) (q : QueueOk m waiting)
    (run : (deleteStream num m).state? = some m') : LimitOk m' ∧ QueueOk m' waiting :=
  ⟨limitOk_deleteStream lim run, q.of_same (deleteStream_frame run).1⟩

end Methods

end OutgoingStreamsMap.Full

/-! ## Every run -/

namespace OutgoingStreamsMap.System

open OutgoingStreamsMap.Full

variable {T : Type} (newStream : Int → Bool → T)

/-- What holds of the map and the calls waiting on it between steps. -/
structure Wellformed (sys : OutgoingStreamsMap.System T) : Prop where
  limits : LimitOk sys.map
  queue : QueueOk sys.map sys.waiting

theorem wellformed_initial (streamType : StreamType) : Wellformed (initial streamType : OutgoingStreamsMap.System T) :=
  ⟨limitOk_newOutgoingStreamsMap streamType, queueOk_newOutgoingStreamsMap streamType⟩

theorem onMap_state {α : Type} {x : Call (OutgoingStreamsMap.Full T) α} {sys sys' : OutgoingStreamsMap.System T}
    (returns : (onMap x sys).state? = some sys') : ∃ m', (x sys.map).state? = some m' ∧ sys' = ⟨m', sys.waiting⟩ := by
  unfold onMap at returns
  rw [Call.focus_apply] at returns
  cases run : x sys.map with
  | ok a m' => rw [run] at returns; cases returns; exact ⟨m', rfl, rfl⟩
  | error e m' => rw [run] at returns; cases returns; exact ⟨m', rfl, rfl⟩
  | panic msg => rw [run] at returns; cases returns

theorem find?_waiting {sys : OutgoingStreamsMap.System T} {queuePos : Nat} {call : OpenSyncCall}
    (found : sys.waiting.find? (·.queuePos = queuePos) = some call) :
    call ∈ sys.waiting ∧ call.queuePos = queuePos :=
  ⟨List.mem_of_find?_eq_some found, by simpa using List.find?_some found⟩

theorem wellformed_step {sys sys' : OutgoingStreamsMap.System T} (wf : Wellformed sys) {e : OutgoingEvent}
    (enabled : Enabled sys e) (returns : (step newStream e sys).state? = some sys') : Wellformed sys' := by
  cases e with
  | openStream fecProtected =>
    obtain ⟨m', run, rfl⟩ := onMap_state returns
    rw [Call.state?_bind_pure] at run
    exact ⟨(openStreamInternal_wellformed newStream wf.limits wf.queue run).1,
      (openStreamInternal_wellformed newStream wf.limits wf.queue run).2⟩
  | openStreamSync fecProtected ctxErr =>
    dsimp only [step] at returns
    cases run : openStreamSyncInternal newStream fecProtected ctxErr sys.map with
    | ok r m' =>
      rw [run] at returns
      cases r with
      | none =>
        cases returns
        obtain ⟨lim, q, -⟩ := openStreamSyncInternal_waits newStream wf.limits wf.queue run
        exact ⟨lim, q⟩
      | some s =>
        cases returns
        obtain ⟨lim, q, -⟩ := openStreamSyncInternal_opens newStream wf.limits wf.queue run
        exact ⟨lim, q⟩
    | error err m' =>
      rw [run] at returns
      cases returns
      rw [openStreamSyncInternal_error newStream run]
      exact ⟨wf.limits, wf.queue⟩
    | panic msg => rw [run] at returns; cases returns
  | wake queuePos =>
    dsimp only [step] at returns
    cases found : sys.waiting.find? (·.queuePos = queuePos) with
    | none => rw [found] at returns; cases returns; exact wf
    | some call =>
      rw [found] at returns
      obtain ⟨member, rfl⟩ := find?_waiting found
      obtain ⟨-, c, lookup, ready⟩ := enabled
      dsimp only at returns
      cases run : wakeUp newStream call.fecProtected call.queuePos sys.map with
      | ok r m' =>
        rw [run] at returns
        cases r with
        | none =>
          cases returns
          obtain ⟨lim, q⟩ := wakeUp_waits newStream wf.limits wf.queue lookup run
          exact ⟨lim, q⟩
        | some s =>
          cases returns
          obtain ⟨lim, q, -⟩ := wakeUp_opens newStream wf.limits wf.queue member lookup ready run
          exact ⟨lim, q⟩
      | error err m' =>
        rw [run] at returns
        cases returns
        obtain ⟨lim, q⟩ := wakeUp_error newStream wf.limits wf.queue lookup run call
        exact ⟨lim, q⟩
      | panic msg => rw [run] at returns; cases returns
  | cancel queuePos ctxErr =>
    dsimp only [step] at returns
    cases found : sys.waiting.find? (·.queuePos = queuePos) with
    | none => rw [found] at returns; cases returns; exact wf
    | some call =>
      rw [found] at returns
      obtain ⟨member, rfl⟩ := find?_waiting found
      cases returns
      exact ⟨wf.limits.of_same ⟨rfl, rfl, rfl, rfl, rfl⟩, queueOk_cancel wf.queue member⟩
  | setMaxStream num =>
    obtain ⟨m', run, rfl⟩ := onMap_state returns
    rw [Call.state?_bind_pure] at run
    obtain ⟨lim, q⟩ := setMaxStream_wellformed wf.limits wf.queue run
    exact ⟨lim, q⟩
  | deleteStream num =>
    obtain ⟨m', run, rfl⟩ := onMap_state returns
    rw [Call.state?_bind_of_returns (fun err? _ => by cases err? <;> rfl)] at run
    obtain ⟨lim, q⟩ := deleteStream_wellformed wf.limits wf.queue run
    exact ⟨lim, q⟩
  | closeWithError err =>
    obtain ⟨m', run, rfl⟩ := onMap_state returns
    rw [Call.state?_bind_pure] at run
    obtain ⟨lim, q⟩ := closeWithError_wellformed wf.limits wf.queue run
    exact ⟨lim, q⟩

theorem onMap_ok {α : Type} {x : Call (OutgoingStreamsMap.Full T) α} {f : α → Option T}
    {sys sys' : OutgoingStreamsMap.System T} {r : Option T}
    (run : onMap (x >>= fun a => pure (f a)) sys = .ok r sys') :
    ∃ a m', x sys.map = .ok a m' ∧ r = f a ∧ sys' = ⟨m', sys.waiting⟩ := by
  unfold onMap at run
  obtain ⟨m', inner, rfl⟩ := Call.focus_eq_ok.mp run
  obtain ⟨a, m'', first, rest⟩ := Call.bind_eq_ok.mp inner
  cases rest
  exact ⟨a, m', first, rfl, rfl⟩

theorem step_opens {sys sys' : OutgoingStreamsMap.System T} (wf : Wellformed sys) {e : OutgoingEvent}
    (enabled : Enabled sys e) {s : T} (run : step newStream e sys = .ok (some s) sys') :
    sys.map.nextStream ≤ sys.map.maxStream ∧ sys'.map.nextStream = sys.map.nextStream + 1 ∧
      ((sys.waiting = [] ∧ ∃ fecProtected, s = newStream sys.map.nextStream fecProtected) ∨
        ∃ call ∈ sys.waiting, e = .wake call.queuePos ∧ s = newStream sys.map.nextStream call.fecProtected ∧
          (∀ call' ∈ sys.waiting, call.queuePos ≤ call'.queuePos) ∧ sys'.waiting = sys.waiting.erase call) := by
  cases e with
  | openStream fecProtected =>
    obtain ⟨s', m', opened, same, rfl⟩ := onMap_ok run
    cases same
    obtain ⟨none, room, rfl, next⟩ := openStreamInternal_opens newStream wf.queue opened
    exact ⟨room, next, .inl ⟨none, fecProtected, rfl⟩⟩
  | openStreamSync fecProtected ctxErr =>
    dsimp only [step] at run
    cases result : openStreamSyncInternal newStream fecProtected ctxErr sys.map with
    | ok r m' =>
      rw [result] at run
      cases r with
      | none => cases run
      | some s' =>
        cases run
        obtain ⟨-, -, none, room, rfl, next⟩ := openStreamSyncInternal_opens newStream wf.limits wf.queue result
        exact ⟨room, next, .inl ⟨none, fecProtected, rfl⟩⟩
    | error err m' => rw [result] at run; cases run
    | panic msg => rw [result] at run; cases run
  | wake queuePos =>
    dsimp only [step] at run
    cases found : sys.waiting.find? (·.queuePos = queuePos) with
    | none => rw [found] at run; cases run
    | some call =>
      rw [found] at run
      obtain ⟨member, rfl⟩ := find?_waiting found
      obtain ⟨-, c, lookup, ready⟩ := enabled
      dsimp only at run
      cases result : wakeUp newStream call.fecProtected call.queuePos sys.map with
      | ok r m' =>
        rw [result] at run
        cases r with
        | none => cases run
        | some s' =>
          cases run
          obtain ⟨-, -, room, rfl, next, first⟩ := wakeUp_opens newStream wf.limits wf.queue member lookup ready result
          exact ⟨room, next, .inr ⟨call, member, rfl, rfl, first, rfl⟩⟩
      | error err m' => rw [result] at run; cases run
      | panic msg => rw [result] at run; cases run
  | cancel queuePos ctxErr =>
    dsimp only [step] at run
    cases found : sys.waiting.find? (·.queuePos = queuePos) with
    | none => rw [found] at run; cases run
    | some call => rw [found] at run; cases run
  | setMaxStream num =>
    obtain ⟨-, -, -, returned, -⟩ := onMap_ok run
    cases returned
  | deleteStream num =>
    dsimp only [step, onMap] at run
    obtain ⟨m', reported, -⟩ := Call.focus_eq_ok.mp run
    obtain ⟨err?, t, -, returned⟩ := Call.bind_eq_ok.mp reported
    cases err? <;> cases returned
  | closeWithError err =>
    obtain ⟨-, -, -, returned, -⟩ := onMap_ok run
    cases returned

theorem Wellformed.reaches {sys sys' : OutgoingStreamsMap.System T} (wf : Wellformed sys)
    (reaches : Reaches newStream sys sys') : Wellformed sys' := by
  induction reaches with
  | refl => exact wf
  | step e _ enabled returns _ ih => exact ih (wellformed_step newStream wf enabled returns)

/-- Every run of a new map: each stream opened is numbered from 1 up to the
peer's limit, the STREAMS_BLOCKED frames announce limits that never fall and,
past the first, always rise, the calls waiting hold their places in the order
they queued, and until the map is closed at most one channel holds a wake-up,
the one of the call that queued first. -/
theorem outgoingStreamsMap_run (streamType : StreamType) {sys : OutgoingStreamsMap.System T}
    (reaches : Reaches newStream (initial streamType) sys) :
    (∀ k ∈ sys.map.streams, 1 ≤ k ∧ k ≤ sys.map.maxStream) ∧
      sys.map.nextStream - 1 ≤ max sys.map.maxStream 0 ∧
      (sys.map.queued.map (·.streamLimit)).Pairwise (· ≤ ·) ∧
      (sys.map.queued.tail.map (·.streamLimit)).Pairwise (· < ·) ∧
      (∀ f ∈ sys.map.queued, f.streamLimit ≤ max sys.map.maxStream 0) ∧
      (sys.waiting.map (·.queuePos)).Pairwise (· < ·) ∧
      (sys.map.closeErr = none → ∀ p c, sys.map.openQueue.lookup p = some c → c.signaled = true →
        (∀ k c', sys.map.openQueue.lookup k = some c' → c'.signaled = true → k = p) ∧
        ∀ call ∈ sys.waiting, p ≤ call.queuePos) := by
  have wf := (wellformed_initial streamType).reaches newStream reaches
  have lim := wf.limits
  have within := lim.withinLimit
  rw [lim.announced_eq] at within
  refine ⟨fun k member => lim.le_maxStream member, by omega, lim.blockedSorted, lim.blockedIncreasing,
    fun f member => lim.announced_eq ▸ lim.blockedAnnounced f member, wf.queue.ordered, ?_⟩
  intro live p c found signaled
  exact ⟨fun k c' found' signaled' => wf.queue.signaled_eq live found signaled found' signaled',
    wf.queue.signaledFirst live p c found signaled⟩

/-- Every step of a run that hands out a stream opens the next one, within
the limit, and gives it to a call only if no call waits or the call is the
one that queued first, which then leaves the queue: no call overtakes one
that queued before it. -/
theorem outgoingStreamsMap_fifo (streamType : StreamType) {sys sys' : OutgoingStreamsMap.System T}
    (reaches : Reaches newStream (initial streamType) sys) {e : OutgoingEvent} (enabled : Enabled sys e) {s : T}
    (run : step newStream e sys = .ok (some s) sys') :
    sys.map.nextStream ≤ sys.map.maxStream ∧ sys'.map.nextStream = sys.map.nextStream + 1 ∧
      ((sys.waiting = [] ∧ ∃ fecProtected, s = newStream sys.map.nextStream fecProtected) ∨
        ∃ call ∈ sys.waiting, e = .wake call.queuePos ∧ s = newStream sys.map.nextStream call.fecProtected ∧
          (∀ call' ∈ sys.waiting, call.queuePos ≤ call'.queuePos) ∧ sys'.waiting = sys.waiting.erase call) :=
  step_opens newStream ((wellformed_initial streamType).reaches newStream reaches) enabled run

/-! ## A wake-up lost -/

/-- The events after which the calls waiting still wait: every event but a
`SetMaxStream` that raises the limit, `CloseWithError`, and the end of a
waiting call's context. -/
def KeepsWaiting (sys : OutgoingStreamsMap.System T) : OutgoingEvent → Prop
  | .setMaxStream num => num ≤ sys.map.maxStream
  | .closeWithError _ => False
  | .cancel _ _ => False
  | _ => True

/-- Calls wait on an open map, and no channel holds a wake-up for them. -/
structure Stalled (sys : OutgoingStreamsMap.System T) : Prop where
  live : sys.map.closeErr = none
  waits : sys.waiting ≠ []
  noWakeUp : ∀ p c, sys.map.openQueue.lookup p = some c → c.signaled = false

theorem Stalled.not_wake {sys : OutgoingStreamsMap.System T} (wf : Wellformed sys) (stalled : Stalled sys)
    (queuePos : Nat) : ¬ Enabled sys (.wake queuePos) := by
  rintro ⟨-, c, found, ready⟩
  have notClosed := wf.queue.openChans stalled.live queuePos c found
  have notSignaled := stalled.noWakeUp queuePos c found
  rcases ready with signaled | closed
  · rw [notSignaled] at signaled; cases signaled
  · rw [notClosed] at closed; cases closed

theorem Stalled.queue_ne_nil {sys : OutgoingStreamsMap.System T} (wf : Wellformed sys) (stalled : Stalled sys) :
    sys.map.openQueue.entries ≠ [] := fun empty => stalled.waits (wf.queue.waiting_eq_nil empty)

theorem stalled_step {sys sys' : OutgoingStreamsMap.System T} (wf : Wellformed sys) (stalled : Stalled sys)
    {e : OutgoingEvent} (keeps : KeepsWaiting sys e) (enabled : Enabled sys e)
    (returns : (step newStream e sys).state? = some sys') :
    Stalled sys' ∧ sys'.map.nextStream = sys.map.nextStream ∧ sys'.map.maxStream = sys.map.maxStream ∧
      sys.waiting ⊆ sys'.waiting := by
  have onQueue : ∀ m', SameQueue sys.map m' → Stalled ⟨m', sys.waiting⟩ := fun m' same =>
    ⟨same.closeErr ▸ stalled.live, stalled.waits, by rw [same.openQueue]; exact stalled.noWakeUp⟩
  cases e with
  | openStream fecProtected =>
    obtain ⟨m', run, rfl⟩ := onMap_state returns
    rw [Call.state?_bind_pure] at run
    obtain ⟨same, next, max⟩ := openStreamInternal_of_waiting newStream (stalled.queue_ne_nil wf) run
    exact ⟨onQueue m' same, next, max, fun _ => id⟩
  | openStreamSync fecProtected ctxErr =>
    dsimp only [step] at returns
    cases run : openStreamSyncInternal newStream fecProtected ctxErr sys.map with
    | ok r m' =>
      rw [run] at returns
      cases r with
      | none =>
        cases returns
        obtain ⟨-, -, same, next, max⟩ := openStreamSyncInternal_waits newStream wf.limits wf.queue run
        refine ⟨⟨same.closeErr ▸ stalled.live, by simp, ?_⟩, next, max, List.subset_append_left _ _⟩
        intro p c found
        rw [same.openQueue] at found
        by_cases here : p = sys.map.highestInQueue
        · rw [here] at found
          rw [show sys.map.enqueued.openQueue = sys.map.openQueue.insert sys.map.highestInQueue ⟨false, false⟩
            from rfl, AList.lookup_insert] at found
          cases found
          rfl
        · rw [show sys.map.enqueued.openQueue = sys.map.openQueue.insert sys.map.highestInQueue ⟨false, false⟩
            from rfl, AList.lookup_insert_ne here] at found
          exact stalled.noWakeUp p c found
      | some s =>
        obtain ⟨-, -, none, -⟩ := openStreamSyncInternal_opens newStream wf.limits wf.queue run
        exact absurd none stalled.waits
    | error err m' =>
      rw [run] at returns
      cases returns
      rw [openStreamSyncInternal_error newStream run]
      exact ⟨stalled, rfl, rfl, fun _ => id⟩
    | panic msg => rw [run] at returns; cases returns
  | wake queuePos => exact absurd enabled (stalled.not_wake wf queuePos)
  | cancel queuePos ctxErr => exact keeps.elim
  | setMaxStream num =>
    obtain ⟨m', run, rfl⟩ := onMap_state returns
    rw [Call.state?_bind_pure] at run
    rcases setMaxStream_cases num sys.map with ⟨-, unchanged⟩ | ⟨higher, -⟩
    · rw [unchanged] at run
      cases run
      exact ⟨stalled, rfl, rfl, fun _ => id⟩
    · exact absurd keeps (not_le.mpr higher)
  | deleteStream num =>
    obtain ⟨m', run, rfl⟩ := onMap_state returns
    rw [Call.state?_bind_of_returns (fun err? _ => by cases err? <;> rfl)] at run
    obtain ⟨same, next, max⟩ := deleteStream_frame run
    exact ⟨onQueue m' same, next, max, fun _ => id⟩
  | closeWithError err => exact keeps.elim

theorem Stalled.reaches {sys sys' : OutgoingStreamsMap.System T} (wf : Wellformed sys) (stalled : Stalled sys)
    (run : ReachesWhile newStream KeepsWaiting sys sys') :
    Wellformed sys' ∧ Stalled sys' ∧ sys'.map.nextStream = sys.map.nextStream ∧
      sys'.map.maxStream = sys.map.maxStream ∧ sys.waiting ⊆ sys'.waiting := by
  induction run with
  | refl => exact ⟨wf, stalled, rfl, rfl, fun _ => id⟩
  | step e keeps enabled returns _ ih =>
    obtain ⟨stalledNext, next, max, kept⟩ := stalled_step newStream wf stalled keeps enabled returns
    obtain ⟨wf', stalled', next', max', kept'⟩ := ih (wellformed_step newStream wf enabled returns) stalledNext
    exact ⟨wf', stalled', next'.trans next, max'.trans max, List.Subset.trans kept kept'⟩

/-- The wake-up `unblockOpenSync` sends goes to one call only, and a call
that takes `ctx.Done()` while its channel holds it deletes its place without
passing it on.  From then on the calls queued after it wait although the
limit allows a stream: `OpenStream` refuses while they wait, new
`OpenStreamSync` calls queue behind them, and none of them is woken until a
MAX_STREAMS frame raises the limit again, the map is closed or a context ends. -/
theorem cancel_loses_wakeUp (streamType : StreamType) {sys : OutgoingStreamsMap.System T}
    (reaches : Reaches newStream (initial streamType) sys) (live : sys.map.closeErr = none)
    (room : sys.map.nextStream ≤ sys.map.maxStream) {call call' : OpenSyncCall} (member : call ∈ sys.waiting)
    (other : call' ∈ sys.waiting) (distinct : call' ≠ call) {c : WaitChan}
    (woken : sys.map.openQueue.lookup call.queuePos = some c) (signaled : c.signaled = true) (ctxErr : String) :
    ∃ sys', step newStream (.cancel call.queuePos ctxErr) sys = .error ctxErr sys' ∧
      ∀ sys'', ReachesWhile newStream KeepsWaiting sys' sys'' →
        call' ∈ sys''.waiting ∧ sys''.map.nextStream = sys.map.nextStream ∧
          sys''.map.nextStream ≤ sys''.map.maxStream ∧ ∀ queuePos, ¬ Enabled sys'' (.wake queuePos) := by
  have wf := (wellformed_initial streamType).reaches newStream reaches
  have cancelled : step newStream (.cancel call.queuePos ctxErr) sys =
      .error ctxErr ⟨{ sys.map with openQueue := sys.map.openQueue.erase call.queuePos }, sys.waiting.erase call⟩ := by
    dsimp only [step]
    rw [wf.queue.find?_eq member]
    rfl
  refine ⟨_, cancelled, ?_⟩
  intro sys'' run
  have enabled : Enabled sys (.cancel call.queuePos ctxErr) := ⟨call, member, rfl⟩
  have wf' := wellformed_step newStream wf enabled (by rw [cancelled]; rfl)
  have waits : call' ∈ sys.waiting.erase call := (wf.queue.mem_erase member).mpr
    ⟨other, fun same => distinct (wf.queue.eq_of_queuePos other member same)⟩
  have stalled : Stalled ⟨{ sys.map with openQueue := sys.map.openQueue.erase call.queuePos }, sys.waiting.erase call⟩ := by
    refine ⟨live, List.ne_nil_of_mem waits, ?_⟩
    intro p c' found
    obtain ⟨otherPlace, found⟩ := Map.lookup_of_lookup_erase found
    cases signaled' : c'.signaled
    · rfl
    · exact absurd (wf.queue.signaled_eq live woken signaled found signaled') otherPlace
  obtain ⟨wf'', stalled'', next, max, kept⟩ := stalled.reaches newStream wf' run
  refine ⟨kept waits, next, ?_, stalled''.not_wake wf''⟩
  rw [next, max]
  exact room

end OutgoingStreamsMap.System

/-! ## Two calls waiting -/

namespace OutgoingStreamsMap.System

/-- Two `OpenStreamSync` calls wait on a new map of bidirectional streams, and
the MAX_STREAMS frame for stream 1 has woken the first. -/
def twoCallsWoken : OutgoingStreamsMap.System Int where
  map := {
    streams := ∅
    nextStream := 1
    streamType := .bidi
    openQueue := ((∅ : AList fun _ : Nat => WaitChan).insert 0 ⟨false, false⟩ |>.insert 1 ⟨false, false⟩).insert 0
      ⟨true, false⟩
    lowestInQueue := 0
    highestInQueue := 2
    maxStream := 1
    blockedSent := true
    closeErr := none
    queued := [⟨.bidi, 0⟩, ⟨.bidi, 1⟩] }
  waiting := [⟨0, false⟩, ⟨1, false⟩]

theorem reaches_twoCallsWoken : Reaches (fun n _ => n) (initial .bidi) twoCallsWoken :=
  .step (.openStreamSync false none) trivial trivial rfl <|
    .step (.openStreamSync false none) trivial trivial rfl <|
      .step (.setMaxStream 1) trivial trivial rfl (.refl _)

theorem outgoingStreamsMap_run_twoCalls :
    (∀ k ∈ twoCallsWoken.map.streams, 1 ≤ k ∧ k ≤ twoCallsWoken.map.maxStream) ∧
      twoCallsWoken.map.nextStream - 1 ≤ max twoCallsWoken.map.maxStream 0 ∧
      (twoCallsWoken.map.queued.map (·.streamLimit)).Pairwise (· ≤ ·) ∧
      (twoCallsWoken.map.queued.tail.map (·.streamLimit)).Pairwise (· < ·) ∧
      (∀ f ∈ twoCallsWoken.map.queued, f.streamLimit ≤ max twoCallsWoken.map.maxStream 0) ∧
      (twoCallsWoken.waiting.map (·.queuePos)).Pairwise (· < ·) ∧
      (twoCallsWoken.map.closeErr = none → ∀ p c, twoCallsWoken.map.openQueue.lookup p = some c →
        c.signaled = true →
        (∀ k c', twoCallsWoken.map.openQueue.lookup k = some c' → c'.signaled = true → k = p) ∧
        ∀ call ∈ twoCallsWoken.waiting, p ≤ call.queuePos) :=
  outgoingStreamsMap_run (fun n _ => n) .bidi reaches_twoCallsWoken

/-- Woken, the first call opens stream 1 and leaves the queue. -/
theorem outgoingStreamsMap_fifo_firstWoken :
    ∃ sys', step (fun n _ => n) (.wake 0) twoCallsWoken = .ok (some 1) sys' ∧
      twoCallsWoken.map.nextStream ≤ twoCallsWoken.map.maxStream ∧
      sys'.map.nextStream = twoCallsWoken.map.nextStream + 1 ∧
      ((twoCallsWoken.waiting = [] ∧ ∃ _ : Bool, (1 : Int) = twoCallsWoken.map.nextStream) ∨
        ∃ call ∈ twoCallsWoken.waiting, OutgoingEvent.wake 0 = .wake call.queuePos ∧
          (1 : Int) = twoCallsWoken.map.nextStream ∧
          (∀ call' ∈ twoCallsWoken.waiting, call.queuePos ≤ call'.queuePos) ∧
          sys'.waiting = twoCallsWoken.waiting.erase call) :=
  ⟨_, rfl, outgoingStreamsMap_fifo (fun n _ => n) .bidi reaches_twoCallsWoken
    (show Enabled twoCallsWoken (.wake 0) from ⟨⟨⟨0, false⟩, List.mem_cons_self, rfl⟩, ⟨true, false⟩, rfl, .inl rfl⟩)
    rfl⟩

/-- The first call's context ends while its channel holds the wake-up: the
second call then waits with stream 1 available. -/
theorem cancel_loses_wakeUp_twoCalls :
    ∃ sys', step (fun n _ => n) (.cancel 0 "context canceled") twoCallsWoken = .error "context canceled" sys' ∧
      ∀ sys'', ReachesWhile (fun n _ => n) KeepsWaiting sys' sys'' →
        ⟨1, false⟩ ∈ sys''.waiting ∧ sys''.map.nextStream = 1 ∧
          sys''.map.nextStream ≤ sys''.map.maxStream ∧ ∀ queuePos, ¬ Enabled sys'' (.wake queuePos) :=
  cancel_loses_wakeUp (fun n _ => n) .bidi reaches_twoCallsWoken rfl (by decide)
    (List.mem_cons_self : (⟨0, false⟩ : OpenSyncCall) ∈ twoCallsWoken.waiting)
    (List.mem_cons_of_mem _ List.mem_cons_self : (⟨1, false⟩ : OpenSyncCall) ∈ twoCallsWoken.waiting)
    (by decide) (rfl : twoCallsWoken.map.openQueue.lookup 0 = some ⟨true, false⟩) rfl "context canceled"

end OutgoingStreamsMap.System

end QuicFec
